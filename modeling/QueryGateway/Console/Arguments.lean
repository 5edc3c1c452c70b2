import QueryGateway.Text.Digit
import QueryGateway.Text.Quoted

/-!
# Arguments of a command

The arguments of a command are options and at most one operand. An option has a short or a long name;
a long one may be cut short as long as it names one option. The value of an option is the next
argument, or stands in the same one behind an equals sign. Behind `--` there are no options.

An argument that begins with a dash is an option, known or not, unless it is a dash alone, a negative
number, or holds a space. What nobody has a use for is left over and handed back.
-/

namespace QueryGateway.Console

structure Flag where
  names : List Text
  takesValue : Bool
  required : Bool
deriving DecidableEq, Repr

def Flag.shown (f : Flag) : Text := Text.join "/" f.names

def helpFlag : Flag := ⟨["-h", "--help"], false, false⟩

/-- What a command takes, and the lines that tell how it is used. The option for help is one of its
options. -/
structure Grammar where
  program : Text
  flags : List Flag
  operand : Option Text
  help : List Text
deriving Repr

/-- Why a command is not run: it was asked how it is used, or was used wrong. -/
inductive Stop where
  | help (lines : List Text)
  | misuse (lines : List Text)
deriving DecidableEq, Repr

namespace Grammar

def usage (g : Grammar) : List Text := g.help.takeWhile fun l => l ≠ []

def misuse {α : Type} (g : Grammar) (message : Text) : Except Stop α :=
  .error (.misuse (g.usage ++ [g.program ++ ": error: " ++ message]))

def explain {α : Type} (g : Grammar) : Except Stop α := .error (.help g.help)

def about {α : Type} (g : Grammar) (name message : Text) : Except Stop α :=
  g.misuse ("argument " ++ name ++ ": " ++ message)

def names (g : Grammar) : List (Text × Flag) :=
  (helpFlag :: g.flags).flatMap fun f => f.names.map fun n => (n, f)

end Grammar

/-! ## What an argument is -/

inductive Attached where
  | nothing
  | behindEquals (t : Text)
  | letters (t : Text)
deriving Repr

/-- What an argument is taken for; an option may be unknown. -/
inductive Kind where
  | plain
  | option (f : Option Flag) (attached : Attached)
deriving Repr

def isNegativeNumber (t : Text) : Bool :=
  match Text.dropStart? "-" t with
  | none => false
  | some rest =>
    let isDigit : CodePoint → Bool := fun c => c.decimal?.isSome
    match Text.cut '.' rest with
    | (whole, none) => whole ≠ [] && whole.all isDigit
    | (whole, some fraction) => whole.all isDigit && fraction ≠ [] && fraction.all isDigit

def Attached.ofCut : Option Text → Attached
  | none => .nothing
  | some t => .behindEquals t

def abbreviated (g : Grammar) (t : Text) : List (Text × Flag × Attached) :=
  let (start, value) := Text.cut '=' t
  (g.names.filter fun n => Text.startsWith n.1 start).map fun n => (n.1, n.2, .ofCut value)

def clustered (g : Grammar) (t : Text) : List (Text × Flag × Attached) :=
  let short : Text := t.take 2
  (g.names.filter fun n => n.1 = short).map fun n => (n.1, n.2, .letters (t.drop 2))

def dashedKind (g : Grammar) (t : Text) : Except Stop Kind :=
  let candidates := if Text.startsWith t "--" then abbreviated g t else clustered g t
  match candidates with
  | [(_, f, attached)] => .ok (.option (some f) attached)
  | [] =>
    .ok (if isNegativeNumber t || t.contains (CodePoint.ofChar ' ') then .plain
      else .option none .nothing)
  | _ =>
    g.misuse ("ambiguous option: " ++ t ++ " could match " ++
      Text.join ", " (candidates.map (·.1)))

def kindOf (g : Grammar) (t : Text) : Except Stop Kind :=
  match t with
  | [] => .ok .plain
  | c :: rest =>
    if c ≠ '-' then .ok .plain
    else
      match g.names.find? fun n => n.1 = t with
      | some (_, f) => .ok (.option (some f) .nothing)
      | none =>
        if rest = [] then .ok .plain
        else
          match Text.cut '=' t with
          | (name, some value) =>
            match g.names.find? fun n => n.1 = name with
            | some (_, f) => .ok (.option (some f) (.behindEquals value))
            | none => dashedKind g t
          | _ => dashedKind g t

/-- An argument and what it is; the mark behind which there are no options is `none`. -/
abbrev Item := Text × Option Kind

def itemsOf (g : Grammar) : List Text → Except Stop (List Item)
  | [] => .ok []
  | t :: rest =>
    if t = "--" then .ok ((t, none) :: rest.map fun t => (t, some .plain))
    else do
      let kind ← kindOf g t
      .ok ((t, some kind) :: (← itemsOf g rest))

/-! ## Reading -/

/-- What was read: values of options by the first name of the option, the operand, and what is left
over. -/
structure Given where
  values : List (Text × Text)
  operand : Option Text
  extras : List Text
deriving Repr

def Given.value? (given : Given) (name : Text) : Option Text :=
  (given.values.reverse.find? fun v => v.1 = name).map (·.2)

def Given.set (given : Given) (f : Flag) (value : Text) : Given :=
  { given with values := given.values ++ [(f.names.headD [], value)] }

def Given.leave (given : Given) (t : Text) : Given := { given with extras := given.extras ++ [t] }

def ignored {α : Type} (g : Grammar) (f : Flag) (value : Text) : Except Stop α :=
  g.about f.shown ("ignored explicit argument " ++ Text.quoted value)

/-- The end of reading at short options that stand in one argument: the first of them asks for help,
unless the others are written wrong. -/
def endWithLetters {α : Type} (g : Grammar) (f : Flag) : Text → Except Stop α
  | [] => g.explain
  | c :: rest =>
    if c = '-' then ignored g f (c :: rest)
    else
      match g.names.find? fun n => n.1 = ("-" : Text) ++ [c] with
      | none => g.explain
      | some (_, next) =>
        if next.takesValue then g.explain
        else
          match rest with
          | [] => g.explain
          | d :: value => if d = '=' then ignored g next value else endWithLetters g next rest

/-- The end of reading at an option that takes no value; it asks for help. -/
def endAt {α : Type} (g : Grammar) (f : Flag) : Attached → Except Stop α
  | .nothing => g.explain
  | .behindEquals value => ignored g f value
  | .letters t => endWithLetters g f t

def readItems (g : Grammar) (given : Given) : List Item → Except Stop Given
  | [] => .ok given
  | (t, none) :: rest =>
    match g.operand, given.operand, rest with
    | some _, none, (u, _) :: rest => readItems g { given with operand := some u } rest
    | _, _, rest => readItems g (given.leave t) rest
  | (t, some .plain) :: rest =>
    match g.operand, given.operand with
    | some _, none =>
      match rest with
      | (_, none) :: rest => readItems g { given with operand := some t } rest
      | rest => readItems g { given with operand := some t } rest
    | _, _ => readItems g (given.leave t) rest
  | (t, some (.option none _)) :: rest => readItems g (given.leave t) rest
  | (_, some (.option (some f) attached)) :: rest =>
    if f.takesValue then
      match attached, rest with
      | .behindEquals v, rest | .letters v, rest => readItems g (given.set f v) rest
      | .nothing, (v, some .plain) :: rest => readItems g (given.set f v) rest
      | .nothing, _ => g.about f.shown "expected one argument"
    else endAt g f attached

def missing (g : Grammar) (given : Given) : List Text :=
  (g.flags.filter fun f => f.required && (given.value? (f.names.headD [])).isNone).map Flag.shown ++
    (g.operand.toList.filter fun _ => given.operand.isNone)

def missingSentence (names : List Text) : Text :=
  "the following arguments are required: " ++ Text.join ", " names

def read (g : Grammar) (args : List Text) : Except Stop Given := do
  let given ← readItems g ⟨[], none, []⟩ (← itemsOf g args)
  match missing g given with
  | [] => .ok given
  | names => g.misuse (missingSentence names)

/-! ## Commands with subcommands -/

def splitCommand (g : Grammar) (extras : List Text) : List Item → Except Stop (List Text × List Text)
  | [] => .ok ([], extras)
  | (t, some (.option none _)) :: rest => splitCommand g (extras ++ [t]) rest
  | (_, some (.option (some f) attached)) :: _ => endAt g f attached
  | (t, some .plain) :: rest => .ok (t :: rest.map (·.1), extras)
  | (t, none) :: rest =>
    match rest with
    | [] => .ok ([], extras ++ [t])
    | rest => .ok (t :: rest.map (·.1), extras)

def leftOverSentence (extras : List Text) : Text := "unrecognized arguments: " ++ Text.join " " extras

def choiceSentence (t : Text) (choices : List Text) : Text :=
  "invalid choice: " ++ Text.quoted t ++ " (choose from " ++
    Text.join ", " (choices.map Text.quoted) ++ ")"

def readCommand (g : Grammar) (name : Text) (commands : List (Text × Grammar)) (args : List Text) :
    Except Stop (Text × Given) := do
  let (words, extras) ← splitCommand g [] (← itemsOf g args)
  match words with
  | [] => g.misuse (missingSentence [name])
  | word :: rest =>
    match commands.find? fun c => c.1 = word with
    | none => g.about name (choiceSentence word (commands.map (·.1)))
    | some (_, inner) =>
      let given ← read inner rest
      match extras ++ given.extras with
      | [] => .ok (word, given)
      | extras => g.misuse (leftOverSentence extras)

end QueryGateway.Console
