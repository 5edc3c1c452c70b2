import QueryGateway.Text.Blank

/-!
# Environment files

A file of lines `NAME=value`, perhaps with `export ` in front. A value stands in single or double
quotes, with escapes, and may then go over several lines; without quotes it ends at the end of its
line or at a `#` after a blank. A name without an equals sign is bound to nothing, and a line that is
no binding is passed over.

In every value `${NAME}` stands for the value of a name and `${NAME:-other}` for `other` if the name
has none. A name means what the file said about it further up, or else what the environment says.
-/

namespace QueryGateway.EnvFile

/-- Names with their values; a name can be bound to nothing. -/
abbrev Bindings := List (Text × Option Text)

abbrev Environment := List (Text × Text)

/-! ## Lines -/

def lineFeeds : Text → Text
  | [] => []
  | c :: rest =>
    if c = '\r' then
      match rest with
      | d :: more => if d = '\n' then '\n' :: lineFeeds more else '\n' :: lineFeeds (d :: more)
      | [] => "\n"
    else c :: lineFeeds rest

def isInnerBlank (c : CodePoint) : Bool := c.isBlank && c ≠ '\n' && c ≠ '\r'

def skipInner (t : Text) : Text := t.dropWhile isInnerBlank

def nextLine (t : Text) : Text := (t.dropWhile fun c : CodePoint => c ≠ '\n').drop 1

def endLine? (t : Text) : Option Text :=
  match skipInner t with
  | [] => some []
  | c :: rest => if c = '\n' then some rest else none

def skipComment (t : Text) : Text :=
  match skipInner t with
  | c :: rest => if c = '#' then rest.dropWhile fun c : CodePoint => c ≠ '\n' else t
  | [] => t

def skipExport (t : Text) : Text :=
  match Text.dropStart? "export" t with
  | none => t
  | some rest => if (skipInner rest).length < rest.length then skipInner rest else t

/-! ## Values -/

/-- What a quoted text holds up to its first free quote, which is one that no backslash stands in
front of, and the text behind that. `last` is the character in front. -/
def upToFree? (quote last : CodePoint) : Text → Option (Text × Text)
  | [] => none
  | c :: rest =>
    if c = quote ∧ last ≠ '\\' then some ([], rest)
    else (upToFree? quote c rest).map fun (t, rest) => (c :: t, rest)

def upToLast? (quote : CodePoint) : Text → Option (Text × Text)
  | [] => none
  | c :: rest =>
    match upToLast? quote rest with
    | some (t, rest) => some (c :: t, rest)
    | none => if c = quote then some ([], rest) else none

/-- The content of a quoted text from behind its opening quote on, and the text behind it. Without a
free quote the last one closes. -/
def quoted? (quote : CodePoint) (t : Text) : Option (Text × Text) :=
  upToFree? quote quote t <|> upToLast? quote t

def escaped? (double : Bool) (c : CodePoint) : Option CodePoint :=
  if c = '\\' ∨ c = '\'' then some c
  else if !double then none
  else if c = '"' then some c
  else if c = 'a' then some (CodePoint.ofNat 0x07)
  else if c = 'b' then some (CodePoint.ofNat 0x08)
  else if c = 'f' then some (CodePoint.ofNat 0x0C)
  else if c = 'n' then some '\n'
  else if c = 'r' then some '\r'
  else if c = 't' then some '\t'
  else if c = 'v' then some (CodePoint.ofNat 0x0B)
  else none

/-- The text with its escapes resolved; a backslash that begins none stays. -/
def unescape (double : Bool) : Text → Text
  | [] => []
  | [c] => [c]
  | c :: d :: rest =>
    if c = '\\' then
      match escaped? double d with
      | some e => e :: unescape double rest
      | none => c :: unescape double (d :: rest)
    else c :: unescape double (d :: rest)

def upToComment : Text → Text
  | [] => []
  | c :: rest =>
    if c.isBlank ∧ Text.startsWith (Text.trimStart rest) "#" then []
    else c :: upToComment rest

def bare (t : Text) : Text × Text :=
  (Text.trimEnd (upToComment (t.takeWhile fun c : CodePoint => c ≠ '\n')),
    t.dropWhile fun c : CodePoint => c ≠ '\n')

def value? : Text → Option (Text × Text)
  | [] => some ([], [])
  | c :: rest =>
    if c = '\'' then (quoted? c rest).map fun (t, rest) => (unescape false t, rest)
    else if c = '"' then (quoted? c rest).map fun (t, rest) => (unescape true t, rest)
    else some (bare (c :: rest))

/-! ## Bindings -/

def isNameChar (c : CodePoint) : Bool := c ≠ '=' && c ≠ '#' && !c.isBlank

/-- The name of a binding and the text behind it; a comment has none. -/
def name? : Text → Option (Option Text × Text)
  | [] => none
  | c :: rest =>
    if c = '#' then some (none, c :: rest)
    else if c = '\'' then
      match Text.cut '\'' rest with
      | (name, some rest) => if name = [] then none else some (some name, rest)
      | _ => none
    else
      let name := (c :: rest).takeWhile isNameChar
      if name = [] then none else some (some name, (c :: rest).dropWhile isNameChar)

def assigned? (t : Text) : Option (Option Text × Text) :=
  match skipInner t with
  | [] => some (none, [])
  | c :: rest =>
    if c = '=' then (value? (skipInner rest)).map fun (v, rest) => (some v, rest)
    else some (none, c :: rest)

/-- What a line says, and the text from where it goes on. A line that is no binding says nothing. -/
def line (t : Text) : Option (Text × Option Text) × Text :=
  match Text.trimStart t with
  | [] => (none, [])
  | c :: rest =>
    let t := skipExport (c :: rest)
    match name? t with
    | none => (none, nextLine t)
    | some (name, t) =>
      match assigned? t with
      | none =>
        -- a quote that is not closed
        (none, nextLine t)
      | some (v, t) =>
        let t := skipComment t
        match endLine? t with
        | some t => (name.map fun name => (name, v), t)
        | none => (none, nextLine t)

/-- The bindings of a text, in order. Each line takes at least one character of it, so its length is
enough fuel. -/
def bindings : Nat → Text → Bindings
  | 0, _ => []
  | _ + 1, [] => []
  | fuel + 1, t =>
    match line t with
    | (some b, t) => b :: bindings fuel t
    | (none, t) => bindings fuel t

/-! ## Names in values -/

def Environment.get? (e : Environment) (name : Text) : Option Text :=
  (e.find? fun b => b.1 = name).map (·.2)

/-- The value of a name: what the bindings say about it, or else the environment. -/
def meaning? (e : Environment) (bs : Bindings) (name : Text) : Option Text :=
  match bs.find? fun b => b.1 = name with
  | some (_, v) => some (v.getD [])
  | none => e.get? name

/-- A reference from behind its opening brace on: the name, what stands for it if it has no value,
and the text behind the closing brace. -/
def reference? (t : Text) : Option (Text × Text × Text) :=
  let isEnd : CodePoint → Bool := fun c => c = '\x7d' || c = ':'
  let name := t.takeWhile fun c => !isEnd c
  match t.dropWhile fun c => !isEnd c with
  | c :: rest =>
    if c = '\x7d' then some (name, [], rest)
    else
      match Text.dropStart? "-" rest with
      | some rest =>
        match Text.cut '\x7d' rest with
        | (other, some rest) => some (name, other, rest)
        | _ => none
      | none => none
  | [] => none

/-- The text with its references resolved. Each step takes at least one character. -/
def expand (e : Environment) (bs : Bindings) : Nat → Text → Text
  | 0, _ => []
  | _ + 1, [] => []
  | fuel + 1, c :: rest =>
    match (Text.dropStart? "$\x7b" (c :: rest)).bind reference? with
    | some (name, other, rest) => (meaning? e bs name).getD other ++ expand e bs fuel rest
    | none => c :: expand e bs fuel rest

def bind (bs : Bindings) (name : Text) (v : Option Text) : Bindings :=
  match bs with
  | [] => [(name, v)]
  | (k, w) :: rest => if k = name then (k, v) :: rest else (k, w) :: bind rest name v

def read (e : Environment) (file : Text) : Bindings :=
  let t := lineFeeds file
  (bindings t.length t).foldl
    (fun bs b => bind bs b.1 (b.2.map fun v => expand e bs (v.length + 1) v)) []

end QueryGateway.EnvFile
