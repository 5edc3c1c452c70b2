import QueryGateway.Text.Basic

/-!
# Tokens of a query

A query is read as a row of tokens: marks, names, numbers and texts. Blanks, commas, line ends and
comments stand between tokens and mean nothing. `Token.ofText` gives the tokens up to the end of the
query or up to the first place where there is none; the last token tells which of the two it was.

A text between triple quotes may go over several lines; the indentation that its lines share and its
empty lines at both ends are no part of it.
-/

namespace QueryGateway.Graph

structure SyntaxFault where
  position : Nat
  message : Text
deriving DecidableEq, Repr

inductive TokenKind where
  | mark
  | name
  | int
  | float
  | string
  | block
  | finish
  /-- No token begins here; the text of the token says why. -/
  | fault
deriving DecidableEq, Repr

structure Token where
  kind : TokenKind
  text : Text
  start : Nat
deriving DecidableEq, Repr

def quoted (t : Text) : Text := "'" ++ t ++ "'"

def Token.shown (t : Token) : Text :=
  match t.kind with
  | .mark => quoted t.text
  | .name => "Name " ++ quoted t.text
  | .int => "Int " ++ quoted t.text
  | .float => "Float " ++ quoted t.text
  | .string => "String " ++ quoted t.text
  | .block => "BlockString " ++ quoted t.text
  | .finish | .fault => "<EOF>"

/-! ## Characters -/

def capitalHex (n : Nat) : Text :=
  let ds := Text.hex 6 n
  let short := ds.dropWhile fun c : CodePoint => c = '0'
  (List.replicate (4 - short.length) (CodePoint.ofChar '0') ++ short).map fun c =>
    if 0x61 ≤ c.val ∧ c.val ≤ 0x66 then CodePoint.ofNat (c.val - 0x20) else c

def firstShown : Text → Text
  | [] => "<EOF>"
  | c :: _ => if c.isPrintableAscii then quoted [c] else "U+" ++ capitalHex c.val

def isNameStart (c : CodePoint) : Bool := c.isAsciiLetter || c = '_'

def isNamePart (c : CodePoint) : Bool := isNameStart c || c.isAsciiDigit

/-- A blank between tokens; the comma is one. -/
def isIgnored (c : CodePoint) : Bool :=
  c = ' ' || c = '\t' || c = ',' || c = '\n' || c = '\r' || c.val = 0xFEFF

def isMark (c : CodePoint) : Bool :=
  ("!$&():=@[]\x7b|\x7d" : Text).contains c

/-! ## Numbers -/

def readDigits (position : Nat) (t : Text) : Except SyntaxFault (Text × Text) :=
  match t.takeWhile CodePoint.isAsciiDigit with
  | [] =>
    .error ⟨position, "Invalid number, expected digit but got: " ++ firstShown t ++ "."⟩
  | ds => .ok (ds, t.dropWhile CodePoint.isAsciiDigit)

def readWhole (position : Nat) (t : Text) : Except SyntaxFault (Text × Text) :=
  match t with
  | c :: rest =>
    if c = '0' then
      if (rest.take 1).any CodePoint.isAsciiDigit then
        .error ⟨position + 1, "Invalid number, unexpected digit after 0: " ++ firstShown rest ++ "."⟩
      else .ok ([c], rest)
    else readDigits position t
  | [] => readDigits position []

def readFraction (position : Nat) (t : Text) : Except SyntaxFault (Text × Text) :=
  match t with
  | c :: rest =>
    if c = '.' then (readDigits (position + 1) rest).map fun (ds, rest) => (c :: ds, rest)
    else .ok ([], t)
  | [] => .ok ([], [])

def readExponent (position : Nat) (t : Text) : Except SyntaxFault (Text × Text) :=
  match t with
  | c :: s :: rest =>
    if c = 'e' ∨ c = 'E' then
      if s = '+' ∨ s = '-' then
        (readDigits (position + 2) rest).map fun (ds, rest) => (c :: s :: ds, rest)
      else (readDigits (position + 1) (s :: rest)).map fun (ds, rest) => (c :: ds, rest)
    else .ok ([], t)
  | [c] =>
    if c = 'e' ∨ c = 'E' then (readDigits (position + 1) []).map fun (ds, rest) => (c :: ds, rest)
    else .ok ([], t)
  | [] => .ok ([], [])

/-- A number: the token and the text behind it. Neither a point nor a name may follow at once. -/
def readNumber (position : Nat) (t : Text) : Except SyntaxFault (Token × Text) := do
  let (sign, unsigned) : Text × Text :=
    match t with
    | c :: rest => if c = '-' then ([c], rest) else ([], t)
    | [] => ([], [])
  let (whole, rest) ← readWhole (position + sign.length) unsigned
  let before := sign ++ whole
  let (fraction, rest) ← readFraction (position + before.length) rest
  let before := before ++ fraction
  let (exponent, rest) ← readExponent (position + before.length) rest
  let number := before ++ exponent
  if (rest.take 1).any fun c => c = '.' || isNameStart c then
    .error ⟨position + number.length,
      "Invalid number, expected digit but got: " ++ firstShown rest ++ "."⟩
  else
    let kind := if fraction = [] ∧ exponent = [] then TokenKind.int else TokenKind.float
    .ok (⟨kind, number, position⟩, rest)

/-! ## Texts -/

def unterminated (position : Nat) : SyntaxFault := ⟨position, "Unterminated string."⟩

def strangeCharacter (position : Nat) (t : Text) : SyntaxFault :=
  ⟨position, "Invalid character within String: " ++ firstShown t ++ "."⟩

/-- The fault of an escape by number; `length` counts its characters. -/
def badNumberEscape (position length : Nat) (t : Text) : SyntaxFault :=
  ⟨position, "Invalid Unicode escape sequence: '" ++ t.take length ++ "'."⟩

def fourDigits? (t : Text) : Option Nat :=
  match t with
  | a :: b :: c :: d :: _ => do
    let a ← Text.hexValue? a
    let b ← Text.hexValue? b
    let c ← Text.hexValue? c
    let d ← Text.hexValue? d
    some (((a * 16 + b) * 16 + c) * 16 + d)
  | _ => none

/-- The code point of an escape with four digits at the start of a text, or of two such escapes that
are the halves of a pair, and how many characters it takes. -/
def fixedEscape (position : Nat) (t : Text) : Except SyntaxFault (CodePoint × Nat) :=
  match fourDigits? (t.drop 2) with
  | none => .error (badNumberEscape position 6 t)
  | some n =>
    if n < 0xD800 ∨ 0xDFFF < n then .ok (CodePoint.ofNat n, 6)
    else
      let low? := if Text.startsWith (t.drop 6) "\\u" then fourDigits? (t.drop 8) else none
      match low? with
      | some m =>
        if n ≤ 0xDBFF ∧ 0xDC00 ≤ m ∧ m ≤ 0xDFFF then
          .ok (CodePoint.ofNat (0x10000 + (n - 0xD800) * 0x400 + (m - 0xDC00)), 12)
        else .error (badNumberEscape position 6 t)
      | none => .error (badNumberEscape position 6 t)

/-- The digits of an escape in braces, from behind its opening brace on. `size` counts the characters
up to here, of which there may be twelve, and `point` is the number so far. The answer is the number
of characters, and the code point if the escape is one. -/
def bracedDigits (size point : Nat) : Text → Nat × Option CodePoint
  | [] => (size, none)
  | c :: rest =>
    if 12 ≤ size then (size, none)
    else if c = '\x7d' then
      (size + 1,
        if size < 4 ∨ 0x10FFFF < point ∨ (0xD800 ≤ point ∧ point ≤ 0xDFFF) then none
        else some (CodePoint.ofNat point))
    else
      match Text.hexValue? c with
      | some d => bracedDigits (size + 1) (point * 16 + d) rest
      | none => (size + 1, none)

def bracedEscape (position : Nat) (t : Text) : Except SyntaxFault (CodePoint × Nat) :=
  match bracedDigits 3 0 (t.drop 3) with
  | (size, some p) => .ok (p, size)
  | (size, none) => .error (badNumberEscape position size t)

def letterEscape? (c : CodePoint) : Option CodePoint :=
  if c = '"' ∨ c = '\\' ∨ c = '/' then some c
  else if c = 'b' then some (CodePoint.ofNat 0x08)
  else if c = 'f' then some (CodePoint.ofNat 0x0C)
  else if c = 'n' then some '\n'
  else if c = 'r' then some '\r'
  else if c = 't' then some '\t'
  else none

def readEscape (position : Nat) (t : Text) : Except SyntaxFault (CodePoint × Nat) :=
  if Text.startsWith t "\\u\x7b" then bracedEscape position t
  else if Text.startsWith t "\\u" then fixedEscape position t
  else
    match (t.drop 1).head?.bind letterEscape? with
    | some p => .ok (p, 2)
    | none =>
      .error ⟨position, "Invalid character escape sequence: '" ++ t.take 2 ++ "'."⟩

/-- A text from behind its opening quote on, the position behind its closing quote, and what follows.
Each step takes at least one character. -/
def readString (position : Nat) : Nat → Text → Except SyntaxFault (Text × Nat × Text)
  | 0, _ => .error (unterminated position)
  | _ + 1, [] => .error (unterminated position)
  | fuel + 1, c :: rest =>
    if c = '"' then .ok ([], position + 1, rest)
    else if c = '\\' then do
      let (p, size) ← readEscape position (c :: rest)
      let (t, stop, rest) ← readString (position + size) fuel ((c :: rest).drop size)
      .ok (p :: t, stop, rest)
    else if c = '\n' ∨ c = '\r' then .error (unterminated position)
    else if c.isSurrogate then .error (strangeCharacter position (c :: rest))
    else do
      let (t, stop, rest) ← readString (position + 1) fuel rest
      .ok (c :: t, stop, rest)

/-- What stands between triple quotes, from behind the opening ones on, the position behind the
closing ones, and what follows. -/
def readBlock (position : Nat) : Nat → Text → Except SyntaxFault (Text × Nat × Text)
  | 0, _ => .error (unterminated position)
  | _ + 1, [] => .error (unterminated position)
  | fuel + 1, c :: rest =>
    match Text.dropStart? "\"\"\"" (c :: rest), Text.dropStart? "\\\"\"\"" (c :: rest) with
    | some rest, _ => .ok ([], position + 3, rest)
    | none, some rest => do
      let (t, stop, rest) ← readBlock (position + 4) fuel rest
      .ok (("\"\"\"" : Text) ++ t, stop, rest)
    | none, none =>
      if c.isSurrogate then .error (strangeCharacter position (c :: rest))
      else do
        let (t, stop, rest) ← readBlock (position + 1) fuel rest
        .ok (c :: t, stop, rest)

def splitLines : Text → List Text
  | [] => [[]]
  | [c] => if c = '\n' ∨ c = '\r' then [[], []] else [[c]]
  | c :: d :: rest =>
    if c = '\r' ∧ d = '\n' then [] :: splitLines rest
    else if c = '\n' ∨ c = '\r' then [] :: splitLines (d :: rest)
    else
      match splitLines (d :: rest) with
      | line :: more => (c :: line) :: more
      | [] => [[c]]

def isIndent (c : CodePoint) : Bool := c = ' ' || c = '\t'

def isEmptyLine (line : Text) : Bool := line.all isIndent

def sharedIndent (lines : List Text) : Nat :=
  (((lines.drop 1).filter fun l => !isEmptyLine l).map fun l => (l.takeWhile isIndent).length).min?.getD 0

def dedent (lines : List Text) : List Text :=
  let n := sharedIndent lines
  let cut := (lines.take 1) ++ (lines.drop 1).map fun l => l.drop n
  (((cut.dropWhile isEmptyLine).reverse).dropWhile isEmptyLine).reverse

def blockText (raw : Text) : Text := Text.join "\n" (dedent (splitLines raw))

/-! ## Tokens -/

def strangeStart (position : Nat) (t : Text) : SyntaxFault :=
  ⟨position,
    match t with
    | c :: _ =>
      if c = '\'' then
        "Unexpected single quote character ('), did you mean to use a double quote (\")?"
      else if c.isSurrogate then "Invalid character: " ++ firstShown t ++ "."
      else "Unexpected character: " ++ firstShown t ++ "."
    | [] => "Unexpected character: <EOF>."⟩

/-- The token at the start of a text that is neither empty nor begins between tokens, the position
behind it, and the text that follows. -/
def readToken (position : Nat) (t : Text) : Except SyntaxFault (Token × Nat × Text) :=
  match t with
  | [] => .ok (⟨.finish, [], position⟩, position, [])
  | c :: rest =>
    if isMark c then .ok (⟨.mark, [c], position⟩, position + 1, rest)
    else if Text.startsWith t "..." then .ok (⟨.mark, "...", position⟩, position + 3, t.drop 3)
    else if isNameStart c then
      let name := t.takeWhile isNamePart
      .ok (⟨.name, name, position⟩, position + name.length, t.dropWhile isNamePart)
    else if c.isAsciiDigit || c = '-' then do
      let (token, rest) ← readNumber position t
      .ok (token, position + token.text.length, rest)
    else if Text.startsWith t "\"\"\"" then do
      let (raw, stop, rest) ← readBlock (position + 3) t.length (t.drop 3)
      .ok (⟨.block, blockText raw, position⟩, stop, rest)
    else if c = '"' then do
      let (text, stop, rest) ← readString (position + 1) t.length rest
      .ok (⟨.string, text, position⟩, stop, rest)
    else .error (strangeStart position t)

/-- The tokens of a text from a position on. Each step takes at least one character, or is the last. -/
def scan (position : Nat) : Nat → Text → List Token
  | 0, _ => [⟨.finish, [], position⟩]
  | _ + 1, [] => [⟨.finish, [], position⟩]
  | fuel + 1, c :: rest =>
    if isIgnored c then scan (position + 1) fuel rest
    else if c = '#' then
      let comment := rest.takeWhile fun c : CodePoint =>
        c ≠ '\n' && c ≠ '\r' && !c.isSurrogate
      scan (position + 1 + comment.length) fuel (rest.drop comment.length)
    else
      match readToken position (c :: rest) with
      | .ok (token, stop, rest) => token :: scan stop fuel rest
      | .error f => [⟨.fault, f.message, f.position⟩]

def Token.ofText (t : Text) : List Token := scan 0 (t.length + 1) t

end QueryGateway.Graph
