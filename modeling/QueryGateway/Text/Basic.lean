/-!
# Text as a list of code points

Everything that clients, operators and collaborators hand to the gateway is text, and not all of it
is Unicode text: an escape in a JSON document may name one half of a surrogate pair. So a `Text` is a
list of code points, surrogates included, and `Text.IsScalar` singles out the texts that have a UTF-8
form. Literals are written as ordinary strings and coerced.

What is NOT here: character classes (`Text.Blank`, `Text.Case`, `Text.Digit`, `Text.Printable`) and
encodings (`Text.Utf8`, `Text.Base64`).
-/

namespace QueryGateway

abbrev CodePoint := Fin 0x110000

abbrev Text := List CodePoint

namespace CodePoint

theorem toNat_lt (c : Char) : c.toNat < 0x110000 := by
  have h := c.valid
  unfold UInt32.isValidChar Nat.isValidChar at h
  change c.val.toNat < 0x110000
  omega

def ofChar (c : Char) : CodePoint := ⟨c.toNat, toNat_lt c⟩

instance : Coe Char CodePoint := ⟨ofChar⟩

def ofNat (n : Nat) : CodePoint := Fin.ofNat 0x110000 n

def isSurrogate (c : CodePoint) : Bool := 0xD800 ≤ c.val && c.val ≤ 0xDFFF

def isAscii (c : CodePoint) : Bool := c.val < 0x80

def isPrintableAscii (c : CodePoint) : Bool := 0x20 ≤ c.val && c.val ≤ 0x7E

def isAsciiDigit (c : CodePoint) : Bool := 0x30 ≤ c.val && c.val ≤ 0x39

def isAsciiLetter (c : CodePoint) : Bool :=
  (0x41 ≤ c.val && c.val ≤ 0x5A) || (0x61 ≤ c.val && c.val ≤ 0x7A)

/-- The character of a code point; a surrogate shows as the replacement character. -/
def toChar (c : CodePoint) : Char := if c.isSurrogate then '\uFFFD' else Char.ofNat c.val

end CodePoint

namespace Text

def ofString (s : String) : Text := s.toList.map CodePoint.ofChar

instance : Coe String Text := ⟨ofString⟩

/-- The string of a text, for output only: a surrogate shows as the replacement character. -/
def toString (t : Text) : String := String.ofList (t.map CodePoint.toChar)

def isScalar (t : Text) : Bool := t.all fun c => !c.isSurrogate

/-- The text is Unicode text: it holds no surrogate. -/
def IsScalar (t : Text) : Prop := ∀ c ∈ t, c.isSurrogate = false

theorem isScalar_iff {t : Text} : t.isScalar = true ↔ t.IsScalar := by
  simp [isScalar, IsScalar, List.all_eq_true]

instance (t : Text) : Decidable t.IsScalar := decidable_of_iff _ isScalar_iff

/-! ## Numbers -/

def hexDigit (n : Nat) : CodePoint :=
  CodePoint.ofNat (if n < 10 then 0x30 + n else 0x57 + n)

def hexValue? (c : CodePoint) : Option Nat :=
  if 0x30 ≤ c.val && c.val ≤ 0x39 then some (c.val - 0x30)
  else if 0x41 ≤ c.val && c.val ≤ 0x46 then some (c.val - 0x37)
  else if 0x61 ≤ c.val && c.val ≤ 0x66 then some (c.val - 0x57)
  else none

def hex (width n : Nat) : Text :=
  match width with
  | 0 => []
  | width + 1 => hex width (n / 16) ++ [hexDigit (n % 16)]

def digitsOnto (n : Nat) (rest : Text) : Text :=
  if _ : n < 10 then CodePoint.ofNat (0x30 + n) :: rest
  else digitsOnto (n / 10) (CodePoint.ofNat (0x30 + n % 10) :: rest)
termination_by n

def ofNat (n : Nat) : Text := digitsOnto n []

def ofInt : Int → Text
  | .ofNat n => ofNat n
  | .negSucc n => '-' :: ofNat (n + 1)

def digitsValue (ds : Text) : Nat := ds.foldl (fun n c => 10 * n + (c.val - 0x30)) 0

def padded (width n : Nat) : Text :=
  let ds := ofNat n
  List.replicate (width - ds.length) (CodePoint.ofChar '0') ++ ds

/-! ## Cutting and joining -/

/-- The pieces between the occurrences of a separator; there is one more piece than separators. -/
def pieces (sep : CodePoint) : Text → List Text
  | [] => [[]]
  | c :: rest =>
    match pieces sep rest with
    | [] => [[c]]
    | piece :: more => if c = sep then [] :: piece :: more else (c :: piece) :: more

def cut (sep : CodePoint) : Text → Text × Option Text
  | [] => ([], none)
  | c :: rest =>
    if c = sep then ([], some rest)
    else
      let (before, after) := cut sep rest
      (c :: before, after)

def join (sep : Text) : List Text → Text
  | [] => []
  | [t] => t
  | t :: more => t ++ sep ++ join sep more

def dropStart? : Text → Text → Option Text
  | [], t => some t
  | _ :: _, [] => none
  | p :: start, c :: rest => if p = c then dropStart? start rest else none

def startsWith (t start : Text) : Bool := (dropStart? start t).isSome

def padRight (width : Nat) (t : Text) : Text :=
  t ++ List.replicate (width - t.length) (CodePoint.ofChar ' ')

end Text

end QueryGateway
