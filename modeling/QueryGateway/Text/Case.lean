import QueryGateway.Text.CaseTable

/-!
# Small and capital letters

`Text.lower` writes every letter as its small letter. Three things make it more than a map over
characters: the capital I with a dot becomes two code points, the capital sigma has a second small
form at the end of a word, and "end of a word" looks past the marks that do not count as letters.

`Text.upper` is given as far as the library compares against names in ASCII: it writes the ASCII
letters, and the few other characters whose capitals are some, as capitals.
-/

namespace QueryGateway

namespace CodePoint

/-- The small letter of an ASCII capital; every other code point is itself. -/
def asciiLower (c : CodePoint) : CodePoint :=
  if 0x41 ≤ c.val && c.val ≤ 0x5A then ofNat (c.val + 0x20) else c

def smallLetter (c : CodePoint) : CodePoint :=
  if c.isAscii then c.asciiLower
  else
    match Text.CaseTable.small.find? fun r =>
        r.first ≤ c.val && c.val ≤ r.last && (c.val - r.first) % r.step = 0 with
    | some r => ofNat ((c.val : Int) + r.shift).toNat
    | none => c

def isCased (c : CodePoint) : Bool :=
  Text.CaseTable.cased.any fun (first, last) => first ≤ c.val && c.val ≤ last

def isCaseIgnorable (c : CodePoint) : Bool :=
  Text.CaseTable.ignorable.any fun (first, last) => first ≤ c.val && c.val ≤ last

/-- The capital of an ASCII letter, of the dotless i and of the long s, and the two capitals of a
ligature of s and t; every other code point is itself. -/
def capitals (c : CodePoint) : Text :=
  if 0x61 ≤ c.val && c.val ≤ 0x7A then [ofNat (c.val - 0x20)]
  else if c.val = 0x131 then "I"
  else if c.val = 0x17F then "S"
  else if c.val = 0xFB05 || c.val = 0xFB06 then "ST"
  else [c]

end CodePoint

namespace Text

def meetsLetter (t : Text) : Bool :=
  match t.dropWhile CodePoint.isCaseIgnorable with
  | [] => false
  | c :: _ => c.isCased

def lowerAfter (before : Text) : Text → Text
  | [] => []
  | c :: rest =>
    (if c.val = 0x130 then [CodePoint.ofNat 0x69, CodePoint.ofNat 0x307]
     else if c.val = 0x3A3 then
       [if meetsLetter before && !meetsLetter rest then CodePoint.ofNat 0x3C2
        else CodePoint.ofNat 0x3C3]
     else [c.smallLetter])
    ++ lowerAfter (c :: before) rest

def lower (t : Text) : Text := lowerAfter [] t

/-- The text with its ASCII letters as small letters; all else stays. -/
def asciiLower (t : Text) : Text := t.map CodePoint.asciiLower

def upper (t : Text) : Text := t.flatMap CodePoint.capitals

end Text

end QueryGateway
