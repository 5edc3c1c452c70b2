import QueryGateway.Text.Basic

/-!
# Blanks

The characters that separate words and that are cut off the ends of a value: the white space of
Unicode and the four ASCII separators U+001C to U+001F, twenty-nine code points in all. The no-break
space is one of them; U+200B and the byte order mark, which have no width, are not.
-/

namespace QueryGateway

def CodePoint.isSpace (c : CodePoint) : Bool :=
  (0x09 ≤ c.val && c.val ≤ 0x0D) || c.val = 0x20 || c.val = 0x85 || c.val = 0xA0 ||
  c.val = 0x1680 || (0x2000 ≤ c.val && c.val ≤ 0x200A) || c.val = 0x2028 || c.val = 0x2029 ||
  c.val = 0x202F || c.val = 0x205F || c.val = 0x3000

/-- The blanks: white space and the four separators of ASCII. -/
def CodePoint.isBlank (c : CodePoint) : Bool :=
  c.isSpace || (0x1C ≤ c.val && c.val ≤ 0x1F)

namespace Text

def isBlank (t : Text) : Bool := t.all CodePoint.isBlank

def trimStart (t : Text) : Text := t.dropWhile CodePoint.isBlank

def trimEnd (t : Text) : Text := (trimStart t.reverse).reverse

def trim (t : Text) : Text := trimEnd (trimStart t)

def words : Text → List Text
  | [] => []
  | c :: rest =>
    if c.isBlank then words rest
    else
      match rest with
      | [] => [[c]]
      | d :: _ =>
        if d.isBlank then [c] :: words rest
        else
          match words rest with
          | [] => [[c]]
          | word :: more => (c :: word) :: more

end Text

end QueryGateway
