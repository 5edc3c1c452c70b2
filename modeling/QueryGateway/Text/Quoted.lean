import QueryGateway.Text.Printable
import QueryGateway.Text.Utf8

/-!
# Quoted text

A text between quotes, as it appears inside a shown list or an error message: single quotes, unless
the text holds a single quote and no double one. Line ends, tabs, the backslash and the quote have
short escapes, other characters that are not printable are written by their number.
-/

namespace QueryGateway.Text

def numberedEscape (c : CodePoint) : Text :=
  if c.val < 0x100 then "\\x" ++ hex 2 c.val
  else if c.val < 0x10000 then "\\u" ++ hex 4 c.val
  else "\\U" ++ hex 8 c.val

def quotedChar (quote c : CodePoint) : Text :=
  if c = quote ∨ c = '\\' then [CodePoint.ofChar '\\', c]
  else if c = '\n' then "\\n"
  else if c = '\r' then "\\r"
  else if c = '\t' then "\\t"
  else if c.isAscii then (if c.isPrintableAscii then [c] else numberedEscape c)
  else if c.isPrintable then [c]
  else numberedEscape c

def quoted (t : Text) : Text :=
  let single : CodePoint := '\''
  let double : CodePoint := '"'
  let quote := if t.contains single && !t.contains double then double else single
  [quote] ++ t.flatMap (quotedChar quote) ++ [quote]

/-- Bytes between quotes, after the letter b: every byte beyond ASCII is written by its number. -/
def quotedBytes (b : Bytes) : Text :=
  let t : Text := b.map fun x => CodePoint.ofNat x.toNat
  let single : CodePoint := '\''
  let double : CodePoint := '"'
  let quote := if t.contains single && !t.contains double then double else single
  let inner : Text := t.flatMap fun c => if c.isAscii then quotedChar quote c else numberedEscape c
  "b" ++ [quote] ++ inner ++ [quote]

end QueryGateway.Text
