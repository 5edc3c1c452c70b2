import QueryGateway.Text.Utf8

/-!
# Base64

Bytes as letters, six bits a letter. An `Alphabet` fixes the sixty-four letters; `encode` writes
without padding and `encodePadded` fills the last group with `=`.

`decode?` is strict: nothing but letters of the alphabet, then padding, and a last group of two or
three letters must be completed to four. It is lenient in two places: a last letter may have unused
bits that are not zero, and whole groups may be followed by padding that completes nothing.
-/

namespace QueryGateway.Base64

structure Alphabet where
  letters : List Char

def standard : Alphabet :=
  ⟨"ABCDEFGHIJKLMNOPQRSTUVWXYZabcdefghijklmnopqrstuvwxyz0123456789+/".toList⟩

def urlSafe : Alphabet :=
  ⟨"ABCDEFGHIJKLMNOPQRSTUVWXYZabcdefghijklmnopqrstuvwxyz0123456789-_".toList⟩

def Alphabet.letter (a : Alphabet) (digit : Nat) : CodePoint :=
  match a.letters[digit]? with
  | some c => c
  | none => '='

def Alphabet.digit? (a : Alphabet) (c : CodePoint) : Option Nat :=
  a.letters.findIdx? fun letter => CodePoint.ofChar letter = c

/-- The digits of a byte string, six bits each; the last group is filled up with zero bits. -/
def digits : Bytes → List Nat
  | [] => []
  | [x] => [x.toNat / 4, x.toNat % 4 * 16]
  | [x, y] => [x.toNat / 4, x.toNat % 4 * 16 + y.toNat / 16, y.toNat % 16 * 4]
  | x :: y :: z :: rest =>
    x.toNat / 4 :: (x.toNat % 4 * 16 + y.toNat / 16) :: (y.toNat % 16 * 4 + z.toNat / 64) ::
      z.toNat % 64 :: digits rest

/-- The bytes of digits; the bits beyond the last whole byte are dropped. -/
def undigits : List Nat → Bytes
  | [] => []
  | [_] => []
  | [a, b] => [UInt8.ofNat (a * 4 + b / 16)]
  | [a, b, c] => [UInt8.ofNat (a * 4 + b / 16), UInt8.ofNat (b % 16 * 16 + c / 4)]
  | a :: b :: c :: d :: rest =>
    UInt8.ofNat (a * 4 + b / 16) :: UInt8.ofNat (b % 16 * 16 + c / 4) ::
      UInt8.ofNat (c % 4 * 64 + d) :: undigits rest

def encode (a : Alphabet) (bytes : Bytes) : Text := (digits bytes).map a.letter

def encodePadded (a : Alphabet) (bytes : Bytes) : Text :=
  let t := encode a bytes
  t ++ List.replicate ((4 - t.length % 4) % 4) (CodePoint.ofChar '=')

/-- Whether `pads` signs of padding may follow `letters` letters: two or one complete a last group of
two or three letters; whole groups bear any number, but a text does not begin with padding. -/
def padsAllowed (letters pads : Nat) : Bool :=
  match letters % 4 with
  | 0 => letters ≠ 0 || pads = 0
  | 2 => pads = 2
  | 3 => pads = 1
  | _ => false

/-- The bytes of padded letters; `none` if a character is no letter of the alphabet, or the padding
is missing or misplaced. -/
def decode? (a : Alphabet) (t : Text) : Option Bytes :=
  let letters := t.takeWhile fun c : CodePoint => c ≠ '='
  let pads := t.dropWhile fun c : CodePoint => c ≠ '='
  if pads.all (fun c : CodePoint => c = '=') && padsAllowed letters.length pads.length then
    (letters.mapM a.digit?).map undigits
  else none

end QueryGateway.Base64
