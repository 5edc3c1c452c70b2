import QueryGateway.Text.Basic

/-!
# UTF-8

The bytes of a text, and the text of bytes in two ways: `decode?` refuses a sequence that is not
UTF-8, `decodeLossy` puts U+FFFD in the place of each ill-formed stretch. A stretch is the longest
beginning of a well-formed sequence that stands there, or else a single byte.

A surrogate has no UTF-8 form, so `encode?` is defined on Unicode text only.
-/

namespace QueryGateway

abbrev Bytes := List UInt8

namespace Utf8

def encodePoint (c : CodePoint) : Bytes :=
  let n := c.val
  if n < 0x80 then [UInt8.ofNat n]
  else if n < 0x800 then [UInt8.ofNat (0xC0 + n / 0x40), UInt8.ofNat (0x80 + n % 0x40)]
  else if n < 0x10000 then
    [UInt8.ofNat (0xE0 + n / 0x1000), UInt8.ofNat (0x80 + n / 0x40 % 0x40),
     UInt8.ofNat (0x80 + n % 0x40)]
  else
    [UInt8.ofNat (0xF0 + n / 0x40000), UInt8.ofNat (0x80 + n / 0x1000 % 0x40),
     UInt8.ofNat (0x80 + n / 0x40 % 0x40), UInt8.ofNat (0x80 + n % 0x40)]

def encode (t : Text) : Bytes := t.flatMap encodePoint

/-- The bytes of a Unicode text; a surrogate has none. -/
def encode? (t : Text) : Option Bytes := if t.isScalar then some (encode t) else none

def isTail (b : UInt8) : Bool := 0x80 ≤ b.toNat && b.toNat ≤ 0xBF

/-- Whether a byte may be the second one after a given first byte: shorter forms exist for some,
others would name a surrogate or a number beyond the last code point. -/
def isSecond (first second : UInt8) : Bool :=
  if first = 0xE0 then 0xA0 ≤ second.toNat && second.toNat ≤ 0xBF
  else if first = 0xED then 0x80 ≤ second.toNat && second.toNat ≤ 0x9F
  else if first = 0xF0 then 0x90 ≤ second.toNat && second.toNat ≤ 0xBF
  else if first = 0xF4 then 0x80 ≤ second.toNat && second.toNat ≤ 0x8F
  else isTail second

/-- What stands at the beginning of a byte string: a code point or an ill-formed stretch, with the
number of its bytes beyond the first. -/
def front (a : UInt8) (rest : Bytes) : Option CodePoint × Nat :=
  let n := a.toNat
  if n < 0x80 then (some (CodePoint.ofNat n), 0)
  else if 0xC2 ≤ n && n ≤ 0xDF then
    match rest with
    | b :: _ =>
      if isTail b then (some (CodePoint.ofNat ((n - 0xC0) * 0x40 + (b.toNat - 0x80))), 1)
      else (none, 0)
    | [] => (none, 0)
  else if 0xE0 ≤ n && n ≤ 0xEF then
    match rest with
    | b :: more =>
      if isSecond a b then
        match more with
        | c :: _ =>
          if isTail c then
            (some (CodePoint.ofNat
              ((n - 0xE0) * 0x1000 + (b.toNat - 0x80) * 0x40 + (c.toNat - 0x80))), 2)
          else (none, 1)
        | [] => (none, 1)
      else (none, 0)
    | [] => (none, 0)
  else if 0xF0 ≤ n && n ≤ 0xF4 then
    match rest with
    | b :: more =>
      if isSecond a b then
        match more with
        | c :: most =>
          if isTail c then
            match most with
            | d :: _ =>
              if isTail d then
                (some (CodePoint.ofNat
                  ((n - 0xF0) * 0x40000 + (b.toNat - 0x80) * 0x1000 + (c.toNat - 0x80) * 0x40 +
                    (d.toNat - 0x80))), 3)
              else (none, 2)
            | [] => (none, 2)
          else (none, 1)
        | [] => (none, 1)
      else (none, 0)
    | [] => (none, 0)
  else (none, 0)

/-- The stretches of a byte string: the code points, and `none` for each ill-formed stretch. -/
def stretches : Bytes → List (Option CodePoint)
  | [] => []
  | a :: rest => (front a rest).1 :: stretches (rest.drop (front a rest).2)
termination_by bytes => bytes.length
decreasing_by simp only [List.length_drop, List.length_cons]; omega

def decode? (bytes : Bytes) : Option Text := (stretches bytes).mapM id

def decodeLossy (bytes : Bytes) : Text :=
  (stretches bytes).map fun c => c.getD (CodePoint.ofNat 0xFFFD)

end Utf8

end QueryGateway
