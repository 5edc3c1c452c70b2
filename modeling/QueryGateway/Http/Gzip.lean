import QueryGateway.Text.Base64

/-!
# Gzip

The container of a compressed body: ten bytes of header, blocks, the checksum and the length of what
they hold. Bodies are stored in blocks as they are, which every reader of the format understands;
`restore?` reads back what `store` wrote.
-/

namespace QueryGateway.Http.Gzip

def crcBit (c : UInt32) : UInt32 :=
  if c &&& 1 = 1 then (c >>> 1) ^^^ 0xEDB88320 else c >>> 1

def crcByte (c : UInt32) (b : UInt8) : UInt32 :=
  crcBit (crcBit (crcBit (crcBit (crcBit (crcBit (crcBit (crcBit (c ^^^ b.toUInt32))))))))

def crc (bytes : Bytes) : UInt32 := bytes.foldl crcByte 0xFFFFFFFF ^^^ 0xFFFFFFFF

def word (n : UInt32) : Bytes :=
  [n.toUInt8, (n >>> 8).toUInt8, (n >>> 16).toUInt8, (n >>> 24).toUInt8]

def halfWord (n : Nat) : Bytes := [UInt8.ofNat n, UInt8.ofNat (n / 256)]

def blockSize : Nat := 65535

/-- A stored block: its mark, its length, the complement of its length, its bytes. -/
def block (last : Bool) (bytes : Bytes) : Bytes :=
  (if last then 1 else 0) :: halfWord bytes.length ++ halfWord (65535 - bytes.length) ++ bytes

def blocks (bytes : Bytes) : Bytes :=
  if _ : bytes.length ≤ blockSize then block true bytes
  else block false (bytes.take blockSize) ++ blocks (bytes.drop blockSize)
termination_by bytes.length
decreasing_by simp [blockSize] at *; omega

/-- The header: the two marks of the format, the method, no flags, no time, no hint, any system. -/
def header : Bytes := [0x1F, 0x8B, 0x08, 0, 0, 0, 0, 0, 0, 0xFF]

def store (bytes : Bytes) : Bytes :=
  header ++ blocks bytes ++ word (crc bytes) ++ word (UInt32.ofNat bytes.length)

def unblock? : Nat → Bytes → Option (Bytes × Bytes)
  | 0, _ => none
  | fuel + 1, mark :: a :: b :: _ :: _ :: rest =>
    let n := a.toNat + 256 * b.toNat
    let content := rest.take n
    let rest := rest.drop n
    if content.length ≠ n then none
    else if mark = 1 then some (content, rest)
    else if mark = 0 then (unblock? fuel rest).map fun (more, rest) => (content ++ more, rest)
    else none
  | _ + 1, _ => none

def restore? (bytes : Bytes) : Option Bytes := do
  if bytes.take 10 ≠ header then none
  let (content, rest) ← unblock? bytes.length (bytes.drop 10)
  if rest = word (crc content) ++ word (UInt32.ofNat content.length) then some content else none

def encodeText (t : Text) : Text := Base64.encodePadded Base64.standard (store (Utf8.encode t))

def decodeText? (t : Text) : Option Text := do
  Utf8.decode? (← restore? (← Base64.decode? Base64.standard t))

end QueryGateway.Http.Gzip
