import QueryGateway.Credential.PiWords
import QueryGateway.Number.Power
import QueryGateway.Text.Utf8

/-!
# The slow hash of a password

The Blowfish cipher with its costly key schedule: the tables of the cipher are filled from a password
and a salt, then again and again from the one and the other, `2 ^ cost` times, and at last the cipher
is applied to a fixed text.

`digest` is a fixed function of cost, salt and password. A password counts with a zero byte after it,
repeated as often as it takes, and no more than 72 bytes of it are ever looked at.
-/

namespace QueryGateway.Credential.Blowfish

/-- The tables of the cipher: eighteen round keys and four tables of 256 words. -/
structure State where
  keys : Array UInt32
  boxes : Array UInt32

def State.initial : State := ⟨piWords.extract 0 18, piWords.extract 18 1042⟩

def State.mix (s : State) (x : UInt32) : UInt32 :=
  let a := s.boxes.getD (x >>> 24).toNat 0
  let b := s.boxes.getD (256 + ((x >>> 16) &&& 0xFF).toNat) 0
  let c := s.boxes.getD (512 + ((x >>> 8) &&& 0xFF).toNat) 0
  let d := s.boxes.getD (768 + (x &&& 0xFF).toNat) 0
  ((a + b) ^^^ c) + d

/-- So many rounds on two words; the halves change places after each. -/
def State.rounds (s : State) : Nat → Nat → UInt32 → UInt32 → UInt32 × UInt32
  | 0, _, left, right => (left, right)
  | n + 1, i, left, right =>
    let left := left ^^^ s.keys.getD i 0
    s.rounds n (i + 1) (right ^^^ s.mix left) left

def State.encipher (s : State) (left right : UInt32) : UInt32 × UInt32 :=
  let (a, b) := s.rounds 16 0 left right
  (b ^^^ s.keys.getD 17 0, a ^^^ s.keys.getD 16 0)

def cyclicWord (bytes : Array UInt8) (position : Nat) : UInt32 :=
  let byte (k : Nat) : UInt32 := (bytes.getD ((position + k) % bytes.size) 0).toUInt32
  (byte 0 <<< 24) ||| (byte 1 <<< 16) ||| (byte 2 <<< 8) ||| byte 3

def cyclicWords (bytes : Bytes) (count : Nat) : Array UInt32 :=
  (Array.range count).map fun i => cyclicWord bytes.toArray (4 * i)

def State.fillKeys (salt : Array UInt32) :
    Nat → Nat → State → UInt32 → UInt32 → State × UInt32 × UInt32
  | 0, _, s, left, right => (s, left, right)
  | n + 1, i, s, left, right =>
    let (left, right) :=
      s.encipher (left ^^^ salt.getD (i % 4) 0) (right ^^^ salt.getD ((i + 1) % 4) 0)
    let s := { s with keys := (s.keys.setIfInBounds i left).setIfInBounds (i + 1) right }
    State.fillKeys salt n (i + 2) s left right

def State.fillBoxes (salt : Array UInt32) : Nat → Nat → State → UInt32 → UInt32 → State
  | 0, _, s, _, _ => s
  | n + 1, i, s, left, right =>
    let (left, right) :=
      s.encipher (left ^^^ salt.getD ((i + 2) % 4) 0) (right ^^^ salt.getD ((i + 3) % 4) 0)
    let s := { s with boxes := (s.boxes.setIfInBounds i left).setIfInBounds (i + 1) right }
    State.fillBoxes salt n (i + 2) s left right

def State.expand (s : State) (salt key : Array UInt32) : State :=
  let keys := s.keys.mapIdx fun i k => k ^^^ key.getD i 0
  let (s, left, right) := State.fillKeys salt 9 0 { s with keys := keys } 0 0
  State.fillBoxes salt 512 0 s left right

def State.alternate (zero key salt : Array UInt32) : Nat → State → State
  | 0, s => s
  | n + 1, s => State.alternate zero key salt n ((s.expand zero key).expand zero salt)

def State.encipherTimes (s : State) : Nat → UInt32 → UInt32 → UInt32 × UInt32
  | 0, left, right => (left, right)
  | n + 1, left, right =>
    let (left, right) := s.encipher left right
    s.encipherTimes n left right

def wordBytes (w : UInt32) : Bytes :=
  [(w >>> 24).toUInt8, (w >>> 16).toUInt8, (w >>> 8).toUInt8, w.toUInt8]

def plainText : List (UInt32 × UInt32) :=
  [(0x4F727068, 0x65616E42), (0x65686F6C, 0x64657253), (0x63727944, 0x6F756274)]

/-- The digest of a password: 23 bytes. -/
def digest (cost : Nat) (salt password : Bytes) : Bytes :=
  let key := cyclicWords (password ++ [0]) 18
  let saltWords := cyclicWords salt 4
  let saltKey := cyclicWords salt 18
  let s := State.initial.expand saltWords key
  let s := State.alternate #[0, 0, 0, 0] key saltKey (Number.twoPow cost) s
  let words := plainText.flatMap fun (left, right) =>
    let (left, right) := s.encipherTimes 64 left right
    wordBytes left ++ wordBytes right
  words.take 23

end QueryGateway.Credential.Blowfish
