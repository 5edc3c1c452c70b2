import QueryGateway.Http.Gzip
import QueryGateway.Proofs.Text.Transport

/-!
# A container is opened

Whatever is put into the container comes out of it (`restore?_store`), and so does a Unicode text
that is put into it and written as base64 (`decodeText?_encodeText`). Each block tells its own
length, so blocks are taken off one by one, and what follows the last one is left alone.
-/

namespace QueryGateway.Http.Gzip

open Text

/-! ## Blocks -/

/-- The length of a block is read back from its two bytes. -/
theorem length_halfWord {n : Nat} (h : n ≤ blockSize) :
    (UInt8.ofNat n).toNat + 256 * (UInt8.ofNat (n / 256)).toNat = n := by
  have low : (UInt8.ofNat n).toNat = n % 256 := rfl
  have high : (UInt8.ofNat (n / 256)).toNat = n / 256 % 256 := rfl
  have bound : n ≤ 65535 := h
  rw [low, high]
  omega

/-- A block in front: its content comes out, and what follows is left. -/
theorem unblock?_block {bytes : Bytes} (h : bytes.length ≤ blockSize) (last : Bool) (rest : Bytes)
    (fuel : Nat) :
    unblock? (fuel + 1) (block last bytes ++ rest) =
      if last then some (bytes, rest)
      else (unblock? fuel rest).map fun (more, rest) => (bytes ++ more, rest) := by
  have length := length_halfWord h
  simp only [block, halfWord, List.cons_append, List.nil_append, unblock?, length,
    List.take_left, List.drop_left]
  rw [if_neg (Decidable.not_not.mpr rfl)]
  cases last <;> rfl

theorem length_block (last : Bool) (bytes : Bytes) :
    (block last bytes).length = bytes.length + 5 := by
  simp only [block, halfWord, List.cons_append, List.nil_append, List.length_cons]

/-- Each block is a step, and longer than one byte, so the length of all of them is fuel enough. -/
theorem unblock?_blocks (bytes rest : Bytes) {fuel : Nat} (enough : (blocks bytes).length ≤ fuel) :
    unblock? fuel (blocks bytes ++ rest) = some (bytes, rest) := by
  fun_induction blocks bytes generalizing fuel with
  | case1 bytes short =>
      rw [length_block] at enough
      obtain ⟨less, rfl⟩ : ∃ less, fuel = less + 1 := ⟨fuel - 1, by omega⟩
      exact unblock?_block short true rest less
  | case2 bytes long ih =>
      have full : (bytes.take blockSize).length ≤ blockSize := List.length_take_le ..
      rw [List.length_append, length_block] at enough
      obtain ⟨less, rfl⟩ : ∃ less, fuel = less + 1 := ⟨fuel - 1, by omega⟩
      rw [List.append_assoc, unblock?_block full, ih (by omega)]
      show some (bytes.take blockSize ++ bytes.drop blockSize, rest) = _
      rw [List.take_append_drop]

/-! ## The container -/

theorem restore?_store (bytes : Bytes) : restore? (store bytes) = some bytes := by
  have front : (store bytes).take 10 = header := rfl
  have behind : (store bytes).drop 10 =
      blocks bytes ++ (word (crc bytes) ++ word (UInt32.ofNat bytes.length)) := by
    show blocks bytes ++ word (crc bytes) ++ word (UInt32.ofNat bytes.length) = _
    rw [List.append_assoc]
  have enough : (blocks bytes).length ≤ (store bytes).length := by
    simp only [store, List.length_append]
    omega
  simp only [restore?, front, behind, unblock?_blocks bytes _ enough, ne_eq, not_true_eq_false,
    if_false, if_true, Option.bind_eq_bind, Option.bind_some]

theorem decodeText?_encodeText {t : Text} (h : t.IsScalar) :
    decodeText? (encodeText t) = some t := by
  simp only [decodeText?, encodeText, Base64.decode?_encodePadded, restore?_store,
    Option.bind_eq_bind, Option.bind_some, Utf8.decode?_encode h]

end QueryGateway.Http.Gzip
