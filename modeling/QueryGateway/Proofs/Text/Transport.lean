import QueryGateway.Text.Base64
import QueryGateway.Proofs.Text.Ascii

/-!
# Bytes and letters, and back

A Unicode text has bytes, and bytes have letters. Both ways can be gone back: `Utf8.decode?_encode`
and `Base64.decode?_encodePadded`. Neither is the whole truth about the decoder, since base64 is
read more leniently than it is written, but what was written is read. And what is written in base64
is printable ASCII, whatever the bytes are.

UTF-8 is taken one code point at a time. The bytes of a code point stand for it whatever follows
(`front_encodePoint`), because the first byte tells how many there are. In base64 three bytes make
four letters, and what is left at the end makes two or three; the padding fills that up to four.
-/

namespace QueryGateway

open Text

/-! ## UTF-8 -/

namespace Utf8

theorem toNat_ofNat {n : Nat} (h : n < 0x100) : (UInt8.ofNat n).toNat = n :=
  Nat.mod_eq_of_lt h

theorem point_eq {c : CodePoint} {n : Nat} (h : n = c.val) : CodePoint.ofNat n = c :=
  Fin.ext ((Nat.mod_eq_of_lt (h ▸ c.isLt)).trans h)

theorem isTail_ofNat {n : Nat} (h : n < 0x40) : isTail (UInt8.ofNat (0x80 + n)) = true := by
  rw [isTail, toNat_ofNat (by omega), Bool.and_eq_true, decide_eq_true_eq, decide_eq_true_eq]
  omega

/-- The second byte of a code point that is neither too small for its first byte nor a surrogate. -/
theorem isSecond_ofNat (first : UInt8) {n : Nat} (h : n < 0x40)
    (least : (first.toNat = 0xE0 → 0x20 ≤ n) ∧ (first.toNat = 0xF0 → 0x10 ≤ n))
    (most : (first.toNat = 0xED → n < 0x20) ∧ (first.toNat = 0xF4 → n < 0x10)) :
    isSecond first (UInt8.ofNat (0x80 + n)) = true := by
  have value := toNat_ofNat (n := 0x80 + n) (by omega)
  have tail := isTail_ofNat h
  unfold isSecond
  rw [value]
  split
  · rename_i same
    have := least.1 (congrArg UInt8.toNat same)
    simp only [Bool.and_eq_true, decide_eq_true_eq]
    omega
  split
  · rename_i same
    have := most.1 (congrArg UInt8.toNat same)
    simp only [Bool.and_eq_true, decide_eq_true_eq]
    omega
  split
  · rename_i same
    have := least.2 (congrArg UInt8.toNat same)
    simp only [Bool.and_eq_true, decide_eq_true_eq]
    omega
  split
  · rename_i same
    have := most.2 (congrArg UInt8.toNat same)
    simp only [Bool.and_eq_true, decide_eq_true_eq]
    omega
  · exact tail

/-- The bytes of a code point stand for it, whatever follows. -/
theorem front_encodePoint {c : CodePoint} (h : c.isSurrogate = false) :
    ∃ a rest, encodePoint c = a :: rest ∧
      ∀ more, front a (rest ++ more) = (some c, rest.length) := by
  have bound := c.isLt
  have scalar : c.val < 0xD800 ∨ 0xDFFF < c.val := by
    simp only [CodePoint.isSurrogate, Bool.and_eq_false_iff, decide_eq_false_iff_not] at h
    omega
  unfold encodePoint
  dsimp only
  split
  · rename_i one
    refine ⟨_, [], rfl, fun more => ?_⟩
    unfold front
    dsimp only
    rw [toNat_ofNat (by omega), if_pos one, point_eq (c := c) rfl]
    rfl
  split
  · rename_i more two
    refine ⟨_, [_], rfl, fun rest => ?_⟩
    have first := toNat_ofNat (n := 0xC0 + c.val / 0x40) (by omega)
    have second := toNat_ofNat (n := 0x80 + c.val % 0x40) (by omega)
    have tail := isTail_ofNat (n := c.val % 0x40) (by omega)
    unfold front
    simp only [first, Bool.and_eq_true, decide_eq_true_eq]
    rw [if_neg (by omega), if_pos (by omega)]
    simp only [List.singleton_append, tail, if_true, second]
    rw [point_eq (c := c) (by omega)]
    rfl
  split
  · rename_i more three
    refine ⟨_, [_, _], rfl, fun rest => ?_⟩
    have first := toNat_ofNat (n := 0xE0 + c.val / 0x1000) (by omega)
    have second := toNat_ofNat (n := 0x80 + c.val / 0x40 % 0x40) (by omega)
    have third := toNat_ofNat (n := 0x80 + c.val % 0x40) (by omega)
    have isSecond := isSecond_ofNat (UInt8.ofNat (0xE0 + c.val / 0x1000))
      (n := c.val / 0x40 % 0x40) (by omega) (by omega) (by omega)
    have tail := isTail_ofNat (n := c.val % 0x40) (by omega)
    unfold front
    simp only [first, Bool.and_eq_true, decide_eq_true_eq]
    rw [if_neg (by omega), if_neg (by omega), if_pos (by omega)]
    simp only [List.cons_append, List.nil_append, isSecond, tail, if_true, second, third]
    rw [point_eq (c := c) (by omega)]
    rfl
  · rename_i four
    refine ⟨_, [_, _, _], rfl, fun rest => ?_⟩
    have first := toNat_ofNat (n := 0xF0 + c.val / 0x40000) (by omega)
    have second := toNat_ofNat (n := 0x80 + c.val / 0x1000 % 0x40) (by omega)
    have third := toNat_ofNat (n := 0x80 + c.val / 0x40 % 0x40) (by omega)
    have fourth := toNat_ofNat (n := 0x80 + c.val % 0x40) (by omega)
    have isSecond := isSecond_ofNat (UInt8.ofNat (0xF0 + c.val / 0x40000))
      (n := c.val / 0x1000 % 0x40) (by omega) (by omega) (by omega)
    have tail := isTail_ofNat (n := c.val / 0x40 % 0x40) (by omega)
    have last := isTail_ofNat (n := c.val % 0x40) (by omega)
    unfold front
    simp only [first, Bool.and_eq_true, decide_eq_true_eq]
    rw [if_neg (by omega), if_neg (by omega), if_neg (by omega), if_pos (by omega)]
    simp only [List.cons_append, List.nil_append, isSecond, tail, last, if_true, second, third,
      fourth]
    rw [point_eq (c := c) (by omega)]
    rfl

theorem stretches_encode {t : Text} (h : t.IsScalar) : stretches (encode t) = t.map some := by
  induction t with
  | nil => rw [encode, List.flatMap_nil, stretches]; rfl
  | cons c t ih =>
      obtain ⟨plain, later⟩ := List.forall_mem_cons.mp h
      obtain ⟨a, rest, bytes, front⟩ := front_encodePoint plain
      show stretches (encodePoint c ++ encode t) = _
      rw [bytes, List.cons_append, stretches, front, List.drop_left, ih later]
      rfl

theorem decode?_encode {t : Text} (h : t.IsScalar) : decode? (encode t) = some t := by
  rw [decode?, stretches_encode h]
  induction t with
  | nil => rfl
  | cons c t ih =>
      rw [List.map_cons, List.mapM_cons, ih (List.forall_mem_cons.mp h).2]
      rfl

theorem getD_of_mapM_id {α : Type} {os : List (Option α)} {as : List α} (h : os.mapM id = some as)
    (default : α) : os.map (·.getD default) = as := by
  induction os generalizing as with
  | nil =>
      cases h
      rfl
  | cons o os ih =>
      rw [List.mapM_cons] at h
      obtain ⟨first, head, h⟩ := Option.bind_eq_some_iff.mp h
      obtain ⟨more, tail, h⟩ := Option.bind_eq_some_iff.mp h
      cases h
      rw [List.map_cons, ih tail, show o = some first from head]
      rfl

/-- Where nothing is ill-formed, nothing is replaced. -/
theorem decodeLossy_of_decode? {bytes : Bytes} {t : Text} (h : decode? bytes = some t) :
    decodeLossy bytes = t :=
  getD_of_mapM_id h _

theorem decodeLossy_encode {t : Text} (h : t.IsScalar) : decodeLossy (encode t) = t :=
  decodeLossy_of_decode? (decode?_encode h)

theorem encode?_eq_some {t : Text} (h : t.IsScalar) : encode? t = some (encode t) :=
  if_pos (isScalar_iff.mpr h)

theorem encode?_eq_none {t : Text} (h : ¬ t.IsScalar) : encode? t = none := by
  refine if_neg ?_
  rwa [isScalar_iff]

theorem encode_inj {s t : Text} (hs : s.IsScalar) (ht : t.IsScalar) :
    encode s = encode t ↔ s = t := by
  refine ⟨?_, congrArg encode⟩
  intro same
  have read := decode?_encode hs
  rw [same, decode?_encode ht] at read
  exact (Option.some.inj read).symm

end Utf8

/-! ## Base64 -/

namespace Base64

/-- Six bits are enough for each digit. -/
theorem digits_lt (bytes : Bytes) : ∀ n ∈ digits bytes, n < 64 := by
  have bound (b : UInt8) : b.toNat < 256 := b.toNat_lt
  fun_induction digits bytes with
  | case1 => exact List.forall_mem_nil _
  | case2 x =>
      have := bound x
      simp only [List.forall_mem_cons, List.not_mem_nil, false_imp_iff, implies_true, and_true]
      omega
  | case3 x y =>
      have := bound x
      have := bound y
      simp only [List.forall_mem_cons, List.not_mem_nil, false_imp_iff, implies_true, and_true]
      omega
  | case4 x y z rest ih =>
      have := bound x
      have := bound y
      have := bound z
      simp only [List.forall_mem_cons]
      exact ⟨by omega, by omega, by omega, by omega, ih⟩

theorem ofNat_eq {n : Nat} {b : UInt8} (h : n = b.toNat) : UInt8.ofNat n = b :=
  h ▸ UInt8.ofNat_toNat

theorem undigits_digits (bytes : Bytes) : undigits (digits bytes) = bytes := by
  have bound (b : UInt8) : b.toNat < 256 := b.toNat_lt
  fun_induction digits bytes with
  | case1 => rfl
  | case2 x =>
      have := bound x
      rw [undigits, ofNat_eq (b := x) (by omega)]
  | case3 x y =>
      have := bound x
      have := bound y
      rw [undigits, ofNat_eq (b := x) (by omega), ofNat_eq (b := y) (by omega)]
  | case4 x y z rest ih =>
      have := bound x
      have := bound y
      have := bound z
      rw [undigits, ofNat_eq (b := x) (by omega), ofNat_eq (b := y) (by omega),
        ofNat_eq (b := z) (by omega), ih]

/-- Four digits for three bytes, and as many for what is left as hold its bits. -/
theorem length_digits (bytes : Bytes) : (digits bytes).length = (4 * bytes.length + 2) / 3 := by
  fun_induction digits bytes with
  | case1 => rfl
  | case2 x | case3 x y => simp only [List.length_cons, List.length_nil]
  | case4 x y z rest ih =>
      simp only [List.length_cons]
      omega

section Letters
variable {a : Alphabet}

/-- The letters of the alphabet are told apart. -/
def Alphabet.Faithful (a : Alphabet) : Prop := ∀ n : Fin 64, a.digit? (a.letter n.val) = some n.val

instance (a : Alphabet) : Decidable a.Faithful := inferInstanceAs (Decidable (∀ _ : Fin 64, _))

theorem faithful_standard : standard.Faithful := by
  decide +kernel

theorem mapM_digit?_letter (faithful : a.Faithful) {ns : List Nat} (h : ∀ n ∈ ns, n < 64) :
    (ns.map a.letter).mapM a.digit? = some ns := by
  induction ns with
  | nil => rfl
  | cons n ns ih =>
      obtain ⟨first, later⟩ := List.forall_mem_cons.mp h
      rw [List.map_cons, List.mapM_cons, faithful ⟨n, first⟩, ih later]
      rfl

theorem mapM_digit?_encode (faithful : a.Faithful) (bytes : Bytes) :
    (encode a bytes).mapM a.digit? = some (digits bytes) :=
  mapM_digit?_letter faithful (digits_lt bytes)

theorem length_encode (a : Alphabet) (bytes : Bytes) :
    (encode a bytes).length = (4 * bytes.length + 2) / 3 := by
  rw [encode, List.length_map, length_digits]

/-- What holds of the sixty-four letters holds of all that is written. -/
theorem forall_mem_encode {p : CodePoint → Prop} (h : ∀ n : Fin 64, p (a.letter n.val))
    (bytes : Bytes) : ∀ c ∈ encode a bytes, p c := by
  intro c mem
  obtain ⟨n, inside, rfl⟩ := List.mem_map.mp mem
  exact h ⟨n, digits_lt bytes n inside⟩

end Letters

theorem padsAllowed_fill (letters : Nat) (h : letters % 4 ≠ 1) :
    padsAllowed letters ((4 - letters % 4) % 4) = true := by
  have below : letters % 4 < 4 := Nat.mod_lt letters (by decide)
  unfold padsAllowed
  generalize letters % 4 = r at h below
  obtain rfl | rfl | rfl : r = 0 ∨ r = 2 ∨ r = 3 := by omega
  · exact Bool.or_true _
  · rfl
  · rfl

/-- What was written in padded letters is read back, if the padding is no letter. -/
theorem Alphabet.Faithful.decode?_encodePadded {a : Alphabet} (faithful : a.Faithful)
    (unlike : ∀ n : Fin 64, a.letter n.val ≠ CodePoint.ofChar '=') (bytes : Bytes) :
    decode? a (encodePadded a bytes) = some bytes := by
  have letters : ∀ c ∈ encode a bytes, c ≠ CodePoint.ofChar '=' := forall_mem_encode unlike bytes
  have noPad : ∀ c ∈ encode a bytes, decide (c ≠ CodePoint.ofChar '=') = true := by
    intro c mem
    exact decide_eq_true (letters c mem)
  have pads (k : Nat) : ∀ c ∈ (List.replicate k (CodePoint.ofChar '=')).head?,
      decide (c ≠ CodePoint.ofChar '=') = false := by
    intro c first
    rw [List.eq_of_mem_replicate (List.mem_of_mem_head? first)]
    decide
  have allowed := padsAllowed_fill (encode a bytes).length (by rw [length_encode]; omega)
  unfold decode? encodePadded
  dsimp only
  rw [(span_run noPad (pads _)).1, (span_run noPad (pads _)).2, List.length_replicate, allowed,
    Bool.and_true, if_pos]
  · rw [mapM_digit?_encode faithful, Option.map_some, undigits_digits]
  · exact List.all_eq_true.mpr fun c mem => decide_eq_true (List.eq_of_mem_replicate mem)

theorem decode?_encodePadded (bytes : Bytes) :
    decode? standard (encodePadded standard bytes) = some bytes :=
  faithful_standard.decode?_encodePadded (by decide +kernel) bytes

end Base64

end QueryGateway
