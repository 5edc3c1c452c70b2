import QueryGateway.Credential.Token
import QueryGateway.Proofs.Credential.KeyHash
import QueryGateway.Proofs.Text.Pieces

/-!
# Tokens, from random bytes to the header

A header carries a token if the word "bearer" and the token are its only words (`Presents`). The
same with every piece of the value named is `Parts.Bearer`: blanks, the word, blanks, the token,
blanks. A value falls into such parts in one way only (`Parts.Bearer.unique`), since blanks and
words take turns and each run goes as far as it can.

Keys are made to travel there. Forty-eight bytes are sixty-four letters, so neither padding nor the
cut to the length of a key changes what base64 writes, and the bytes can be read back from the key
(`decode?_generateKey`). No letter is a blank, and each is one byte in UTF-8.
-/

namespace QueryGateway.Credential

open Text

/-! ## The token of a request -/

/-- The value of the header carries a token: the word "bearer", with its letters small or capital,
and the token are its only words. -/
def Presents (authorization : Option Text) (token : Text) : Prop :=
  ∃ before scheme between after : Text, Blanks before ∧ Blanks between ∧ Blanks after ∧
    between ≠ [] ∧ scheme.asciiLower = "bearer" ∧ Solid token ∧
      authorization = some (before ++ scheme ++ between ++ token ++ after)

theorem solid_of_asciiLower {scheme : Text} (h : scheme.asciiLower = "bearer") : Solid scheme := by
  constructor
  · rintro rfl
    cases h
  · intro c mem
    have letters : (ofString "bearer").all (fun d => !d.isBlank) = true := by decide
    have letter := List.all_eq_true.mp letters c.asciiLower (h ▸ List.mem_map_of_mem mem)
    rwa [Bool.not_eq_true', CodePoint.isBlank_asciiLower] at letter

theorem lower_eq_bearer {scheme : Text} : scheme.lower = "bearer" ↔ scheme.asciiLower = "bearer" :=
  lower_eq_iff (List.all_eq_true.mp (by decide)) (by decide)

/-- The token that is read is the one that the header carries. -/
theorem bearerToken_eq_ok {authorization : Option Text} {token : Text} :
    bearerToken authorization = .ok token ↔ Presents authorization token := by
  constructor
  · intro h
    unfold bearerToken at h
    split at h
    · cases h
    · cases h
    · split at h
      · rename_i value _ _ _ scheme token' words
        split at h
        · rename_i bearer
          cases h
          obtain ⟨-, solid, before, between, after, blank, blank', blank'', apart, rfl⟩ :=
            words_eq_pair.mp words
          exact ⟨before, scheme, between, after, blank, blank', blank'', apart,
            lower_eq_bearer.mp bearer, solid, rfl⟩
        · cases h
      · cases h
  · rintro ⟨before, scheme, between, after, blank, blank', blank'', apart, bearer, solid, rfl⟩
    have pair : words (before ++ scheme ++ between ++ token ++ after) = [scheme, token] :=
      words_eq_pair.mpr ⟨solid_of_asciiLower bearer, solid, before, between, after, blank, blank',
        blank'', apart, rfl⟩
    unfold bearerToken
    split
    · rename_i h
      cases h
    · rename_i h
      rw [Option.some.inj h] at pair
      cases pair
    · rename_i h
      cases h
      simp only [pair, lower_eq_bearer.mpr bearer, if_true]

theorem Presents.unique {authorization : Option Text} {t t' : Text} (h : Presents authorization t)
    (h' : Presents authorization t') : t = t' :=
  Except.ok.inj ((bearerToken_eq_ok.mpr h).symm.trans (bearerToken_eq_ok.mpr h'))

/-- The failure is a denial, with some details or other. -/
def Denial (f : Failure) : Prop := ∃ details, f = .standard .accessDenied details

/-- What is told about a value without a token: whether there is nothing in it. -/
def refusalReason (authorization : Option Text) : Text :=
  if authorization = none ∨ authorization = some [] then "Missing Authorization header"
  else "Invalid Authorization header format"

theorem refusalReason_eq_missing {authorization : Option Text} :
    refusalReason authorization = "Missing Authorization header" ↔
      authorization = none ∨ authorization = some [] := by
  rw [refusalReason]
  split
  · rename_i nothing
    exact iff_of_true rfl nothing
  · rename_i something
    exact iff_of_false (by decide) something

theorem bearerToken_reason {authorization : Option Text} {f : Failure}
    (h : bearerToken authorization = .error f) :
    f = denied [("reason", .text (refusalReason authorization))] := by
  rw [refusalReason]
  unfold bearerToken at h
  split at h
  · rw [if_pos (.inl rfl)]
    exact (Except.error.inj h).symm
  · rw [if_pos (.inr rfl)]
    exact (Except.error.inj h).symm
  · rename_i value nonempty
    have something : ¬ (some value = none ∨ some value = some []) := by
      rintro (nothing | same)
      · cases nothing
      · exact nonempty (Option.some.inj same)
    rw [if_neg something]
    split at h
    · split at h
      · cases h
      · exact (Except.error.inj h).symm
    · exact (Except.error.inj h).symm

/-- A value is refused exactly if it carries no token. -/
theorem bearerToken_eq_error {authorization : Option Text} {f : Failure} :
    bearerToken authorization = .error f ↔
      (∀ token, ¬ Presents authorization token) ∧
        f = denied [("reason", .text (refusalReason authorization))] := by
  constructor
  · intro h
    refine ⟨?_, bearerToken_reason h⟩
    intro token presents
    rw [bearerToken_eq_ok.mpr presents] at h
    cases h
  · rintro ⟨none, rfl⟩
    cases read : bearerToken authorization with
    | ok token => exact absurd (bearerToken_eq_ok.mp read) (none token)
    | error f => rw [bearerToken_reason read]

theorem bearerToken_error {authorization : Option Text} {f : Failure}
    (h : bearerToken authorization = .error f) : Denial f :=
  ⟨_, bearerToken_reason h⟩

/-- A word behind "Bearer" is presented as it is. -/
theorem presents_bearer {t : Text} (solid : Solid t) : Presents (some ("Bearer " ++ t)) t := by
  have blank : Blanks (ofString " ") := List.forall_mem_singleton.mpr (by decide)
  refine ⟨[], "Bearer", " ", [], blanks_nil, blank, blanks_nil, List.cons_ne_nil _ _, by decide,
    solid, ?_⟩
  rw [List.append_nil]
  rfl

/-! ## The parts of a header -/

/-- Pieces of a text, in their order. -/
@[ext]
structure Parts where
  before : Text
  scheme : Text
  between : Text
  token : Text
  after : Text

/-- The text that the pieces make. -/
def Parts.value (p : Parts) : Text := p.before ++ p.scheme ++ p.between ++ p.token ++ p.after

/-- The pieces of a value that carries a token: the word "bearer" in any case and the token, with
blanks between them and maybe around them. -/
structure Parts.Bearer (p : Parts) : Prop where
  before : Blanks p.before
  scheme : p.scheme.lower = "bearer"
  between : Blanks p.between
  apart : p.between ≠ []
  token : Solid p.token
  after : Blanks p.after

namespace Parts

theorem value_eq (p : Parts) :
    p.value = p.before ++ (p.scheme ++ (p.between ++ (p.token ++ p.after))) := by
  simp only [value, List.append_assoc]

theorem Bearer.solid {p : Parts} (h : p.Bearer) : Solid p.scheme :=
  solid_of_asciiLower (lower_eq_bearer.mp h.scheme)

/-- A value falls into parts in one way only. Each part is a run of blanks or of other characters,
and the next one begins with a character of the other kind. -/
theorem Bearer.unique {p q : Parts} (hp : p.Bearer) (hq : q.Bearer) (same : p.value = q.value) :
    p = q := by
  rw [value_eq, value_eq] at same
  obtain ⟨before, same⟩ :=
    run_unique hp.before (hp.solid.front _) hq.before (hq.solid.front _) same
  obtain ⟨scheme, same⟩ := hp.solid.append_inj (hp.between.pauses_append hp.apart _)
    hq.solid (hq.between.pauses_append hq.apart _) same
  obtain ⟨between, same⟩ :=
    run_unique hp.between (hp.token.front _) hq.between (hq.token.front _) same
  obtain ⟨token, after⟩ := hp.token.append_inj hp.after.pauses hq.token hq.after.pauses same
  exact Parts.ext before scheme between token after

end Parts

theorem presents_iff {authorization : Option Text} {token : Text} :
    Presents authorization token ↔
      ∃ p : Parts, p.Bearer ∧ authorization = some p.value ∧ p.token = token := by
  constructor
  · rintro ⟨before, scheme, between, after, blank, blank', blank'', apart, bearer, solid, rfl⟩
    exact ⟨⟨before, scheme, between, token, after⟩,
      ⟨blank, lower_eq_bearer.mpr bearer, blank', apart, solid, blank''⟩, rfl, rfl⟩
  · rintro ⟨p, h, rfl, rfl⟩
    exact ⟨p.before, p.scheme, p.between, p.after, h.before, h.between, h.after, h.apart,
      lower_eq_bearer.mp h.scheme, h.token, rfl⟩

theorem Presents.word {value token : Text} (h : Presents (some value) token) :
    Solid token ∧ token <:+: value := by
  obtain ⟨p, bearer, made, rfl⟩ := presents_iff.mp h
  cases made
  exact ⟨bearer.token, p.before ++ p.scheme ++ p.between, p.after, rfl⟩

/-- A token is read from a value exactly if the value falls into the parts of one that carries it,
and it does so in one way only. Every other value is denied, and the reason tells whether there is a
value with anything in it. A token that is read stands in the value and has no blanks, neither
inside nor around it. -/
theorem bearerToken_grammar (authorization : Option Text) :
    (∀ token, bearerToken authorization = .ok token ↔
      ∃ p : Parts, p.Bearer ∧ authorization = some p.value ∧ p.token = token) ∧
    (∀ p q : Parts, p.Bearer → q.Bearer → authorization = some p.value →
      authorization = some q.value → p = q) ∧
    (∀ f, bearerToken authorization = .error f ↔
      (∀ p : Parts, p.Bearer → authorization ≠ some p.value) ∧
        f = .standard .accessDenied [("reason", .text (refusalReason authorization))]) ∧
    (refusalReason authorization = "Missing Authorization header" ↔
      authorization = none ∨ authorization = some []) ∧
    ∀ value token, authorization = some value → bearerToken authorization = .ok token →
      token ≠ [] ∧ (∀ c ∈ token, c.isBlank = false) ∧ token.trim = token ∧ token <:+: value := by
  refine ⟨fun token => bearerToken_eq_ok.trans presents_iff, ?_, ?_, refusalReason_eq_missing, ?_⟩
  · intro p q hp hq made made'
    exact hp.unique hq (Option.some.inj (made.symm.trans made'))
  · intro f
    rw [bearerToken_eq_error]
    refine and_congr_left' ⟨?_, ?_⟩
    · intro none p bearer made
      exact none p.token (presents_iff.mpr ⟨p, bearer, made, rfl⟩)
    · intro none token presents
      obtain ⟨p, bearer, made, -⟩ := presents_iff.mp presents
      exact none p bearer made
  · rintro value token rfl read
    obtain ⟨solid, within⟩ := (bearerToken_eq_ok.mp read).word
    exact ⟨solid.nonempty, solid.unbroken, solid.trim_eq, within⟩

/-- A value with all kinds of blanks: a wide one in front, a hard one and a tab inside, and the end
of a line behind. -/
def spacedParts : Parts := ⟨"\u3000", "bEaReR", "\u00A0\t", "abc", "\n"⟩

theorem bearerToken_grammar_spaced :
    spacedParts.Bearer ∧ bearerToken (some spacedParts.value) = .ok "abc" ∧
      (∀ p : Parts, p.Bearer → some (ofString "\u3000") ≠ some p.value) ∧
      bearerToken none = .error missingHeader := by
  have bearer : spacedParts.Bearer :=
    { before := by decide
      scheme := lower_eq_bearer.mpr (by decide)
      between := by decide
      apart := by decide
      token := by decide
      after := by decide }
  have blank : bearerToken (some (ofString "\u3000")) = .error malformedHeader := rfl
  refine ⟨bearer, ((bearerToken_grammar _).1 _).mpr ⟨spacedParts, bearer, rfl, rfl⟩, ?_, ?_⟩
  · exact (((bearerToken_grammar _).2.2.1 _).mp blank).1
  · exact ((bearerToken_grammar _).2.2.1 _).mpr ⟨fun _ _ => nofun, rfl⟩

/-! ## New keys -/

/-- A letter that needs no escaping in an address. -/
def isUrlLetter (c : CodePoint) : Bool :=
  c.isAsciiLetter || c.isAsciiDigit || c = '-' || c = '_'

/-- What holds of the sixty-four letters holds of all that a key is made of. -/
theorem mem_generateKey {entropy : Bytes} {p : CodePoint → Prop}
    (h : ∀ n : Fin 64, p (Base64.urlSafe.letter n.val)) : ∀ c ∈ generateKey entropy, p c :=
  fun c mem => Base64.forall_mem_encode h entropy c (List.mem_of_mem_take mem)

theorem isPrintable_generateKey (entropy : Bytes) : (generateKey entropy).IsPrintable :=
  mem_generateKey (by decide +kernel)

section Random
variable {entropy : Bytes} (random : entropy.length = keyEntropy)
include random

theorem length_encode_urlSafe : (Base64.encode Base64.urlSafe entropy).length = keyLength := by
  rw [Base64.length_encode, random]
  rfl

/-- The cut to the length of a key cuts nothing off. -/
theorem generateKey_eq_encode : generateKey entropy = Base64.encode Base64.urlSafe entropy :=
  List.take_of_length_le (Nat.le_of_eq (length_encode_urlSafe random))

theorem length_generateKey : (generateKey entropy).length = keyLength := by
  rw [generateKey_eq_encode random, length_encode_urlSafe random]

/-- The letters of a key are whole groups, so there is no padding to be left out. -/
theorem generateKey_eq_encodePadded :
    generateKey entropy = Base64.encodePadded Base64.urlSafe entropy := by
  have whole : (4 - (Base64.encode Base64.urlSafe entropy).length % 4) % 4 = 0 := by
    rw [length_encode_urlSafe random]
    rfl
  rw [generateKey_eq_encode random, Base64.encodePadded]
  simp only [whole, List.replicate_zero, List.append_nil]

/-- The random bytes can be read back from their key. -/
theorem decode?_generateKey :
    Base64.decode? Base64.urlSafe (generateKey entropy) = some entropy := by
  have faithful : Base64.urlSafe.Faithful := by decide +kernel
  rw [generateKey_eq_encodePadded random]
  exact faithful.decode?_encodePadded (by decide +kernel) entropy

theorem solid_generateKey : Solid (generateKey entropy) where
  nonempty := List.ne_nil_of_length_pos (by rw [length_generateKey random]; decide)
  unbroken := mem_generateKey (by decide +kernel)

theorem hashable_generateKey : Hashable (generateKey entropy) := by
  refine hashable_of_isPrintable (isPrintable_generateKey entropy) ?_
  rw [length_generateKey random]
  decide

end Random

/-- A key has sixty-four letters that need no escaping. They are all that base64 writes of the
random bytes, so the bytes can be read back and other bytes make another key. Behind "Bearer" the
key is read as it is, it is not too long to be hashed, and it is hashed with every salt. -/
theorem generateKey_keeps_entropy (entropy : Bytes) (random : entropy.length = 48) :
    (generateKey entropy).length = 64 ∧
    (∀ c ∈ generateKey entropy, isUrlLetter c = true) ∧
    generateKey entropy = Base64.encodePadded Base64.urlSafe entropy ∧
    Base64.decode? Base64.urlSafe (generateKey entropy) = some entropy ∧
    (∀ other : Bytes, other.length = 48 → other ≠ entropy →
      generateKey other ≠ generateKey entropy) ∧
    bearerToken (some ("Bearer " ++ generateKey entropy)) = .ok (generateKey entropy) ∧
    (∀ salt, hashKey (generateKey entropy) salt ≠ .error .keyTooLong) ∧
    ∀ s : Salt, s.Sound → ∃ hash, hashKey (generateKey entropy) s.write = .ok hash := by
  have hashable := hashable_generateKey random
  refine ⟨length_generateKey random, mem_generateKey (by decide +kernel),
    generateKey_eq_encodePadded random, decode?_generateKey random, ?_,
    bearerToken_eq_ok.mpr (presents_bearer (solid_generateKey random)), ?_, ?_⟩
  · intro other random' differ same
    have read := decode?_generateKey random'
    rw [same, decode?_generateKey random] at read
    exact differ (Option.some.inj read).symm
  · intro salt long
    exact refused_iff.mp (.inr long) hashable
  · intro s sound
    exact ⟨s.stored (generateKey entropy), hashable.hashKey_write sound⟩

/-- Forty-eight bytes, of which only the last is not zero. -/
def lastByte (last : UInt8) : Bytes := List.replicate 47 0 ++ [last]

theorem generateKey_keeps_entropy_lastByte :
    (lastByte 1).length = 48 ∧ (generateKey (lastByte 1)).length = 64 ∧
      (generateKey (lastByte 1)).drop 60 = "AAAB" ∧
      generateKey (lastByte 0) ≠ generateKey (lastByte 1) ∧
      bearerToken (some ("Bearer " ++ generateKey (lastByte 1))) = .ok (generateKey (lastByte 1)) ∧
      ∃ hash, hashKey (generateKey (lastByte 1)) plainSalt.write = .ok hash := by
  obtain ⟨long, -, -, -, other, travels, -, hashed⟩ := generateKey_keeps_entropy (lastByte 1) rfl
  exact ⟨rfl, long, by decide +kernel, other (lastByte 0) rfl (by decide), travels,
    hashed plainSalt ⟨by decide +kernel, by decide, by decide⟩⟩

end QueryGateway.Credential
