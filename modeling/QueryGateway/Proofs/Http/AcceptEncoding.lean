import Mathlib.Data.List.Induction
import QueryGateway.Http.AcceptEncoding
import QueryGateway.Proofs.Http.Header
import QueryGateway.Proofs.Number.Numeral
import QueryGateway.Proofs.Text.Pieces

/-!
# Who accepts gzip

A value of `Accept-Encoding` is read as a table (`cells`): its items, of every item the parts between
semicolons, of every part what stands around the equals signs, each in small letters and without the
blanks around it. The table says all that counts. An item is accepted if it names gzip and weighs more
than nothing (`itemAccepts_iff`), where the weight is the number that the last `q` of the item gives,
and one if it gives none (`Weighs`). A value is accepted if one of its items is (`valueAccepts_iff`).

So putting two values together puts two tables together, and what leaves the table as it is leaves the
answer as it is: another case of letters, and blanks at the ends and next to the three marks
(`Respelled`).
-/

namespace QueryGateway.Http.AcceptEncoding

open Text (pieces cut trim Blanks Begins Ends Ignores)
open Number (Meaning Numeral)

/-! ## The table of a value -/

/-- What stands between two marks: in small letters, and without the blanks around it. -/
def cell (t : Text) : Text := (trim t).asciiLower

/-- What stands around the equals signs of a part of an item. -/
def sides (part : Text) : List Text := (pieces '=' part).map cell

/-- The name and the parameters of an item. -/
def parts (item : Text) : List (List Text) := (pieces ';' item).map sides

/-- The items of a value. -/
def cells (value : Text) : List (List (List Text)) := (pieces ',' value).map parts

/-- The marks that a value is cut at. -/
def marks : List CodePoint := [',', ';', '=']

/-- One value is the other but for the case of letters, and for blanks at the ends and next to the
marks. -/
inductive Respelled : Text → Text → Prop
  | letters {v w : Text} : v.asciiLower = w.asciiLower → Respelled v w
  | blanks {x b y : Text} : Blanks b → Ends marks x ∨ Begins marks y →
      Respelled (x ++ y) (x ++ b ++ y)
  | symm {v w : Text} : Respelled v w → Respelled w v
  | trans {u v w : Text} : Respelled u v → Respelled v w → Respelled u w

theorem cell_asciiLower (t : Text) : cell t.asciiLower = cell t := by
  rw [cell, Text.trim_asciiLower, Text.asciiLower_asciiLower, cell]

theorem sides_asciiLower (part : Text) : sides part.asciiLower = sides part :=
  Text.map_pieces_asciiLower cell_asciiLower (by decide) part

theorem cells_asciiLower (value : Text) : cells value.asciiLower = cells value :=
  Text.map_pieces_asciiLower (Text.map_pieces_asciiLower sides_asciiLower (by decide)) (by decide)
    value

theorem ignores_sides : Ignores ['='] sides :=
  (Text.ignores_trim.map Text.asciiLower).pieces (by decide)

theorem ignores_cells : Ignores marks cells :=
  (ignores_sides.pieces (by decide)).pieces (by decide)

theorem Respelled.cells_eq {v w : Text} (h : Respelled v w) : cells v = cells w := by
  induction h with
  | letters same => rw [← cells_asciiLower, same, cells_asciiLower]
  | blanks blank edge => exact (ignores_cells _ _ _ blank edge).symm
  | symm _ ih => exact ih.symm
  | trans _ _ first second => exact first.trans second

theorem sides_cell (t : Text) : sides (cell t) = sides t := by
  rw [cell, sides_asciiLower, ignores_sides.trim]

/-- The left side, and the right side or the right sides. -/
theorem sides_cut (part : Text) :
    sides part = cell (cut '=' part).1 :: ((cut '=' part).2.map sides).getD [] := by
  rw [sides, Text.pieces_cut]
  cases (cut '=' part).2 <;> rfl

theorem sides_eq_singleton {t c : Text} :
    sides t = [c] ↔ CodePoint.ofChar '=' ∉ t ∧ cell t = c := by
  rw [sides, List.map_eq_singleton_iff]
  constructor
  · rintro ⟨p, alone, rfl⟩
    obtain ⟨free, rfl⟩ := Text.pieces_eq_singleton.mp alone
    exact ⟨free, rfl⟩
  · rintro ⟨free, rfl⟩
    exact ⟨t, Text.pieces_of_not_mem free, rfl⟩

/-! ## Weights -/

/-- The number one. -/
def one : Meaning := .decimal false 1 0

theorem one_positive : one.Positive := by
  refine ⟨rfl, ?_⟩
  rw [Nat.cast_one, one_mul, zpow_zero]
  exact zpow_lt_one_of_neg₀ (by norm_num) (by norm_num)

/-- What a `q` counts: the number that it gives, or else one. -/
inductive Counts : List Text → Meaning → Prop
  | number {v : Text} {m : Meaning} : Numeral v m → Counts [("q" : Text), v] m
  | other {param : List Text} :
      (∀ (v : Text) (m : Meaning), param = [("q" : Text), v] → ¬ Numeral v m) → Counts param one

/-- The last `q` among the parameters of an item. -/
def last? (params : List (List Text)) : Option (List Text) :=
  (params.filter fun param => param.head? = some ("q" : Text)).getLast?

/-- What an item with these parameters weighs. -/
inductive Weighs (params : List (List Text)) : Meaning → Prop
  | plain : last? params = none → Weighs params one
  | given {param : List Text} {m : Meaning} : last? params = some param → Counts param m →
      Weighs params m

/-- An item of these parts names gzip, and weighs more than nothing. -/
inductive Accepts : List (List Text) → Prop
  | gzip {params : List (List Text)} {m : Meaning} : Weighs params m → m.Positive →
      Accepts (["gzip"] :: params)

theorem exists_counts (param : List Text) : ∃ m, Counts param m := by
  by_cases h : ∃ (v : Text) (m : Meaning), param = [("q" : Text), v] ∧ Numeral v m
  · obtain ⟨v, m, rfl, numeral⟩ := h
    exact ⟨m, .number numeral⟩
  · exact ⟨one, .other fun v m same numeral => h ⟨v, m, same, numeral⟩⟩

theorem exists_weighs (params : List (List Text)) : ∃ m, Weighs params m := by
  cases last : last? params with
  | none => exact ⟨one, .plain last⟩
  | some param =>
      obtain ⟨m, counts⟩ := exists_counts param
      exact ⟨m, .given last counts⟩

/-! ## The reader of parameters -/

theorem named_iff {t w : Text} (ascii : w.IsAscii) (plain : CodePoint.ofChar 'k' ∉ w) :
    (trim t).lower = w ↔ cell t = w :=
  Text.lower_eq_iff ascii plain

/-- A parameter gives a number if it has one right side, and that is one. -/
theorem real?_eq_some {value : Option Text} {x : Binary64} :
    Number.real? (trim (value.getD [])) = some x ↔
      ∃ v m, (value.map sides).getD [] = [v] ∧ Numeral v m ∧ x = m.nearest := by
  cases value with
  | none =>
      have empty : Number.real? [] = none := by decide
      constructor
      · intro read
        cases empty.symm.trans read
      · rintro ⟨v, m, alone, -⟩
        cases alone
  | some t =>
      rw [Option.map_some, Option.getD_some, Option.getD_some, Number.real?_eq_some, Text.trim_trim]
      have lower : (cell t).asciiLower = (trim t).asciiLower := Text.asciiLower_asciiLower _
      constructor
      · rintro ⟨m, numeral, rfl⟩
        have free : CodePoint.ofChar '=' ∉ t := fun mem =>
          numeral.not_mem (by decide) (by decide) (by decide) (Text.mem_trim (by decide) mem)
        exact ⟨cell t, m, sides_eq_singleton.mpr ⟨free, rfl⟩, numeral.recase lower, rfl⟩
      · rintro ⟨v, m, alone, numeral, rfl⟩
        obtain ⟨-, rfl⟩ := sides_eq_singleton.mp alone
        exact ⟨m, numeral.recase lower.symm, rfl⟩

theorem sides_of_cut {param key : Text} {value : Option Text}
    (split : cut '=' (trim param) = (key, value)) :
    sides param = cell key :: (value.map sides).getD [] := by
  rw [← ignores_sides.trim, sides_cut, split]

theorem quality?_eq_none {param : Text} (h : (sides param).head? ≠ some ("q" : Text)) :
    quality? param = none := by
  cases split : cut '=' (trim param) with
  | mk key value =>
      rw [sides_of_cut split, List.head?_cons] at h
      rw [quality?, split]
      exact if_neg fun named => h (congrArg some ((named_iff (by decide) (by decide)).mp named))

theorem Counts.quality?_eq {param : Text} {m : Meaning} (counts : Counts (sides param) m)
    (named : (sides param).head? = some ("q" : Text)) : quality? param = some m.nearest := by
  cases split : cut '=' (trim param) with
  | mk key value =>
      have whole := sides_of_cut split
      rw [whole, List.head?_cons, Option.some_inj] at named
      rw [quality?, split]
      refine (if_pos ((named_iff (by decide) (by decide)).mpr named)).trans (congrArg some ?_)
      rw [whole, named] at counts
      generalize behind : (value.map sides).getD [] = right at counts
      cases counts with
      | number numeral =>
          rw [real?_eq_some.mpr ⟨_, _, behind, numeral, rfl⟩]
          rfl
      | other no =>
          cases read : Number.real? (trim (value.getD [])) with
          | none => rfl
          | some x =>
              obtain ⟨v, m, alone, numeral, -⟩ := real?_eq_some.mp read
              exact absurd numeral (no v m (congrArg _ (behind.symm.trans alone)))

theorem quality?_isSome (param : Text) :
    (quality? param).isSome = decide ((sides param).head? = some ("q" : Text)) := by
  by_cases named : (sides param).head? = some ("q" : Text)
  · obtain ⟨m, counts⟩ := exists_counts (sides param)
    rw [counts.quality?_eq named, decide_eq_true named]
    rfl
  · rw [quality?_eq_none named, decide_eq_false named]
    rfl

/-- Of the values that a function gives the last one comes from the last that it gives one for. -/
theorem getLast?_filterMap {α β : Type} {f : α → Option β} {p : α → Bool}
    (h : ∀ a, (f a).isSome = p a) (l : List α) :
    (l.filterMap f).getLast? = (l.filter p).getLast?.bind f := by
  induction l using List.reverseRecOn with
  | nil => rfl
  | append_singleton l a ih =>
      rw [List.filterMap_append, List.filter_append, List.getLast?_append, List.getLast?_append, ih]
      cases given : f a <;> simp [given, ← h a]

theorem quality_eq {params : List Text} {m : Meaning} (h : Weighs (params.map sides) m) :
    quality params = m.nearest := by
  have last : last? (params.map sides) =
      (params.filter fun p => (sides p).head? = some ("q" : Text)).getLast?.map sides := by
    rw [last?, List.filter_map, List.getLast?_map]
    rfl
  rw [quality, getLast?_filterMap quality?_isSome]
  generalize found :
    (params.filter fun p => (sides p).head? = some ("q" : Text)).getLast? = param at last ⊢
  cases h with
  | plain none =>
      rw [last, Option.map_eq_none_iff] at none
      rw [none]
      rfl
  | given some counts =>
      rw [last, Option.map_eq_some_iff] at some
      obtain ⟨param, rfl, rfl⟩ := some
      have named := (List.mem_filter.mp (List.mem_of_getLast? found)).2
      rw [Option.bind_some, counts.quality?_eq (of_decide_eq_true named), Option.getD_some]

theorem quality_isPositive {params : List Text} :
    (quality params).isPositive = true ↔ ∃ m, Weighs (params.map sides) m ∧ m.Positive := by
  constructor
  · intro positive
    obtain ⟨m, weighs⟩ := exists_weighs (params.map sides)
    rw [quality_eq weighs] at positive
    exact ⟨m, weighs, (Number.nearest_isPositive m).mp positive⟩
  · rintro ⟨m, weighs, positive⟩
    rw [quality_eq weighs]
    exact (Number.nearest_isPositive m).mpr positive

/-! ## Items and values -/

theorem gzip_iff {name : Text} : (trim name).lower = "gzip" ↔ sides name = [("gzip" : Text)] := by
  rw [named_iff (by decide) (by decide)]
  constructor
  · intro named
    rw [← sides_cell, named]
    decide
  · intro alone
    exact (sides_eq_singleton.mp alone).2

/-- The parameters of an item that has none are read as a single empty one. -/
theorem quality_getD (params : Option Text) :
    quality (pieces ';' (params.getD [])) = quality ((params.map (pieces ';')).getD []) := by
  cases params with
  | none =>
      have empty : quality? [] = none := by decide
      show quality [[]] = quality []
      rw [quality, List.filterMap_cons_none empty, quality]
  | some params => rfl

theorem accepts_cons {name : List Text} {params : List (List Text)} :
    Accepts (name :: params) ↔ name = [("gzip" : Text)] ∧ ∃ m, Weighs params m ∧ m.Positive := by
  constructor
  · rintro ⟨weighs, positive⟩
    exact ⟨rfl, _, weighs, positive⟩
  · rintro ⟨rfl, m, weighs, positive⟩
    exact .gzip weighs positive

theorem itemAccepts_iff {item : Text} : itemAccepts item = true ↔ Accepts (parts item) := by
  rw [parts, Text.pieces_cut, List.map_cons, accepts_cons, ← gzip_iff, ← quality_isPositive,
    ← quality_getD, itemAccepts, coding, Bool.and_eq_true, decide_eq_true_eq]

theorem valueAccepts_iff {value : Text} :
    valueAccepts value = true ↔ ∃ item ∈ cells value, Accepts item := by
  rw [← ignores_cells.trim value, valueAccepts, List.any_eq_true, cells]
  simp only [List.mem_map, exists_exists_and_eq_and, itemAccepts_iff]

theorem cells_append (v w : Text) : cells (v ++ CodePoint.ofChar ',' :: w) = cells v ++ cells w := by
  rw [cells, Text.pieces_append_sep, List.map_append, cells, cells]

theorem valueAccepts_append (v w : Text) :
    valueAccepts (v ++ CodePoint.ofChar ',' :: w) = (valueAccepts v || valueAccepts w) := by
  rw [Bool.eq_iff_iff, Bool.or_eq_true, valueAccepts_iff, valueAccepts_iff, valueAccepts_iff,
    cells_append]
  simp only [List.mem_append, or_and_right, exists_or]

theorem Respelled.valueAccepts_eq {v w : Text} (h : Respelled v w) :
    valueAccepts v = valueAccepts w := by
  rw [Bool.eq_iff_iff, valueAccepts_iff, valueAccepts_iff, h.cells_eq]

theorem cells_item {item : Text} (h : CodePoint.ofChar ',' ∉ item) : cells item = [parts item] := by
  rw [cells, Text.pieces_of_not_mem h, List.map_singleton]

theorem item_accepted {item : Text} (h : CodePoint.ofChar ',' ∉ item) :
    valueAccepts item = true ↔ Accepts (parts item) := by
  rw [valueAccepts_iff, cells_item h]
  simp only [List.mem_singleton, exists_eq_left]

theorem accepted_by_item {value : Text} :
    valueAccepts value = true ↔ ∃ item ∈ pieces ',' value, valueAccepts item = true := by
  rw [valueAccepts_iff, cells]
  simp only [List.mem_map, exists_exists_and_eq_and]
  exact exists_congr fun item => and_congr_right fun mem =>
    (item_accepted (Text.not_mem_of_mem_pieces mem)).symm

/-! ## Headers -/

/-- The header is in the table with this value, whatever the case of its name. -/
def Offers (headers : Headers) (value : Text) : Prop :=
  ∃ name, (name, value) ∈ headers ∧ name.asciiLower = "accept-encoding"

section Headers
variable {headers : Headers}

theorem acceptsGzip_iff :
    acceptsGzip headers = true ↔
      ∃ v, headers.get? acceptEncoding = some v ∧ valueAccepts v = true := by
  rw [acceptsGzip]
  cases headers.get? acceptEncoding <;> simp

theorem wanted_iff {name : Text} :
    name.lower = acceptEncoding.lower ↔ name.asciiLower = "accept-encoding" := by
  rw [show acceptEncoding.lower = "accept-encoding" from by decide]
  exact Text.lower_eq_iff (by decide) (by decide)

theorem acceptsGzip_iff_offers (h : headers.Unambiguous acceptEncoding) :
    acceptsGzip headers = true ↔ ∃ v, Offers headers v ∧ valueAccepts v = true := by
  simp only [acceptsGzip_iff, h.get?_eq_some, wanted_iff, Offers]

theorem acceptsGzip_of_missing (missing : ∀ v, ¬ Offers headers v) :
    acceptsGzip headers = false := by
  have unambiguous : headers.Unambiguous acceptEncoding := fun h mem _ _ named =>
    absurd ⟨h.1, mem, wanted_iff.mp named⟩ (missing h.2)
  rw [Bool.eq_false_iff, ne_eq, acceptsGzip_iff_offers unambiguous]
  rintro ⟨v, offered, -⟩
  exact missing v offered

/-- Tables that offer the same give the same answer, whatever else is in them. -/
theorem acceptsGzip_of_offers {headers' : Headers} (h : headers.Unambiguous acceptEncoding)
    (h' : headers'.Unambiguous acceptEncoding)
    (kept : ∀ v, Offers headers v → ∃ w, Offers headers' w ∧ Respelled v w)
    (accepted : acceptsGzip headers = true) : acceptsGzip headers' = true := by
  obtain ⟨v, offered, accepts⟩ := (acceptsGzip_iff_offers h).mp accepted
  obtain ⟨w, offered', respelled⟩ := kept v offered
  exact (acceptsGzip_iff_offers h').mpr ⟨w, offered', respelled.valueAccepts_eq ▸ accepts⟩

theorem acceptsGzip_congr {headers' : Headers}
    (same : List.Forall₂ (fun h h' => h.1 = h'.1 ∧ Respelled h.2 h'.2) headers headers') :
    acceptsGzip headers = acceptsGzip headers' := by
  have found := Headers.get?_rel same acceptEncoding
  rw [acceptsGzip, acceptsGzip]
  generalize headers.get? acceptEncoding = v, headers'.get? acceptEncoding = w at found ⊢
  cases found with
  | none => rfl
  | some respelled => exact respelled.valueAccepts_eq

end Headers

/-! ## Negotiation -/

/-- The answer is an answer item by item. A value with a comma in it is accepted if one side is, so a
value is accepted if one of its items is, whatever the order of the items, how often they are given and
what else is given; and an item is accepted if it names gzip and weighs more than nothing. The case of
letters does not count, nor do blanks around items, names, parameters, equals signs and weights. In a
table where one header at most passes for this one, the answer is that of its value, whatever the case
of its name and whatever else is in the table. A table without the header refuses. -/
theorem negotiated_by_items :
    (∀ v w : Text,
      valueAccepts (v ++ CodePoint.ofChar ',' :: w) = (valueAccepts v || valueAccepts w)) ∧
    (∀ v : Text, valueAccepts v = true ↔ ∃ item ∈ pieces ',' v, valueAccepts item = true) ∧
    (∀ v w : Text,
      (∀ item, valueAccepts item = true → (item ∈ pieces ',' v ↔ item ∈ pieces ',' w)) →
      valueAccepts v = valueAccepts w) ∧
    (∀ item : Text, CodePoint.ofChar ',' ∉ item →
      (valueAccepts item = true ↔ Accepts (parts item))) ∧
    (∀ v w : Text, Respelled v w → valueAccepts v = valueAccepts w) ∧
    (∀ headers : Headers, headers.Unambiguous acceptEncoding →
      (acceptsGzip headers = true ↔ ∃ v, Offers headers v ∧ valueAccepts v = true)) ∧
    (∀ headers headers' : Headers, headers.Unambiguous acceptEncoding →
      headers'.Unambiguous acceptEncoding →
      (∀ v, Offers headers v → ∃ w, Offers headers' w ∧ Respelled v w) →
      (∀ w, Offers headers' w → ∃ v, Offers headers v ∧ Respelled w v) →
      acceptsGzip headers = acceptsGzip headers') ∧
    (∀ headers headers' : Headers,
      List.Forall₂ (fun h h' => h.1 = h'.1 ∧ Respelled h.2 h'.2) headers headers' →
      acceptsGzip headers = acceptsGzip headers') ∧
    ∀ headers : Headers, (∀ v, ¬ Offers headers v) → acceptsGzip headers = false := by
  refine ⟨valueAccepts_append, fun v => accepted_by_item, fun v w same => ?_, fun item => item_accepted,
    fun v w => Respelled.valueAccepts_eq, fun headers => acceptsGzip_iff_offers,
    fun headers headers' h h' kept kept' => ?_, fun headers headers' => acceptsGzip_congr,
    fun headers => acceptsGzip_of_missing⟩
  · rw [Bool.eq_iff_iff, accepted_by_item, accepted_by_item]
    exact exists_congr fun item => and_congr_left (same item)
  · rw [Bool.eq_iff_iff]
    exact ⟨acceptsGzip_of_offers h h' kept, acceptsGzip_of_offers h' h kept'⟩

/-- A client that shouts. -/
theorem negotiated_by_items_shouted :
    acceptsGzip [("Host", "data"), ("ACCEPT-ENCODING", "br, GZIP")] = true := by
  obtain ⟨append, -, -, item, respelled, table, -⟩ := negotiated_by_items
  have plain : valueAccepts "gzip" = true := by
    refine (item "gzip" (by decide)).mpr ?_
    rw [show parts "gzip" = [[("gzip" : Text)]] from by decide]
    exact .gzip (.plain rfl) one_positive
  have spelled : Respelled " GZIP" "gzip" :=
    .trans (.symm (.blanks (x := []) (b := " ") (by decide) (.inl (Text.ends_empty marks))))
      (.letters (by decide))
  have second : valueAccepts " GZIP" = true := (respelled _ _ spelled).trans plain
  refine (table _ (by decide)).mpr ⟨"br, GZIP", ⟨"ACCEPT-ENCODING", by decide, by decide⟩, ?_⟩
  exact (append "br" " GZIP").trans (by rw [second, Bool.or_true])

end QueryGateway.Http.AcceptEncoding
