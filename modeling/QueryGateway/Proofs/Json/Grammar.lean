import QueryGateway.Json.Read
import QueryGateway.Proofs.Text.Decimal

/-!
# The grammar of JSON

Which texts are JSON, and which value each of them denotes, said without a reader. Every rule puts
a text together from its parts: a text relates to a value if it can be built that way. Nothing here
looks at what stands behind a text or knows when to stop, and white space is any run of blanks
wherever the rules name one.

A dialect enters at three places only: half a surrogate pair alone (`Chars.half`), the length of
numbers (`Scalar`), and the depth (`Denotes`, `Table`). `Table` keeps the members of an object as
they are written, before repeated names are resolved.

What is NOT here: that a text denotes at most one value. That is a consequence of the reader
computing it, and `Proofs.Json.Acceptance` has the equivalence.
-/

namespace QueryGateway.Json

open Text

/-- A run of white space, which may be empty. -/
def Blank (t : Text) : Prop := ∀ c ∈ t, isBlank c = true

/-! ## Texts -/

/-- The letters that may follow a backslash, and what they stand for. -/
def letterEscapes : List (CodePoint × CodePoint) :=
  [('"', '"'), ('\\', '\\'), ('/', '/'), ('b', CodePoint.ofNat 0x08), ('f', CodePoint.ofNat 0x0C),
    ('n', '\n'), ('r', '\r'), ('t', '\t')]

/-- A UTF-16 unit as an escape by number. -/
inductive UnitEscape : Text → Nat → Prop
  | digits {a b c d : CodePoint} {i j k l : Nat} : hexValue? a = some i → hexValue? b = some j →
      hexValue? c = some k → hexValue? d = some l →
      UnitEscape ['\\', 'u', a, b, c, d] (((i * 16 + j) * 16 + k) * 16 + l)

/-- The first unit of a surrogate pair. -/
def IsHigh (n : Nat) : Prop := 0xD800 ≤ n ∧ n ≤ 0xDBFF

/-- The second unit of a surrogate pair. -/
def IsLow (n : Nat) : Prop := 0xDC00 ≤ n ∧ n ≤ 0xDFFF

instance (n : Nat) : Decidable (IsHigh n) := inferInstanceAs (Decidable (_ ∧ _))

instance (n : Nat) : Decidable (IsLow n) := inferInstanceAs (Decidable (_ ∧ _))

/-- The code point of a surrogate pair. -/
def pairPoint (high low : Nat) : CodePoint :=
  CodePoint.ofNat (0x10000 + (high - 0xD800) * 0x400 + (low - 0xDC00))

/-- The unit is half a surrogate pair, and what stands behind it is not the other half. -/
def IsHalf (n : Nat) (behind : Text) : Prop :=
  IsLow n ∨ IsHigh n ∧ ∀ {v m}, UnitEscape v m → v <+: behind → ¬ IsLow m

/-- What may stand between quotes, and the text that it stands for. -/
inductive Chars (d : Dialect) : Text → Text → Prop
  | nil : Chars d [] []
  | plain {c : CodePoint} {w t : Text} : c ≠ '"' → c ≠ '\\' → 0x20 ≤ c.val → Chars d w t →
      Chars d (c :: w) (c :: t)
  | letter {e c : CodePoint} {w t : Text} : (e, c) ∈ letterEscapes → Chars d w t →
      Chars d ('\\' :: e :: w) (c :: t)
  | unit {u w t : Text} {n : Nat} : UnitEscape u n → ¬ IsHigh n → ¬ IsLow n → Chars d w t →
      Chars d (u ++ w) (CodePoint.ofNat n :: t)
  | pair {u v w t : Text} {m n : Nat} : UnitEscape u m → UnitEscape v n → IsHigh m → IsLow n →
      Chars d w t → Chars d (u ++ (v ++ w)) (pairPoint m n :: t)
  | half {u w t : Text} {n : Nat} : d.loneSurrogates = true → UnitEscape u n → IsHalf n w →
      Chars d w t → Chars d (u ++ w) (CodePoint.ofNat n :: t)

/-! ## Numbers and names -/

/-- Digits, at least one. -/
structure Digits (ds : Text) : Prop where
  run : IsDigits ds
  ne_nil : ds ≠ []

/-- The digits before a point: none but a single one begin with zero. -/
structure Whole (ds : Text) : Prop extends Digits ds where
  leading : ∀ {more : Text}, ds = CodePoint.ofChar '0' :: more → more = []

/-- A point with digits behind it, or nothing. -/
inductive Fraction : Text → Option Text → Prop
  | absent : Fraction [] none
  | digits {ds : Text} : Digits ds → Fraction ('.' :: ds) (some ds)

/-- The sign of an exponent, which may be left out. -/
inductive ExponentSign : Text → Bool → Prop
  | absent : ExponentSign [] false
  | plus : ExponentSign ['+'] false
  | minus : ExponentSign ['-'] true

/-- An exponent behind its letter, or nothing. -/
inductive Exponent : Text → Option Int → Prop
  | absent : Exponent [] none
  | digits {e : CodePoint} {s ds : Text} {negative : Bool} : e = 'e' ∨ e = 'E' →
      ExponentSign s negative → Digits ds → Exponent (e :: (s ++ ds)) (some (signed negative ds))

/-- The values that have a name. -/
def names : List (Text × Value) :=
  [("null", .null), ("true", .bool true), ("false", .bool false), ("NaN", .real (.nan 0)),
    ("Infinity", .real (.infinite false)), ("-Infinity", .real (.infinite true))]

/-- Names and numbers. A number with neither point nor exponent is an integer. -/
inductive Scalar (d : Dialect) : Text → Value → Prop
  | named {w : Text} {v : Value} : (w, v) ∈ names → Scalar d w v
  | int {negative : Bool} {ds : Text} : Whole ds →
      within d.maxLead ds.length = true → within d.maxDigits ds.length = true →
      Scalar d (sign negative ++ ds) (.int (signed negative ds))
  | real {negative : Bool} {ds f e : Text} {after : Option Text} {exponent : Option Int} :
      Whole ds → within d.maxLead ds.length = true → Fraction f after →
      Exponent e exponent → f ++ e ≠ [] →
      Scalar d (sign negative ++ (ds ++ (f ++ e)))
        (.real (scaled negative ds (after.getD []) (exponent.getD 0)))

/-! ## Values -/

/-- The name of a member, up to its value. -/
inductive Label (d : Dialect) : Text → Text → Prop
  | quoted {a n b c name : Text} : Blank a → Chars d n name → Blank b → Blank c →
      Label d (a ++ CodePoint.ofChar '"' :: (n ++ CodePoint.ofChar '"' ::
        (b ++ CodePoint.ofChar ':' :: c))) name

mutual

/-- A value with containers nested at most to a depth, without white space around it. Empty ones do
not count. -/
inductive Val (d : Dialect) : Nat → Text → Value → Prop
  | scalar {depth : Nat} {w : Text} {v : Value} : Scalar d w v → Val d depth w v
  | text {depth : Nat} {w t : Text} : Chars d w t →
      Val d depth ('"' :: (w ++ [CodePoint.ofChar '"'])) (.text t)
  | emptyList {depth : Nat} {b : Text} : Blank b →
      Val d depth ('[' :: (b ++ [CodePoint.ofChar ']'])) (.list [])
  | list {depth : Nat} {w : Text} {items : List Value} : Elements d depth w items →
      Val d (depth + 1) ('[' :: (w ++ [CodePoint.ofChar ']'])) (.list items)
  | emptyTable {depth : Nat} {b : Text} : Blank b →
      Val d depth ('\x7b' :: (b ++ [CodePoint.ofChar '\x7d'])) (.map [])
  | table {depth : Nat} {w : Text} {members : Members} : Pairs d depth w members →
      Val d (depth + 1) ('\x7b' :: (w ++ [CodePoint.ofChar '\x7d']))
        (Value.object (resolve members))

/-- The items of a list, at least one. -/
inductive Elements (d : Dialect) : Nat → Text → List Value → Prop
  | last {depth : Nat} {a w b : Text} {v : Value} : Blank a → Val d depth w v → Blank b →
      Elements d depth (a ++ (w ++ b)) [v]
  | more {depth : Nat} {a w b u : Text} {v : Value} {items : List Value} : Blank a →
      Val d depth w v → Blank b → Elements d depth u items →
      Elements d depth (a ++ (w ++ (b ++ CodePoint.ofChar ',' :: u))) (v :: items)

/-- The members of a table as they are written, at least one. -/
inductive Pairs (d : Dialect) : Nat → Text → Members → Prop
  | last {depth : Nat} {l w b name : Text} {v : Value} : Label d l name → Val d depth w v →
      Blank b → Pairs d depth (l ++ (w ++ b)) [(name, v)]
  | more {depth : Nat} {l w b u name : Text} {v : Value} {members : Members} : Label d l name →
      Val d depth w v → Blank b → Pairs d depth u members →
      Pairs d depth (l ++ (w ++ (b ++ CodePoint.ofChar ',' :: u))) ((name, v) :: members)

end

/-! ## Documents -/

/-- A text is one value, with white space around it and nothing else. -/
inductive Denotes (d : Dialect) : Text → Value → Prop
  | document {depth : Nat} {a w b : Text} {v : Value} : within d.maxDepth depth = true → Blank a →
      Val d depth w v → Blank b → Denotes d (a ++ (w ++ b)) v

/-- A text is one object, with these members as they are written. -/
inductive Table (d : Dialect) : Text → Members → Prop
  | empty {a w b : Text} : Blank a → Blank w → Blank b →
      Table d (a ++ CodePoint.ofChar '\x7b' :: (w ++ CodePoint.ofChar '\x7d' :: b)) []
  | members {depth : Nat} {a w b : Text} {members : Members} :
      within d.maxDepth (depth + 1) = true → Blank a → Pairs d depth w members → Blank b →
      Table d (a ++ CodePoint.ofChar '\x7b' :: (w ++ CodePoint.ofChar '\x7d' :: b)) members

/-! ## Depth

Only brackets and braces that hold something count, and each of them is a character. So a text that
is a value at some depth is one at every greater depth, and at the depth of its own length. -/

section Depth
variable {d : Dialect}

theorem room_inside {depth deeper n : Nat} (room : depth + 1 ≤ deeper ∨ n + 2 ≤ deeper) :
    ∃ inner, deeper = inner + 1 ∧ (depth ≤ inner ∨ n ≤ inner) :=
  ⟨deeper - 1, by omega, by omega⟩

theorem length_enclosed (a b : CodePoint) (w : Text) :
    (a :: (w ++ [b])).length = w.length + 2 := by
  rw [List.length_cons, List.length_append, List.length_singleton]

theorem enclosed_append (a b : CodePoint) (w rest : Text) :
    a :: (w ++ [b]) ++ rest = a :: (w ++ b :: rest) := by
  rw [List.cons_append, List.append_assoc, List.singleton_append]

mutual

theorem Val.mono {depth deeper : Nat} {w : Text} {v : Value} (h : Val d depth w v)
    (room : depth ≤ deeper ∨ w.length ≤ deeper) : Val d deeper w v := by
  match h with
  | .scalar s => exact .scalar s
  | .text chars => exact .text chars
  | .emptyList blank => exact .emptyList blank
  | .list items =>
      rw [length_enclosed] at room
      obtain ⟨inner, rfl, inside⟩ := room_inside room
      exact .list (items.mono inside)
  | .emptyTable blank => exact .emptyTable blank
  | .table members =>
      rw [length_enclosed] at room
      obtain ⟨inner, rfl, inside⟩ := room_inside room
      exact .table (members.mono inside)

theorem Elements.mono {depth deeper : Nat} {w : Text} {items : List Value}
    (h : Elements d depth w items) (room : depth ≤ deeper ∨ w.length ≤ deeper) :
    Elements d deeper w items := by
  match h with
  | .last before v behind =>
      simp only [List.length_append] at room
      exact .last before (v.mono (by omega)) behind
  | .more before v behind later =>
      simp only [List.length_append, List.length_cons] at room
      exact .more before (v.mono (by omega)) behind (later.mono (by omega))

theorem Pairs.mono {depth deeper : Nat} {w : Text} {members : Members}
    (h : Pairs d depth w members) (room : depth ≤ deeper ∨ w.length ≤ deeper) :
    Pairs d deeper w members := by
  match h with
  | .last label v behind =>
      simp only [List.length_append] at room
      exact .last label (v.mono (by omega)) behind
  | .more label v behind later =>
      simp only [List.length_append, List.length_cons] at room
      exact .more label (v.mono (by omega)) behind (later.mono (by omega))

end

end Depth

/-! ## Stricter dialects

Where a stricter dialect finds a value, a laxer one finds the same. -/

/-- A dialect allows nothing that another one does not. -/
structure Dialect.Stricter (d e : Dialect) : Prop where
  halves : d.loneSurrogates = true → e.loneSurrogates = true
  depth : ∀ {n}, within d.maxDepth n = true → within e.maxDepth n = true
  digits : ∀ {n}, within d.maxDigits n = true → within e.maxDigits n = true
  lead : ∀ {n}, within d.maxLead n = true → within e.maxLead n = true

section Stricter
variable {d e : Dialect}

theorem Chars.relax {w t : Text} (h : Chars d w t) (le : d.Stricter e) : Chars e w t := by
  induction h with
  | nil => exact .nil
  | plain noQuote noEscape visible _ ih => exact .plain noQuote noEscape visible ih
  | letter known _ ih => exact .letter known ih
  | unit escape notHigh notLow _ ih => exact .unit escape notHigh notLow ih
  | pair first second high low _ ih => exact .pair first second high low ih
  | half lone escape alone _ ih => exact .half (le.halves lone) escape alone ih

theorem Scalar.relax {w : Text} {v : Value} (h : Scalar d w v) (le : d.Stricter e) :
    Scalar e w v := by
  cases h with
  | named known => exact .named known
  | int whole lead digits => exact .int whole (le.lead lead) (le.digits digits)
  | real whole lead fraction exponent pointed =>
      exact .real whole (le.lead lead) fraction exponent pointed

theorem Label.relax {l name : Text} (h : Label d l name) (le : d.Stricter e) :
    Label e l name := by
  cases h with
  | quoted before chars b c => exact .quoted before (chars.relax le) b c

mutual

theorem Val.relax {depth : Nat} {w : Text} {v : Value} (h : Val d depth w v)
    (le : d.Stricter e) : Val e depth w v := by
  match h with
  | .scalar s => exact .scalar (s.relax le)
  | .text chars => exact .text (chars.relax le)
  | .emptyList blank => exact .emptyList blank
  | .list items => exact .list (items.relax le)
  | .emptyTable blank => exact .emptyTable blank
  | .table members => exact .table (members.relax le)

theorem Elements.relax {depth : Nat} {w : Text} {items : List Value}
    (h : Elements d depth w items) (le : d.Stricter e) : Elements e depth w items := by
  match h with
  | .last before v behind => exact .last before (v.relax le) behind
  | .more before v behind later => exact .more before (v.relax le) behind (later.relax le)

theorem Pairs.relax {depth : Nat} {w : Text} {members : Members} (h : Pairs d depth w members)
    (le : d.Stricter e) : Pairs e depth w members := by
  match h with
  | .last label v behind => exact .last (label.relax le) (v.relax le) behind
  | .more label v behind later => exact .more (label.relax le) (v.relax le) behind (later.relax le)

end

theorem Denotes.relax {t : Text} {v : Value} (h : Denotes d t v) (le : d.Stricter e) :
    Denotes e t v := by
  cases h with
  | document room before value behind =>
      exact .document (le.depth room) before (value.relax le) behind

end Stricter

end QueryGateway.Json
