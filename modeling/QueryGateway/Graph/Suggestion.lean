import QueryGateway.Text.Case

/-!
# Suggestions

Which names a misspelt name may have meant: those that few single edits lead to. An edit inserts,
drops or replaces a character or swaps two neighbours, and a difference in case alone is one edit. The
longer the name, the more edits it may take.
-/

namespace QueryGateway.Graph.Suggestion

/-- One row of the table of edits. `two` and `one` are the rows above, `cell` the last cell of this
row, and `before` the character above that of `x`; the lists go on from the column of `cell`. -/
def rowFrom (x : CodePoint) (before : Option CodePoint) (last : Option CodePoint) (cell : Nat) :
    (two one : List Nat) → Text → List Nat
  | two, diagonal :: up :: one, y :: ys =>
    let cost := if x = y then 0 else 1
    let plain := min (min (up + 1) (cell + 1)) (diagonal + cost)
    let best :=
      match two with
      | far :: _ => if last = some x ∧ before = some y then min plain (far + 1) else plain
      | [] => plain
    best :: rowFrom x before (some y) best
      (match last with | some _ => two.drop 1 | none => two) (up :: one) ys
  | _, _, _ => []

/-- The rows of the table below two rows, down to the last. `i` is the number of the next row. -/
def rows (b : Text) (i : Nat) (before : Option CodePoint) (two one : List Nat) : Text → List Nat
  | [] => one
  | x :: xs => rows b (i + 1) (some x) one (i :: rowFrom x before none i two one b) xs

def edits (a b : Text) : Nat :=
  ((rows b 1 none [] (List.range (b.length + 1)) a).getLast?).getD 0

def threshold (name : Text) : Nat := name.length * 2 / 5 + 1

def distance? (name option : Text) : Option Nat :=
  if name = option then some 0
  else if name.lower = option.lower then some 1
  else
    let n := edits option.lower name.lower
    if n ≤ threshold name then some n else none

def naturalLe : Nat → Text → Text → Bool
  | 0, _, _ => true
  | _ + 1, [], _ => true
  | _ + 1, _ :: _, [] => false
  | fuel + 1, c :: s, d :: t =>
    if c.isAsciiDigit && d.isAsciiDigit then
      let m := Text.digitsValue ((c :: s).takeWhile CodePoint.isAsciiDigit)
      let n := Text.digitsValue ((d :: t).takeWhile CodePoint.isAsciiDigit)
      if m = n then
        naturalLe fuel ((c :: s).dropWhile CodePoint.isAsciiDigit)
          ((d :: t).dropWhile CodePoint.isAsciiDigit)
      else m < n
    else if c = d then naturalLe fuel s t
    else c.val < d.val

def near (name : Text) (options : List Text) : List Text :=
  ((options.filterMap fun o => (distance? name o).map fun n => (n, o)).mergeSort fun a b =>
    a.1 < b.1 || (a.1 = b.1 && naturalLe (a.2.length + 1) a.2 b.2)).map (·.2)

def alternatives : List Text → Text
  | [] => []
  | [a] => a
  | [a, b] => a ++ " or " ++ b
  | options => Text.join ", " options.dropLast ++ ", or " ++ (options.getLast?).getD []

def question (options : List Text) : Text :=
  match options.take 5 with
  | [] => []
  | options =>
    (" Did you mean " : Text) ++ alternatives (options.map fun o => "'" ++ o ++ "'") ++ "?"

end QueryGateway.Graph.Suggestion
