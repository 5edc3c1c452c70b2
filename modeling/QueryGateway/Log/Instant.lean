import QueryGateway.Text.Basic

/-!
# Points in time

A point in time in UTC, to the microsecond, and its text in records: the fraction is left out where
it is zero.
-/

namespace QueryGateway

structure Instant where
  year : Nat
  month : Nat
  day : Nat
  hour : Nat
  minute : Nat
  second : Nat
  microsecond : Nat
deriving DecidableEq, Repr

namespace Instant

def iso (i : Instant) : Text :=
  Text.padded 4 i.year ++ "-" ++ Text.padded 2 i.month ++ "-" ++ Text.padded 2 i.day ++ "T" ++
    Text.padded 2 i.hour ++ ":" ++ Text.padded 2 i.minute ++ ":" ++ Text.padded 2 i.second ++
    (if i.microsecond = 0 then ([] : Text) else "." ++ Text.padded 6 i.microsecond) ++ "+00:00"

def ofUnix (seconds microseconds : Nat) : Instant :=
  let days := seconds / 86400
  let rest := seconds % 86400
  -- days since the first of March of the year 0, in eras of 400 years
  let z := days + 719468
  let era := z / 146097
  let dayOfEra := z % 146097
  let yearOfEra := (dayOfEra - dayOfEra / 1460 + dayOfEra / 36524 - dayOfEra / 146096) / 365
  let dayOfYear := dayOfEra - (365 * yearOfEra + yearOfEra / 4 - yearOfEra / 100)
  let m := (5 * dayOfYear + 2) / 153
  let day := dayOfYear - (153 * m + 2) / 5 + 1
  let month := if m < 10 then m + 3 else m - 9
  let year := yearOfEra + era * 400 + (if month ≤ 2 then 1 else 0)
  ⟨year, month, day, rest / 3600, rest / 60 % 60, rest % 60, microseconds⟩

end Instant

end QueryGateway
