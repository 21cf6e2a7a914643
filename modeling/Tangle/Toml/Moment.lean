import Tangle.Toml.Numeral
/-!
# TOML dates and times

A date, a time, or a date and a time with or without an offset. Months
have their lengths, leap years included, and a minute may have a second
sixty.
-/

namespace Tangle

namespace Toml

/-- Reads exactly `count` decimal digits as a number from `lo` to `hi`. -/
def fixedDigits (count lo hi : Nat) (s : List Char) : Option (Nat × List Char) :=
  let ds := s.take count
  let n := ofDigits 10 ds
  if ds.length = count && ds.all isDecimal && lo ≤ n && n ≤ hi then some (n, s.drop count) else none

/-- What follows a given character. -/
def afterChar? (c : Char) : List Char → Option (List Char)
  | d :: s => if d = c then some s else none
  | [] => none

/-- The number of days of a month. -/
def daysOfMonth (year month : Nat) : Nat :=
  if month = 2 then
    if year % 4 = 0 ∧ (year % 100 ≠ 0 ∨ year % 400 = 0) then 29 else 28
  else if month ∈ [4, 6, 9, 11] then 30
  else 31

/-- The text after a date. -/
def afterDate? (s : List Char) : Option (List Char) := do
  let (year, s) ← fixedDigits 4 0 9999 s
  let (month, s) ← fixedDigits 2 1 12 (← afterChar? '-' s)
  let (_, s) ← fixedDigits 2 1 (daysOfMonth year month) (← afterChar? '-' s)
  some s

/-- The text after the fraction of a second, if there is one. -/
def afterFraction (s : List Char) : List Char :=
  match s with
  | '.' :: c :: rest => if isDecimal c then rest.dropWhile isDecimal else s
  | _ => s

/-- The text after a time. -/
def afterTime? (s : List Char) : Option (List Char) := do
  let (_, s) ← fixedDigits 2 0 23 s
  let (_, s) ← fixedDigits 2 0 59 (← afterChar? ':' s)
  let (_, s) ← fixedDigits 2 0 60 (← afterChar? ':' s)
  some (afterFraction s)

/-- The text after an offset from universal time. -/
def afterOffset? : List Char → Option (List Char)
  | 'Z' :: s | 'z' :: s => some s
  | '+' :: s | '-' :: s => do
    let (_, s) ← fixedDigits 2 0 23 s
    let (_, s) ← fixedDigits 2 0 59 (← afterChar? ':' s)
    some s
  | _ => none

/-- The text after a time that follows a date, with its offset, if there
is one. -/
def afterClock (s : List Char) : List Char :=
  match s with
  | c :: rest =>
    if c = 'T' || c = 't' || c = ' ' then
      match afterTime? rest with
      | some rest => (afterOffset? rest).getD rest
      | none => s
    else s
  | [] => s

/-- Reads a moment. -/
def moment (s : List Char) : Option (Value × List Char) :=
  match afterDate? s with
  | some rest => some (.moment, afterClock rest)
  | none => (afterTime? s).map (Value.moment, ·)

end Toml

end Tangle
