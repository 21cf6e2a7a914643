import Tangle.Shell.Decimal
/-!
# Numbers of programs

What programs calculate with: numbers of a given number of bits, infinities
and what is no number (`Real`). They are read from decimal and hexadecimal
numerals (`Real.read?`), compared, and added with one rounding at the end.
-/

namespace Tangle

namespace Shell

/-- A number that a numeral writes. -/
inductive Real where
  /-- A finite number. -/
  | finite (negative : Bool) (x : Binary)
  /-- Beyond all numbers. -/
  | infinite (negative : Bool)
  /-- No number. -/
  | undefined (negative : Bool)
deriving Repr, DecidableEq

namespace Real

/-- The sign is a minus. -/
def isNegative : Real → Bool
  | finite n _ => n
  | infinite n => n
  | undefined n => n

/-- A decimal numeral in front: its digits, its exponent, and the rest. -/
def decimal? (s : Octets) : Option (Nat × Int × Octets) :=
  let whole := s.takeWhile Char.isDigit
  let s := s.dropWhile Char.isDigit
  let (fraction, s) : Octets × Octets := match s with
    | '.' :: r => if whole.isEmpty && !r.head?.any Char.isDigit then ([], s) else (r.takeWhile Char.isDigit, r.dropWhile Char.isDigit)
    | s => ([], s)
  if whole.isEmpty && fraction.isEmpty then none
  else
    let (e, s) : Int × Octets := match s with
      | x :: r =>
        if x = 'e' || x = 'E' then
          let (sign, ds) : Int × Octets := match r with
            | '-' :: r => (-1, r)
            | '+' :: r => (1, r)
            | r => (1, r)
          match Octets.nat? (ds.takeWhile Char.isDigit) with
          | some n => (sign * (min n 100000 : Nat), ds.dropWhile Char.isDigit)
          | none => (0, s)
        else (0, s)
      | [] => (0, s)
    some (Numeral.ofDigits 10 (whole ++ fraction), e - fraction.length, s)

/-- A hexadecimal numeral after its prefix: its digits, its binary
exponent, and the rest. -/
def hexadecimal? (s : Octets) : Option (Nat × Int × Octets) :=
  let (whole, s) := Numeral.digits 16 s
  let (fraction, s) : Octets × Octets := match s with
    | '.' :: r => Numeral.digits 16 r
    | s => ([], s)
  if whole.isEmpty && fraction.isEmpty then none
  else
    let (e, s) : Int × Octets := match s with
      | x :: r =>
        if x = 'p' || x = 'P' then
          let (sign, ds) : Int × Octets := match r with
            | '-' :: r => (-1, r)
            | '+' :: r => (1, r)
            | r => (1, r)
          match Octets.nat? (ds.takeWhile Char.isDigit) with
          | some n => (sign * (min n 100000 : Nat), ds.dropWhile Char.isDigit)
          | none => (0, s)
        else (0, s)
      | [] => (0, s)
    some (Numeral.ofDigits 16 (whole ++ fraction), e - 4 * fraction.length, s)

/-- The number in front of a text, after blanks, with so many bits, and
what follows it. -/
def read? (bits : Nat) (s : Octets) : Option (Real × Octets) :=
  let (negative, body) : Bool × Octets := match s.dropWhile Numeral.isBlank with
    | '-' :: r => (true, r)
    | '+' :: r => (false, r)
    | r => (false, r)
  let lower := (body.take 8).map Char.toLower
  if "infinity".toList.isPrefixOf lower then some (infinite negative, body.drop 8)
  else if "inf".toList.isPrefixOf lower then some (infinite negative, body.drop 3)
  else if "nan".toList.isPrefixOf lower then some (undefined negative, body.drop 3)
  else
    let hex := match body with
      | '0' :: x :: r => if x = 'x' || x = 'X' then hexadecimal? r else none
      | _ => none
    match hex with
    | some (n, e, rest) =>
      let x := if 0 ≤ e then Binary.ofRatio bits (n * Nat.pow 2 e.toNat) 1 else Binary.ofRatio bits n (Nat.pow 2 (-e).toNat)
      some (finite negative x, rest)
    | none =>
      (decimal? body).map fun (n, e, rest) => (finite negative (Binary.ofDecimal bits n e), rest)

/-- The number nearest to so many units of a power of two that has so many
bits. -/
def ofUnits (bits : Nat) (n exponent : Int) : Real :=
  finite (n < 0) (Binary.ofRatio bits (n.natAbs * Nat.pow 2 exponent.toNat) (Nat.pow 2 (-exponent).toNat))

/-- A finite number in units of a power of two that is no greater than its
own. -/
def units (negative : Bool) (x : Binary) (exponent : Int) : Int :=
  let n : Int := (x.mantissa * Nat.pow 2 (x.exponent - exponent).toNat : Nat)
  if negative then -n else n

/-- The first number is below the second one. -/
def isBelow (a b : Real) : Bool :=
  match a, b with
  | undefined _, _ => false
  | _, undefined _ => false
  | infinite m, infinite n => m && !n
  | infinite m, finite _ _ => m
  | finite _ _, infinite n => !n
  | finite m x, finite n y =>
    let e := min x.exponent y.exponent
    units m x e < units n y e

/-- The numbers have the same value. -/
def isSame (a b : Real) : Bool :=
  match a, b with
  | undefined _, _ => false
  | _, undefined _ => false
  | a, b => !isBelow a b && !isBelow b a

/-- The sum of two numbers. -/
def add (bits : Nat) (a b : Real) : Real :=
  match a, b with
  | finite m x, finite n y =>
    let e := min x.exponent y.exponent
    if x.mantissa = 0 && y.mantissa = 0 then finite (m && n) .zero else ofUnits bits (units m x e + units n y e) e
  | infinite m, infinite n => if m = n then infinite m else undefined false
  | undefined m, _ => undefined m
  | _, undefined n => undefined n
  | infinite m, _ => infinite m
  | _, infinite n => infinite n

/-- The number taken so many times. -/
def times (bits : Nat) (count : Nat) (a : Real) : Real :=
  match a with
  | finite m x => if x.mantissa * count = 0 then finite m .zero else ofUnits bits (units m x x.exponent * count) x.exponent
  | a => a

end Real

end Shell

end Tangle
