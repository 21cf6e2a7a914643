import Tangle.Shell.Number
/-!
# Numbers with a fraction

Numbers are read from decimal numerals and rounded to a binary form with a
given number of bits, a tie to the even neighbour (`Binary.ofRatio`), and
written in decimal again, rounded from their exact value
(`Binary.fixed`, `Binary.scientific`, `Binary.general`).
-/

namespace Tangle

namespace Shell

/-- A non-negative number in binary: `mantissa · 2 ^ exponent`. -/
structure Binary where
  /-- The digits as a whole number. -/
  mantissa : Nat
  /-- The exponent. -/
  exponent : Int
deriving Repr, DecidableEq

/-- The whole number nearest to a quotient, a tie to the even one. -/
def roundRatio (a b : Nat) : Nat :=
  let q := a / b
  let r := a % b
  if b < 2 * r || (2 * r = b && q % 2 = 1) then q + 1 else q

namespace Binary

/-- Zero. -/
def zero : Binary := ⟨0, 0⟩

/-- The number nearest to the quotient of two numbers that has so many
bits. -/
def ofRatio (bits : Nat) (a b : Nat) : Binary :=
  if a = 0 || b = 0 then zero
  else
    -- The exponent for which the quotient has the wanted bits, or one more.
    let e : Int := (a.log2 : Int) - b.log2 - bits
    let scaled (e : Int) : Nat × Nat := if 0 ≤ e then (a, b * Nat.pow 2 e.toNat) else (a * Nat.pow 2 (-e).toNat, b)
    let (x, y) := scaled e
    let e := if Nat.pow 2 bits ≤ x / y then e + 1 else e
    let (x, y) := scaled e
    ⟨roundRatio x y, e⟩

/-- The number that `digits · 10 ^ exponent` is nearest to. -/
def ofDecimal (bits : Nat) (digits : Nat) (exponent : Int) : Binary :=
  if 0 ≤ exponent then ofRatio bits (digits * Nat.pow 10 exponent.toNat) 1
  else ofRatio bits digits (Nat.pow 10 (-exponent).toNat)

/-- A natural number. -/
def ofNat (n : Nat) : Binary := ⟨n, 0⟩

/-- The number as a quotient. -/
def ratio (x : Binary) : Nat × Nat :=
  if 0 ≤ x.exponent then (x.mantissa * Nat.pow 2 x.exponent.toNat, 1)
  else (x.mantissa, Nat.pow 2 (-x.exponent).toNat)

/-- The number times a power of ten, rounded to a whole number. -/
def scaled (x : Binary) (power : Int) : Nat :=
  let (a, b) := x.ratio
  if 0 ≤ power then roundRatio (a * Nat.pow 10 power.toNat) b else roundRatio a (b * Nat.pow 10 (-power).toNat)

/-- Digits filled up with zeros in front. -/
def padZeros (width : Nat) (ds : Octets) : Octets := List.replicate (width - ds.length) '0' ++ ds

/-- The digits of a whole number with a point before the last `places`. -/
def withPoint (places : Nat) (pointed : Bool) (n : Nat) : Octets :=
  let ds := padZeros (places + 1) (toString n).toList
  let front := ds.take (ds.length - places)
  if places = 0 then (if pointed then front ++ ['.'] else front) else front ++ ['.'] ++ ds.drop (ds.length - places)

/-- The number with so many places behind the point. -/
def fixed (places : Nat) (pointed : Bool) (x : Binary) : Octets :=
  withPoint places pointed (x.scaled places)

/-- The decimal exponent of the number rounded to so many places behind its
first digit, and the digits. -/
def decimalForm (places : Nat) (x : Binary) : Int × Nat :=
  if x.mantissa = 0 then (0, 0)
  else
    let (a, b) := x.ratio
    let guess : Int := ((toString a).length : Int) - (toString b).length
    -- The guess is the exponent or one too great.
    let exponent := if x.scaled (places - guess) < Nat.pow 10 places then guess - 1 else guess
    let n := x.scaled (places - exponent)
    if Nat.pow 10 (places + 1) ≤ n then (exponent + 1, x.scaled (places - exponent - 1)) else (exponent, n)

/-- An exponent with its sign and at least two digits. -/
def exponentText (letter : Char) (e : Int) : Octets :=
  [letter, if e < 0 then '-' else '+'] ++ padZeros 2 (toString e.natAbs).toList

/-- The number with one digit before the point, and an exponent. -/
def scientific (places : Nat) (pointed : Bool) (letter : Char) (x : Binary) : Octets :=
  let (e, n) := x.decimalForm places
  withPoint places pointed n ++ exponentText letter e

/-- A fraction without zeros at its end. -/
def dropZeros (s : Octets) : Octets :=
  if s.contains '.' then ((s.reverse.dropWhile (· = '0')).dropWhile (· = '.')).reverse else s

/-- The number with so many digits, with an exponent if it is large or
small. -/
def general (digits : Nat) (pointed : Bool) (letter : Char) (x : Binary) : Octets :=
  let digits := max digits 1
  let (e, n) := x.decimalForm (digits - 1)
  let trim (s : Octets) : Octets := if pointed then s else dropZeros s
  if e < -4 || (digits : Int) ≤ e then
    trim (withPoint (digits - 1) pointed n) ++ exponentText letter e
  else trim (x.fixed ((digits : Int) - 1 - e).toNat pointed)

/-- The number in hexadecimal digits, of which `lead` bits stand before the
point, with a binary exponent. Without `places` there are as many as the
number needs out of those that `bits` bits can fill. -/
def hexadecimal (bits lead : Nat) (places : Option Nat) (pointed : Bool) (x : Binary) : Octets :=
  let most := (bits - lead + 3) / 4
  let digits (n width : Nat) : Octets := padZeros width (Nat.toDigits 16 n)
  let shown (whole fraction : Octets) (e : Int) : Octets :=
    ['0', 'x'] ++ whole ++ (if fraction.isEmpty && !pointed then [] else '.' :: fraction)
      ++ ['p', if e < 0 then '-' else '+'] ++ (toString e.natAbs).toList
  if x.mantissa = 0 then shown ['0'] (List.replicate (places.getD 0) '0') 0
  else
    -- The exponent of the last bit before the point.
    let e : Int := (x.mantissa.log2 : Int) + x.exponent - (lead - 1)
    let power := x.exponent - e + 4 * (min (places.getD most) most : Nat)
    let n := if 0 ≤ power then x.mantissa * Nat.pow 2 power.toNat else roundRatio x.mantissa (Nat.pow 2 (-power).toNat)
    let ds := digits n (min (places.getD most) most + 1)
    let whole := ds.take (ds.length - min (places.getD most) most)
    let fraction := ds.drop whole.length
    let (whole, e) : Octets × Int := if whole = ['1', '0'] then (['1'], e + 4) else (whole, e)
    match places with
    | some n => shown whole (fraction ++ List.replicate (n - most) '0') e
    | none => shown whole (fraction.reverse.dropWhile (· = '0')).reverse e

end Binary

end Shell

end Tangle
