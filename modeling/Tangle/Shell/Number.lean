import Tangle.Shell.Octets
/-!
# Numerals

How programs read whole numbers from the front of a text: blanks, a sign,
and digits whose base the numeral itself may tell (`Numeral.read`). The rest
of the text is left to the reader, and numbers beyond 64 bits stop at the
greatest or least one.
-/

namespace Tangle

namespace Shell

namespace Numeral

/-- A blank in front of a number. -/
def isBlank (c : Char) : Bool := c = ' ' || ('\t' ≤ c && c ≤ '\r')

/-- The value of a digit of bases up to 36. -/
def digit? (c : Char) : Option Nat :=
  if c.isDigit then some (c.toNat - 48)
  else if c.isAlpha then some (c.toLower.toNat - 87)
  else none

/-- The digits of a base in front, and the rest. -/
def digits (base : Nat) (s : Octets) : Octets × Octets :=
  let isDigit (c : Char) : Bool := (digit? c).any (· < base)
  (s.takeWhile isDigit, s.dropWhile isDigit)

/-- The number that digits write. -/
def ofDigits (base : Nat) (ds : Octets) : Nat :=
  ds.foldl (fun n c => n * base + (digit? c).getD 0) 0

/-- The natural number in front, and the rest. The base is sixteen after
`0x` and eight after another zero, unless it is given. -/
def natural? (base : Option Nat) (s : Octets) : Option (Nat × Octets) :=
  let read (b : Nat) (s : Octets) : Option (Nat × Octets) :=
    let (ds, rest) := digits b s
    if ds.isEmpty then none else some (ofDigits b ds, rest)
  match base with
  | some b => read b s
  | none =>
    match s with
    | '0' :: x :: rest =>
      if x = 'x' || x = 'X' then (read 16 rest).or (some (0, x :: rest)) else read 8 s
    | _ => read 10 s

/-- A whole number read from the front of a text. -/
structure Parsed where
  /-- The number. -/
  value : Int
  /-- What follows it. -/
  rest : Octets

/-- The whole number in front, after blanks. -/
def read? (base : Option Nat) (s : Octets) : Option Parsed :=
  let (negative, body) : Bool × Octets := match s.dropWhile isBlank with
    | '-' :: r => (true, r)
    | '+' :: r => (false, r)
    | r => (false, r)
  (natural? base body).map fun (n, rest) => ⟨if negative then -n else n, rest⟩

/-- The greatest number of 64 bits. -/
def greatest : Int := Int.pow 2 63 - 1

/-- The least number of 64 bits. -/
def least : Int := -Int.pow 2 63

/-- The number of 64 bits that is nearest. -/
def clamp (n : Int) : Int := max least (min greatest n)

/-- The number lies beyond 64 bits. -/
def isBeyond (n : Int) : Bool := n < least || greatest < n

/-- The number that a text writes between blanks, within 64 bits. -/
def whole? (base : Option Nat) (s : Octets) : Option Int :=
  match read? base s with
  | some p => if p.rest.all isBlank && !isBeyond p.value then some p.value else none
  | none => none

end Numeral

end Shell

end Tangle
