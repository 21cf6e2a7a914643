import Tangle.Toml.Basic
/-!
# TOML numbers

Whole numbers are decimal with a sign, or in base sixteen, eight or two
without one, and fit 64 bits. A fraction or an exponent makes a number a
float, which may not be too large. An underscore may stand between two
digits.
-/

namespace Tangle

namespace Toml

/-- A decimal digit. -/
def isDecimal (c : Char) : Bool := '0' ≤ c && c ≤ '9'

/-- The value of a digit in any base up to sixteen. -/
def digitValue? (c : Char) : Option Nat :=
  if isDecimal c then some (c.toNat - 0x30)
  else if 'a' ≤ c && c ≤ 'f' then some (c.toNat - 0x57)
  else if 'A' ≤ c && c ≤ 'F' then some (c.toNat - 0x37)
  else none

/-- The character is a digit in a base. -/
def isDigitOf (base : Nat) (c : Char) : Bool :=
  match digitValue? c with
  | some v => v < base
  | none => false

/-- The number that digits write in a base. -/
def ofDigits (base : Nat) (ds : List Char) : Nat :=
  ds.foldl (fun n c => n * base + (digitValue? c).getD 0) 0

/-- The digits at the front of a text and what follows them. -/
def takeDigits (base : Nat) : List Char → List Char × List Char
  | [] => ([], [])
  | c :: s =>
    if isDigitOf base c then
      let (ds, rest) := takeDigits base s
      (c :: ds, rest)
    else if c = '_' && s.head?.any (isDigitOf base) then takeDigits base s
    else ([], c :: s)

/-- Reads digits of which the first is no underscore. -/
def digits (base : Nat) : Reader (List Char)
  | [] => none
  | c :: s => if isDigitOf base c then some (takeDigits base (c :: s)) else none

/-- Reads the digits in front of a fraction: nothing follows a zero. -/
def wholeDigits : Reader (List Char)
  | '0' :: s => some (['0'], s)
  | s => digits 10 s

/-- The whole number, if it fits 64 bits with a sign. -/
def fitting? (n : Int) : Option Value :=
  if -Int.pow 2 63 ≤ n ∧ n < Int.pow 2 63 then some (.integer n) else none

/-- The least number that is too large for a float. -/
def floatLimit : Nat := Nat.pow 2 1024 - Nat.pow 2 970

/-- The decimal `m * 10 ^ e` is too large for a float. -/
def overflows (m : Nat) (e : Int) : Bool :=
  if m = 0 then false
  else if 0 ≤ e then 400 ≤ e || floatLimit ≤ m * Nat.pow 10 e.toNat
  else if (toString m).length < (-e).toNat then false
  else floatLimit * Nat.pow 10 (-e).toNat ≤ m

/-- Reads an exponent after its letter. -/
def exponent : Reader Int
  | '-' :: s => (digits 10 s).map fun (ds, rest) => (-(ofDigits 10 ds : Int), rest)
  | '+' :: s => (digits 10 s).map fun (ds, rest) => ((ofDigits 10 ds : Int), rest)
  | s => (digits 10 s).map fun (ds, rest) => ((ofDigits 10 ds : Int), rest)

/-- The float with these digits, `places` of them after the point, and an
exponent, unless it is too large. -/
def float? (negative : Bool) (ds : List Char) (places : Nat) (e : Int) : Option Value :=
  if !negative && overflows (ofDigits 10 ds) (e - places) then none else some .float

/-- Reads an exponent, if there is one, of a number whose digits have been
read. -/
def scaled (negative : Bool) (ds : List Char) (places : Nat) : Reader Value
  | 'e' :: s | 'E' :: s => do
    let (e, rest) ← exponent s
    let v ← float? negative ds places e
    some (v, rest)
  | s => (float? negative ds places 0).map (·, s)

/-- Reads a decimal number after its sign. -/
def decimal (negative : Bool) (s : List Char) : Option (Value × List Char) := do
  let (ds, rest) ← wholeDigits s
  match rest with
  | '.' :: rest =>
    let (fraction, rest) ← digits 10 rest
    scaled negative (ds ++ fraction) fraction.length rest
  | 'e' :: _ | 'E' :: _ => scaled negative ds 0 rest
  | _ =>
    let n : Int := ofDigits 10 ds
    (fitting? (if negative then -n else n)).map (·, rest)

/-- Reads a number in a base after its mark. -/
def based (base : Nat) (s : List Char) : Option (Value × List Char) := do
  let (ds, rest) ← digits base s
  (fitting? (ofDigits base ds)).map (·, rest)

/-- Reads a number after its sign, or one that is written as a word. -/
def unsigned (negative : Bool) : Reader Value
  | 'i' :: 'n' :: 'f' :: s => some (.float, s)
  | 'n' :: 'a' :: 'n' :: s => some (.float, s)
  | s => decimal negative s

/-- Reads a number. -/
def number : Reader Value
  | '+' :: s => unsigned false s
  | '-' :: s => unsigned true s
  | '0' :: 'x' :: s => based 16 s
  | '0' :: 'o' :: s => based 8 s
  | '0' :: 'b' :: s => based 2 s
  | s => unsigned false s

end Toml

end Tangle
