import Tangle.Shell.Format
import Tangle.Shell.Utility.Basic
/-!
# Sequences of numbers

The program that prints numbers from a first one to a last one (`seq`). Its
operands tell also how the numbers are written: with as many places as the
first number and the step have, and, if all are to be equally wide, as wide
as the widest of the two ends (`Sequence.layout?`).
-/

namespace Tangle

namespace Shell

namespace Utility

namespace Sequence

/-- The bits of the numbers. -/
def bits : Nat := 64

/-- A number as an operand gives it. -/
structure Bound where
  /-- The number. -/
  value : Real
  /-- The width of the operand. -/
  width : Int
  /-- The places behind its point, if it is a decimal number. -/
  places : Option Nat

/-- One. -/
def Bound.one : Bound := ⟨.finite false (.ofNat 1), 1, some 0⟩

/-- The width and the places of a decimal number, whose exponent counts as
if the point stood elsewhere. -/
def measures (s : Octets) : Int × Nat :=
  let isExponent (c : Char) : Bool := c = 'e' || c = 'E'
  let front := s.takeWhile (· ≠ '.')
  let pointed := s.contains '.'
  let fraction := if pointed then (s.drop (front.length + 1)).takeWhile fun c => !isExponent c else []
  let width : Int := s.length
  let places := fraction.length
  let width : Int := if !pointed then width
    else if fraction.isEmpty then width - 1
    else if front.getLast?.any Char.isDigit then width else width + 1
  let exponentText := s.dropWhile fun c => !isExponent c
  if exponentText.isEmpty then (width, places)
  else
    let exponent : Int := ((Numeral.read? (some 10) (exponentText.drop 1)).map Numeral.Parsed.value).getD 0
    let width := width - exponentText.length
    if exponent < 0 then
      let width := if !pointed || fraction.isEmpty then width + 1 else width
      (width - exponent, places + exponent.natAbs)
    else
      let left := places - exponent.toNat
      let width := if left = 0 && !fraction.isEmpty then width - 1 else width
      (width + ((exponent.toNat - fraction.length : Nat) : Int), left)

/-- The number that an operand gives, or what is wrong with it. -/
def Bound.read (s : Octets) : Except Problem Bound :=
  let invalid : Problem := .usage ("invalid floating point argument: " ++ curly s)
  match Real.read? bits s with
  | some (x, []) =>
    let shown := s.dropWhile fun c => Numeral.isBlank c || c = '+'
    let isHexadecimal := shown.any fun c => c = 'x' || c = 'X'
    match x with
    | .undefined _ => .error (.usage ("invalid ‘not-a-number’ argument: " ++ curly s))
    | .infinite _ => .ok ⟨x, 0, some 0⟩
    | .finite _ y =>
      if 16384 < (y.mantissa.log2 : Int) + y.exponent then .error invalid
      else if isHexadecimal then .ok ⟨x, 0, if shown.contains '.' || shown.contains 'p' then none else some 0⟩
      else
        let (width, places) := measures shown
        .ok ⟨x, width, some places⟩
  | _ => .error invalid

/-- Numbers from a first one to a last one. -/
structure Range where
  /-- The first number. -/
  first : Bound
  /-- The distance from one to the next. -/
  step : Bound
  /-- The number that none goes beyond. -/
  last : Bound

/-- The range that operands give. -/
def Range.read (operands : List Octets) : Except Problem Range :=
  match operands with
  | [] => .error (.usage "missing operand")
  | [z] => (Bound.read z).map (⟨.one, .one, ·⟩)
  | [a, z] => do
    let first ← Bound.read a
    return ⟨first, .one, ← Bound.read z⟩
  | [a, d, z] => do
    let first ← Bound.read a
    let step ← Bound.read d
    if step.value.isSame (.finite false .zero) then throw (.usage ("invalid Zero increment value: " ++ curly d))
    return ⟨first, step, ← Bound.read z⟩
  | _ :: _ :: _ :: extra :: _ => .error (.usage ("extra operand " ++ curly extra))

/-- The way to write the numbers of a range; without one the numbers have
six digits. -/
def layout? (equalWidth : Bool) (r : Range) : Option Format.Layout :=
  match r.first.places, r.step.places, r.last.places with
  | some first, some step, some last =>
    let places := max first step
    let point (has wants : Bool) : Int := if has = wants then 0 else if wants then 1 else -1
    let firstWidth := r.first.width + (places - first : Nat) + (if first = 0 && places ≠ 0 then 1 else 0)
    let lastWidth := r.last.width + places - last + point (last ≠ 0) (places ≠ 0)
    let width := if equalWidth then (max firstWidth lastWidth).toNat else 0
    some ⟨false, true, false, false, false, width, some places⟩
  | _, _, _ => none

/-- What stands around the numbers, and how they are written. -/
structure Shape where
  /-- What stands in front. -/
  front : Octets
  /-- What stands behind. -/
  behind : Octets
  /-- The layout. -/
  layout : Format.Layout
  /-- The letter of the notation. -/
  letter : Char

/-- A text of a format up to its directive or its end, where two percent
signs stand for one. -/
def literal : Octets → Octets × Octets
  | '%' :: '%' :: s => (literal s).map ('%' :: ·) fun t => t
  | '%' :: s => ([], '%' :: s)
  | c :: s => (literal s).map (c :: ·) fun t => t
  | [] => ([], [])

/-- The shape that a format describes, or what is wrong with it. -/
def Shape.read (format : Octets) : Except String Shape :=
  let wrong (reason : String) : Except String Shape := .error ("format " ++ curly format ++ " " ++ reason)
  match literal format with
  | (_, []) => wrong "has no % directive"
  | (front, _ :: s) =>
    let isFlag (c : Char) := "-+#0 '".toList.contains c
    let flags := s.takeWhile isFlag
    let s := s.dropWhile isFlag
    let width := s.takeWhile Char.isDigit
    let s := s.dropWhile Char.isDigit
    let (precision, s) : Option Nat × Octets := match s with
      | '.' :: s => (some ((Octets.nat? (s.takeWhile Char.isDigit)).getD 0), s.dropWhile Char.isDigit)
      | s => (none, s)
    let s := if s.head? = some 'L' then s.drop 1 else s
    match s with
    | [] => wrong "ends in %"
    | letter :: s =>
      if !"efgaEFGA".toList.contains letter then wrong ("has unknown %" ++ Octets.text [letter] ++ " directive")
      else
        match literal s with
        | (behind, []) =>
          let has (c : Char) : Bool := flags.contains c
          .ok ⟨front, behind, ⟨has '-', has '0', has '+', has ' ', has '#', (Octets.nat? width).getD 0, precision⟩, letter⟩
        | _ => wrong "has too many % directives"

/-- A number in a shape. -/
def Shape.show (f : Shape) (x : Real) : Octets := f.layout.real bits f.letter x

/-- The number after so many steps. -/
def Range.item (r : Range) (n : Nat) : Real := r.first.value.add bits (r.step.value.times bits n)

/-- The number lies behind the last one. -/
def Range.isBeyond (r : Range) (x : Real) : Bool :=
  if r.step.value.isNegative then x.isBelow r.last.value else r.last.value.isBelow x

/-- The numbers from the one after so many steps on. The number behind the
last one belongs to them if it is written like that one, for then only
rounding has carried it there. -/
def items (f : Shape) (r : Range) : Nat → Nat → List Octets
  | 0, _ => []
  | fuel + 1, n =>
    let x := r.item n
    let shown := f.show x
    if !r.isBeyond x then shown :: items f r fuel (n + 1)
    else if n = 0 then []
    else
      let isLast := match Real.read? bits shown with
        | some (y, []) => y.isSame r.last.value
        | _ => false
      if isLast && shown ≠ f.show (r.item (n - 1)) then [shown] else []

/-- The number of items of a range that has no end; a reader that has enough
stops the program before. -/
def endless : Nat := 20000

/-- The most items of a range. -/
def Range.count (r : Range) : Nat :=
  match r.first.value, r.step.value, r.last.value with
  | .finite m x, .finite n y, .finite k z =>
    let e := min x.exponent (min y.exponent z.exponent)
    (Real.units k z e - Real.units m x e).natAbs / (Real.units n y e).natAbs + 3
  | _, _, _ => endless

end Sequence

/-- The arguments with a mark in front of the operands. A number below zero
is an operand. -/
def markOperands : List Octets → List Octets
  | a :: rest =>
    match a with
    | ['-', '-'] => a :: rest
    | '-' :: c :: _ =>
      if c.isDigit || c = '.' then ['-', '-'] :: a :: rest
      else if a.getLast? = some 's' || a.getLast? = some 'f' then
        match rest with
        | v :: rest => if a.length = 2 || (a.drop 1).dropLast.all (· = 'w') then a :: v :: markOperands rest
          else a :: markOperands (v :: rest)
        | [] => [a]
      else a :: markOperands rest
    | _ => ['-', '-'] :: a :: rest
  | [] => []

/-- Prints a sequence of numbers. -/
def seq : Utility := fun call argv s =>
  withOptions ⟨"w", "sf", "", [("separator", 's'), ("format", 'f'), ("equal-width", 'w')], true, 1⟩
    (fun i s =>
      let range : Except Problem (Sequence.Shape × Sequence.Range) := do
        if i.operands.isEmpty then throw (.usage "missing operand")
        if let some extra := i.operands[3]? then throw (.usage ("extra operand " ++ curly extra))
        let shape ← (match i.value? 'f' with
          | some f => ((Sequence.Shape.read f).mapError Problem.value).map some
          | none => return none)
        if shape.isSome && i.has 'w' then
          throw (.usage "format string may not be specified when printing equal width strings")
        let range ← Sequence.Range.read i.operands
        let standard : Sequence.Shape := match Sequence.layout? (i.has 'w') range with
          | some layout => ⟨[], [], layout, 'f'⟩
          | none => ⟨[], [], ⟨false, false, false, false, false, 0, none⟩, 'g'⟩
        return (shape.getD standard, range)
      match range with
      | .error problem => i.reject problem s
      | .ok (shape, range) =>
        let items := (Sequence.items shape range range.count 0).map fun t => shape.front ++ t ++ shape.behind
        if items.isEmpty then s
        else s.print (List.intercalate ((i.value? 's').getD ['\n']) items ++ ['\n']))
    call (argv.take 1 ++ markOperands (argv.drop 1)) s

end Utility

end Shell

end Tangle
