import Tangle.Shell.Awk.Syntax
import Tangle.Shell.Format
import Tangle.Shell.State
/-!
# Values of the language of records

A value is a number or a text, or a text that was read and looks like a
number, which is compared as one. Arrays keep their elements in the order in
which they are gone through: by a hash of the index, elements that were used
last first among those with the same one.
-/

namespace Tangle

namespace Shell

namespace Awk

/-- A value. -/
inductive Value where
  /-- What variables hold before anything is assigned to them. -/
  | nothing
  /-- A number. -/
  | number (x : Float)
  /-- A text. -/
  | text (s : Octets)
  /-- A text that was read and writes a number. -/
  | numeric (s : Octets) (x : Float)

/-- The number in binary. -/
def realOf (x : Float) : Real :=
  let bits := x.toBits.toNat
  let negative := bits ≥ Nat.pow 2 63
  let exponent : Nat := bits / Nat.pow 2 52 % 2048
  let fraction : Nat := bits % Nat.pow 2 52
  if exponent = 2047 then (if fraction = 0 then .infinite negative else .undefined negative)
  else if exponent = 0 then .finite negative ⟨fraction, -1074⟩
  else .finite negative ⟨fraction + Nat.pow 2 52, (exponent : Int) - 1075⟩

/-- The floating-point number of a number in binary. -/
def floatOf : Real → Float
  | .finite negative x =>
    let f := (Float.ofNat x.mantissa).scaleB x.exponent
    if negative then -f else f
  | .infinite negative => if negative then -(1.0 / 0.0) else 1.0 / 0.0
  | .undefined negative => if negative then -(0.0 / 0.0) else 0.0 / 0.0

/-- The number in front of a text; zero if there is none. -/
def numberOf (s : Octets) : Float :=
  match Real.read? 53 s with
  | some (x, _) => floatOf x
  | none => 0

/-- A whole number that a number is, if it is one. -/
def whole? (x : Float) : Option Int :=
  match realOf x with
  | .finite negative b =>
    let (a, d) := b.ratio
    if a % d = 0 then some (if negative then -(a / d : Nat) else (a / d : Nat)) else none
  | _ => none

/-- The whole number that a number is cut to. -/
def truncated (x : Float) : Int :=
  match realOf x with
  | .finite negative b =>
    let (a, d) := b.ratio
    if negative then -(a / d : Nat) else (a / d : Nat)
  | .infinite negative => if negative then -(Int.pow 2 63 - 1) else Int.pow 2 63 - 1
  | .undefined _ => 0

/-- Whole numbers are written out if they are smaller than this one. -/
def wholeLimit : Nat := Nat.pow 2 31

/-- A number as it is written where small whole numbers are written out. -/
def numberText (format : Octets) (x : Float) : Octets :=
  let formatted : Octets :=
    let (d, _) := Format.directive [] (format.drop 1)
    let digits (m : Format.Measure) : Option Nat := match m with
      | .given n => n
      | .argument => none
    let l : Format.Layout := ⟨d.flags.contains '-', d.flags.contains '0', d.flags.contains '+', d.flags.contains ' ',
      d.flags.contains '#', (digits d.width).getD 0, digits d.precision⟩
    l.real 53 (d.letter.getD 'g') (realOf x)
  match whole? x with
  | some n => if n.natAbs < wholeLimit then (toString n).toList else formatted
  | none => formatted

/-- A text that was read, as a value. It writes a number if a number is all
that it holds besides blanks around it, and ends with a digit or a point. -/
def Value.ofInput (s : Octets) : Value :=
  let body := s.dropWhile Numeral.isBlank
  let last := (s.reverse.dropWhile Numeral.isBlank).head?
  let isFirst (c : Char) : Bool := c.isDigit || c = '.' || c = '+' || c = '-'
  if body.head?.any isFirst && last.any fun c => c.isDigit || c = '.' then
    match Real.read? 53 s with
    | some (x, rest) => if rest.all Numeral.isBlank then .numeric s (floatOf x) else .text s
    | none => .text s
  else .text s

namespace Value

/-- The value as a number. -/
def toNumber : Value → Float
  | nothing => 0
  | number x => x
  | text s => numberOf s
  | numeric _ x => x

/-- The value as a text. -/
def toText (format : Octets) : Value → Octets
  | nothing => []
  | number x => numberText format x
  | text s => s
  | numeric s _ => s

/-- The value counts as true. -/
def isTrue : Value → Bool
  | nothing => false
  | number x => x != 0
  | text s => !s.isEmpty
  | numeric _ x => x != 0

/-- The value is no text. -/
def isNumeric : Value → Bool
  | text _ => false
  | _ => true

/-- A truth value. -/
def ofBool (b : Bool) : Value := number (if b then 1 else 0)

/-- A natural number. -/
def ofNat (n : Nat) : Value := number (Float.ofNat n)

/-- The comparison holds for two values: as numbers, or as texts if one of
them is a text. -/
def compare (format : Octets) (c : Comparison) (a b : Value) : Bool :=
  if a.isNumeric && b.isNumeric then
    let (x, y) := (a.toNumber, b.toNumber)
    match c with
    | .lt => x < y
    | .le => x ≤ y
    | .eq => x == y
    | .ne => x != y
    | .gt => y < x
    | .ge => y ≤ x
  else
    let (x, y) := (a.toText format, b.toText format)
    match c with
    | .lt => x < y
    | .le => !(y < x)
    | .eq => x = y
    | .ne => x ≠ y
    | .gt => y < x
    | .ge => !(x < y)

end Value

/-- What an operation makes of two numbers. -/
def Arith.apply (op : Arith) (x y : Float) : Float :=
  match op with
  | .add => x + y
  | .sub => x - y
  | .mul => x * y
  | .div => x / y
  | .pow => x ^ y
  | .rem =>
    match realOf x, realOf y with
    | .finite negative a, .finite _ b =>
      if b.mantissa = 0 then -(0.0 / 0.0)
      else
        let low := min a.exponent b.exponent
        let m := a.mantissa * Nat.pow 2 (a.exponent - low).toNat
        let n := b.mantissa * Nat.pow 2 (b.exponent - low).toNat
        floatOf (.finite negative ⟨m % n, low⟩)
    | .finite .., .infinite _ => x
    | _, _ => -(0.0 / 0.0)

/-! ## Arrays -/

/-- An array. -/
structure Table where
  /-- The elements whose indices were only used as whole numbers, in the
  order in which they were made. -/
  numbered : List (Int × Value)
  /-- The other elements, those that were used last first. -/
  named : List (Octets × Value)

namespace Table

/-- An array without elements. -/
def empty : Table := ⟨[], []⟩

/-- The hash of an index. -/
def hash (s : Octets) : Nat :=
  s.foldl (fun h c => (h ^^^ c.toNat) * 16777619 % Nat.pow 2 32) 2166136261

/-- The index of a whole number. -/
def indexOf (n : Int) : Octets := (toString n).toList

/-- The array with all indices as texts. -/
def settled (t : Table) : Table :=
  let moved := t.numbered.mergeSort fun a b => a.1.emod 64 ≤ b.1.emod 64
  ⟨[], moved.foldl (fun named (n, v) => (indexOf n, v) :: named) t.named⟩

/-- The whole number that an index writes, if it is kept as one. -/
def number? (t : Table) (index : Octets) : Option Int :=
  (t.numbered.find? fun e => indexOf e.1 = index).map Prod.fst

/-- The value of an index. -/
def get? (t : Table) (index : Octets) : Option Value :=
  match t.number? index with
  | some n => t.numbered.lookup n
  | none => t.named.lookup index

/-- The array with the value of an index set; `whole` is the number that the
index was given as. -/
def set (t : Table) (whole : Option Int) (index : Octets) (v : Value) : Table :=
  match t.number? index, whole with
  | some n, some _ => { t with numbered := setKey n v t.numbered }
  | some n, none => { t with numbered := dropKey n t.numbered, named := (index, v) :: t.named }
  | none, some n =>
    if (t.named.lookup index).isSome then { t with named := (index, v) :: dropKey index t.named }
    else { t with numbered := t.numbered ++ [(n, v)] }
  | none, none => { t with named := (index, v) :: dropKey index t.named }

/-- The array without an index. -/
def erase (t : Table) (index : Octets) : Table :=
  match t.number? index with
  | some n => { t with numbered := dropKey n t.numbered }
  | none => { t with named := dropKey index t.named }

/-- The number of elements. -/
def size (t : Table) : Nat := t.numbered.length + t.named.length

/-- The number of lists that so many elements are spread over. -/
def lists (size : Nat) : Nat := if size ≤ 768 then 64 else if size ≤ 1536 then 128 else 256

/-- The indices in the order in which they are gone through. -/
def indices (t : Table) : List Octets :=
  let names := t.settled.named.map Prod.fst
  let n := lists names.length
  (names.map fun s => (hash s % n, s)).mergeSort (fun a b => a.1 ≤ b.1) |>.map Prod.snd

end Table

end Awk

end Shell

end Tangle
