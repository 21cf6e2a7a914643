import Tangle.Shell.Utility.Basic
/-!
# Amounts

Programs take numbers as arguments, some of them with a unit such as `k` or
`MB` behind (`Amount.read?`). What is too great, or outside of what the
program can use, is a fault that the complaint tells from a text that is no
number at all (`Amount.within`).
-/

namespace Tangle

namespace Shell

namespace Utility

namespace Amount

/-- Why a text is no amount. -/
inductive Flaw where
  /-- It is not written like one. -/
  | malformed
  /-- It is greater than any amount. -/
  | beyond
deriving Repr, DecidableEq

/-- The greatest amount. -/
def greatest : Nat := Nat.pow 2 64 - 1

/-- The power of a thousand, or of 1024, that a letter stands for. -/
def power? (c : Char) : Option Nat :=
  match c with
  | 'k' | 'K' => some 1
  | 'm' | 'M' => some 2
  | 'g' | 'G' => some 3
  | 't' | 'T' => some 4
  | 'P' => some 5
  | 'E' => some 6
  | 'Z' => some 7
  | 'Y' => some 8
  | _ => none

/-- The factor that a unit stands for. The letters in `units` are known; a
zero among them tells that they may have a `B` or `iB` behind. -/
def factor? (units : String) (unit : Octets) : Option Nat :=
  match unit with
  | [] => some 1
  | c :: rest =>
    if !units.toList.contains c then none
    else
      match power? c with
      | some n =>
        if rest.isEmpty then some (Nat.pow 1024 n)
        else if !units.toList.contains '0' then none
        else if rest = ['i', 'B'] then some (Nat.pow 1024 n)
        else if rest = ['B'] || rest = ['D'] then some (Nat.pow 1000 n)
        else none
      | none =>
        if !rest.isEmpty then none
        else
          match c with
          | 'b' => some 512
          | 'B' => some 1024
          | 'c' => some 1
          | 'w' => some 2
          | _ => none

/-- The amount that a text writes. A unit alone stands for one of it. -/
def read? (units : String) (s : Octets) : Except Flaw Nat :=
  let body := match s.dropWhile Numeral.isBlank with
    | '+' :: r => r
    | r => r
  let ds := body.takeWhile Char.isDigit
  let number : Option (Nat × Octets) :=
    if ds.isEmpty then (if s.isEmpty then none else some (1, s)) else (Octets.nat? ds).map (·, body.drop ds.length)
  match number.bind fun (n, unit) => (factor? units unit).map (n * ·) with
  | none => .error .malformed
  | some n => if greatest < n then .error .beyond else .ok n

/-- What is added to the complaint about a number that cannot be used. -/
def outside (n : Int) : String :=
  if Int.pow 2 30 ≤ n then ": Value too large for defined data type" else ": Numerical result out of range"

/-- The amount that a text writes, if it lies between two others; otherwise
the complaint. -/
def within (units : String) (least most : Nat) (s : Octets) : Except String Nat :=
  match read? units s with
  | .error .malformed => .error (curly s)
  | .error .beyond => .error (curly s ++ outside (Int.pow 2 64))
  | .ok n => if n < least || most < n then .error (curly s ++ outside n) else .ok n

/-- The whole number that a text writes, or the complaint. -/
def whole (s : Octets) : Except String Int :=
  match Numeral.read? (some 10) s with
  | some ⟨n, []⟩ => if Numeral.isBeyond n then .error (curly s ++ outside (Int.pow 2 64)) else .ok n
  | _ => .error (curly s)

end Amount

/-- The amount that an option asks for, or another one if it was not given;
`what` tells what is wrong. -/
def Invoked.amount (i : Invoked) (letter : Char) (what units : String) (least most standard : Nat) :
    Except Problem Nat :=
  match i.value? letter with
  | none => .ok standard
  | some v => (Amount.within units least most v).mapError fun reason => .value (what ++ ": " ++ reason)

end Utility

end Shell

end Tangle
