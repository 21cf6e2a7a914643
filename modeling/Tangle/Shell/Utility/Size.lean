import Tangle.Shell.Utility.Amount
/-!
# Sizes of files

How sizes are written: as they are, in blocks of some size (`Unit.blocks`),
or with as much of a unit that only few digits are left (`Unit.scaled`). All
are rounded up.
-/

namespace Tangle

namespace Shell

namespace Utility

/-- The quotient, rounded up. -/
def ceilDiv (a b : Nat) : Nat := (a + b - 1) / b

/-- How sizes are written. -/
inductive SizeUnit where
  /-- In blocks of so many bytes, with a suffix. -/
  | blocks (size : Nat) (suffix : Octets)
  /-- With the unit for which they have few digits, out of the powers of a
  number. -/
  | scaled (base : Nat)
deriving Repr, DecidableEq

namespace SizeUnit

/-- Bytes. -/
def bytes : SizeUnit := .blocks 1 []

/-- The letters of units. -/
def letters : Octets := "KMGTPEZY".toList

/-- A size with a unit. -/
def scale (base n : Nat) : Octets :=
  let power := ((List.range 9).filter fun p => Nat.pow base p ≤ n).getLast?.getD 0
  if power = 0 then decimal n
  else
    let unit (p : Nat) : Octets := match letters[p - 1]? with
      | some 'K' => [if base = 1000 then 'k' else 'K']
      | some c => [c]
      | none => []
    let tenths := ceilDiv (10 * n) (Nat.pow base power)
    if tenths < 100 then decimal (tenths / 10) ++ ['.'] ++ decimal (tenths % 10) ++ unit power
    else
      let whole := ceilDiv n (Nat.pow base power)
      if whole = base then "1.0".toList ++ unit (power + 1) else decimal whole ++ unit power

/-- A size as it is written. -/
def write (u : SizeUnit) (n : Nat) : Octets :=
  match u with
  | .blocks size suffix => decimal (ceilDiv n size) ++ suffix
  | .scaled base => scale base n

/-- The unit that a text describes, or what is wrong with it. -/
def read (option : String) (s : Octets) : Except Problem SizeUnit :=
  let said := option ++ " argument '" ++ Octets.text s ++ "'"
  if s = "human-readable".toList then .ok (.scaled 1024)
  else if s = "si".toList then .ok (.scaled 1000)
  else
    match Amount.read? "EgGkKmMPtTYZ0" s with
    | .ok 0 => .error (.value ("invalid " ++ said))
    | .ok n => .ok (.blocks n (if s.head?.any Char.isDigit then [] else
        (match s with
          | 'K' :: 'B' :: rest => 'k' :: 'B' :: rest
          | s => s)))
    | .error .beyond => .error (.value (said ++ " too large"))
    | .error .malformed =>
      .error (.value ((if s.head?.any Char.isDigit then "invalid suffix in " else "invalid ") ++ said))

end SizeUnit

/-- The size of a file in bytes. -/
def sizeOf : Node → Nat
  | .directory _ _ => 4096
  | .link target => target.utf8ByteSize
  | n => (n.content?.getD []).length

/-- The room that a file takes up on the disk, in bytes. -/
def roomOf : Node → Nat
  | .directory _ _ => 4096
  | .file content _ => ceilDiv content.length 4096 * 4096
  | _ => 0

end Utility

end Shell

end Tangle
