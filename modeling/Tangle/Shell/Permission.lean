import Tangle.Shell.Octets
/-!
# Permission bits

A file has three bits for its owner, its group and all others each: who may
read, write and call it, and three bits besides. They are written as an
octal number, or as changes such as `u=rw,go-w` (`Permission.read?`), which
are made one after the other (`Permission.adjusted`).
-/

namespace Tangle

namespace Shell

namespace Permission

/-- All bits. -/
def all : Nat := 0o7777

/-- The bits that a letter stands for as the people whom a change is
about. -/
def people (c : Char) : Option Nat :=
  match c with
  | 'u' => some 0o4700
  | 'g' => some 0o2070
  | 'o' => some 0o1007
  | 'a' => some 0o7777
  | _ => none

/-- What a change sets or takes. -/
inductive Bits where
  /-- These bits. -/
  | these (bits : Nat)
  /-- These bits, and the right to call what somebody can call or what is a
  directory. -/
  | callable (bits : Nat)
  /-- The bits that these people have. -/
  | those (people : Nat)
deriving Repr, DecidableEq

/-- A change. -/
structure Change where
  /-- A plus, a minus, or an equals sign. -/
  sign : Char
  /-- The bits that can change, if somebody is named. -/
  reach : Nat
  /-- What is set or taken. -/
  bits : Bits
  /-- The bits that are mentioned, which a directory does not keep. -/
  mentioned : Nat
deriving Repr, DecidableEq

/-- The bits for all people that a letter names. -/
def rights (c : Char) : Option Nat :=
  match c with
  | 'r' => some 0o444
  | 'w' => some 0o222
  | 'x' => some 0o111
  | 'X' => some 0
  | 's' => some 0o6000
  | 't' => some 0o1000
  | _ => none

/-- The bits of several letters. -/
def union (f : Char → Option Nat) (letters : Octets) : Nat :=
  letters.foldl (fun n c => n ||| (f c).getD 0) 0

/-- The octal number that digits write, if it has no other bits than those
there are. -/
def octal? (ds : Octets) : Option Nat :=
  (Octets.inBase? 8 ds).bind fun n => if n ≤ all then some n else none

/-- What stands after the sign of a change, and what follows it. -/
def readBits (s : Octets) : Bits × Octets :=
  match s with
  | 'u' :: rest => (.those 0o700, rest)
  | 'g' :: rest => (.those 0o070, rest)
  | 'o' :: rest => (.those 0o007, rest)
  | s =>
    let letters := s.takeWhile fun c => (rights c).isSome
    let bits := union rights letters
    (if letters.contains 'X' then .callable bits else .these bits, s.drop letters.length)

/-- The changes that are about the people in `reach`. -/
def readChanges (reach : Nat) : Nat → Octets → Option (List Change)
  | 0, _ => none
  | _ + 1, [] => some []
  | fuel + 1, sign :: s =>
    if sign ≠ '+' && sign ≠ '-' && sign ≠ '=' then none
    else
      let ds := s.takeWhile fun c => '0' ≤ c && c ≤ '7'
      if !ds.isEmpty then
        (octal? ds).bind fun n =>
          if reach = 0 && ds.length = s.length then some [⟨sign, all, .these n, all⟩] else none
      else
        let (bits, rest) := readBits s
        let value := match bits with
          | .these n => n
          | .callable n => n
          | .those n => n
        let mentioned := if reach = 0 then value else reach &&& value
        (readChanges reach fuel rest).map (⟨sign, reach, bits, mentioned⟩ :: ·)

/-- The changes that a text describes. -/
def read? (s : Octets) : Option (List Change) :=
  if s.head?.any fun c => '0' ≤ c && c ≤ '7' then
    (octal? s).map fun n => [⟨'=', all, .these n, if s.length < 5 then (n &&& 0o7000) ||| 0o777 else all⟩]
  else
    ((Octets.splitOn ',' s).mapM fun (clause : Octets) =>
      let who := clause.takeWhile fun c => (people c).isSome
      let rest := clause.drop who.length
      if rest.isEmpty then none else readChanges (union people who) (rest.length + 1) rest).map List.flatten

/-- The bits after a change. Where nobody is named, those in `masked` do not
change. -/
def Change.applied (c : Change) (isDirectory : Bool) (masked mode : Nat) : Nat :=
  let without (m n : Nat) : Nat := m &&& (all - n)
  let kept := if isDirectory then without 0o6000 (c.mentioned &&& all) else 0
  let value := match c.bits with
    | .these n => n
    | .callable n => if isDirectory || mode &&& 0o111 ≠ 0 then n ||| 0o111 else n
    | .those people =>
      let own := mode &&& people
      (if own &&& 0o444 ≠ 0 then 0o444 else 0) ||| (if own &&& 0o222 ≠ 0 then 0o222 else 0)
        ||| (if own &&& 0o111 ≠ 0 then 0o111 else 0)
  let value := without (value &&& (if c.reach = 0 then all - masked else c.reach)) kept
  match c.sign with
  | '+' => mode ||| value
  | '-' => without mode value
  | _ => (mode &&& ((if c.reach = 0 then 0 else all - c.reach) ||| kept)) ||| value

/-- The bits after changes. -/
def adjusted (isDirectory : Bool) (masked : Nat) (changes : List Change) (mode : Nat) : Nat :=
  changes.foldl (fun mode c => c.applied isDirectory masked mode) mode

/-- The bits of a file after the changes that a text describes. -/
def change? (s : Octets) (mode : Nat) : Option Nat := (read? s).map fun cs => adjusted false 0 cs mode

/-- The bits as letters, people by people. -/
def letters (mode : Nat) : Octets :=
  let three (n : Nat) : Octets :=
    (if n / 4 % 2 = 1 then ['r'] else []) ++ (if n / 2 % 2 = 1 then ['w'] else []) ++ (if n % 2 = 1 then ['x'] else [])
  ['u', '='] ++ three (mode / 64) ++ [',', 'g', '='] ++ three (mode / 8) ++ [',', 'o', '='] ++ three mode

/-- The bits as four octal digits. -/
def digits (mode : Nat) : Octets :=
  let ds := Nat.toDigits 8 mode
  List.replicate (4 - ds.length) '0' ++ ds

/-- The bits as a listing shows them. -/
def row (mode : Nat) : Octets :=
  let has (bit : Nat) : Bool := mode &&& bit ≠ 0
  let three (shift special : Nat) (letter : Char) : Octets :=
    let mark (bit : Nat) (c : Char) : Char := if has (bit * shift) then c else '-'
    let last := if has special then (if has shift then letter else letter.toUpper) else mark 1 'x'
    [mark 4 'r', mark 2 'w', last]
  three 64 0o4000 's' ++ three 8 0o2000 's' ++ three 1 0o1000 't'

end Permission

end Shell

end Tangle
