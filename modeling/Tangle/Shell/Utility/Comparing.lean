import Tangle.Shell.Utility.Amount
import Tangle.Shell.Utility.Paths
/-!
# Comparing files byte by byte

The program that tells where two files differ (`cmp`): the first place, or
all places with the bytes there, or by its status only.
-/

namespace Tangle

namespace Shell

namespace Utility

namespace Comparing

/-- How files are compared. -/
structure Setting where
  /-- The bytes are told as characters too. -/
  characters : Bool
  /-- All places are told. -/
  all : Bool
  /-- Nothing is told. -/
  silent : Bool
  /-- The bytes at the start of each file that do not count. -/
  skips : Nat × Nat
  /-- So many bytes are compared. -/
  most : Option Nat

/-- The amount of bytes that a text tells. -/
def bytes (option : String) (s : Octets) : Except Problem Nat :=
  match Amount.read? "kKMGTPEZY0" s with
  | .ok n => if (s.head?.any fun c => c.isDigit || c = '+' || Numeral.isBlank c) then .ok n
      else .error (.usage ("invalid --" ++ option ++ " value '" ++ Octets.text s ++ "'"))
  | .error _ => .error (.usage ("invalid --" ++ option ++ " value '" ++ Octets.text s ++ "'"))

/-- The setting with an option added. -/
def Setting.add (v : Setting) (o : Char × Octets) : Except Problem Setting := do
  match o.1 with
  | 'b' => return { v with characters := true }
  | 'i' =>
    let front := o.2.takeWhile (· ≠ ':')
    let refused : Problem := .usage ("invalid --ignore-initial value '" ++ Octets.text o.2 ++ "'")
    if o.2.contains ':' && front.isEmpty then throw refused
    let a ← (bytes "ignore-initial" front).mapError fun _ => refused
    let b ← if o.2.contains ':' then bytes "ignore-initial" (o.2.drop (front.length + 1)) else pure a
    return { v with skips := (max v.skips.1 a, max v.skips.2 b) }
  | 'l' => return { v with all := true }
  | 'n' =>
    let n ← bytes "bytes" o.2
    return { v with most := some (v.most.elim n (min n)) }
  | 's' => return { v with silent := true }
  | _ => return v

/-- The setting that options describe. -/
def Setting.of (options : List (Char × Octets)) : Except Problem Setting := do
  let v ← options.foldlM Setting.add ⟨false, false, false, (0, 0), none⟩
  if v.all && v.silent then throw (.usage "options -l and -s are incompatible")
  return v

/-- A number in base eight, three columns wide. -/
def octal (c : Char) : Octets := padLeft 3 (Nat.toDigits 8 c.toNat)

/-- A byte as a character that can be seen. -/
def visible (c : Char) : Octets :=
  let (front, n) : Octets × Nat := if 128 ≤ c.toNat then (['M', '-'], c.toNat - 128) else ([], c.toNat)
  front ++ (if n < 32 then ['^', Char.ofNat (n + 64)] else if n = 127 then ['^', '?'] else [Char.ofNat n])

/-- A byte in base eight and as a character, which is filled up to a
width. -/
def shown (width : Nat) (c : Char) : Octets :=
  let v := visible c
  octal c ++ ' ' :: v ++ List.replicate (width - v.length) ' '

/-- What one file ends before the other, told behind its name. `n` has the
bytes that they have in common. -/
def ending (v : Setting) (n : Octets) : String :=
  if n.isEmpty then " which is empty"
  else
    let line := if v.all then ""
      else if n.getLast? = some '\n' then ", line " ++ toString (n.count '\n')
      else ", in line " ++ toString (n.count '\n' + 1)
    " after byte " ++ toString n.length ++ line

/-- A file that is compared. -/
structure Side where
  /-- Its name. -/
  name : Octets
  /-- Its bytes. -/
  text : Octets
  /-- It is a regular file. -/
  isRegular : Bool

/-- Compares the bytes that count. -/
def compare (i : Invoked) (v : Setting) (a b : Side) (s : State) : State :=
  let cut (x : Octets) : Octets := v.most.elim x (x.take ·)
  let (x, y) := (cut a.text, cut b.text)
  let pairs := (x.zip y).zip (List.range x.length)
  let differences := pairs.filter fun ((c, d), _) => c ≠ d
  if v.silent then if x = y then s else s.ended 1
  else
    let s := if v.all then
        let sizes := ([a, b].filter Side.isRegular).map (·.text.length)
        let most := (v.most.toList ++ sizes).foldl min (Nat.pow 2 63 - 1)
        let line := fun ((c, d), n) => padLeft (decimal most).length (decimal (n + 1)) ++ ' ' ::
          (if v.characters then shown 4 c ++ ' ' :: shown 0 d else octal c ++ ' ' :: octal d) ++ ['\n']
        if differences.isEmpty then s else (s.print (differences.flatMap line)).ended 1
      else
        match differences with
        | [] => s
        | ((c, d), n) :: _ =>
          let tail := if v.characters then " is ".toList ++ shown 0 c ++ ' ' :: shown 0 d else []
          (s.print (a.name ++ ' ' :: b.name ++ " differ: byte ".toList ++ decimal (n + 1) ++ ", line ".toList
            ++ decimal ((x.take n).count '\n' + 1) ++ tail ++ ['\n'])).ended 1
    if x.length = y.length || (!v.all && !differences.isEmpty) then s
    else
      let short := if x.length < y.length then { a with text := x } else { b with text := y }
      i.complain ("EOF on " ++ Octets.text short.name ++ ending v short.text) s

/-- The file of an operand. -/
def place? (o : Octets) (s : State) : Except Fault (Option Place) :=
  if o = ['-'] then .ok (placeOf 0 s)
  else (s.disk.find s.cwd (State.path o)).bind fun found => found.existing.map fun _ => some found.place

end Comparing

/-- Compares two files byte by byte. -/
def cmp : Utility := fun call argv =>
  withSetting ⟨"blsc", "in", "", [("print-bytes", 'b'), ("print-chars", 'b'), ("ignore-initial", 'i'), ("verbose", 'l'),
      ("bytes", 'n'), ("silent", 's'), ("quiet", 's')], false, 2⟩
    (fun options => Comparing.Setting.of (options.map fun o => if o.1 = 'c' then ('b', []) else o)) (fun i v s =>
    let operands := if i.operands.length = 1 then i.operands ++ [['-']] else i.operands
    match operands with
    | a :: b :: rest =>
      let skips : Except Problem (Nat × Nat) := do
        let first ← match rest[0]? with
          | some t => Comparing.bytes "ignore-initial" t
          | none => pure 0
        let second ← match rest[1]? with
          | some t => Comparing.bytes "ignore-initial" t
          | none => pure 0
        match rest[2]? with
        | some t => throw (.usage ("extra operand '" ++ Octets.text t ++ "'"))
        | none => return (max v.skips.1 first, max v.skips.2 second)
      match skips with
      | .error problem => (i.reject problem s).ended 2
      | .ok skips =>
        let failed (o : Octets) (fault : Fault) (s : State) : State :=
          (if v.silent && fault ≠ .isADirectory then s else i.complain (Octets.text o ++ ": " ++ faultText fault) s).ended 2
        match Comparing.place? a s, Comparing.place? b s with
        | .error fault, _ => failed a fault s
        | _, .error fault => failed b fault s
        | .ok p, .ok q =>
          if a = b && skips.1 = skips.2 || p.isSome && q.isSome && skips.1 = skips.2
              && s.isSameFile (p.getD []) (q.getD []) then s
          else
            match content a s with
            | (.error fault, s) => failed a fault s
            | (.ok x, s) =>
              match content b s with
              | (.error fault, s) => failed b fault s
              | (.ok y, s) => Comparing.compare i v ⟨a, x.drop skips.1, p.isSome⟩ ⟨b, y.drop skips.2, q.isSome⟩ s
    | operands =>
      let last := Octets.text ((operands ++ argv.reverse).head?.getD [])
      (i.refuse ("missing operand after '" ++ last ++ "'") s).ended 2) call argv

end Utility

end Shell

end Tangle
