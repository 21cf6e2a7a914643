import Tangle.Shell.Utility.Paths
/-!
# Targets of copies, moves and links

Programs that give files a new place take it as their last operand, or as
the directory of an option (`Destination.of`). What stands there can be kept
under another name (`Backup`).
-/

namespace Tangle

namespace Shell

namespace Utility

/-- Asks a question; the answer is yes if the next line of the input starts
so. -/
def hears (question : String) (s : State) : Bool × State :=
  let s := { s.write 2 (Octets.ofString question) with writeFault := s.writeFault }
  match s.readable 0 with
  | .error _ => (false, s)
  | .ok text =>
    let line := text.takeWhile (· ≠ '\n')
    (line.head? = some 'y' || line.head? = some 'Y', s.consume 0 (min text.length (line.length + 1)))

/-- Asks a question in the name of the program. -/
def Invoked.asks (i : Invoked) (question : String) (s : State) : Bool × State := hears (i.name ++ ": " ++ question ++ "? ") s

/-! ## Backups -/

/-- How what is overwritten is kept. -/
inductive Backup where
  /-- Not at all. -/
  | none
  /-- With a suffix. -/
  | simple
  /-- With a number. -/
  | numbered
  /-- With a number if there are such backups already, or else a suffix. -/
  | existing
deriving Repr, DecidableEq

namespace Backup

/-- The words for the ways. -/
def words : List (List String) := [["none", "off"], ["simple", "never"], ["existing", "nil"], ["numbered", "t"]]

/-- The way that a word names. -/
def ofWord (word : String) : Backup :=
  match word with
  | "none" => none
  | "simple" => simple
  | "existing" => existing
  | _ => numbered

/-- The way that options ask for, where `letter` has an optional word and
`suffix` gives a suffix. -/
def ofOptions (letter suffix : Char) (options : List (Char × Octets)) : Except Problem (Backup × Octets) := do
  let way ← options.foldlM (fun (b : Backup) o => do
    if o.1 = letter && !o.2.isEmpty then return ofWord (← chooseWord "backup type" words o.2)
    else if o.1 = letter || o.1 = 'b' then return existing
    else if o.1 = suffix && b = none then return existing
    else return b) none
  let ending := ((options.filter fun o => o.1 = suffix).getLast?).map Prod.snd
  return (way, match ending with
    | some e => if e.isEmpty || e.contains '/' then ['~'] else e
    | Option.none => ['~'])

/-- The greatest number of the numbered backups of a file. -/
def greatest (place : Place) (s : State) : Nat :=
  let name := place.getLast?.getD ""
  let entries := ((s.disk.get? place.dropLast).map Node.entries).getD []
  entries.foldl (fun n e =>
    let rest := Octets.ofString e.1
    let front := Octets.ofString name ++ ['.', '~']
    if front.isPrefixOf rest && rest.getLast? = some '~' then
      max n ((Octets.nat? ((rest.drop front.length).dropLast)).getD 0)
    else n) 0

/-- What is added to the path of a file to name its backup. -/
def ending (b : Backup) (suffix : Octets) (place : Place) (s : State) : Octets :=
  let n := greatest place s
  if b = numbered || (b = existing && 0 < n) then ['.', '~'] ++ decimal (n + 1) ++ ['~'] else suffix

/-- Keeps what is at a path; the first value is the path of the backup. -/
def keep (b : Backup) (suffix path : Octets) (s : State) : Option Octets × State :=
  match b, s.entryAt (State.path path) with
  | none, _ => (Option.none, s)
  | b, .ok found =>
    if found.node.isNone then (Option.none, s)
    else
      let kept := path ++ b.ending suffix found.place s
      match s.rename (State.path path) (State.path kept) with
      | .ok s => (some kept, s)
      | .error _ => (Option.none, s)
  | _, .error _ => (Option.none, s)

end Backup

/-! ## Destinations -/

/-- Where files go. -/
structure Destination where
  /-- The files. -/
  sources : List Octets
  /-- The directory that they go into, or the name that the only one gets. -/
  target : Octets
  /-- It is a directory. -/
  isDirectory : Bool

/-- The path of a name in a directory. -/
def inDirectory (directory name : Octets) : Octets := below directory (name.dropWhile (· = '/'))

namespace Destination

/-- The complaint that a target is no directory. -/
def refusal (what path : Octets) (s : State) : Problem :=
  let fault : Fault := match s.lookup (State.path path) with
    | .ok _ => .notADirectory
    | .error fault => fault
  .value (Octets.text what ++ " " ++ quote path ++ ": " ++ faultText fault)

/-- Where the operands go. `directory` is the directory of an option, and
`plain` tells that the target is no directory even if there is one.
`follows` tells that a link to a directory counts as one. -/
def of (operands : List Octets) (directory : Option Octets) (plain follows : Bool) (combining : String) (s : State) :
    Except Problem Destination :=
  let isTarget (o : Octets) : Bool :=
    s.disk.isDirectoryAt s.cwd (State.path o)
      && (follows || !((s.lookupEntry (State.path o)).toOption.any Node.isLink))
  if operands.isEmpty then .error (.usage "missing file operand")
  else if plain && directory.isSome then .error (.value combining)
  else
    match operands, directory with
    | [], _ => .error (.usage "missing file operand")
    | os, some d => if isTarget d then .ok ⟨os, d, true⟩ else .error (refusal "target directory".toList d s)
    | [o], none => .error (.usage ("missing destination file operand after " ++ quote o))
    | [o, t], none => .ok ⟨[o], t, !plain && isTarget t⟩
    | os, none =>
      let t := os.getLast?.getD []
      if plain then .error (.usage ("extra operand " ++ quote (os[2]?.getD [])))
      else if isTarget t then .ok ⟨os.dropLast, t, true⟩
      else .error (refusal "target".toList t s)

/-- The path that a file gets. -/
def pathOf (d : Destination) (o : Octets) : Octets :=
  if d.isDirectory then inDirectory d.target (lastSegment o) else d.target

end Destination

end Utility

end Shell

end Tangle
