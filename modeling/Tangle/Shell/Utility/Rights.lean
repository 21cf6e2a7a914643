import Tangle.Shell.Permission
import Tangle.Shell.Utility.Target
/-!
# Changing permission bits

The program that changes who may read, write and call files (`chmod`). The
change is an operand, an option such as `-w`, or that of another file.
-/

namespace Tangle

namespace Shell

namespace Utility

namespace Rights

/-- How bits are changed. -/
structure Setting where
  /-- Directories with all that is in them. -/
  recursive : Bool
  /-- Faults are not told. -/
  silent : Bool
  /-- All is told, or only what is changed. -/
  telling : Option Bool
  /-- The change. -/
  changes : List Permission.Change
  /-- The change stands in options, so its result may surprise. -/
  isOption : Bool

/-- The bits as they are told. -/
def told (mode : Nat) : Octets := Permission.digits mode ++ [' ', '('] ++ Permission.row mode ++ [')']

/-- The files below a node by their paths, each directory first. -/
def filesBelow : Nat → Octets → Place → Node → List (Octets × Place × Node)
  | 0, _, _, _ => []
  | fuel + 1, path, place, node =>
    node.entries.flatMap fun e =>
      let path := below path (Octets.ofString e.1)
      let place := place ++ [e.1]
      (path, place, e.2) :: filesBelow fuel path place e.2

/-- Changes the bits of one file. -/
def change (i : Invoked) (v : Setting) (path : Octets) (place : Place) (node : Node) (s : State) : State :=
  let former := node.mode
  let masked := if v.isOption || v.changes.any (fun c => c.reach = 0) then s.umask else 0
  let mode := Permission.adjusted node.isDirectory masked v.changes former
  let s := s.changeAttributes (fun a => { a with mode }) place
  let s :=
    if mode ≠ former && v.telling.isSome then
      s.print ("mode of ".toList ++ quoteOctets path ++ " changed from ".toList ++ told former ++ " to ".toList
        ++ told mode ++ ['\n'])
    else if v.telling = some true then
      s.print ("mode of ".toList ++ quoteOctets path ++ " retained as ".toList ++ told mode ++ ['\n'])
    else s
  let naive := Permission.adjusted node.isDirectory 0 v.changes former
  if v.isOption && mode &&& (Permission.all - naive) ≠ 0 then
    i.complain (quoteRare path ++ ": new permissions are " ++ Octets.text (Permission.row mode) ++ ", not "
      ++ Octets.text (Permission.row naive)) s
  else s

/-- Changes the bits of what an operand names. -/
def changeOperand (i : Invoked) (v : Setting) (o : Octets) (s : State) : State :=
  let failed (message : String) (s : State) : State :=
    let s := if v.silent then s.ended 1 else i.complain message s
    if v.telling = some true then s.print (quoteOctets o ++ " could not be accessed\n".toList) else s
  match s.disk.find s.cwd (State.path o) with
  | .error fault => failed ("cannot access " ++ quote o ++ ": " ++ faultText fault) s
  | .ok found =>
    match found.existing with
    | .error fault =>
      if (s.lookupEntry (State.path o)).toOption.any Node.isLink then
        failed ("cannot operate on dangling symlink " ++ quote o) s
      else failed ("cannot access " ++ quote o ++ ": " ++ faultText fault) s
    | .ok node =>
      let s := change i v o found.place node s
      if v.recursive then
        ((filesBelow 200 o found.place node).filter fun e => !e.2.2.isLink).foldl (fun s (path, place, n) =>
          change i v path place n s) s
      else s

/-- The letters of changes that stand in options. -/
def letters : String := "rwxXstugoa,+=01234567"

end Rights

/-- Changes permission bits. -/
def chmod : Utility :=
  withOptions ⟨"Rcfvπν", "ρ", Rights.letters, [("changes", 'c'), ("no-preserve-root", 'ν'), ("preserve-root", 'π'), ("quiet", 'f'),
      ("recursive", 'R'), ("reference", 'ρ'), ("silent", 'f'), ("verbose", 'v')], false, 1⟩ fun i s =>
    let inOptions := (i.options.filter fun o => Rights.letters.toList.contains o.1).map fun o => '-' :: o.1 :: o.2
    let setting (changes : List Permission.Change) : Rights.Setting :=
      ⟨i.has 'R', i.has 'f', (i.last? "cv").map (· = 'v'), changes, !inOptions.isEmpty⟩
    match i.value? 'ρ', inOptions, i.operands with
    | some _, _ :: _, _ => i.refuse "cannot combine mode and --reference options" s
    | some _, [], [] => i.refuse "missing operand" s
    | some file, [], operands =>
      match s.lookup (State.path file) with
      | .error fault => i.complain ("failed to get attributes of " ++ quote file ++ ": " ++ faultText fault) s
      | .ok node =>
        operands.foldl (fun s o =>
          Rights.changeOperand i (setting [⟨'=', Permission.all, .these node.mode, Permission.all⟩]) o s) s
    | none, _ :: _, [] => i.refuse "missing operand" s
    | none, [], [] => i.refuse "missing operand" s
    | none, [], [mode] => i.refuse ("missing operand after " ++ curly mode) s
    | none, texts, operands =>
      let mode := if texts.isEmpty then operands.head?.getD [] else List.intercalate [','] texts
      match Permission.read? mode with
      | none => i.refuse ("invalid mode: " ++ curly mode) s
      | some changes =>
        (if texts.isEmpty then operands.drop 1 else operands).foldl (fun s o =>
          Rights.changeOperand i (setting changes) o s) s

end Utility

end Shell

end Tangle
