import Tangle.Disk.Node
/-!
# Changes of a disk

What has to be done to one tree of files to make it another one
(`Node.changes`). Directories come before what lies in them, and what is
removed is named with all that lies below it, deepest entries first.
-/

namespace Tangle

/-- A step in changing a tree of files. -/
inductive Change where
  /-- Make a directory. -/
  | makeDirectory (place : Place)
  /-- Write a file. -/
  | writeFile (place : Place) (content : Bytes) (mode : Nat)
  /-- Make a symbolic link. -/
  | makeLink (place : Place) (target : String)
  /-- Remove a file. -/
  | removeFile (place : Place)
  /-- Remove an empty directory. -/
  | removeDirectory (place : Place)
deriving Repr, DecidableEq

namespace Node

/-- The removal of a node. -/
def removal (place : Place) : Node → Change
  | directory _ _ => .removeDirectory place
  | _ => .removeFile place

/-- Two nodes of the same kind, so that one can become the other. -/
def sameKind : Node → Node → Bool
  | directory _ _, directory _ _ => true
  | file _ _, file _ _ => true
  | link a, link b => a = b
  | device a, device b => a = b
  | program a, program b => a = b
  | _, _ => false

/-- The steps that remove the nodes of `old` which are not in `new`, or are
of another kind there. -/
def removals (old new : Node) : List Change :=
  (old.descendants.filter fun e =>
    match new.get? e.1 with
    | some n => !sameKind n e.2
    | none => true).reverse.map fun e => removal e.1 e.2

/-- The steps that make the nodes of `new` which are not in `old`, or are
different there. -/
def additions (old new : Node) : List Change :=
  new.descendants.filterMap fun e =>
    match e.2, old.get? e.1 with
    | directory _ _, some (directory _ _) => none
    | directory _ _, _ => some (.makeDirectory e.1)
    | file content a, some (file former b) =>
      if content = former && a.mode = b.mode then none else some (.writeFile e.1 content a.mode)
    | file content a, _ => some (.writeFile e.1 content a.mode)
    | link target, former => if former.any (sameKind (link target)) then none else some (.makeLink e.1 target)
    | _, _ => none

/-- The steps from one tree to another. -/
def changes (old new : Node) : List Change :=
  removals old new ++ additions old new

end Node

end Tangle
