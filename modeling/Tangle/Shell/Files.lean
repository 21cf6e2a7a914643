import Tangle.Shell.State
/-!
# Changing the tree of files

What commands do with entries as a whole: making, removing, renaming and
linking them. Each of these either is done or meets a fault and does
nothing. A file that is open stays what it is under its new name, and even
after its last name is gone (`State.release`).
-/

namespace Tangle

namespace Shell

namespace State

/-- Where an entry is or would be; a link is its own entry. -/
def entryAt (path : Path) (s : State) : Except Fault Found := s.disk.findEntry false s.cwd path

/-- The files under two places are the same one. -/
def isSameFile (s : State) (a b : Place) : Bool :=
  a = b || (((s.disk.get? a).bind Node.shared?).isSome && (s.disk.get? a).bind Node.shared? = (s.disk.get? b).bind Node.shared?)

/-- The directory around a place has been changed. -/
def changedAround (place : Place) (s : State) : State :=
  { s with disk := s.disk.modify (Node.withAttributes fun a => { a with modified := s.now }) place.dropLast }

/-- Puts a node at a place. -/
def putNode (node : Node) (place : Place) (s : State) : State :=
  let isNew := (s.disk.get? place).isNone
  let s := { s with disk := s.disk.put node place }
  if isNew then s.changedAround place else s

/-- Lets the streams that lead to a file lead to something else. -/
def retarget (place : Place) (target : Target) (s : State) : State :=
  { s with streams := s.streams.map fun st => if st.target = .file place then { st with target } else st }

/-- The places of files that are open at or below a place. -/
def openBelow (place : Place) (s : State) : List Place :=
  (s.streams.foldl (fun (found : List Place) st =>
    match st.target with
    | .file p => if place.isPrefixOf p && !found.contains p then p :: found else found
    | _ => found) []).reverse

/-- Another name of the file at a place. -/
def otherName? (place : Place) (s : State) : Option Place :=
  ((s.disk.get? place).bind Node.shared?).bind fun number =>
    ((s.disk.descendants.filter fun e => e.2.shared? = some number && e.1 ≠ place).head?).map Prod.fst

/-- Lets the files that are open at or below a place be without that
name. -/
def release (place : Place) (s : State) : State :=
  (s.openBelow place).foldl (fun s p =>
    match s.otherName? p with
    | some other => s.retarget p (.file other)
    | none =>
      let text := match s.disk.get? p with
        | some node => Octets.ofBytes (node.content?.getD [])
        | none => []
      let (kept, s) := s.addStream { Stream.keeper with unread := text }
      s.retarget p (.again kept)) s

/-- Removes what is at a place. -/
def eraseNode (place : Place) (s : State) : State :=
  let s := s.release place
  { s with disk := s.disk.erase place }.changedAround place

/-- Makes a directory with these permission bits. -/
def makeDirectory (mode : Nat) (path : Path) (s : State) : Except Fault State := do
  let found ← s.entryAt path
  match found.node with
  | some _ => throw .alreadyExists
  | none => return s.putNode (.directory [] ⟨mode, s.now, none⟩) found.place

/-- Removes a file. -/
def removeFile (path : Path) (s : State) : Except Fault State := do
  let found ← s.entryAt path
  match ← found.existing with
  | .directory _ _ => throw .isADirectory
  | _ => return s.eraseNode found.place

/-- The last segment of a path that is no slash. -/
def lastSegment (path : Path) : List Char :=
  ((Path.segments path.text.toList).filter fun x => !x.isEmpty).getLast?.getD []

/-- Removes an empty directory. -/
def removeDirectory (path : Path) (s : State) : Except Fault State := do
  let found ← s.entryAt path
  match ← found.existing with
  | .directory es _ =>
    if found.place.isEmpty then throw .busy
    else if lastSegment path = ['.'] then throw .invalidArgument
    else if !es.isEmpty || lastSegment path = ['.', '.'] then throw .notEmpty
    else return s.eraseNode found.place
  | _ => throw .notADirectory

/-- Gives an entry another name, over the entry that has it. -/
def rename (from' to' : Path) (s : State) : Except Fault State := do
  let source ← s.entryAt from'
  let node ← source.existing
  let target ← s.entryAt to'
  let isDot (p : Path) : Bool := lastSegment p = ['.'] || lastSegment p = ['.', '.'] || lastSegment p = []
  if isDot from' || isDot to' then throw .busy
  if target.asDirectory && !node.isDirectory && target.node.isNone then throw .notADirectory
  if node.isDirectory && source.place.isPrefixOf target.place && source.place ≠ target.place then throw .invalidArgument
  match target.node with
  | some former =>
    if node.isDirectory && !former.isDirectory then throw .notADirectory
    if !node.isDirectory && former.isDirectory then throw .isADirectory
    if !former.entries.isEmpty && source.place ≠ target.place then throw .notEmpty
  | none => pure ()
  if s.isSameFile source.place target.place then return s
  let s := if target.node.isSome then s.eraseNode target.place else s
  let moved := { s with disk := s.disk.erase source.place }.changedAround source.place
  let moved := moved.putNode node target.place
  return { moved with
    streams := moved.streams.map fun st => match st.target with
      | .file p => if source.place.isPrefixOf p then
          { st with target := .file (target.place ++ p.drop source.place.length) } else st
      | _ => st
    cwd := if source.place.isPrefixOf s.cwd then target.place ++ s.cwd.drop source.place.length else s.cwd }

/-- Gives a file one more name. `through` tells that a link stands for what
it leads to. -/
def share (through : Bool) (from' to' : Path) (s : State) : Except Fault State := do
  let source ← s.disk.findEntry through s.cwd from'
  let node ← source.existing
  let target ← s.entryAt to'
  if target.node.isSome then throw .alreadyExists
  if target.asDirectory then throw .notFound
  if node.isDirectory then throw .notPermitted
  return { s with disk := s.disk.share source.place target.place }.changedAround target.place

/-- Makes a link that holds a text. -/
def makeLink (text : Octets) (path : Path) (s : State) : Except Fault State := do
  let target ← s.entryAt path
  if text.isEmpty then throw .notFound
  if target.node.isSome then throw .alreadyExists
  if target.asDirectory then throw .notFound
  return s.putNode (.link (Octets.text text)) target.place

/-- Changes the attributes of what is at a place. -/
def changeAttributes (f : Attributes → Attributes) (place : Place) (s : State) : State :=
  { s with disk := s.disk.modify (Node.withAttributes f) place }

end State

end Shell

end Tangle
