import Tangle.Disk.Walk
/-!
# Views of the files

A program that looks for files asks the system, which answers as it likes:
what it may not show to a process is not there for it, and a directory may
refuse to be listed. A `View` is these answers, whatever they come from.
The view of a tree of files (`Node.view`) is that of the superuser, whom no
permission stops; a path that is too long stops him as well.
-/

namespace Tangle

/-- An entry as its directory lists it. -/
structure Listed where
  /-- The name. -/
  name : String
  /-- The entry is a directory. For a link that is not known. -/
  isDirectory : Option Bool
deriving Repr, DecidableEq

/-- What a process is told about the files. -/
structure View where
  /-- The path denotes a regular file. -/
  isFile : Path → Bool
  /-- The path denotes a directory. -/
  isDirectory : Path → Bool
  /-- The path denotes something, or it is a link that leads nowhere. -/
  isThere : Path → Bool
  /-- The entries of the directory that a path denotes, in ascending order
  of names. -/
  list : Path → Except Fault (List Listed)

namespace Node

/-- The entries of the directory that a path denotes. -/
def listAt (root : Node) (cwd : Place) (path : Path) : Except Fault (List Listed) :=
  match root.lookup cwd path with
  | .error fault => .error fault
  | .ok (.directory es _) =>
    .ok (es.map fun (name, node) => ⟨name, if node.isLink then none else some node.isDirectory⟩)
  | .ok _ => .error .notADirectory

/-- The tree as seen from a current directory. -/
def view (root : Node) (cwd : Place) : View where
  isFile := root.isFileAt cwd
  isDirectory := root.isDirectoryAt cwd
  isThere path := root.existsAt cwd path || (root.lookupEntry cwd path).toBool
  list := root.listAt cwd

end Node

end Tangle
