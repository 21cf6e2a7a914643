import Tangle.Disk.Store
/-!
# The world of a program

What a running program can read and change: the disk, its current
directory, and what was printed so far.
-/

namespace Tangle

/-- The surroundings of a program. -/
structure World where
  /-- The disk. -/
  disk : Node
  /-- The current directory. -/
  cwd : Place
  /-- The bytes printed to standard output. -/
  out : Bytes
  /-- The bytes printed to standard error. -/
  err : Bytes

namespace World

/-- The disk as a file store. -/
def store (cwd : Place) : Store World Place where
  makeDirectories path w :=
    let (r, disk) := (Node.store cwd).makeDirectories path w.disk
    (r, { w with disk })
  openFile path mode w :=
    let (r, disk) := (Node.store cwd).openFile path mode w.disk
    (r, { w with disk })
  edit place f w :=
    let (r, disk) := (Node.store cwd).edit place f w.disk
    (r, { w with disk })

/-- Prints to standard output. -/
def print (w : World) (s : String) : World :=
  { w with out := w.out ++ Utf8.ofString s }

/-- Prints to standard error. -/
def printError (w : World) (s : String) : World :=
  { w with err := w.err ++ Utf8.ofString s }

/-- The current directory as a path. -/
def cwdPath (w : World) : Path :=
  ⟨"/" ++ String.intercalate "/" w.cwd⟩

end World

end Tangle
