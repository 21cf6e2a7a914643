import Tangle.Disk.Walk
import Tangle.Block.State
/-!
# Making directories and files

The operations that output files need from a file store (`Store`), and how
the disk provides them. A directory is made with all that is missing above
it; a file is made when it is opened, and truncated at once if it is opened
so. An operation that fails half-way leaves what it made.
-/

namespace Tangle

/-- What output files need from a file store with states `φ` and files
`κ`. -/
structure Store (φ κ : Type) where
  /-- Makes a directory and all that is missing above it. -/
  makeDirectories : Path → φ → Except Fault Unit × φ
  /-- Makes a file ready for writing. -/
  openFile : Path → WriteMode → φ → Except Fault κ × φ
  /-- Changes the bytes of a file. -/
  edit : κ → (Bytes → Bytes) → φ → Except Fault Unit × φ

namespace Node

/-- Makes one directory. -/
def makeDirectory (root : Node) (cwd : Place) (path : Path) : Except Fault Node :=
  match root.findEntry false cwd path with
  | .error fault => .error fault
  | .ok found =>
    match found.node with
    | some _ => .error .alreadyExists
    | none => .ok (root.put emptyDirectory found.place)

/-- Makes the first of a list of directories, each of which lies in the
next one, with those that are missing. -/
def makeDirectoriesIn (cwd : Place) : List Path → Node → Except Fault Unit × Node
  | [], root => (.error .notFound, root)
  | path :: above, root =>
    if path.text.isEmpty then (.ok (), root)
    else
      match root.makeDirectory cwd path with
      | .ok root => (.ok (), root)
      | .error .notFound =>
        match makeDirectoriesIn cwd above root with
        | (.error fault, root) => (.error fault, root)
        | (.ok (), root) =>
          match root.makeDirectory cwd path with
          | .ok root => (.ok (), root)
          | .error fault =>
            if root.isDirectoryAt cwd path then (.ok (), root) else (.error fault, root)
      | .error fault =>
        if root.isDirectoryAt cwd path then (.ok (), root) else (.error fault, root)

/-- The permission bits of a new file. -/
def newFileMode : Nat := 0o644

/-- Opens a file for writing. -/
def openFile (cwd : Place) (path : Path) (mode : WriteMode) (root : Node) :
    Except Fault Place × Node :=
  match root.find cwd path with
  | .error fault => (.error fault, root)
  | .ok found =>
    match found.node with
    | some (.directory _ _) => (.error .isADirectory, root)
    | node =>
      if found.asDirectory then (.error .isADirectory, root)
      else if node.isNone then (.ok found.place, root.put (.file [] (.ofMode newFileMode)) found.place)
      else
        match mode with
        | .truncate => (.ok found.place, root.edit (fun _ => []) found.place)
        | .append => (.ok found.place, root)

/-- Changes the bytes of the file at a place, unless there is no room for
any. -/
def editFile (place : Place) (f : Bytes → Bytes) (root : Node) : Except Fault Unit × Node :=
  match root.get? place with
  | some (.device .full) => (.error .deviceFull, root)
  | _ => (.ok (), root.edit f place)

/-- The disk as a file store, seen from the current directory `cwd`. -/
def store (cwd : Place) : Store Node Place where
  makeDirectories path := makeDirectoriesIn cwd path.ancestors
  openFile := openFile cwd
  edit := editFile

end Node

end Tangle
