import Tangle.Sink
import Tangle.Table
/-!
# The sink in memory

The sink that previews write to. It keeps the content of every file that
was ever opened, in the order of first opening, and touches nothing else.
Opening for appending continues what this sink recorded under the name.
-/

namespace Tangle

/-- A file kept in memory. -/
structure MemoryFile where
  /-- The lines written so far with their ends, the last one first. -/
  written : List Bytes
  /-- The file is open. -/
  isOpen : Bool
deriving Repr, DecidableEq

/-- The bytes written so far. -/
def MemoryFile.content (file : MemoryFile) : Bytes :=
  file.written.reverse.flatten

/-- Files kept in memory, in order of first opening. -/
abbrev MemoryFiles := Table MemoryFile

namespace MemoryFiles

/-- The bytes recorded under a name. -/
def content? (files : MemoryFiles) (name : String) : Option Bytes :=
  (files.get? name).map MemoryFile.content

/-- The file is open. -/
def isOpen (files : MemoryFiles) (name : String) : Bool :=
  (files.get? name).any MemoryFile.isOpen

/-- A file that was never opened. -/
def fresh : MemoryFile := ⟨[], false⟩

/-- A file at its opening. -/
def opened (mode : WriteMode) (file : MemoryFile) : MemoryFile :=
  match mode with
  | .truncate => ⟨[], true⟩
  | .append => ⟨file.written, true⟩

/-- A file with one more line. -/
def extended (text : Bytes) (file : MemoryFile) : MemoryFile :=
  ⟨(text ++ [lineFeed]) :: file.written, file.isOpen⟩

/-- A file at its closing. -/
def closed (file : MemoryFile) : MemoryFile :=
  ⟨file.written, false⟩

end MemoryFiles

/-- The sink in memory. -/
def Sink.memory : Sink MemoryFiles where
  openFile name mode := fun files =>
    if files.isOpen name then (.error (.sink ⟨name⟩ .alreadyOpen), files)
    else (.ok (), files.alter name MemoryFiles.fresh (MemoryFiles.opened mode))
  write name text := fun files =>
    if files.isOpen name then (.ok (), files.alter name MemoryFiles.fresh (MemoryFiles.extended text))
    else (.error (.sink ⟨name⟩ .writeUnopened), files)
  closeFile name := fun files =>
    if files.isOpen name then (.ok (), files.alter name MemoryFiles.fresh MemoryFiles.closed)
    else (.error (.sink ⟨name⟩ .closeUnopened), files)

end Tangle
