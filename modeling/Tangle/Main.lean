import Tangle.CommandLine.Run
import Tangle.Disk.Change
/-!
# The program

The outer layer: it takes the files around the current directory, or around
the base directory that the arguments name, for the disk of a world, runs
the program in it, and carries out what has changed.
-/

namespace Tangle

namespace Main

/-- The names that lead from the root to an absolute path. -/
def placeOf (path : String) : Place :=
  (Path.components ⟨path⟩).filterMap fun
    | .name s => some s
    | _ => none

/-- The bytes of a file, if it can be read. -/
def readBytes? (path : String) : IO (Option Bytes) := do
  try return some (← IO.FS.readBinFile path).toList
  catch _ => return none

/-- A file as it is on the disk. One that names the program that runs it
can be called. -/
def fileOf (content : Bytes) : Node :=
  .file content (.ofMode (if [35, 33].isPrefixOf content then 0o755 else Node.newFileMode))

/-- The files at an entry of a directory. Links to directories are left
out, so that the walk ends. -/
partial def readEntry (entry : IO.FS.DirEntry) : IO (Option (String × Node)) := do
  try
    let linked ← entry.path.symlinkMetadata
    match linked.type with
    | .dir =>
      let entries ← (← entry.path.readDir).filterMapM readEntry
      let tree := entries.foldl (fun n e => n.put e.2 [e.1]) Node.emptyDirectory
      return some (entry.fileName, tree)
    | _ =>
      let followed ← entry.path.metadata
      match followed.type with
      | .file => return (← readBytes? entry.path.toString).map fun b => (entry.fileName, fileOf b)
      | _ => return none
  catch _ => return none

/-- The disk with the files below a directory added to it. -/
def addDirectory (disk : Node) (path : String) : IO Node := do
  try
    let real ← IO.FS.realPath path
    let entries ← (← real.readDir).filterMapM readEntry
    let place := placeOf real.toString
    let disk := if (disk.get? place).isSome then disk else disk.put .emptyDirectory place
    return entries.foldl (fun n e => n.put e.2 (place ++ [e.1])) disk
  catch _ => return disk

/-- The disk with a file added to it, if it is there. -/
def addFile (disk : Node) (path : String) : IO Node := do
  try
    let real ← IO.FS.realPath path
    match ← readBytes? real.toString with
    | some bytes => return disk.put (fileOf bytes) (placeOf real.toString)
    | none => return disk
  catch _ => return disk

/-- The path of a place. -/
def pathOf (place : Place) : String := "/" ++ String.intercalate "/" place

/-- Who may call a file as permission bits say. -/
def rightsOf (mode : Nat) : IO.FileRight :=
  let right (n : Nat) : IO.AccessRight := ⟨n / 4 % 2 = 1, n / 2 % 2 = 1, n % 2 = 1⟩
  ⟨right (mode / 64), right (mode / 8), right mode⟩

/-- Carries out a change. A link becomes another name of the file that it
leads to. -/
def carryOut : Change → IO Unit
  | .makeDirectory place => IO.FS.createDirAll (pathOf place)
  | .writeFile place content mode => do
    IO.FS.writeBinFile (pathOf place) content.toByteArray
    if mode ≠ Node.newFileMode then IO.setAccessRights (pathOf place) (rightsOf mode)
  | .makeLink place target => do
    let goal : Path := Path.join ⟨pathOf place.dropLast⟩ ⟨target⟩
    try IO.FS.hardLink goal.text (pathOf place)
    catch _ => return
  | .removeFile place => IO.FS.removeFile (pathOf place)
  | .removeDirectory place => IO.FS.removeDir (pathOf place)

/-- The paths of the request that lie on the disk. -/
def namedFiles (r : CommandLine.Request) (cwd : Path) : List Path :=
  let base := cwd.join (r.directory.getD ⟨""⟩)
  let documents := match r.command with
    | .tangle _ _ paths => paths
    | .extract path => [path]
    | _ => []
  r.configFile.toList ++ Config.candidates base ++ documents.map base.join

end Main

end Tangle

open Tangle in
/-- Runs the program with the arguments of the command line. -/
def main (args : List String) : IO UInt32 := do
  let cwd ← IO.currentDir
  let base : Path := ⟨cwd.toString⟩
  let mut disk ← Main.addDirectory Shell.systemFiles cwd.toString
  match CommandLine.read args with
  | .request r =>
    disk ← r.directory.toList.foldlM (fun d p => Main.addDirectory d p.text) disk
    disk ← (Main.namedFiles r base).foldlM (fun d p => Main.addFile d p.text) disk
  | _ => pure ()
  let (status, world) := CommandLine.run args ⟨disk, Main.placeOf cwd.toString, [], []⟩
  (disk.changes world.disk).forM Main.carryOut
  let out ← IO.getStdout
  out.write world.out.toByteArray
  out.flush
  let err ← IO.getStderr
  err.write world.err.toByteArray
  err.flush
  return UInt32.ofNat status
