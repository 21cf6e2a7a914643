import Tangle.Shell.Elements
/-!
# Programs on the disk

A command that is neither built in nor a function calls a program: a file
that is named by a path, or found in one of the directories of the search
path (`State.findProgram`). A file that starts with a number sign and an
exclamation mark names the program that runs it (`State.image`).
-/

namespace Tangle

namespace Shell

/-- What is run when a file is called. -/
structure Image where
  /-- The name of the program. -/
  program : String
  /-- The arguments, the first of which is the name that was called. -/
  argv : List Octets

/-- The search path of programs. -/
def standardSearchPath : String := "/usr/local/sbin:/usr/local/bin:/usr/sbin:/usr/bin:/sbin:/bin"

/-- A name below a directory of the search path. -/
def inDirectory (directory name : Octets) : Octets :=
  if directory.isEmpty then name else directory ++ '/' :: name

/-- The path of a goal seen from a directory, with its `.` and `..` taken
out. -/
def logicalPath (directory goal : Octets) : Octets :=
  let from' : List Octets := if goal.head? = some '/' then [] else Octets.splitOn '/' directory
  let steps := (from' ++ Octets.splitOn '/' goal).filter fun t => !t.isEmpty && t ≠ ['.']
  let names := steps.foldl (fun (names : List Octets) t => if t = ['.', '.'] then names.drop 1 else t :: names) []
  '/' :: List.intercalate ['/'] names.reverse

namespace State

/-- The paths that a name may stand for. -/
def candidates (s : State) (name : Octets) : List Octets :=
  if name.contains '/' then [name]
  else
    match s.value? "PATH".toList with
    | some path => (Octets.splitOn ':' path).map fun d => inDirectory d name
    | none => []

/-- The path of the program that a name calls. A name with a slash is a
path itself. In the plain dialect a directory of that name counts as a
program that must not be called. -/
def findProgram (s : State) (name : Octets) : Except Fault Octets :=
  if name.contains '/' then .ok name
  else
    let isThere (n : Node) : Bool := n.isFile || (!s.isWide && n.isDirectory)
    let files := (s.candidates name).filter fun p => (s.lookup (path p)).toOption.any isThere
    match files.find? fun p => (s.lookup (path p)).toOption.any Node.isExecutable with
    | some p => .ok p
    | none => .error (if files.isEmpty then .notFound else .permissionDenied)

/-- The path of the program that a name calls where it is the system that
looks: without a search path it takes the usual one. -/
def findSystemProgram (s : State) (name : Octets) : Except Fault Octets :=
  if (s.value? "PATH".toList).isSome then s.findProgram name
  else (s.setVariable "PATH".toList "/bin:/usr/bin".toList).findProgram name

/-- The path of a script that a name stands for. -/
def findScript (s : State) (name : Octets) : Option Octets :=
  if name.contains '/' then some name
  else (s.candidates name).find? fun p => (s.lookup (path p)).toOption.any Node.isFile

/-- The program and its one argument that the first line of a file names. -/
def interpreterLine? (content : Octets) : Option (Octets × Option Octets) :=
  match content with
  | '#' :: '!' :: rest =>
    let isBlank (c : Char) : Bool := c = ' ' || c = '\t'
    let line := ((rest.takeWhile (· ≠ '\n')).dropWhile isBlank).reverse.dropWhile isBlank |>.reverse
    let program := line.takeWhile fun c => !isBlank c
    let argument := (line.drop program.length).dropWhile isBlank
    some (program, if argument.isEmpty then none else some argument)
  | _ => none

/-- What is run when the file at a path is called with arguments. -/
def image (s : State) : Nat → Octets → List Octets → Except Fault Image
  | 0, _, _ => .error .tooManyLinks
  | depth + 1, file, argv => do
    match ← s.lookup (path file) with
    | .program name => return ⟨name, argv⟩
    | .file content a =>
      if a.mode &&& 0o111 = 0 then throw .permissionDenied
      else
        match interpreterLine? (Octets.ofBytes content) with
        | some ([], _) => throw .notExecutable
        | some (program, argument) => s.image depth program (program :: argument.toList ++ file :: argv.drop 1)
        | none => throw .notExecutable
    | _ => throw .permissionDenied

/-- The depth to which files may name the programs that run them. -/
def imageDepth : Nat := 5

/-- What is run when a file is called. A file that names no program is a
script in a dialect of the command interpreter. -/
def imageOrScript (s : State) (dialect : Dialect) (file : Octets) (argv : List Octets) : Except Fault Image :=
  match s.image imageDepth file argv with
  | .error .notExecutable =>
    let interpreter := if dialect = .wide then "bash" else "dash"
    .ok ⟨interpreter, "/bin/sh".toList :: file :: argv.drop 1⟩
  | result => result

end State

end Shell

end Tangle
