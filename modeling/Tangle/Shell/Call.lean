import Tangle.Shell.Interpreter
import Tangle.Shell.Program
import Tangle.Shell.Utility.Table
/-!
# Calling programs

What a process does that runs a program (`runImage`), and how a command
calls one in a process of its own (`callProgram`) or in its place
(`becomeProgram`).
-/

namespace Tangle

namespace Shell

/-- The depth to which programs may call each other. -/
def callLimit : Nat := 200

/-- The status of a program that could not write its output. -/
def writingStatus (program : String) : Nat :=
  if ["cmp", "diff", "egrep", "fgrep", "grep", "ls", "printenv", "sort"].contains program then 2
  else if program = "expr" then 3
  else if program = "env" then 125
  else 1

/-- What a program says that could not write its output. -/
def writingComplaints (program reason : String) : List String :=
  if program = "sort" then ["fflush failed: 'standard output': " ++ reason, "write error"]
  else if program = "find" then ["‘standard output’: " ++ reason, "write error"]
  else if program = "cmp" || program = "diff" then ["standard output: " ++ reason]
  else ["write error: " ++ reason]

/-- Complains that a program could not write its output. -/
def reportWriting (program : String) (name : Octets) (s : State) : State :=
  match s.writeFault with
  | some fault =>
    let told := (writingComplaints program (faultText fault)).foldl (fun s m =>
      s.complain (Octets.text name ++ ": " ++ m)) s
    { told with status := writingStatus program, writeFault := none }
  | none => s

/-- Runs a program in the process that the state is about. -/
def runImage (run : Runner) : Nat → Image → State → State
  | 0, _, s => s.ended 126
  | depth + 1, im, s =>
    match interpreters.lookup im.program with
    | some dialect => interpret run dialect im.argv s
    | none =>
      match Utility.find? im.program with
      | none => s.ended 127
      | some u =>
        let call : Caller := fun name argv s => do
          let file ← s.findSystemProgram name
          return runImage run depth (← s.imageOrScript .plain file argv) s
        let s := { s with speaker := none, writeFault := none, status := 0 }
        reportWriting im.program (im.argv.head?.getD []) (u call im.argv s)

/-- The status of a command whose program cannot be called. -/
def callStatus (fault : Fault) : Nat :=
  match fault with
  | .notFound | .notADirectory | .nameTooLong | .tooManyLinks => 127
  | _ => 126

/-- Complains that a program cannot be called. -/
def refuseCall (name : Octets) (fault : Fault) (s : State) : State :=
  let isMissing := fault = .notFound || fault = .notADirectory
  let reason :=
    if !s.isWide && name.isEmpty then faultText .permissionDenied
    else if !s.isWide then (if isMissing then "not found" else faultText fault)
    else if isMissing && !name.contains '/' then "command not found"
    else if fault = .notFound && s.disk.existsAt s.cwd (State.path name) then "cannot execute: required file not found"
    else if s.disk.isDirectoryAt s.cwd (State.path name) then faultText .isADirectory
    else faultText fault
  (s.complainHere (Octets.text name ++ ": " ++ reason)).ended (callStatus fault)

/-- The program that a command calls. A program that is found but must not
be called counts as missing. -/
def State.imageOf (s : State) (name : Octets) (args : List Octets) : Except Fault Image := do
  s.imageOrScript s.dialect (← s.findProgram name) (name :: args)

/-- Calls a program in a process of its own; the last command of a script
becomes the program. -/
def callProgram (run : Runner) (name : Octets) (args : List Octets) (s : State) : State :=
  match s.findProgram name with
  | .error fault =>
    (refuseCall name fault s).ended (if s.isWide then callStatus fault else 127)
  | .ok file =>
    let s := if name.contains '/' || s.found.contains name then s else { s with found := s.found ++ [name] }
    match s.imageOrScript s.dialect file (name :: args) with
    | .error fault => refuseCall name fault s
    | .ok im =>
      let s := settle run s
      let child := runImage run callLimit im { s.forked with parent := s.self }
      if child.jump = some .killed && s.isLast && !s.hasTraps then (s.afterIsolated child).kill (child.status - 128)
      else s.reap child

/-- Complains that the process cannot become a program. -/
def refuseBecoming (name : Octets) (fault : Fault) (s : State) : State :=
  if !s.isWide then refuseCall name fault s
  else
    let silent := { s with speaker := none }
    let isMissing := fault = .notFound || fault = .notADirectory
    let after :=
      if !name.contains '/' then s.complainHere (Octets.text name ++ ": not found")
      else
        let shown := Octets.text (logicalPath s.directory name)
        let reason := if s.disk.isDirectoryAt s.cwd (State.path name) then faultText .isADirectory else faultText fault
        let first := silent.complainHere (shown ++ ": " ++ reason)
        if isMissing then first
        else { first with speaker := s.speaker }.complainHere (shown ++ ": cannot execute: " ++ reason)
    { after with speaker := s.speaker }.ended (callStatus fault)

/-- The process becomes a program, which ends it. -/
def becomeProgram (run : Runner) (name : Octets) (args : List Octets) (s : State) : State :=
  match s.imageOf name args with
  | .error fault =>
    let s := refuseBecoming name fault s
    if s.isWide && s.hasFeature (.other "execfail") then s else s.exit s.status
  | .ok im =>
    let after := runImage run callLimit im { s with traps := s.traps.filter fun t => t.2.isEmpty }
    let ended := { s.afterIsolated after with traps := [] }
    if after.jump = some .killed then ended.kill (after.status - 128) else ended.exit after.status

end Shell

end Tangle
