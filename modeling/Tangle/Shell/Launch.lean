import Tangle.Shell.Run
import Tangle.Config
import Tangle.Sink
import Tangle.World
/-!
# Launching the interpreter of run blocks

The executor that runs blocks (`Executor.shell`). A block's text is the last
argument of the configured interpreter, which starts in a directory of its
own, reads nothing, and prints where the program prints. A status other
than zero is a failure, which is reported with the lines of the block; so is
a death by a signal, with the status one.
-/

namespace Tangle

namespace Shell

/-- The longest argument of a program, in bytes. -/
def argumentLimit : Nat := 131071

/-- The streams of a program that has nothing to read: its input, and its
two outputs. -/
def standardStreams : Array Stream := #[Stream.ofDevice .null true false, Stream.keeper, Stream.keeper]

/-- The state in which a program starts on a disk. -/
def State.initial (disk : Node) (cwd : Place) : State where
  dialect := .plain
  cwd := cwd
  directory := State.placeOctets cwd
  descriptors := [(0, 0), (1, 1), (2, 2)]
  bindings := [("HOME".toList, textVariable true "/root"), ("PATH".toList, textVariable true standardSearchPath)]
  functions := []
  aliases := []
  name := []
  args := []
  options := []
  guarded := false
  isLast := false
  source := ⟨[], 1, none⟩
  line := 0
  speaker := none
  self := 1000
  interpreter := 1000
  parent := 999
  traps := []
  scopes := []
  loops := 0
  jobs := []
  lastJob := none
  trapped := none
  isCommandText := false
  showsScript := false
  umask := 0o022
  optionIndex := 1
  optionOffset := 0
  found := []
  statuses := []
  features := []
  calls := []
  included := false
  subshells := 0
  indirection := 0
  directories := []
  lastWord := []
  disabled := []
  disk := disk
  streams := standardStreams
  nextProcess := 1001
  signals := []
  waiting := []
  outcomes := []
  clock := 0
  status := 0
  jump := none
  writeFault := none
  outputStatus := 0

/-- The directory where a program starts. -/
def startPlace (disk : Node) (cwd : Place) (directory : Option Path) : Except Fault Place :=
  match directory with
  | none => .ok cwd
  | some path =>
    match disk.find cwd path with
    | .error fault => .error fault
    | .ok found =>
      match found.node with
      | none => .error .notFound
      | some (.directory _ _) => .ok found.place
      | some _ => .error .notADirectory

/-- How a program ended. -/
inductive Ending where
  /-- With a status. -/
  | exited (status : Nat)
  /-- By a signal. -/
  | killed
deriving Repr, DecidableEq

/-- Runs a program to its end. The second value is the state that it
leaves. -/
def launch (program : Octets) (args : List Octets) (directory : Option Path) (disk : Node)
    (cwd : Place) : Except Fault (Ending × State) := do
  let hasNul := (program :: args).any (·.contains '\x00')
    || directory.any fun p => p.text.toList.contains '\x00'
  if hasNul then throw .nulInArgument
  let start ← startPlace disk cwd directory
  let s := State.initial disk start
  if program.isEmpty then throw .notFound
  let image ← s.image State.imageDepth (← s.findProgram program) (program :: args)
  if args.any fun a => argumentLimit < a.length then throw .argumentsTooLong
  let run := execute depthLimit
  let after := runImage run callLimit image s
  let ending : Ending := if after.jump = some .killed then .killed else .exited (after.status % 256)
  return (ending, settleUntil run none taskLimit after)

end Shell

namespace Interpreter

/-- Runs a block. What the program prints goes to the outputs of the world;
the third value is the report of a failure. -/
def run (i : Interpreter) (directory : Option Path) (block : RunBlock) (w : World) :
    Except Error Unit × World × String :=
  let args := i.args.map Octets.ofString ++ [Octets.ofBytes block.rawBody]
  match Shell.launch (Octets.ofString i.program) args directory w.disk w.cwd with
  | .error fault => (.error (.spawn i.program fault), w, "")
  | .ok (ending, after) =>
    let w := { w with
      disk := after.disk
      out := w.out ++ Octets.toBytes (after.textOf 1)
      err := w.err ++ Octets.toBytes (after.textOf 2) }
    let status : Nat := match ending with
      | .exited status => status
      | .killed => 1
    if status = 0 then (.ok (), w, "")
    else (.error (.runFailed status block.startLine block.endLine), w, block.renderFailure status)

end Interpreter

namespace Executor

/-- The executor that runs blocks by an interpreter in a directory, and
reports failures by `report`. -/
def shellReporting {σ : Type} (report : String → σ → σ) (i : Interpreter) (directory : Option Path)
    (world : σ → World) (setWorld : World → σ → σ) : Executor σ where
  name := "shell"
  run block := fun s =>
    let (result, w, text) := i.run directory block (world s)
    (result, report text (setWorld w s))

/-- The executor that runs blocks and reports failures on standard error. -/
def shell (i : Interpreter) (directory : Option Path) : Executor World :=
  shellReporting (fun text w => w.printError text) i directory id fun w _ => w

/-- The executor that runs blocks and keeps the reports of failures. -/
def shellKeeping (i : Interpreter) (directory : Option Path) : Executor (World × Bytes) :=
  shellReporting (fun text s => (s.1, s.2 ++ Utf8.ofString text)) i directory Prod.fst fun w s => (w, s.2)

end Executor

end Tangle
