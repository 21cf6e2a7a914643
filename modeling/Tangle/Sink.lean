import Tangle.Block.Effect
import Tangle.Error
/-!
# Sinks and executors

The two collaborators of a tangling pass. A sink receives output files, an
executor receives run blocks. Both are given by what their operations do
to a state of any type; an operation that fails may have changed the state
all the same.
-/

namespace Tangle

/-- An operation on a state that may fail. The state after a failure
counts. -/
abbrev Action (σ α : Type) := σ → Except Error α × σ

/-- A destination of output files. -/
structure Sink (σ : Type) where
  /-- Opens a file for a block. -/
  openFile : String → WriteMode → Action σ Unit
  /-- Writes a line to an open file; the line's end is added. -/
  write : String → Bytes → Action σ Unit
  /-- Closes an open file. -/
  closeFile : String → Action σ Unit

/-- A consumer of run blocks. -/
structure Executor (σ : Type) where
  /-- The executor's name. -/
  name : String
  /-- Runs or shows a block. -/
  run : RunBlock → Action σ Unit

variable {σ ε : Type}

namespace Action

/-- The operation on the first of two states. -/
def onFirst {α : Type} (a : Action σ α) : Action (σ × ε) α :=
  fun s => ((a s.1).1, (a s.1).2, s.2)

/-- The operation on the second of two states. -/
def onSecond {α : Type} (a : Action ε α) : Action (σ × ε) α :=
  fun s => ((a s.2).1, s.1, (a s.2).2)

end Action

namespace Sink

/-- The sink beside another state. -/
def onFirst (sink : Sink σ) : Sink (σ × ε) where
  openFile name mode := (sink.openFile name mode).onFirst
  write name text := (sink.write name text).onFirst
  closeFile name := (sink.closeFile name).onFirst

end Sink

namespace Executor

/-- The executor beside another state. -/
def onSecond (executor : Executor ε) : Executor (σ × ε) where
  name := executor.name
  run block := (executor.run block).onSecond

/-- The executor that prints blocks, each line after `indent` spaces, at
the end of the bytes printed so far. -/
def preview (indent : Nat) : Executor Bytes where
  name := "preview"
  run block := fun out => (.ok (), out ++ Utf8.ofString (block.renderPreview indent))

/-- The needle occurs in the text. -/
def occursIn (needle : List Char) : List Char → Bool
  | [] => needle.isEmpty
  | c :: text => needle.isPrefixOf (c :: text) || occursIn needle text

/-- The executor that keeps the blocks it receives, and then fails with
the status of the first rule whose needle occurs in the block's text. -/
def recording (rules : List (String × Int)) : Executor (List RunBlock) where
  name := "recording"
  run block := fun seen =>
    (match rules.find? fun rule => occursIn rule.1.toList block.body.toList with
      | some (_, status) => .error (.runFailed status block.startLine block.endLine)
      | none => .ok (),
     seen ++ [block])

end Executor

end Tangle
