import Tangle.Text.Line
/-!
# State of the block machine

What is carried from one line of a document to the next: the header in
force, the fence that is open, and the lines collected for a run block.
-/

namespace Tangle

/-- How an output file is opened. -/
inductive WriteMode where
  /-- Former content is discarded. -/
  | truncate
  /-- Former content is kept and extended. -/
  | append
deriving Repr, DecidableEq, Inhabited

/-- The progress of a run header. -/
inductive RunProgress where
  /-- No run header is in force. -/
  | idle
  /-- A run header is in force, and its fence holds no line yet. -/
  | declared
  /-- Lines are being collected. -/
  | collecting
deriving Repr, DecidableEq, Inhabited

/-- The header in force and the open fence. -/
structure Context where
  /-- The file named by the last file header. -/
  target : Option String
  /-- How that file is opened next. -/
  mode : WriteMode
  /-- The progress of the run header. -/
  run : RunProgress
  /-- The line of the open fence. -/
  fence : Option Nat
deriving Repr, DecidableEq

namespace Context

/-- No header and no fence. -/
def zero : Context := ⟨none, .truncate, .idle, none⟩

/-- A fence is open. -/
def inFence (c : Context) : Bool := c.fence.isSome

/-- A run header is in force. -/
def isRun (c : Context) : Bool := c.run ≠ .idle

/-- A header is in force. -/
def hasHeader (c : Context) : Bool := c.target.isSome || c.isRun

/-- Forgets the header; the fence stays as it is. -/
def reset (c : Context) : Context := ⟨none, .truncate, .idle, c.fence⟩

/-- Puts a file header in force. -/
def setTarget (c : Context) (name : String) (mode : WriteMode) : Context :=
  ⟨some name, mode, .idle, c.fence⟩

/-- Puts a run header in force. -/
def declareRun (c : Context) : Context := ⟨none, .truncate, .declared, c.fence⟩

end Context

/-- All that the block machine carries from line to line. -/
structure MachineState where
  /-- The header in force and the open fence. -/
  context : Context
  /-- The lines collected for the run block. -/
  buffer : List SourceLine
deriving Repr, DecidableEq

namespace MachineState

/-- The state at the start of a document. -/
def zero : MachineState := ⟨.zero, []⟩

end MachineState

end Tangle
