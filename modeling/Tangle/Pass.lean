import Tangle.Block.Machine
import Tangle.Scissors.Ranges
import Tangle.Sink
import Tangle.Report
/-!
# The tangling pass

A pass feeds the lines of one document to a fresh block machine and hands
each effect to the sink or the executor as soon as its line asks for it.
It stops for good at the first failure, of the machine or of a
collaborator; what was done up to there stays done, and the report counts
it. One tangler makes any number of passes over the same collaborators.
-/

namespace Tangle

/-- What a pass needs to know: how lines are read, and where effects go. -/
structure Tangler (σ : Type) where
  /-- Quoted lines outside every block are prose. -/
  lenient : Bool
  /-- The markers of program ranges. -/
  scissors : Scissors
  /-- Where output files go. -/
  sink : Sink σ
  /-- Where run blocks go. -/
  executor : Executor σ

namespace Tangler

variable {σ : Type}

/-- The tangler for a configuration, unless its markers do not compile. -/
def ofConfig (config : Config) (sink : Sink σ) (executor : Executor σ) :
    Except Error (Tangler σ) :=
  (Scissors.compile config.scissors).map fun scissors =>
    ⟨config.lenient, scissors, sink, executor⟩

/-- Hands an effect to the collaborator that it concerns. -/
def perform (t : Tangler σ) : Effect → Action σ Unit
  | .openFile name mode => t.sink.openFile name mode
  | .write name text => t.sink.write name text
  | .closeFile name => t.sink.closeFile name
  | .run block => t.executor.run block

/-- Performs an effect and enters it in the report if it succeeds. -/
def dispatch (t : Tangler σ) (effect : Effect) : Action (Report × σ) Unit :=
  fun (report, s) =>
    match t.perform effect s with
    | (.ok (), s) => (.ok (), report.record effect, s)
    | (.error e, s) => (.error e, report, s)

/-- Dispatches effects in order, up to the first failure. -/
def dispatchAll (t : Tangler σ) : List Effect → Action (Report × σ) Unit
  | [] => fun s => (.ok (), s)
  | effect :: rest => fun s =>
    match t.dispatch effect s with
    | (.ok (), s) => dispatchAll t rest s
    | (.error e, s) => (.error e, s)

/-- Feeds lines to a machine in state `m`, dispatching as it goes, and
checks the end. -/
def passFrom (t : Tangler σ) (m : MachineState) : List SourceLine → Action (Report × σ) Unit
  | [] => fun s => (Machine.finish m, s)
  | line :: rest => fun s =>
    match Machine.feed t.lenient m line with
    | (.error e, _) => (.error e, s)
    | (.ok effects, m) =>
      match t.dispatchAll effects s with
      | (.ok (), s) => passFrom t m rest s
      | (.error e, s) => (.error e, s)

/-- Tangles the lines of a program as one document. -/
def tangleLines (t : Tangler σ) (lines : List SourceLine) : Action (Report × σ) Unit :=
  fun s =>
    match t.passFrom .zero lines s with
    | (.ok (), report, s) => (.ok (), report.countDocument, s)
    | (.error e, s) => (.error e, s)

/-- Tangles the program of a document. -/
def tangleDocument (t : Tangler σ) (document : Bytes) : Action (Report × σ) Unit :=
  match t.scissors.program document with
  | .ok lines => t.tangleLines lines
  | .error e => fun s => (.error e, s)

end Tangler

end Tangle
