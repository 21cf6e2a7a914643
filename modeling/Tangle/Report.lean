import Tangle.Block.Effect
import Tangle.Table
/-!
# Reports

The ledger of a tangling run: documents completed, lines written to each
file in order of first opening, and run blocks completed. An entry is made
only for an effect that succeeded (`Report.record`).
-/

namespace Tangle

/-- What a tangling run did, or would do. -/
structure Report where
  /-- Documents completed. -/
  documents : Nat
  /-- Lines written to each file, in order of first opening. -/
  files : Table Nat
  /-- Run blocks completed. -/
  runs : Nat
deriving Repr, DecidableEq

namespace Report

/-- The report before anything is done. -/
def empty : Report := ⟨0, .empty, 0⟩

/-- The report after an effect succeeded. -/
def record (r : Report) : Effect → Report
  | .openFile name _ => { r with files := r.files.alter name 0 id }
  | .write name _ => { r with files := r.files.alter name 0 (· + 1) }
  | .closeFile _ => r
  | .run _ => { r with runs := r.runs + 1 }

/-- The report after a document is completed. -/
def countDocument (r : Report) : Report :=
  { r with documents := r.documents + 1 }

/-- No file was opened and no block was run. -/
def isEmpty (r : Report) : Bool :=
  r.files.entries.isEmpty && r.runs == 0

/-- A line for each file and one for the run blocks, if there are any. -/
def describe (r : Report) : List String :=
  (r.files.entries.map fun (name, count) => name ++ " (" ++ toString count ++ " lines)")
    ++ if r.runs > 0 then [toString r.runs ++ " run blocks"] else []

end Report

end Tangle
