import Tangle.Report
import Tangle.Proofs.Table
/-!
# Reports as counts

`record` makes one entry at a time; over a list of effects the entries
count them: a run block for each that was run, a line under a name for
each line written to it, and a name for each file opened or written.
Documents are counted apart from all these (`recordAll_countDocument`).
-/

namespace Tangle

namespace Effect

/-- A run block. -/
def isRun : Effect → Bool
  | run _ => true
  | _ => false

/-- A line written under the name. -/
def writesTo (name : String) : Effect → Bool
  | write n _ => n = name
  | _ => false

/-- A file of the name, opened or written. -/
def fills (name : String) : Effect → Bool
  | openFile n _ => n = name
  | write n _ => n = name
  | _ => false

end Effect

namespace Report

/-- The report after effects succeeded in order. -/
def recordAll (r : Report) (effects : List Effect) : Report :=
  effects.foldl record r

/-- The number of lines under a name. -/
def lines (r : Report) (name : String) : Nat :=
  (r.files.get? name).getD 0

/-- The name is in the report. -/
def Lists (r : Report) (name : String) : Prop :=
  (r.files.get? name).isSome

variable {r : Report} {e : Effect} {effects later : List Effect} {name : String}

@[simp] theorem recordAll_nil : r.recordAll [] = r := rfl

@[simp] theorem recordAll_cons : r.recordAll (e :: effects) = (r.record e).recordAll effects := rfl

theorem recordAll_append : r.recordAll (effects ++ later) = (r.recordAll effects).recordAll later :=
  List.foldl_append

/-! ## One entry -/

theorem record_documents : (r.record e).documents = r.documents := by
  cases e <;> rfl

theorem record_runs : (r.record e).runs = r.runs + if e.isRun then 1 else 0 := by
  cases e <;> rfl

/-- An effect on another file leaves a name as it was. -/
theorem record_get?_of_not_fills (h : e.fills name = false) :
    (r.record e).files.get? name = r.files.get? name := by
  cases e with
  | openFile n mode => exact Table.get?_alter_of_ne _ (Ne.symm (by simpa [Effect.fills] using h))
  | write n text => exact Table.get?_alter_of_ne _ (Ne.symm (by simpa [Effect.fills] using h))
  | closeFile n => rfl
  | run block => rfl

/-- One on its own file adds a line if it writes one. -/
theorem record_get?_of_fills (h : e.fills name = true) : (r.record e).files.get? name =
    some (r.lines name + if e.writesTo name then 1 else 0) := by
  cases e with
  | openFile n mode =>
    obtain rfl : n = name := by simpa [Effect.fills] using h
    exact Table.get?_alter_self _
  | write n text =>
    obtain rfl : n = name := by simpa [Effect.fills] using h
    rw [Effect.writesTo, decide_eq_true rfl]
    exact Table.get?_alter_self _
  | closeFile n => cases h
  | run block => cases h

theorem writesTo_of_not_fills (h : e.fills name = false) : e.writesTo name = false := by
  cases e <;> simp_all [Effect.fills, Effect.writesTo]

theorem record_lines : (r.record e).lines name = r.lines name + if e.writesTo name then 1 else 0 := by
  cases h : e.fills name with
  | true => rw [lines, record_get?_of_fills h, Option.getD_some]
  | false =>
    rw [lines, record_get?_of_not_fills h, writesTo_of_not_fills h, lines]
    rfl

theorem record_lists : (r.record e).Lists name ↔ r.Lists name ∨ e.fills name = true := by
  cases h : e.fills name with
  | true => simp [Lists, record_get?_of_fills h]
  | false => simp [Lists, record_get?_of_not_fills h]

/-! ## All entries -/

theorem recordAll_documents : (r.recordAll effects).documents = r.documents := by
  induction effects generalizing r with
  | nil => rfl
  | cons e effects ih => rw [recordAll_cons, ih, record_documents]

theorem record_countDocument : r.countDocument.record e = (r.record e).countDocument := by
  cases e <;> rfl

/-- Documents are counted apart from effects. -/
theorem recordAll_countDocument :
    r.countDocument.recordAll effects = (r.recordAll effects).countDocument := by
  induction effects generalizing r with
  | nil => rfl
  | cons e effects ih => rw [recordAll_cons, record_countDocument, ih, recordAll_cons]

theorem eq_countDocument_iff {r' : Report} : r' = r.countDocument ↔
    r'.files = r.files ∧ r'.runs = r.runs ∧ r'.documents = r.documents + 1 := by
  obtain ⟨documents, files, runs⟩ := r'
  rw [countDocument, mk.injEq]
  tauto

/-- **Run blocks are counted.** -/
theorem recordAll_runs : (r.recordAll effects).runs = r.runs + effects.countP Effect.isRun := by
  induction effects generalizing r with
  | nil => rfl
  | cons e effects ih => rw [recordAll_cons, ih, record_runs, List.countP_cons]; omega

/-- **Lines are counted under the name of their file.** -/
theorem recordAll_lines : (r.recordAll effects).lines name =
    r.lines name + effects.countP (Effect.writesTo name) := by
  induction effects generalizing r with
  | nil => rfl
  | cons e effects ih => rw [recordAll_cons, ih, record_lines, List.countP_cons]; omega

/-- **A name is listed when its file is opened or written.** -/
theorem recordAll_lists : (r.recordAll effects).Lists name ↔
    r.Lists name ∨ ∃ e ∈ effects, e.fills name = true := by
  induction effects generalizing r with
  | nil => simp
  | cons e effects ih => rw [recordAll_cons, ih, record_lists, List.exists_mem_cons_iff, or_assoc]

end Report

end Tangle
