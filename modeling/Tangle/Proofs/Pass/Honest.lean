import Tangle.Run
import Tangle.Proofs.Pass.Issue
/-!
# Collaborators that answer for themselves

A defect is found in a document, and the number of a line is the
document's. So a sink or an executor is `Honest` if a call that fails does
not pass for a defect, and if a failed run block is the one that was called
and carries its lines. Those that ship with the tangler are honest, and so
is what is put together from honest ones. The call with which a pass over
honest collaborators ends then answers for itself (`Tangler.Honest.failed`),
so a defect that such a pass yields is one that the machine found.
-/

namespace Tangle

/-- **The error can be the answer to the call**: it is no defect, and a
failure of a run block only where that block was called. -/
def Effect.Fails (e : Effect) (err : Error) : Prop :=
  err.isDefect = false ∧ ∀ status first last, err = .runFailed status first last →
    ∃ block, e = .run block ∧ block.startLine = first ∧ block.endLine = last

/-- **A sink that answers for itself.** -/
structure Sink.Honest {σ : Type} (sink : Sink σ) : Prop where
  opens : ∀ name mode s err, (sink.openFile name mode s).1 = .error err →
    (Effect.openFile name mode).Fails err
  writes : ∀ name text s err, (sink.write name text s).1 = .error err →
    (Effect.write name text).Fails err
  closes : ∀ name s err, (sink.closeFile name s).1 = .error err → (Effect.closeFile name).Fails err

/-- **An executor that answers for itself.** -/
def Executor.Honest {σ : Type} (executor : Executor σ) : Prop :=
  ∀ block s err, (executor.run block s).1 = .error err → (Effect.run block).Fails err

/-- A tangler whose collaborators are honest. -/
structure Tangler.Honest {σ : Type} (t : Tangler σ) : Prop where
  sink : t.sink.Honest
  executor : t.executor.Honest

variable {σ ε φ κ : Type} {e : Effect} {err : Error}

/-! ## Answers -/

namespace Effect

theorem fails_sink (path : Path) (misuse : Misuse) : e.Fails (.sink path misuse) :=
  ⟨rfl, fun _ _ _ h => by cases h⟩

theorem fails_io (fault : Fault) : e.Fails (.io fault) :=
  ⟨rfl, fun _ _ _ h => by cases h⟩

theorem fails_mapError_io {r : Except Fault Unit} (h : r.mapError Error.io = .error err) :
    e.Fails err := by
  cases r with
  | ok => cases h
  | error fault =>
    cases h
    exact fails_io fault

theorem fails_spawn (program : String) (fault : Fault) : e.Fails (.spawn program fault) :=
  ⟨rfl, fun _ _ _ h => by cases h⟩

/-- A run block answers with its own lines. -/
theorem fails_runFailed (block : RunBlock) (status : Int) :
    (run block).Fails (.runFailed status block.startLine block.endLine) := by
  refine ⟨rfl, fun status first last h => ?_⟩
  cases h
  exact ⟨block, rfl, rfl, rfl⟩

end Effect

open Effect

/-! ## Sinks -/

namespace Sink

theorem honest_memory : Sink.memory.Honest where
  opens name mode files err h := by
    simp only [Sink.memory] at h
    split at h <;> cases h
    exact fails_sink _ _
  writes name text files err h := by
    simp only [Sink.memory] at h
    split at h <;> cases h
    exact fails_sink _ _
  closes name files err h := by
    simp only [Sink.memory] at h
    split at h <;> cases h
    exact fails_sink _ _

theorem honest_files (store : Store φ κ) (base : Path) : (Sink.files store base).Honest where
  opens name mode s err h := by
    simp only [Sink.files] at h
    split at h
    · cases h
      exact fails_sink _ _
    · split at h
      · cases h
        exact fails_io _
      · split at h <;> cases h
        exact fails_io _
  writes name text s err h := by
    simp only [Sink.files] at h
    split at h
    · cases h
      exact fails_sink _ _
    · exact fails_mapError_io h
  closes name s err h := by
    simp only [Sink.files] at h
    split at h
    · cases h
      exact fails_sink _ _
    · exact fails_mapError_io h

/-- Beside another state a sink answers as it did. -/
theorem Honest.onFirst {sink : Sink σ} (h : sink.Honest) : (sink.onFirst : Sink (σ × ε)).Honest where
  opens name mode s := h.opens name mode s.1
  writes name text s := h.writes name text s.1
  closes name s := h.closes name s.1

end Sink

/-! ## Executors -/

namespace Executor

theorem honest_preview (indent : Nat) : (Executor.preview indent).Honest :=
  fun _ _ _ h => by cases h

/-- To print to the standard output is to preview. -/
theorem honest_printing (indent : Nat) : (Setting.printing indent).Honest :=
  fun block w err h => honest_preview indent block w.out err h

/-- The interpreter is not started, or the block fails. -/
theorem fails_of_interpreter {i : Interpreter} {directory : Option Path} {block : RunBlock} {w : World}
    (h : (i.run directory block w).1 = .error err) : (Effect.run block).Fails err := by
  rw [Interpreter.run] at h
  split at h
  · cases h
    exact fails_spawn _ _
  · rename_i ending after _
    cases ending with
    | exited status =>
      simp only at h
      split at h <;> cases h
      exact fails_runFailed block _
    | killed =>
      cases h
      exact fails_runFailed block _

theorem honest_shellReporting (report : String → σ → σ) (i : Interpreter) (directory : Option Path)
    (world : σ → World) (setWorld : World → σ → σ) :
    (shellReporting report i directory world setWorld).Honest :=
  fun _ _ _ h => fails_of_interpreter h

theorem honest_shell (i : Interpreter) (directory : Option Path) : (Executor.shell i directory).Honest :=
  honest_shellReporting _ i directory _ _

/-- Beside another state an executor answers as it did. -/
theorem Honest.onSecond {executor : Executor ε} (h : executor.Honest) :
    (executor.onSecond : Executor (σ × ε)).Honest :=
  fun block s => h block s.2

end Executor

/-! ## Passes -/

namespace Tangler

variable {t : Tangler σ} {effects : List Effect} {s : σ}

theorem Honest.fails (h : t.Honest) (hp : (t.perform e s).1 = .error err) : e.Fails err := by
  cases e with
  | openFile name mode => exact h.sink.opens name mode s err hp
  | write name text => exact h.sink.writes name text s err hp
  | closeFile name => exact h.sink.closes name s err hp
  | run block => exact h.executor block s err hp

/-- So is the call with which a list of them ends. -/
theorem Honest.failed (h : t.Honest) (hi : (t.issue effects s).failed = some (e, err)) :
    e.Fails err := by
  induction effects generalizing s with
  | nil => cases hi
  | cons effect effects ih =>
    rcases hp : t.perform effect s with ⟨err' | ⟨⟩, s'⟩
    · rw [issue_cons_of_error hp] at hi
      cases hi
      exact h.fails (by rw [hp])
    · rw [issue_cons_of_ok hp] at hi
      exact ih hi

/-- Honest collaborators make an honest tangler. -/
theorem honest_of_ofConfig {config : Config} {sink : Sink σ} {executor : Executor σ}
    (hsink : sink.Honest) (hexec : executor.Honest) (h : ofConfig config sink executor = .ok t) :
    t.Honest := by
  rw [ofConfig] at h
  cases hs : Scissors.compile config.scissors with
  | error e => rw [hs] at h; cases h
  | ok scissors =>
    rw [hs] at h
    cases h
    exact ⟨hsink, hexec⟩

/-- **A preview is honest**, whatever it is set to. -/
theorem honest_of_preview {config : Config} {indent : Nat} {t : Tangler (MemoryFiles × World)}
    (h : ofConfig config Sink.memory.onFirst (Setting.printing indent).onSecond = .ok t) : t.Honest :=
  honest_of_ofConfig Sink.honest_memory.onFirst (Executor.honest_printing indent).onSecond h

/-- **So is a run that writes files and runs blocks.** -/
theorem honest_of_execute {config : Config} {store : Store World κ} {base : Path} {i : Interpreter}
    {directory : Option Path} {t : Tangler (Handles κ × World)}
    (h : ofConfig config (Sink.files store base) (Executor.shell i directory).onSecond = .ok t) :
    t.Honest :=
  honest_of_ofConfig (Sink.honest_files store base) (Executor.honest_shell i directory).onSecond h

end Tangler

end Tangle
