import Tangle.Proofs.Block.Feed
/-!
# Lines under other numbers

The machine puts the numbers of lines into what it yields and does nothing
else with them: it compares none and computes none. So lines under other
numbers lead to the same effects and errors under other numbers, one line
at a time (`feed_renumber`) and over a whole document (`run_renumber`),
whatever the other numbers are.
-/

namespace Tangle

variable (ρ : Nat → Nat)

/-- The line under another number. -/
def SourceLine.renumber (l : SourceLine) : SourceLine := { l with number := ρ l.number }

/-- The run block with its lines under other numbers. -/
def RunBlock.renumber (b : RunBlock) : RunBlock :=
  ⟨ρ b.startLine, ρ b.endLine, b.lines.map (SourceLine.renumber ρ)⟩

/-- The effect of the lines under other numbers: only a run block has any. -/
def Effect.renumber : Effect → Effect
  | .run b => .run (b.renumber ρ)
  | e => e

/-- The defect of the lines under other numbers. -/
def Defect.renumber : Defect → Defect
  | .unquotedInFence opened => .unquotedInFence (ρ opened)
  | d => d

/-- The error about the lines under other numbers. -/
def Error.renumber : Error → Error
  | .defect l d => .defect ⟨l.document, ρ l.line⟩ (d.renumber ρ)
  | .runFailed status startLine endLine => .runFailed status (ρ startLine) (ρ endLine)
  | e => e

/-- The context with its fence under another number. -/
def Context.renumber (c : Context) : Context := { c with fence := c.fence.map ρ }

namespace MachineState

/-- The state with its lines under other numbers. -/
def renumber (s : MachineState) : MachineState :=
  ⟨s.context.renumber ρ, s.buffer.map (SourceLine.renumber ρ)⟩

end MachineState

namespace Machine

open LineKind

/-- The result of a run of the lines under other numbers. -/
def renumberResult (r : Except Error (List Effect)) : Except Error (List Effect) :=
  (r.map (List.map (Effect.renumber ρ))).mapError (Error.renumber ρ)

variable {ρ} {lenient : Bool} {s t : MachineState} {l : SourceLine} {c : Context}

@[simp] theorem renumber_context : (s.renumber ρ).context = s.context.renumber ρ := rfl

@[simp] theorem renumber_fence : (c.renumber ρ).fence = c.fence.map ρ := rfl

@[simp] theorem renumber_inFence : (c.renumber ρ).inFence = c.inFence := Option.isSome_map

@[simp] theorem renumber_hasHeader : (c.renumber ρ).hasHeader = c.hasHeader := rfl

@[simp] theorem renumber_chars : (l.renumber ρ).chars = l.chars := rfl

/-! ## One line -/

theorem ofFileHeader_renumber (n : Nat) (rest : List Char) :
    ofFileHeader (ρ n) rest = (ofFileHeader n rest).mapError (Error.renumber ρ) := by
  rw [ofFileHeader, ofFileHeader]
  split <;> rfl

/-- A line has its kind under any number. -/
theorem classify_renumber : classify lenient (c.renumber ρ) (l.renumber ρ) =
    (classify lenient c l).mapError (Error.renumber ρ) := by
  by_cases hq : l.IsQuoted
  · have hq' : (l.renumber ρ).IsQuoted := hq
    rw [classify_quoted hq, classify_quoted hq', renumber_chars, renumber_inFence,
      renumber_hasHeader]
    cases Header.isFence l.chars with
    | true => rfl
    | false =>
      cases c.inFence with
      | true => rfl
      | false =>
        cases Header.isRun l.chars with
        | true => rfl
        | false =>
          cases Header.fileRest? l.chars with
          | some rest => exact ofFileHeader_renumber l.number rest
          | none => rfl
  · have hq' : ¬ (l.renumber ρ).IsQuoted := hq
    rw [classify_unquoted hq, classify_unquoted hq', renumber_inFence]
    rfl

theorem strayDefect_renumber : strayDefect (c.renumber ρ) = (strayDefect c).renumber ρ := by
  rw [strayDefect, strayDefect, renumber_hasHeader]
  cases h : c.fence with
  | some start => simp [Context.renumber, h, Defect.renumber]
  | none =>
    rw [Context.renumber, h]
    cases c.hasHeader <;> rfl

theorem openFence_renumber (n : Nat) : openFence (c.renumber ρ) (ρ n) =
    ((openFence c n).1.renumber ρ, (openFence c n).2.map (Effect.renumber ρ)) := by
  rw [openFence, openFence]
  cases h : c.target <;> simp [Context.renumber, h, Effect.renumber]

theorem closeFence_renumber (start n : Nat) : closeFence (s.renumber ρ) (ρ start) (ρ n) =
    ((closeFence s start n).1.renumber ρ, (closeFence s start n).2.map (Effect.renumber ρ)) := by
  rw [closeFence, closeFence]
  cases h : s.context.target <;> cases hb : s.buffer <;>
    simp [MachineState.renumber, Context.renumber, h, hb, Effect.renumber, RunBlock.renumber]

/-- **A step under other numbers** does the same under these. -/
theorem step_renumber (kind : LineKind) (n : Nat) : step (s.renumber ρ) kind (ρ n) =
    ((step s kind n).map fun r => (r.1.renumber ρ, r.2.map (Effect.renumber ρ))).mapError
      (Error.renumber ρ) := by
  cases kind with
  | fileHeader name mode => rfl
  | runHeader => rfl
  | prose => rfl
  | stray =>
    change Except.error (Error.atLine (ρ n) (strayDefect (s.context.renumber ρ))) = _
    rw [strayDefect_renumber]
    rfl
  | fence =>
    cases h : s.context.fence with
    | none =>
      have h' : (s.renumber ρ).context.fence = none := by simp [h]
      rw [step_open h, step_open h', renumber_context, openFence_renumber]
      rfl
    | some start =>
      have h' : (s.renumber ρ).context.fence = some (ρ start) := by simp [h]
      rw [step_close h, step_close h', closeFence_renumber]
      rfl
  | content text =>
    cases h : s.context.target with
    | some name =>
      have h' : (s.renumber ρ).context.target = some name := h
      rw [step_write h, step_write h']
      rfl
    | none =>
      have h' : (s.renumber ρ).context.target = none := h
      cases hr : s.context.isRun with
      | true =>
        have hr' : (s.renumber ρ).context.isRun = true := hr
        rw [step_collect h hr, step_collect h' hr']
        simp only [Except.map, Except.mapError, MachineState.renumber, List.map_append]
        rfl
      | false =>
        have hr' : (s.renumber ρ).context.isRun = false := hr
        rw [step_pass h hr, step_pass h' hr']
        rfl

/-- **A line under another number** does the same under it. -/
theorem feed_renumber : feed lenient (s.renumber ρ) (l.renumber ρ) =
    (renumberResult ρ (feed lenient s l).1, (feed lenient s l).2.renumber ρ) := by
  have hclass : classify lenient (s.context.renumber ρ) (l.renumber ρ) = _ := classify_renumber
  cases hk : classify lenient s.context l with
  | error e =>
    rw [hk] at hclass
    rw [feed_of_classify_error hk, feed_of_classify_error hclass]
    rfl
  | ok kind =>
    rw [hk] at hclass
    rw [feed_of_classify hk, feed_of_classify hclass]
    have hstep : step (s.renumber ρ) kind (l.renumber ρ).number =
        ((step s kind l.number).map fun r => (r.1.renumber ρ, r.2.map (Effect.renumber ρ))).mapError
          (Error.renumber ρ) := step_renumber kind l.number
    rw [hstep]
    cases step s kind l.number <;> rfl

/-- **Lines under other numbers** lead to the same effects under these, or
to the same error. -/
theorem run_renumber (lines : List SourceLine) :
    run lenient (s.renumber ρ) (lines.map (SourceLine.renumber ρ)) =
      (renumberResult ρ (run lenient s lines).1, (run lenient s lines).2.renumber ρ) := by
  induction lines generalizing s with
  | nil =>
    rw [List.map_nil, run, run, finish, finish]
    cases h : s.context.fence <;> simp [h] <;> rfl
  | cons l lines ih =>
    have hfeed : feed lenient (s.renumber ρ) (l.renumber ρ) = _ := feed_renumber
    rw [List.map_cons]
    rcases hf : feed lenient s l with ⟨e | effects, t⟩
    · rw [hf] at hfeed
      rw [run_cons_of_error hfeed, run_cons_of_error hf]
      rfl
    · rw [hf] at hfeed
      rw [run_cons_of_ok hfeed, run_cons_of_ok hf, ih]
      rcases run lenient t lines with ⟨e | later, u⟩
      · rfl
      · simp [after, renumberResult, Except.map, Except.mapError]

end Machine

end Tangle
