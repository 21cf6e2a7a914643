import Tangle.Proofs.Pass.Issue
import Tangle.Proofs.Block.Script
import Tangle.Proofs.Report
/-!
# The calls of a pass

A pass feeds a line, performs what the line asks for, and feeds the next.
Said without the interleaving: it takes the script of the lines and issues
its effects. `passFrom_eq` is this equation, for any collaborators, and
`tangleLines_follows` is what it comes to for a pass: which calls are made
and in which order, which failure is the result, and what the report
counts.
-/

namespace Tangle

namespace Tangler

variable {σ : Type} {t : Tangler σ} {e : Effect} {effects : List Effect} {s s' : σ} {r : Report}
variable {err : Error} {m : MachineState}

/-! ## The interleaved loop -/

theorem dispatch_of_ok (h : t.perform e s = (.ok (), s')) :
    t.dispatch e (r, s) = (.ok (), r.record e, s') := by
  simp only [dispatch, h]

theorem dispatch_of_error (h : t.perform e s = (.error err, s')) :
    t.dispatch e (r, s) = (.error err, r, s') := by
  simp only [dispatch, h]

/-- The effects of one line are called in order and recorded. -/
theorem dispatchAll_eq (t : Tangler σ) (effects : List Effect) (r : Report) (s : σ) :
    t.dispatchAll effects (r, s) = ((t.issue effects s).result (.ok ()),
      r.recordAll (t.issue effects s).done, (t.issue effects s).state) := by
  induction effects generalizing r s with
  | nil => rfl
  | cons e effects ih =>
    rcases hp : t.perform e s with ⟨err | ⟨⟩, s'⟩
    · simp only [dispatchAll, dispatch_of_error hp, issue_cons_of_error hp]
      rfl
    · simp only [dispatchAll, dispatch_of_ok hp, issue_cons_of_ok hp]
      exact ih (r.record e) s'

/-- **The interleaved loop issues the script.** -/
theorem passFrom_eq (t : Tangler σ) (m : MachineState) (lines : List SourceLine) (r : Report) (s : σ) :
    t.passFrom m lines (r, s) =
      ((t.issue (Machine.script t.lenient m lines).effects s).result
          (Machine.script t.lenient m lines).verdict,
        r.recordAll (t.issue (Machine.script t.lenient m lines).effects s).done,
        (t.issue (Machine.script t.lenient m lines).effects s).state) := by
  induction lines generalizing m r s with
  | nil => rfl
  | cons line rest ih =>
    rcases hf : Machine.feed t.lenient m line with ⟨_ | effects, m'⟩
    · rw [passFrom, hf, Machine.script_cons_of_error hf]
      rfl
    · rw [passFrom, hf, Machine.script_cons_of_ok hf]
      simp only [dispatchAll_eq]
      -- if a call of this line fails, the rest is neither read nor in the calls
      cases hfail : (t.issue effects s).failed with
      | none =>
        rw [issue_append_of_ok hfail, Issue.result, hfail, issue_done hfail]
        simp only [ih, Issue.after, Issue.result, Report.recordAll_append]
      | some failure =>
        rw [issue_append_of_failed (by simp [hfail])]
        simp only [Issue.result, hfail]

/-! ## A pass -/

/-- What becomes of the calls of a pass over lines. -/
def calls (t : Tangler σ) (lines : List SourceLine) (s : σ) : Issue σ :=
  t.issue (Machine.script t.lenient .zero lines).effects s

/-- A pass ends as its calls do, and counts the document if they end
well. -/
theorem tangleLines_eq (t : Tangler σ) (lines : List SourceLine) (r : Report) (s : σ) :
    t.tangleLines lines (r, s) =
      match (t.calls lines s).result (Machine.script t.lenient .zero lines).verdict with
      | .ok () => (.ok (), (r.recordAll (t.calls lines s).done).countDocument, (t.calls lines s).state)
      | .error e => (.error e, r.recordAll (t.calls lines s).done, (t.calls lines s).state) := by
  simp only [tangleLines, passFrom_eq, calls]
  rcases (t.issue (Machine.script t.lenient .zero lines).effects s).result
    (Machine.script t.lenient .zero lines).verdict with e | ⟨⟩ <;> rfl

theorem tangleLines_result (t : Tangler σ) (lines : List SourceLine) (r : Report) (s : σ) :
    (t.tangleLines lines (r, s)).1 =
      (t.calls lines s).result (Machine.script t.lenient .zero lines).verdict := by
  rw [tangleLines_eq]
  split <;> rename_i heq <;> rw [heq]

/-- **A pass fails by the call that failed**, or as the machine does. -/
theorem tangleLines_error {err : Error} {lines : List SourceLine}
    (h : (t.tangleLines lines (r, s)).1 = .error err) :
    (∃ e, (t.calls lines s).failed = some (e, err)) ∨
      (Machine.run t.lenient .zero lines).1 = .error err := by
  rw [tangleLines_result, Issue.result] at h
  split at h
  · rename_i e _ hfailed
    cases h
    exact Or.inl ⟨e, hfailed⟩
  · exact Or.inr (Machine.run_eq_error_iff_verdict.2 h)

theorem tangleLines_state (t : Tangler σ) (lines : List SourceLine) (r : Report) (s : σ) :
    (t.tangleLines lines (r, s)).2.2 = (t.calls lines s).state := by
  rw [tangleLines_eq]
  split <;> rfl

/-- The report is that of the calls that succeeded, with the document. -/
theorem tangleLines_report (t : Tangler σ) (lines : List SourceLine) (r : Report) (s : σ) :
    (t.tangleLines lines (r, s)).2.1 = { r.recordAll (t.calls lines s).done with
      documents := r.documents + if (t.tangleLines lines (r, s)).1 = .ok () then 1 else 0 } := by
  have hdocs : (r.recordAll (t.calls lines s).done).documents = r.documents :=
    Report.recordAll_documents
  rw [tangleLines_result, tangleLines_eq]
  split <;> rename_i heq
  · rw [heq, if_pos rfl, ← hdocs]
    rfl
  · rw [heq, if_neg (by simp), Nat.add_zero, ← hdocs]

/-- The logged pass makes the same calls and notes them. -/
theorem logged_tangleLines (t : Tangler σ) (lines : List SourceLine) (r : Report) (s : σ) :
    t.logged.tangleLines lines (r, s, []) = ((t.tangleLines lines (r, s)).1,
      (t.tangleLines lines (r, s)).2.1, (t.tangleLines lines (r, s)).2.2,
      (t.calls lines s).made) := by
  have hcalls : t.logged.calls lines (s, []) = ⟨(t.calls lines s).done, (t.calls lines s).failed,
      (t.calls lines s).state, (t.calls lines s).made⟩ := logged_issue t _ s []
  rw [tangleLines_eq, tangleLines_eq, hcalls]
  change (match (t.calls lines s).result (Machine.script t.lenient .zero lines).verdict with
    | .ok () => _
    | .error e => _) = _
  split <;> rfl

/-! ## What a pass does and leaves -/

variable {pre rest lines : List SourceLine} {line : SourceLine}

/-- Where a call of the first lines fails, the lines after them do not
matter. -/
theorem calls_of_failed (h : Machine.Feeds t.lenient .zero pre effects m)
    (hfail : (t.issue effects s).failed ≠ none) : t.calls (pre ++ rest) s = t.issue effects s := by
  rw [calls, h.script_append]
  exact issue_append_of_failed hfail

/-- **A failed call wins** over anything wrong with the lines after it. -/
theorem tangleLines_of_failed (h : Machine.Feeds t.lenient .zero pre effects m)
    (hfail : (t.issue effects s).failed ≠ none) : t.tangleLines (pre ++ rest) (r, s) =
      ((t.issue effects s).result (.ok ()), r.recordAll (t.issue effects s).done,
        (t.issue effects s).state) := by
  rw [tangleLines_eq, calls_of_failed h hfail]
  obtain ⟨⟨e, err⟩, hsome⟩ := Option.ne_none_iff_exists'.1 hfail
  simp only [Issue.result, hsome]

/-- Where the machine accepts the lines and their effects succeed, so does
the pass. -/
theorem tangleLines_of_succeeds (hrun : (Machine.run t.lenient .zero lines).1 = .ok effects)
    (h : t.Succeeds effects s s') :
    t.tangleLines lines (r, s) = (.ok (), (r.recordAll effects).countDocument, s') := by
  rw [tangleLines_eq, calls, Machine.run_eq_ok_iff.1 hrun, h]
  rfl

/-- **And only there.** -/
theorem tangleLines_eq_ok_iff {r' : Report} : t.tangleLines lines (r, s) = (.ok (), r', s') ↔
    ∃ effects, (Machine.run t.lenient .zero lines).1 = .ok effects ∧ t.Succeeds effects s s' ∧
      r' = (r.recordAll effects).countDocument := by
  refine ⟨fun h => ?_, fun ⟨_, hrun, hsucc, hr⟩ => hr ▸ tangleLines_of_succeeds hrun hsucc⟩
  have hresult : (t.tangleLines lines (r, s)).1 = .ok () := congrArg Prod.fst h
  rw [tangleLines_result, Issue.result] at hresult
  split at hresult
  · cases hresult
  · rename_i hnone
    have hrun : (Machine.run t.lenient .zero lines).1 =
        .ok (Machine.script t.lenient .zero lines).effects := by
      rw [Machine.run_eq_ok_iff, ← hresult]
    have hsucc := succeeds_of_failed_eq_none hnone
    rw [tangleLines_of_succeeds hrun hsucc] at h
    cases h
    exact ⟨_, hrun, hsucc, rfl⟩

/-- Where a line fails after calls that succeeded, these are the calls. -/
theorem calls_of_refused {m' : MachineState} (h : Machine.Feeds t.lenient .zero pre effects m)
    (hf : Machine.feed t.lenient m line = (.error err, m')) :
    t.calls (pre ++ line :: rest) s = t.issue effects s := by
  rw [calls, h.script_of_error hf]

/-- The status of an error is never zero, and that of a run block is kept
where it can be. -/
theorem exitStatus_of (err : Error) : err.exitStatus ≠ 0 ∧ ∀ status first last,
    err = .runFailed status first last → 1 ≤ status → status ≤ 255 →
      (err.exitStatus : Int) = status := by
  constructor
  · cases err with
    | runFailed status first last =>
      rw [Error.exitStatus]
      split <;> omega
    | _ => exact Nat.one_ne_zero
  · rintro status first last rfl hlo hhi
    rw [Error.exitStatus, if_pos ⟨by omega, by omega⟩]
    omega

/-- **What a pass over lines does**, from a report and a state of the
collaborators, and what it leaves. -/
structure Follows (t : Tangler σ) (lines : List SourceLine) (r : Report) (s : σ) : Prop where
  /-- The calls are those of the script, up to the first that fails. A
  pass that notes its calls ends like one that does not. -/
  calls : t.logged.tangleLines lines (r, s, []) = ((t.tangleLines lines (r, s)).1,
    (t.tangleLines lines (r, s)).2.1, (t.tangleLines lines (r, s)).2.2, (t.calls lines s).made)
  /-- The first failure is the result, of a call before one of a line. -/
  result : (t.tangleLines lines (r, s)).1 =
    (t.calls lines s).result (Machine.script t.lenient .zero lines).verdict
  /-- The collaborators are left as the last call left them. -/
  state : (t.tangleLines lines (r, s)).2.2 = (t.calls lines s).state
  /-- Where the machine accepts the lines and no call fails, the calls are
  the effects of the lines. -/
  whole : ∀ effects, (Machine.run t.lenient .zero lines).1 = .ok effects →
    (t.calls lines s).failed = none →
      (t.calls lines s).made = effects ∧ (t.tangleLines lines (r, s)).1 = .ok ()
  /-- A call that fails for one of the first lines wins: with other lines
  after them the pass is the same. -/
  wins : ∀ pre rest other effects m, lines = pre ++ rest →
    Machine.Feeds t.lenient .zero pre effects m → (t.issue effects s).failed ≠ none →
      t.tangleLines (pre ++ other) (r, s) = t.tangleLines lines (r, s) ∧
        t.calls (pre ++ other) s = t.calls lines s
  /-- Where a line fails and no call before, every effect of the lines
  before was called, and none after. -/
  refused : ∀ pre line rest effects m err, lines = pre ++ line :: rest →
    Machine.Feeds t.lenient .zero pre effects m → (Machine.feed t.lenient m line).1 = .error err →
      (t.issue effects s).failed = none →
        (t.calls lines s).made = effects ∧ (t.tangleLines lines (r, s)).1 = .error err
  /-- The program ends with a status other than zero on a failure, and with
  that of a run block if it fits. -/
  status : ∀ err, (t.tangleLines lines (r, s)).1 = .error err →
    err.exitStatus ≠ 0 ∧ ∀ status first last, err = .runFailed status first last →
      1 ≤ status → status ≤ 255 → (err.exitStatus : Int) = status
  /-- The document is counted on success alone. -/
  documents : (t.tangleLines lines (r, s)).2.1.documents =
    r.documents + if (t.tangleLines lines (r, s)).1 = .ok () then 1 else 0
  /-- Run blocks are counted when their call succeeds. -/
  runs : (t.tangleLines lines (r, s)).2.1.runs =
    r.runs + (t.calls lines s).done.countP Effect.isRun
  /-- So are lines, under the name of their file. -/
  written : ∀ name, (t.tangleLines lines (r, s)).2.1.lines name =
    r.lines name + (t.calls lines s).done.countP (Effect.writesTo name)
  /-- A name is listed once a call opened or wrote its file. -/
  listed : ∀ name, (t.tangleLines lines (r, s)).2.1.Lists name ↔
    r.Lists name ∨ ∃ e ∈ (t.calls lines s).done, e.fills name = true

/-- **A pass makes the calls of its script up to the first failure**, with
any collaborators and from any state. -/
theorem tangleLines_follows (t : Tangler σ) (lines : List SourceLine) (r : Report) (s : σ) :
    t.Follows lines r s where
  calls := logged_tangleLines t lines r s
  result := tangleLines_result t lines r s
  state := tangleLines_state t lines r s
  whole effects hrun hnone := by
    have hscript := Machine.run_eq_ok_iff.1 hrun
    rw [tangleLines_result, Issue.result, hnone, hscript]
    rw [Tangler.calls, hscript] at hnone ⊢
    exact ⟨issue_made hnone, rfl⟩
  wins pre rest other effects m hlines hfeeds hfail := by
    rw [hlines, tangleLines_of_failed hfeeds hfail, tangleLines_of_failed hfeeds hfail,
      calls_of_failed hfeeds hfail, calls_of_failed hfeeds hfail]
    exact ⟨rfl, rfl⟩
  refused pre line rest effects m err hlines hfeeds hfeed hnone := by
    have hf : Machine.feed t.lenient m line = (.error err, (Machine.feed t.lenient m line).2) :=
      Prod.ext hfeed rfl
    rw [tangleLines_result, hlines, calls_of_refused hfeeds hf, hfeeds.script_of_error hf,
      Issue.result, hnone]
    exact ⟨issue_made hnone, rfl⟩
  status err _ := exitStatus_of err
  documents := by rw [tangleLines_report]
  runs := by
    rw [tangleLines_report]
    exact Report.recordAll_runs
  written name := by
    rw [tangleLines_report]
    exact Report.recordAll_lines
  listed name := by
    rw [tangleLines_report]
    exact Report.recordAll_lists

end Tangler

end Tangle
