import Tangle.Pass
import Mathlib.Data.List.Basic
/-!
# Effects called in order

A list of effects is called one after another, up to the first call that
fails (`issue`). Which calls were made is seen by giving the tangler
collaborators that note each call before they answer it (`logged`), which
changes nothing else (`logged_issue`).
-/

namespace Tangle

/-- What became of effects that were called in order. -/
structure Issue (σ : Type) where
  /-- The calls that succeeded. -/
  done : List Effect
  /-- The call that failed, and how. -/
  failed : Option (Effect × Error)
  /-- The state after the last call. -/
  state : σ

namespace Issue

variable {σ : Type}

/-- All calls made, the one that failed being the last. -/
def made (i : Issue σ) : List Effect :=
  i.done ++ i.failed.toList.map Prod.fst

/-- How the calls end: with the failure of the last, or else as `verdict`. -/
def result (i : Issue σ) (verdict : Except Error Unit) : Except Error Unit :=
  match i.failed with
  | some (_, e) => .error e
  | none => verdict

/-- Calls after others that succeeded. -/
def after (earlier : List Effect) (i : Issue σ) : Issue σ :=
  { i with done := earlier ++ i.done }

end Issue

namespace Tangler

variable {σ : Type}

/-- **Effects called in order**, up to the first call that fails. -/
def issue (t : Tangler σ) : List Effect → σ → Issue σ
  | [], s => ⟨[], none, s⟩
  | effect :: rest, s =>
    match t.perform effect s with
    | (.ok (), s) => (issue t rest s).after [effect]
    | (.error e, s) => ⟨[], some (effect, e), s⟩

/-- An operation that notes its call in a log before it answers. -/
def noting (effect : Effect) (a : Action σ Unit) : Action (σ × List Effect) Unit :=
  fun s => ((a s.1).1, (a s.1).2, s.2 ++ [effect])

/-- **The tangler whose collaborators keep a log of their calls**, beside
their own state. -/
def logged (t : Tangler σ) : Tangler (σ × List Effect) where
  lenient := t.lenient
  scissors := t.scissors
  sink := {
    openFile := fun name mode => noting (.openFile name mode) (t.sink.openFile name mode)
    write := fun name text => noting (.write name text) (t.sink.write name text)
    closeFile := fun name => noting (.closeFile name) (t.sink.closeFile name) }
  executor := {
    name := t.executor.name
    run := fun block => noting (.run block) (t.executor.run block) }

variable {t : Tangler σ} {e : Effect} {effects later : List Effect} {s s' : σ} {err : Error}

/-! ## Calls in order -/

theorem issue_cons_of_ok (h : t.perform e s = (.ok (), s')) :
    t.issue (e :: effects) s = (t.issue effects s').after [e] := by
  rw [issue, h]

theorem issue_cons_of_error (h : t.perform e s = (.error err, s')) :
    t.issue (e :: effects) s = ⟨[], some (e, err), s'⟩ := by
  rw [issue, h]

/-- Where no call fails, all are made. -/
theorem issue_done (h : (t.issue effects s).failed = none) : (t.issue effects s).done = effects := by
  induction effects generalizing s with
  | nil => rfl
  | cons e effects ih =>
    rcases hp : t.perform e s with ⟨err | ⟨⟩, s'⟩
    · rw [issue_cons_of_error hp] at h
      cases h
    · rw [issue_cons_of_ok hp] at h ⊢
      exact congrArg (e :: ·) (ih h)

theorem issue_made (h : (t.issue effects s).failed = none) : (t.issue effects s).made = effects := by
  rw [Issue.made, h, issue_done h]
  exact List.append_nil _

/-- The calls made are the first of the effects. -/
theorem issue_made_prefix (t : Tangler σ) (effects : List Effect) (s : σ) :
    (t.issue effects s).made <+: effects := by
  induction effects generalizing s with
  | nil => exact List.prefix_rfl
  | cons e effects ih =>
    rcases hp : t.perform e s with ⟨err | ⟨⟩, s'⟩
    · rw [issue_cons_of_error hp]
      exact ⟨effects, rfl⟩
    · rw [issue_cons_of_ok hp]
      exact (List.prefix_cons_inj e).2 (ih s')

/-- After calls that succeeded the next are made. -/
theorem issue_append_of_ok (h : (t.issue effects s).failed = none) :
    t.issue (effects ++ later) s = (t.issue later (t.issue effects s).state).after effects := by
  induction effects generalizing s with
  | nil => rfl
  | cons e effects ih =>
    rcases hp : t.perform e s with ⟨err | ⟨⟩, s'⟩
    · rw [issue_cons_of_error hp] at h
      cases h
    · rw [issue_cons_of_ok hp] at h ⊢
      rw [List.cons_append, issue_cons_of_ok hp, ih h]
      rfl

/-- **After a call that failed none is.** -/
theorem issue_append_of_failed (h : (t.issue effects s).failed ≠ none) :
    t.issue (effects ++ later) s = t.issue effects s := by
  induction effects generalizing s with
  | nil => exact absurd rfl h
  | cons e effects ih =>
    rcases hp : t.perform e s with ⟨err | ⟨⟩, s'⟩
    · rw [List.cons_append, issue_cons_of_error hp, issue_cons_of_error hp]
    · rw [issue_cons_of_ok hp] at h
      rw [List.cons_append, issue_cons_of_ok hp, issue_cons_of_ok hp, ih h]

/-- **All effects succeed**, one after another, and lead to `s'`. -/
def Succeeds (t : Tangler σ) (effects : List Effect) (s s' : σ) : Prop :=
  t.issue effects s = ⟨effects, none, s'⟩

theorem succeeds_nil : t.Succeeds [] s s := rfl

theorem succeeds_cons {s'' : σ} (h : t.perform e s = (.ok (), s'))
    (hrest : t.Succeeds effects s' s'') : t.Succeeds (e :: effects) s s'' := by
  rw [Succeeds, issue_cons_of_ok h, hrest]
  rfl

theorem Succeeds.append {s'' : σ} (h : t.Succeeds effects s s') (hlater : t.Succeeds later s' s'') :
    t.Succeeds (effects ++ later) s s'' := by
  unfold Succeeds at h hlater ⊢
  rw [issue_append_of_ok (by rw [h]), h, hlater]
  rfl

/-- Effects succeed where no call fails. -/
theorem succeeds_of_failed_eq_none (h : (t.issue effects s).failed = none) :
    t.Succeeds effects s (t.issue effects s).state := by
  have hdone := issue_done h
  unfold Succeeds
  generalize t.issue effects s = i at h hdone ⊢
  cases i
  cases h
  cases hdone
  rfl

/-- **Effects succeed in two parts**, the first part first. -/
theorem succeeds_append_iff {s'' : σ} : t.Succeeds (effects ++ later) s s'' ↔
    ∃ s', t.Succeeds effects s s' ∧ t.Succeeds later s' s'' := by
  refine ⟨fun h => ?_, fun ⟨_, hfirst, hlater⟩ => hfirst.append hlater⟩
  have hfirst : (t.issue effects s).failed = none := by
    by_contra hfail
    rw [Succeeds, issue_append_of_failed hfail] at h
    exact hfail (congrArg Issue.failed h)
  rw [Succeeds, issue_append_of_ok hfirst] at h
  have hlater := succeeds_of_failed_eq_none (congrArg Issue.failed h)
  rw [show (t.issue later (t.issue effects s).state).state = s'' from congrArg Issue.state h] at hlater
  exact ⟨_, succeeds_of_failed_eq_none hfirst, hlater⟩

/-- An operation that is logged does what it did, and is noted. -/
theorem logged_perform (t : Tangler σ) (e : Effect) (s : σ) (log : List Effect) :
    t.logged.perform e (s, log) = ((t.perform e s).1, (t.perform e s).2, log ++ [e]) := by
  cases e <;> rfl

/-- **Keeping a log changes nothing else**, and the log tells the calls. -/
theorem logged_issue (t : Tangler σ) (effects : List Effect) (s : σ) (log : List Effect) :
    t.logged.issue effects (s, log) = ⟨(t.issue effects s).done, (t.issue effects s).failed,
      (t.issue effects s).state, log ++ (t.issue effects s).made⟩ := by
  induction effects generalizing s log with
  | nil => simp [issue, Issue.made]
  | cons e effects ih =>
    have hlog := logged_perform t e s log
    rcases hp : t.perform e s with ⟨err | ⟨⟩, s'⟩
    · rw [hp] at hlog
      rw [issue_cons_of_error hlog, issue_cons_of_error hp]
      rfl
    · rw [hp] at hlog
      rw [issue_cons_of_ok hlog, issue_cons_of_ok hp, ih]
      simp [Issue.after, Issue.made]

end Tangler

end Tangle
