import Tangle.Block.Machine
import Mathlib.Data.List.Basic
/-!
# What the machine asks for before it fails

A run that fails yields its error and no effects, but a pass performs the
effects line by line and has performed some by then. `script` keeps both:
the effects of all lines before the first that fails, and how the run
ends. `run_eq_script` says that a run is its script without the effects of
a failure, and `Feeds` names the lines that have been read well, so that a
script can be cut after them.

A run that ends well has read every line and left no fence open
(`run_eq_ok_iff_feeds`); one that fails does so at a line (`FailsAt`) or at
the check after all lines (`run_eq_error_iff`).
-/

namespace Tangle

namespace Machine

/-- The effects of a run up to its failure, if it fails, and how it ends. -/
structure Script where
  /-- The effects of the lines before the first that fails. -/
  effects : List Effect
  /-- Success, or the failure of a line or of the check at the end. -/
  verdict : Except Error Unit

/-- The script of a run. -/
def script (lenient : Bool) (m : MachineState) : List SourceLine → Script
  | [] => ⟨[], finish m⟩
  | line :: rest =>
    match feed lenient m line with
    | (.error e, _) => ⟨[], .error e⟩
    | (.ok effects, m) =>
      ⟨effects ++ (script lenient m rest).effects, (script lenient m rest).verdict⟩

/-- **The lines are read without failure**: fed one by one from the first
state, they yield the effects and lead to the last. -/
inductive Feeds (lenient : Bool) : MachineState → List SourceLine → List Effect → MachineState → Prop
  /-- No line. -/
  | nil {m : MachineState} : Feeds lenient m [] [] m
  /-- One line and the rest. -/
  | cons {m m₁ m₂ : MachineState} {line : SourceLine} {rest : List SourceLine}
      {effects later : List Effect} : feed lenient m line = (.ok effects, m₁) →
      Feeds lenient m₁ rest later m₂ → Feeds lenient m (line :: rest) (effects ++ later) m₂

variable {lenient : Bool} {m m' : MachineState} {line : SourceLine} {pre rest : List SourceLine}
variable {effects : List Effect} {e : Error}

theorem script_nil : script lenient m [] = ⟨[], finish m⟩ := rfl

theorem script_cons_of_error (h : feed lenient m line = (.error e, m')) :
    script lenient m (line :: rest) = ⟨[], .error e⟩ := by
  rw [script, h]

theorem script_cons_of_ok (h : feed lenient m line = (.ok effects, m')) :
    script lenient m (line :: rest) =
      ⟨effects ++ (script lenient m' rest).effects, (script lenient m' rest).verdict⟩ := by
  rw [script, h]

/-- **A run is its script**, without the effects where it fails. -/
theorem run_eq_script (lenient : Bool) (m : MachineState) (lines : List SourceLine) :
    (run lenient m lines).1 =
      (script lenient m lines).verdict.map fun _ => (script lenient m lines).effects := by
  induction lines generalizing m with
  | nil =>
    rw [run, script_nil]
  | cons line rest ih =>
    rcases hf : feed lenient m line with ⟨_ | effects, m'⟩
    · rw [run, hf, script_cons_of_error hf]
      rfl
    · rw [run, hf, script_cons_of_ok hf]
      simp only [ih m']
      cases (script lenient m' rest).verdict <;> rfl

/-- A run fails as its script does. -/
theorem run_eq_error_iff_verdict {lines : List SourceLine} : (run lenient m lines).1 = .error e ↔
    (script lenient m lines).verdict = .error e := by
  rw [run_eq_script]
  cases (script lenient m lines).verdict <;> simp [Except.map]

/-- A run that ends well is known by its script. -/
theorem run_eq_ok_iff {lines : List SourceLine} : (run lenient m lines).1 = .ok effects ↔
    script lenient m lines = ⟨effects, .ok ()⟩ := by
  rw [run_eq_script]
  obtain ⟨es, verdict⟩ := script lenient m lines
  cases verdict <;> simp [Except.map]

/-- Lines read well put their effects before those of the lines after
them. -/
theorem Feeds.script_append (h : Feeds lenient m pre effects m') : script lenient m (pre ++ rest) =
    ⟨effects ++ (script lenient m' rest).effects, (script lenient m' rest).verdict⟩ := by
  induction h with
  | nil => rfl
  | cons hf _ ih =>
    rw [List.cons_append, script_cons_of_ok hf, ih, List.append_assoc]

/-- Where all lines are read well, the check is what is left. -/
theorem Feeds.script_eq {lines : List SourceLine} (h : Feeds lenient m lines effects m') :
    script lenient m lines = ⟨effects, finish m'⟩ := by
  have hscript : script lenient m (lines ++ []) = _ := h.script_append
  rwa [List.append_nil, script_nil, List.append_nil] at hscript

/-- **Lines are read in two parts**, the front first. -/
theorem feeds_append_iff {all : List Effect} {m'' : MachineState} :
    Feeds lenient m (pre ++ rest) all m'' ↔ ∃ first m' second,
      Feeds lenient m pre first m' ∧ Feeds lenient m' rest second m'' ∧ all = first ++ second := by
  constructor
  · intro h
    induction pre generalizing m all with
    | nil => exact ⟨[], m, all, .nil, h, rfl⟩
    | cons line pre ih =>
      cases h with
      | @cons _ _ _ _ _ effects _ hf hrest =>
        obtain ⟨first, m', second, hpre, hsecond, rfl⟩ := ih hrest
        exact ⟨effects ++ first, m', second, .cons hf hpre, hsecond, (List.append_assoc _ _ _).symm⟩
  · rintro ⟨first, m', second, hpre, hsecond, rfl⟩
    induction hpre with
    | nil => exact hsecond
    | cons hf _ ih =>
      rw [List.append_assoc]
      exact .cons hf (ih hsecond)

/-- One line and then the rest. -/
theorem feeds_cons_iff {all : List Effect} {m'' : MachineState} :
    Feeds lenient m (line :: rest) all m'' ↔ ∃ first m' second,
      feed lenient m line = (.ok first, m') ∧ Feeds lenient m' rest second m'' ∧
        all = first ++ second := by
  constructor
  · intro h
    cases h with
    | cons hf hrest => exact ⟨_, _, _, hf, hrest, rfl⟩
  · rintro ⟨first, m', second, hf, hrest, rfl⟩
    exact .cons hf hrest

/-- **What was asked for, some line asked for.** -/
theorem Feeds.exists_of_mem {e : Effect} (h : Feeds lenient m pre effects m') (he : e ∈ effects) :
    ∃ front line back before m₁ now m₂, pre = front ++ line :: back ∧
      Feeds lenient m front before m₁ ∧ feed lenient m₁ line = (.ok now, m₂) ∧ e ∈ now := by
  induction h with
  | nil => cases he
  | @cons m m₁ _ line rest now _ hf _ ih =>
    rcases List.mem_append.1 he with he | he
    · exact ⟨[], line, rest, [], m, now, m₁, rfl, .nil, hf, he⟩
    · obtain ⟨front, line', back, before, m₂, later, m₃, rfl, hfront, hfeed, hmem⟩ := ih he
      exact ⟨line :: front, line', back, _, m₂, later, m₃, rfl, .cons hf hfront, hfeed, hmem⟩

/-- **A line that fails ends the script** with the effects of the lines
before it. -/
theorem Feeds.script_of_error (h : Feeds lenient m pre effects m') {m'' : MachineState}
    (hf : feed lenient m' line = (.error e, m'')) :
    script lenient m (pre ++ line :: rest) = ⟨effects, .error e⟩ := by
  rw [h.script_append, script_cons_of_error hf, List.append_nil]

/-- **How a script ends**: with the check after all lines, or at a line
that fails. The effects are those of the lines before. -/
theorem script_ends (lenient : Bool) (m : MachineState) (lines : List SourceLine) :
    ∃ pre m', Feeds lenient m pre (script lenient m lines).effects m' ∧
      ((lines = pre ∧ (script lenient m lines).verdict = finish m') ∨
        ∃ line rest e, lines = pre ++ line :: rest ∧ (feed lenient m' line).1 = .error e ∧
          (script lenient m lines).verdict = .error e) := by
  induction lines generalizing m with
  | nil => exact ⟨[], m, .nil, Or.inl ⟨rfl, rfl⟩⟩
  | cons line lines ih =>
    rcases hf : feed lenient m line with ⟨err | effects, m₁⟩
    · rw [script_cons_of_error hf]
      exact ⟨[], m, .nil, Or.inr ⟨line, lines, err, rfl, by rw [hf], rfl⟩⟩
    · obtain ⟨pre, m', hfeeds, hend⟩ := ih m₁
      rw [script_cons_of_ok hf]
      refine ⟨line :: pre, m', .cons hf hfeeds, hend.imp ?_ ?_⟩
      · rintro ⟨rfl, hverdict⟩
        exact ⟨rfl, hverdict⟩
      · rintro ⟨line', rest, err, rfl, hfeed, hverdict⟩
        exact ⟨line', rest, err, rfl, hfeed, hverdict⟩

/-- **The line at index `i` is the first that fails**, with this error. -/
def FailsAt (lenient : Bool) (m : MachineState) (lines : List SourceLine) (i : Nat) (e : Error) :
    Prop :=
  ∃ pre line rest effects m', lines = pre ++ line :: rest ∧ pre.length = i ∧
    Feeds lenient m pre effects m' ∧ (feed lenient m' line).1 = .error e

/-- **A run that fails does so at a line**, or at the check after all
lines. -/
theorem run_eq_error_iff {lines : List SourceLine} : (run lenient m lines).1 = .error e ↔
    (∃ i, FailsAt lenient m lines i e) ∨
      ∃ effects m', Feeds lenient m lines effects m' ∧ finish m' = .error e := by
  rw [run_eq_error_iff_verdict]
  constructor
  · intro h
    obtain ⟨pre, m', hfeeds, ⟨rfl, hfinish⟩ | ⟨line, rest, e', rfl, hfeed, hfailed⟩⟩ :=
      script_ends lenient m lines
    · exact Or.inr ⟨_, m', hfeeds, hfinish ▸ h⟩
    · cases hfailed.symm.trans h
      exact Or.inl ⟨_, pre, line, rest, _, m', rfl, rfl, hfeeds, hfeed⟩
  · rintro (⟨i, pre, line, rest, effects, m', rfl, -, hfeeds, hfeed⟩ | ⟨effects, m', hfeeds, hfinish⟩)
    · rw [hfeeds.script_of_error (Prod.ext hfeed rfl)]
    · rw [hfeeds.script_eq, hfinish]

theorem finish_eq_ok_iff : finish m = .ok () ↔ m.context.fence = none := by
  rw [finish]
  cases m.context.fence <;> simp

/-- **A run that ends well reads every line**, and leaves no fence open. -/
theorem run_eq_ok_iff_feeds {lines : List SourceLine} : (run lenient m lines).1 = .ok effects ↔
    ∃ m', Feeds lenient m lines effects m' ∧ m'.context.fence = none := by
  rw [run_eq_ok_iff]
  constructor
  · intro h
    obtain ⟨pre, m', hfeeds, hend⟩ := script_ends lenient m lines
    rw [h] at hfeeds hend
    rcases hend with ⟨rfl, hfinish⟩ | ⟨line, rest, e, -, -, hfailed⟩
    · exact ⟨m', hfeeds, finish_eq_ok_iff.1 hfinish.symm⟩
    · cases hfailed
  · rintro ⟨m', hfeeds, hc⟩
    rw [hfeeds.script_eq, finish_eq_ok_iff.2 hc]

end Machine

end Tangle
