import Tangle.Proofs.Block.Invariant
/-!
# Lenient reading extends strict reading

The two modes read a line differently in one case: a quoted line of no
shape, outside a fence and with no header in force, fails in strict mode
and is prose in lenient mode (`Tolerated`). So the two machines run in step
up to the first such line (`Feeds.strict_or`), and where those lines are
blank to begin with they run in step to the end (`Feeds.blanked`).
-/

namespace Tangle

namespace LineKind

variable {c : Context} {l : SourceLine}

/-- **Where the modes differ.** A quoted line has a kind that is not prose,
the same in both modes; or no fence is open and no header is in force, and
it is prose where the mode is lenient. -/
theorem classify_modes (c : Context) (hq : l.IsQuoted) :
    (∃ r, r ≠ .ok .prose ∧ ∀ lenient, classify lenient c l = r) ∨
      c.fence = none ∧ c.hasHeader = false ∧
        ∀ lenient, classify lenient c l = .ok (if lenient then .prose else .stray) := by
  simp only [classify_quoted hq]
  split
  · exact Or.inl ⟨_, by simp, fun _ => rfl⟩
  split
  · exact Or.inl ⟨_, by simp, fun _ => rfl⟩
  split
  · exact Or.inl ⟨_, by simp, fun _ => rfl⟩
  split
  · refine Or.inl ⟨_, ?_, fun _ => rfl⟩
    rw [ofFileHeader]
    split <;> simp
  · rename_i hin _ _ _
    cases hh : c.hasHeader with
    | true => exact Or.inl ⟨.ok .stray, by simp, by simp⟩
    | false => exact Or.inr ⟨Machine.inFence_eq_false_iff.1 (by simpa using hin), rfl, by simp⟩

end LineKind

namespace Machine

open LineKind

/-- **The lenient machine tolerates the line**: it is quoted, and taken for
prose. -/
def Tolerated (s : MachineState) (l : SourceLine) : Prop :=
  l.IsQuoted ∧ classify true s.context l = .ok .prose

instance (s : MachineState) (l : SourceLine) : Decidable (Tolerated s l) :=
  inferInstanceAs (Decidable (_ ∧ _))

/-- The lines that the lenient machine reads from a state, with an empty
line of the same number in place of each that it tolerates. -/
def blanked (s : MachineState) : List SourceLine → List SourceLine
  | [] => []
  | l :: rest =>
    (if Tolerated s l then .ofText l.number "" else l) :: blanked (feed true s l).2 rest

example : blanked .zero [.ofText 1 "> so", .ofText 2 "> Run", .ofText 3 "> so"] =
    [.ofText 1 "", .ofText 2 "> Run", .ofText 3 "> so"] := rfl

variable {lenient : Bool} {s t m m' : MachineState} {l : SourceLine} {lines : List SourceLine}
variable {effects : List Effect} {e : Error} {i : Nat}

/-! ## One line -/

theorem feed_of_tolerated (h : Tolerated s l) : s.context.fence = none ∧
    feed true s l = (.ok [], ⟨s.context.reset, s.buffer⟩) ∧
    feed false s l = (.error (.atLine l.number .strayQuote), .zero) := by
  obtain ⟨hq, hprose⟩ := h
  rcases classify_modes s.context hq with ⟨r, hr, hsame⟩ | ⟨hc, hh, hclass⟩
  · exact absurd ((hsame true).symm.trans hprose) hr
  · have hstray : strayDefect s.context = .strayQuote := by
      rw [strayDefect, hc, hh]
      rfl
    refine ⟨hc, by rw [feed_of_classify hprose]; rfl, ?_⟩
    rw [feed_of_classify (hclass false), ← hstray]
    rfl

/-- **Elsewhere the two machines do the same.** -/
theorem feed_of_not_tolerated (h : ¬ Tolerated s l) : feed false s l = feed true s l := by
  have hclass : classify false s.context l = classify true s.context l := by
    by_cases hq : l.IsQuoted
    · rcases classify_modes s.context hq with ⟨r, -, hsame⟩ | ⟨-, -, hclass⟩
      · rw [hsame, hsame]
      · exact absurd ⟨hq, hclass true⟩ h
    · rw [classify_unquoted hq, classify_unquoted hq]
  rw [feed, feed, hclass]

/-- So they do where the strict machine does not fail. -/
theorem feed_of_strict (h : feed false s l = (.ok effects, t)) : feed true s l = (.ok effects, t) := by
  by_cases htol : Tolerated s l
  · rw [(feed_of_tolerated htol).2.2] at h
    cases h
  · rw [← feed_of_not_tolerated htol, h]

/-! ## All lines -/

/-- **Lines that the strict machine reads well** the lenient one reads just
so. -/
theorem Feeds.of_strict (h : Feeds false m lines effects m') : Feeds true m lines effects m' := by
  induction h with
  | nil => exact .nil
  | cons hf _ ih => exact .cons (feed_of_strict hf) ih

/-- **What the lenient machine reads well** the strict one reads just so,
or it fails at a stray line. -/
theorem Feeds.strict_or (h : Feeds true m lines effects m') : Feeds false m lines effects m' ∨
    ∃ i < lines.length, ∃ n, FailsAt false m lines i (.atLine n .strayQuote) := by
  induction h with
  | nil => exact Or.inl .nil
  | @cons m m₁ m₂ line rest effects later hf _ ih =>
    by_cases htol : Tolerated m line
    · have hstray := (feed_of_tolerated htol).2.2
      exact Or.inr ⟨0, Nat.zero_lt_succ _, line.number, [], line, rest, [], m, rfl, rfl, .nil,
        by rw [hstray]⟩
    · have hstrict : feed false m line = (.ok effects, m₁) := (feed_of_not_tolerated htol).trans hf
      refine ih.imp (Feeds.cons hstrict) ?_
      rintro ⟨i, hi, n, pre, l, after, es, m', rfl, rfl, hpre, hfeed⟩
      exact ⟨pre.length + 1, Nat.succ_lt_succ hi, n, line :: pre, l, after, _, m', rfl, rfl,
        .cons hstrict hpre, hfeed⟩

/-- **With the tolerated lines blank** the strict machine reads them just
so. -/
theorem Feeds.blanked (h : Feeds true m lines effects m') :
    Feeds false m (blanked m lines) effects m' := by
  induction h with
  | nil => exact .nil
  | @cons m m₁ m₂ line rest effects later hf _ ih =>
    rw [Machine.blanked, hf]
    refine .cons ?_ ih
    by_cases htol : Tolerated m line
    · obtain ⟨hc, htrue, -⟩ := feed_of_tolerated htol
      rw [if_pos htol, feed_unquoted hc (fun hq => by cases hq), ← htrue, hf]
    · rw [if_neg htol, feed_of_not_tolerated htol, hf]

/-- Where the lenient machine fails the strict one does, at that line with
the same error or before it at a stray line. -/
theorem FailsAt.strict (h : FailsAt true .zero lines i e) : FailsAt false .zero lines i e ∨
    ∃ j < i, ∃ n, FailsAt false .zero lines j (.atLine n .strayQuote) := by
  obtain ⟨pre, line, rest, effects, m, rfl, rfl, hfeeds, hfeed⟩ := h
  refine hfeeds.strict_or.imp (fun hpre => ?_) ?_
  · have htol : ¬ Tolerated m line := fun htol => by
      rw [(feed_of_tolerated htol).2.1] at hfeed
      cases hfeed
    exact ⟨pre, line, rest, effects, m, rfl, rfl, hpre, feed_of_not_tolerated htol ▸ hfeed⟩
  · rintro ⟨j, hj, n, before, l, after, es, m', rfl, rfl, hbefore, hl⟩
    exact ⟨before.length, hj, n, before, l, after ++ line :: rest, es, m', by simp, rfl, hbefore, hl⟩

/-- **What lenient reading has to do with strict reading**, on the same
lines. -/
structure Extends (lines : List SourceLine) : Prop where
  /-- What the strict machine accepts the lenient one accepts, with the
  same effects and the same state after each line. -/
  accepts : ∀ effects, (run false .zero lines).1 = .ok effects →
    (run true .zero lines).1 = .ok effects ∧
      ∀ k, feedAll true (lines.take k) = feedAll false (lines.take k)
  /-- What the lenient machine accepts the strict one accepts with the same
  effects, once the lines that were tolerated are blank. -/
  blanks : ∀ effects, (run true .zero lines).1 = .ok effects →
    (run false .zero (blanked .zero lines)).1 = .ok effects
  /-- Where the lenient machine fails at a line, the strict one fails there
  just so, or before it at a stray line. -/
  fails : ∀ i e, FailsAt true .zero lines i e → FailsAt false .zero lines i e ∨
    ∃ j < i, ∃ n, FailsAt false .zero lines j (.atLine n .strayQuote)
  /-- Where the lenient machine leaves a fence open, the strict one does,
  or it fails at a stray line before the end. -/
  unclosed : ∀ effects m e, Feeds true .zero lines effects m → finish m = .error e →
    (run false .zero lines).1 = .error e ∨
      ∃ j < lines.length, ∃ n, FailsAt false .zero lines j (.atLine n .strayQuote)
  /-- So lines that the lenient machine refuses the strict one refuses. -/
  refuses : ∀ e, (run true .zero lines).1 = .error e → ∃ e', (run false .zero lines).1 = .error e'

/-- **Lenient reading is a conservative extension of strict reading.** -/
theorem lenient_extends (lines : List SourceLine) : Extends lines where
  accepts effects h := by
    obtain ⟨m, hfeeds, hend⟩ := run_eq_ok_iff_feeds.1 h
    refine ⟨run_eq_ok_iff_feeds.2 ⟨m, hfeeds.of_strict, hend⟩, fun k => ?_⟩
    rw [← List.take_append_drop k lines] at hfeeds
    obtain ⟨_, _, _, hpre, -, -⟩ := feeds_append_iff.1 hfeeds
    rw [hpre.feedAll_eq, hpre.of_strict.feedAll_eq]
  blanks effects h := by
    obtain ⟨m, hfeeds, hend⟩ := run_eq_ok_iff_feeds.1 h
    exact run_eq_ok_iff_feeds.2 ⟨m, hfeeds.blanked, hend⟩
  fails i e h := h.strict
  unclosed effects m e hfeeds hend :=
    hfeeds.strict_or.imp (fun h => run_eq_error_iff.2 (Or.inr ⟨effects, m, h, hend⟩)) id
  refuses e h := by
    rcases hrun : (run false .zero lines).1 with e' | effects
    · exact ⟨e', rfl⟩
    · obtain ⟨m, hfeeds, hend⟩ := run_eq_ok_iff_feeds.1 hrun
      rw [run_eq_ok_iff_feeds.2 ⟨m, hfeeds.of_strict, hend⟩] at h
      cases h

end Machine

end Tangle
