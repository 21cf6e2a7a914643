import Tangle.Proofs.Block.Standing
/-!
# What a line does to the machine

The lines of `Standing` lead from one state between or within pairs to
another. Here the state is any state and the line any line: `Fed` lists
what feeding it can do, with the state and the effects that it leaves,
and `fed` says that nothing else happens. Outside a fence a line puts a
header in force, forgets it, or opens a fence; inside one it is written,
collected, passed over, or it closes the fence.
-/

namespace Tangle

namespace Machine

open LineKind

/-- The header that a line puts in force outside a fence, or that it
forgets. -/
inductive Heads (c : Context) : Context → Prop
  /-- A file header. -/
  | file (name : String) (mode : WriteMode) : Heads c (c.setTarget name mode)
  /-- A run header. -/
  | run : Heads c c.declareRun
  /-- Prose. -/
  | prose : Heads c c.reset

/-- **What feeding a line can do**: the effects or the error, and the state
that is left. -/
inductive Fed (lenient : Bool) (s : MachineState) (l : SourceLine) :
    Except Error (List Effect) → MachineState → Prop
  /-- The line has no kind, and nothing changes. -/
  | unclassified {e : Error} : s.context.fence = none → classify lenient s.context l = .error e →
      Fed lenient s l (.error e) s
  /-- The line cannot stand where it stands, and the state is lost. -/
  | stray : classify lenient s.context l = .ok .stray →
      Fed lenient s l (.error (.atLine l.number (strayDefect s.context))) .zero
  /-- A header is put in force or forgotten. -/
  | headed {c : Context} : s.context.fence = none → Heads s.context c →
      Fed lenient s l (.ok []) ⟨c, s.buffer⟩
  /-- A fence is opened. -/
  | opened : s.context.fence = none → Header.isFence l.chars = true →
      Fed lenient s l (.ok (openFence s.context l.number).2)
        ⟨(openFence s.context l.number).1, s.buffer⟩
  /-- The content of a file is written. -/
  | written {start : Nat} {name : String} : s.context.fence = some start → l.IsQuoted →
      Header.isFence l.chars = false → s.context.target = some name →
      Fed lenient s l (.ok [.write name (unquote l.raw)]) s
  /-- The content of a run block is collected. -/
  | collected {start : Nat} : s.context.fence = some start → l.IsQuoted →
      Header.isFence l.chars = false → s.context.target = none → s.context.isRun = true →
      Fed lenient s l (.ok []) ⟨{ s.context with run := .collecting }, s.buffer ++ [l.unquoted]⟩
  /-- The content of neither is passed over. -/
  | passed {start : Nat} : s.context.fence = some start → l.IsQuoted →
      Header.isFence l.chars = false → s.context.target = none → s.context.isRun = false →
      Fed lenient s l (.ok []) s
  /-- A fence is closed. -/
  | closed {start : Nat} : s.context.fence = some start → Header.isFence l.chars = true →
      Fed lenient s l (.ok (closeFence s start l.number).2) ⟨(closeFence s start l.number).1, []⟩

variable {lenient : Bool} {s : MachineState} {l : SourceLine} {kind : LineKind} {text : Bytes}
variable {start n : Nat}

/-! ## Steps on fences and content -/

theorem step_open (h : s.context.fence = none) : step s .fence n =
    .ok (⟨(openFence s.context n).1, s.buffer⟩, (openFence s.context n).2) := by
  rw [step, h]

theorem step_close (h : s.context.fence = some start) : step s .fence n =
    .ok (⟨(closeFence s start n).1, []⟩, (closeFence s start n).2) := by
  rw [step, h]

theorem step_write {name : String} (h : s.context.target = some name) :
    step s (.content text) n = .ok (s, [.write name text]) := by
  rw [step, h]

theorem step_collect (h : s.context.target = none) (hr : s.context.isRun = true) :
    step s (.content text) n = .ok (⟨{ s.context with run := .collecting },
      s.buffer ++ [SourceLine.ofBytes n text]⟩, []) := by
  rw [step, h]
  exact if_pos hr

theorem step_pass (h : s.context.target = none) (hr : s.context.isRun = false) :
    step s (.content text) n = .ok (s, []) := by
  rw [step, h]
  exact if_neg (by simp [hr])

/-! ## Feeding by the kind of the line -/

theorem inFence_iff {c : Context} : c.inFence = true ↔ ∃ start, c.fence = some start := by
  rw [Context.inFence, Option.isSome_iff_exists]

theorem inFence_eq_false_iff {c : Context} : c.inFence = false ↔ c.fence = none := by
  rw [Context.inFence, Option.isSome_eq_false_iff, Option.isNone_iff_eq_none]

theorem fed_stray (h : classify lenient s.context l = .ok .stray) :
    Fed lenient s l (feed lenient s l).1 (feed lenient s l).2 := by
  rw [feed_of_classify h]
  exact .stray h

theorem fed_prose (hc : s.context.fence = none) (h : classify lenient s.context l = .ok .prose) :
    Fed lenient s l (feed lenient s l).1 (feed lenient s l).2 := by
  rw [feed_of_classify h]
  exact .headed hc .prose

theorem fed_fence (hf : Header.isFence l.chars = true)
    (h : classify lenient s.context l = .ok .fence) :
    Fed lenient s l (feed lenient s l).1 (feed lenient s l).2 := by
  rw [feed_of_classify h]
  cases hc : s.context.fence with
  | none => rw [step_open hc]; exact .opened hc hf
  | some start => rw [step_close hc]; exact .closed hc hf

theorem fed_content (hc : s.context.fence = some start) (hq : l.IsQuoted)
    (hf : Header.isFence l.chars = false)
    (h : classify lenient s.context l = .ok (.content (unquote l.raw))) :
    Fed lenient s l (feed lenient s l).1 (feed lenient s l).2 := by
  rw [feed_of_classify h]
  cases ht : s.context.target with
  | some name => rw [step_write ht]; exact .written hc hq hf ht
  | none =>
    cases hr : s.context.isRun with
    | true => rw [step_collect ht hr]; exact .collected hc hq hf ht hr
    | false => rw [step_pass ht hr]; exact .passed hc hq hf ht hr

/-- Outside a fence a line that is not quoted is prose. -/
theorem feed_unquoted (hc : s.context.fence = none) (hu : ¬ l.IsQuoted) :
    feed lenient s l = (.ok [], ⟨s.context.reset, s.buffer⟩) := by
  have hclass : classify lenient s.context l = _ := classify_unquoted hu
  rw [if_neg (by simp [inFence_eq_false_iff.2 hc])] at hclass
  rw [feed_of_classify hclass]
  rfl

/-- A quoted line outside a fence that opens none. -/
theorem fed_outside (hc : s.context.fence = none) (hq : l.IsQuoted)
    (hf : Header.isFence l.chars = false) :
    Fed lenient s l (feed lenient s l).1 (feed lenient s l).2 := by
  have hclass : classify lenient s.context l = _ := classify_quoted hq
  rw [if_neg (by simp [hf]), if_neg (by simp [inFence_eq_false_iff.2 hc])] at hclass
  split at hclass
  · rw [feed_of_classify hclass]
    exact .headed hc .run
  · split at hclass
    · rename_i rest hrest
      rw [ofFileHeader] at hclass
      split at hclass
      · rw [feed_of_classify_error hclass]
        exact .unclassified hc hclass
      · rw [feed_of_classify hclass]
        exact .headed hc (.file _ _)
    · split at hclass
      · exact fed_prose hc hclass
      · exact fed_stray hclass

/-- **Nothing else happens.** -/
theorem fed (lenient : Bool) (s : MachineState) (l : SourceLine) :
    Fed lenient s l (feed lenient s l).1 (feed lenient s l).2 := by
  by_cases hq : l.IsQuoted
  · cases hf : Header.isFence l.chars with
    | true =>
      have hclass : classify lenient s.context l = _ := classify_quoted hq
      rw [if_pos hf] at hclass
      exact fed_fence hf hclass
    | false =>
      cases hc : s.context.fence with
      | none => exact fed_outside hc hq hf
      | some start =>
        have hclass : classify lenient s.context l = _ := classify_quoted hq
        rw [if_neg (by simp [hf]), if_pos (inFence_iff.2 ⟨start, hc⟩)] at hclass
        exact fed_content hc hq hf hclass
  · have hclass : classify lenient s.context l = _ := classify_unquoted hq
    cases hc : s.context.inFence with
    | true =>
      rw [if_pos hc] at hclass
      exact fed_stray hclass
    | false =>
      rw [if_neg (by simp [hc])] at hclass
      exact fed_prose (inFence_eq_false_iff.1 hc) hclass

/-- What was fed, given how it ended. -/
theorem fed_of_feed {r : Except Error (List Effect)} {t : MachineState}
    (h : feed lenient s l = (r, t)) : Fed lenient s l r t := by
  have hfed := fed lenient s l
  rwa [h] at hfed

end Machine

end Tangle
