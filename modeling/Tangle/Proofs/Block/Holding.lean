import Tangle.Proofs.Block.Invariant
/-!
# The file that is held open

Read on their own, the effects of a document hold one file open at a time:
it is opened while none is held, written while it is held, and closed
after. No block is run meanwhile. `Holds` says this of one effect and
`Holding` of effects in order; what the machine holds between two lines is
the target of the fence that it is in (`MachineState.held`). Every line
passes it on (`Fed.holding`), and so does a script up to where it ends
(`script_ends`), be this within a fence.
-/

namespace Tangle

/-- What one effect does to the file that is held. -/
inductive Holds : Option String → Effect → Option String → Prop
  /-- A file is opened while none is held. -/
  | opened (name : String) (mode : WriteMode) : Holds none (.openFile name mode) (some name)
  /-- It is written while it is held. -/
  | written (name : String) (text : Bytes) : Holds (some name) (.write name text) (some name)
  /-- It is closed, and none is held. -/
  | closed (name : String) : Holds (some name) (.closeFile name) none
  /-- A block is run while none is held. -/
  | ran (block : RunBlock) : Holds none (.run block) none

/-- **Effects in order hold one file at a time**: from the first to the
last. -/
inductive Holding : Option String → List Effect → Option String → Prop
  /-- No effect. -/
  | nil {held : Option String} : Holding held [] held
  /-- One effect and the rest. -/
  | cons {held between last : Option String} {effect : Effect} {rest : List Effect} :
      Holds held effect between → Holding between rest last → Holding held (effect :: rest) last

/-- The file that is open between two lines. -/
def MachineState.held (s : MachineState) : Option String :=
  if s.context.inFence then s.context.target else none

variable {held between last : Option String} {effect : Effect} {effects later : List Effect}
variable {name : String}

namespace Holding

theorem single (h : Holds held effect last) : Holding held [effect] last :=
  .cons h .nil

theorem append (h : Holding held effects between) (hlater : Holding between later last) :
    Holding held (effects ++ later) last := by
  induction h with
  | nil => exact hlater
  | cons hfirst _ ih => exact .cons hfirst (ih hlater)

/-- Effects can be cut anywhere. -/
theorem split (h : Holding held (effects ++ later) last) :
    ∃ between, Holding held effects between ∧ Holding between later last := by
  induction effects generalizing held with
  | nil => exact ⟨held, .nil, h⟩
  | cons effect effects ih =>
    cases h with
    | cons hfirst hrest =>
      obtain ⟨between, heffects, hlater⟩ := ih hrest
      exact ⟨between, .cons hfirst heffects, hlater⟩

/-- What is held at the end is known. -/
theorem unique {other : Option String} (h : Holding held effects last)
    (hother : Holding held effects other) : last = other := by
  induction h with
  | nil =>
    cases hother
    rfl
  | cons hfirst _ ih =>
    cases hother with
    | cons hfirst' hrest =>
      cases hfirst <;> cases hfirst' <;> exact ih hrest

/-- **A file that is held was opened** by the effects, and has only been
written since. -/
theorem opened (h : Holding none effects (some name)) :
    ∃ mode earlier inner, effects = earlier ++ .openFile name mode :: inner ∧
      ∀ e ∈ inner, ∃ text, e = .write name text := by
  induction effects using List.reverseRecOn with
  | nil => cases h
  | append_singleton effects effect ih =>
    obtain ⟨between, heffects, hlast⟩ := h.split
    cases hlast with
    | cons hstep hnil =>
      cases hnil
      cases hstep with
      | opened _ mode => exact ⟨mode, effects, [], rfl, List.forall_mem_nil _⟩
      | written _ text =>
        obtain ⟨mode, earlier, inner, rfl, hinner⟩ := ih heffects
        refine ⟨mode, earlier, inner ++ [.write name text], by simp, fun e he => ?_⟩
        rcases List.mem_append.1 he with he | he
        · exact hinner e he
        · exact ⟨text, List.mem_singleton.1 he⟩

/-- So what is closed was opened before. -/
theorem opened_of_closed (h : Holding none (effects ++ .closeFile name :: later) last) :
    ∃ mode earlier inner, effects = earlier ++ .openFile name mode :: inner ∧
      ∀ e ∈ inner, ∃ text, e = .write name text := by
  obtain ⟨between, heffects, hclose⟩ := h.split
  cases hclose with
  | cons hstep _ =>
    cases hstep
    exact heffects.opened

end Holding

namespace Machine

open MachineState

variable {lenient : Bool} {s t m m' m'' : MachineState} {l line : SourceLine}
variable {lines pre rest : List SourceLine} {start : Nat} {err : Error}

theorem held_of_fence_none (h : s.context.fence = none) : s.held = none :=
  if_neg (by simp [inFence_eq_false_iff.2 h])

theorem held_of_fence (h : s.context.fence = some start) : s.held = s.context.target :=
  if_pos (inFence_iff.2 ⟨start, h⟩)

theorem held_eq_some_iff :
    s.held = some name ↔ ∃ start, s.context.fence = some start ∧ s.context.target = some name := by
  cases hc : s.context.fence with
  | none => simp [held_of_fence_none hc]
  | some start => simp [held_of_fence hc]

/-! ## One line -/

/-- An opening fence opens its file. -/
theorem openFence_holding (hc : s.context.fence = none) (n : Nat) :
    Holding s.held (openFence s.context n).2 (⟨(openFence s.context n).1, s.buffer⟩ : MachineState).held := by
  have hin : (openFence s.context n).1.fence = some n := rfl
  rw [held_of_fence_none hc, held_of_fence (s := ⟨_, s.buffer⟩) hin]
  cases ht : s.context.target with
  | none => simpa [openFence, ht] using Holding.nil
  | some name => simpa [openFence, ht] using Holding.single (.opened name s.context.mode)

/-- A closing fence closes its file or runs its block, but not both: with a
file the buffer is empty. -/
theorem closeFence_holding (hs : s.Coherent) (hc : s.context.fence = some start) (n : Nat) :
    Holding s.held (closeFence s start n).2 none := by
  rw [held_of_fence hc]
  cases ht : s.context.target with
  | some name =>
    have hempty : s.buffer = [] := buffer_eq_nil_of_target hs ht
    simpa [closeFence, ht, hempty] using Holding.single (.closed name)
  | none =>
    rw [closeFence, ht]
    change Holding none (if s.buffer.isEmpty then [] else [Effect.run ⟨start, n, s.buffer⟩]) none
    split
    · exact .nil
    · exact .single (.ran _)

/-- **A line passes on the file that is held.** -/
theorem Fed.holding (h : Fed lenient s l (.ok effects) t) (hs : s.Coherent) :
    Holding s.held effects t.held := by
  cases h with
  | headed hc hhead =>
    rw [held_of_fence_none hc, held_of_fence_none (hhead.fence_eq.trans hc)]
    exact .nil
  | opened hc => exact openFence_holding hc l.number
  | written hc hq hf ht =>
    rw [held_of_fence hc, ht]
    exact .single (.written _ _)
  | collected hc hq hf ht hr =>
    rw [held_of_fence hc, held_of_fence (by exact hc)]
    exact .nil
  | passed => exact .nil
  | @closed start hc hf =>
    rw [held_of_fence_none (s := ⟨_, []⟩) (closeFence_fence s start l.number)]
    exact closeFence_holding hs hc l.number

/-! ## All lines -/

/-- **So do lines that are read well.** -/
theorem Feeds.holding (h : Feeds lenient m lines effects m') (hm : m.Coherent) :
    Holding m.held effects m'.held := by
  induction h with
  | nil => exact .nil
  | cons hf _ ih =>
    have hfed := fed_of_feed hf
    exact (hfed.holding hm).append (ih (hfed.coherent hm))

/-- **The lines break off inside the fence of a file**, `name`, with this
error: at a line that fails there, or because the fence is open at the
end. -/
inductive BreaksOff (lenient : Bool) (lines : List SourceLine) (name : String) : Error → Prop
  /-- A line fails. -/
  | refused {pre rest : List SourceLine} {line : SourceLine} {effects : List Effect}
      {m : MachineState} {start : Nat} {err : Error} : lines = pre ++ line :: rest →
      Feeds lenient .zero pre effects m → m.context.fence = some start →
      m.context.target = some name → (feed lenient m line).1 = .error err →
      BreaksOff lenient lines name err
  /-- The fence is never closed. -/
  | unclosed {effects : List Effect} {m : MachineState} {start : Nat} :
      Feeds lenient .zero lines effects m → m.context.fence = some start →
      m.context.target = some name → BreaksOff lenient lines name (.atLine start .openFence)

/-- What such an error is. -/
theorem BreaksOff.defect (h : BreaksOff lenient lines name err) :
    (∃ n start, err = .atLine n (.unquotedInFence start)) ∨ ∃ start, err = .atLine start .openFence := by
  cases h with
  | @refused _ _ line _ m start _ _ _ hc _ hfeed =>
    obtain ⟨t, ht⟩ : ∃ t, feed lenient m line = (.error err, t) := ⟨_, Prod.ext hfeed rfl⟩
    cases fed_of_feed ht with
    | unclassified hnone => rw [hc] at hnone; cases hnone
    | stray =>
      refine Or.inl ⟨line.number, start, ?_⟩
      rw [strayDefect, hc]
  | @unclosed _ _ start => exact Or.inr ⟨start, rfl⟩

/-- Lines that break off hold the file. -/
theorem BreaksOff.holding (h : BreaksOff lenient lines name err) :
    (script lenient .zero lines).verdict = .error err ∧
      Holding none (script lenient .zero lines).effects (some name) := by
  cases h with
  | refused hlines hfeeds hc ht hfeed =>
    have hheld := hfeeds.holding coherent_zero
    rw [held_of_fence hc, ht] at hheld
    rw [hlines, hfeeds.script_of_error (Prod.ext hfeed rfl)]
    exact ⟨rfl, hheld⟩
  | unclosed hfeeds hc ht =>
    have hheld := hfeeds.holding coherent_zero
    rw [held_of_fence hc, ht] at hheld
    rw [hfeeds.script_eq, finish, hc]
    exact ⟨rfl, hheld⟩

/-- **And only they do**, among the lines whose script fails. -/
theorem breaksOff_iff : BreaksOff lenient lines name err ↔
    (script lenient .zero lines).verdict = .error err ∧
      Holding none (script lenient .zero lines).effects (some name) := by
  refine ⟨BreaksOff.holding, fun ⟨hverdict, hholding⟩ => ?_⟩
  obtain ⟨pre, m, hfeeds, hend⟩ := script_ends lenient .zero lines
  have hheld : m.held = some name := (hfeeds.holding coherent_zero).unique hholding
  obtain ⟨start, hc, ht⟩ := held_eq_some_iff.1 hheld
  rcases hend with ⟨rfl, hfinish⟩ | ⟨line, rest, e, rfl, hfeed, hfailed⟩
  · rw [hverdict, finish, hc] at hfinish
    cases hfinish
    exact .unclosed hfeeds hc ht
  · rw [hverdict] at hfailed
    cases hfailed
    exact .refused rfl hfeeds hc ht hfeed

/-- A script holds one file at a time, and none at its end if it ends
well. -/
theorem script_holding (lenient : Bool) (lines : List SourceLine) :
    ∃ held, Holding none (script lenient .zero lines).effects held ∧
      ((script lenient .zero lines).verdict = .ok () → held = none) := by
  obtain ⟨pre, m, hfeeds, hend⟩ := script_ends lenient .zero lines
  refine ⟨m.held, hfeeds.holding coherent_zero, fun hok => ?_⟩
  rcases hend with ⟨rfl, hfinish⟩ | ⟨line, rest, e, -, -, hfailed⟩
  · exact held_of_fence_none (finish_eq_ok_iff.1 (hfinish ▸ hok))
  · rw [hok] at hfailed
    cases hfailed

end Machine

end Tangle
