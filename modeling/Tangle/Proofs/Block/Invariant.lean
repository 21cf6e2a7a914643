import Tangle.Proofs.Block.Feed
import Tangle.Proofs.Block.Script
import Tangle.Proofs.Text.Line
import Mathlib.Data.List.Induction
/-!
# What the machine keeps

Lines are fed one after another, and feeding goes on after an error as it
does after any other line (`feedAll`). Every state that is reached so is
`Coherent`: a file and a run header are never in force together, and lines
are in the buffer exactly while a run block is collected, within a fence.
Inside a fence the lines fed are known back to the one that opened it
(`FedSince`). A line keeps both (`Fed.coherent`, `Fed.since`); the buffer
facts need the classifier, while headers exclude each other whatever kinds
of lines come (`act_exclusive`).
-/

namespace Tangle

/-- **Headers of the two kinds exclude each other.** -/
structure Context.Exclusive (c : Context) : Prop where
  /-- Where a file is named no run header is in force. -/
  idle : c.target ≠ none → c.run = .idle
  /-- Where none is, none is to be extended. -/
  truncate : c.target = none → c.mode = .truncate

/-- **The parts of the state agree.** -/
structure MachineState.Coherent (s : MachineState) : Prop where
  /-- One header is in force at most. -/
  exclusive : s.context.Exclusive
  /-- Lines are in the buffer while a run block is collected, and only then. -/
  buffered : s.buffer ≠ [] ↔ s.context.run = .collecting
  /-- A run block is collected inside a fence only. -/
  fenced : s.context.run = .collecting → s.context.inFence = true

namespace Machine

open LineKind MachineState SourceLine

/-- The state after lines were fed from the zero state, whatever became of
each. -/
def feedAll (lenient : Bool) (lines : List SourceLine) : MachineState :=
  lines.foldl (fun s l => (feed lenient s l).2) .zero

/-- The state after a line of some kind and number; an error leaves the
zero state. -/
def act (s : MachineState) (event : LineKind × Nat) : MachineState :=
  match step s event.1 event.2 with
  | .ok (t, _) => t
  | .error _ => .zero

/-- **The lines fed since the fence at line `n` was opened.** The last of
the lines are that fence, which opened outside a fence, and quoted lines
that are no fences; where a run header is in force these are in the
buffer, in order and with their numbers. -/
def FedSince (lenient : Bool) (lines : List SourceLine) (s : MachineState) (n : Nat) : Prop :=
  ∃ before o inner, lines = before ++ o :: inner ∧ o.number = n ∧
    Header.isFence o.chars = true ∧ (feedAll lenient before).context.fence = none ∧
    (∀ l ∈ inner, l.IsQuoted ∧ Header.isFence l.chars = false) ∧
    (s.context.isRun = true → s.buffer = inner.map SourceLine.unquoted)

variable {lenient : Bool} {s t : MachineState} {l : SourceLine} {lines : List SourceLine}
variable {r : Except Error (List Effect)} {effects : List Effect} {start n : Nat} {c c' : Context}
variable {b : RunBlock}

theorem feedAll_concat (lenient : Bool) (lines : List SourceLine) (l : SourceLine) :
    feedAll lenient (lines ++ [l]) = (feed lenient (feedAll lenient lines) l).2 := by
  rw [feedAll, List.foldl_append, feedAll]
  rfl

/-! ## Headers and fences -/

theorem exclusive_zero : Context.zero.Exclusive := ⟨fun h => absurd rfl h, fun _ => rfl⟩

/-- A header takes the place of any other. -/
theorem Heads.exclusive (h : Heads c c') : c'.Exclusive := by
  cases h with
  | file name mode => exact ⟨fun _ => rfl, fun h => by cases h⟩
  | run => exact ⟨fun h => absurd rfl h, fun _ => rfl⟩
  | prose => exact ⟨fun h => absurd rfl h, fun _ => rfl⟩

theorem Heads.not_collecting (h : Heads c c') : c'.run ≠ .collecting := by
  cases h <;> exact fun h => by cases h

theorem Heads.fence_eq (h : Heads c c') : c'.fence = c.fence := by
  cases h <;> rfl

theorem closeFence_exclusive (h : s.context.Exclusive) (start n : Nat) :
    (closeFence s start n).1.Exclusive := by
  rw [closeFence]
  cases ht : s.context.target with
  | some name =>
    refine ⟨fun _ => ?_, fun h => by cases h⟩
    simp [h.idle (by simp [ht])]
  | none => exact ⟨fun h => absurd rfl h, fun _ => h.truncate ht⟩

theorem closeFence_not_collecting (s : MachineState) (start n : Nat) :
    (closeFence s start n).1.run ≠ .collecting := by
  have hrun : (if s.context.run = .collecting then RunProgress.declared else s.context.run) ≠
      .collecting := by
    split
    · exact fun h => by cases h
    · assumption
  rw [closeFence]
  split <;> exact hrun

theorem closeFence_fence (s : MachineState) (start n : Nat) :
    (closeFence s start n).1.fence = none := by
  rw [closeFence]
  split <;> rfl

/-- A run block at the closing fence is what the buffer held. -/
theorem run_mem_closeFence (h : .run b ∈ (closeFence s start n).2) :
    s.buffer ≠ [] ∧ b = ⟨start, n, s.buffer⟩ := by
  have hran : Effect.run b ∈ (if s.buffer.isEmpty then [] else [Effect.run ⟨start, n, s.buffer⟩]) := by
    rw [closeFence] at h
    split at h
    · exact (List.mem_append.1 h).elim id fun h => by cases List.mem_singleton.1 h
    · exact h
  split at hran
  · cases hran
  · rename_i hne
    cases List.mem_singleton.1 hran
    exact ⟨by simpa using hne, rfl⟩

/-- **Headers exclude each other whatever kinds of lines come.** -/
theorem act_exclusive (h : s.context.Exclusive) (event : LineKind × Nat) :
    (act s event).context.Exclusive := by
  obtain ⟨kind, n⟩ := event
  cases kind with
  | fileHeader name mode => exact (Heads.file (c := s.context) name mode).exclusive
  | runHeader => exact (Heads.run (c := s.context)).exclusive
  | prose => exact (Heads.prose (c := s.context)).exclusive
  | stray => exact exclusive_zero
  | fence =>
    cases hc : s.context.fence with
    | none => rw [act, step_open hc]; exact ⟨h.idle, h.truncate⟩
    | some start => rw [act, step_close hc]; exact closeFence_exclusive h start n
  | content text =>
    cases ht : s.context.target with
    | some name => rw [act, step_write ht]; exact h
    | none =>
      cases hr : s.context.isRun with
      | true =>
        rw [act, step_collect ht hr]
        exact ⟨fun hne => absurd ht hne, h.truncate⟩
      | false => rw [act, step_pass ht hr]; exact h

theorem acts_exclusive (events : List (LineKind × Nat)) :
    (events.foldl act .zero).context.Exclusive :=
  List.foldlRecOn (motive := fun s => s.context.Exclusive) events act exclusive_zero
    fun _ hs event _ => act_exclusive hs event

/-! ## One line -/

theorem coherent_zero : Coherent .zero where
  exclusive := exclusive_zero
  buffered := iff_of_false (fun h => h rfl) (fun h => by cases h)
  fenced h := by cases h

/-- Outside a fence the buffer is empty. -/
theorem buffer_eq_nil (h : s.Coherent) (hc : s.context.fence = none) : s.buffer = [] := by
  by_contra hne
  have hin := h.fenced (h.buffered.1 hne)
  rw [inFence_eq_false_iff.2 hc] at hin
  cases hin

/-- So it is where a file is named. -/
theorem buffer_eq_nil_of_target {name : String} (h : s.Coherent)
    (ht : s.context.target = some name) : s.buffer = [] := by
  by_contra hne
  have hrun := h.buffered.1 hne
  rw [h.exclusive.idle (by simp [ht])] at hrun
  cases hrun

/-- **A line keeps the parts of the state in agreement.** -/
theorem Fed.coherent (h : Fed lenient s l r t) (hs : s.Coherent) : t.Coherent := by
  cases h with
  | unclassified => exact hs
  | stray => exact coherent_zero
  | headed hc hhead =>
    have hrun := hhead.not_collecting
    have hempty : s.buffer = [] := buffer_eq_nil hs hc
    exact ⟨hhead.exclusive, iff_of_false (fun h => h hempty) hrun, fun h => absurd h hrun⟩
  | opened hc => exact ⟨⟨hs.exclusive.idle, hs.exclusive.truncate⟩, hs.buffered, fun _ => rfl⟩
  | written => exact hs
  | @collected start hc hq hf ht hr =>
    refine ⟨⟨fun hne => absurd ht hne, hs.exclusive.truncate⟩, ?_, fun _ => ?_⟩
    · exact iff_of_true (by simp) rfl
    · exact inFence_iff.2 ⟨start, hc⟩
  | passed => exact hs
  | @closed start hc hf =>
    have hrun := closeFence_not_collecting s start l.number
    exact ⟨closeFence_exclusive hs.exclusive start l.number, iff_of_false (fun h => h rfl) hrun,
      fun h => absurd h hrun⟩

/-- Every state that is reached is coherent. -/
theorem feedAll_coherent (lenient : Bool) (lines : List SourceLine) :
    (feedAll lenient lines).Coherent :=
  List.foldlRecOn lines _ coherent_zero fun s hs l _ => (fed lenient s l).coherent hs

theorem isRun_eq_false_of_target {name : String} (h : s.Coherent)
    (ht : s.context.target = some name) : s.context.isRun = false := by
  rw [Context.isRun, h.exclusive.idle (by simp [ht])]
  rfl

/-- A further line of content. -/
theorem FedSince.concat (h : FedSince lenient lines s n) (hq : l.IsQuoted)
    (hf : Header.isFence l.chars = false)
    (hbuffer : t.context.isRun = true → s.context.isRun = true ∧ t.buffer = s.buffer ++ [l.unquoted]) :
    FedSince lenient (lines ++ [l]) t n := by
  obtain ⟨before, o, inner, hlines, ho, hfence, hout, hinner, hlast⟩ := h
  refine ⟨before, o, inner ++ [l], by rw [hlines, List.append_assoc, List.cons_append], ho, hfence,
    hout, ?_, fun hrun => ?_⟩
  · intro m hm
    rcases List.mem_append.1 hm with hm | hm
    · exact hinner m hm
    · exact List.mem_singleton.1 hm ▸ ⟨hq, hf⟩
  · obtain ⟨hbefore, heq⟩ := hbuffer hrun
    rw [heq, hlast hbefore, List.map_append]
    rfl

/-- **A line keeps track of the fence that is open.** -/
theorem Fed.since (h : Fed lenient (feedAll lenient lines) l r t)
    (hs : ∀ n, (feedAll lenient lines).context.fence = some n →
      FedSince lenient lines (feedAll lenient lines) n)
    (hn : t.context.fence = some n) : FedSince lenient (lines ++ [l]) t n := by
  have hcoh := feedAll_coherent lenient lines
  generalize hst : feedAll lenient lines = s at h hs hcoh
  cases h with
  | unclassified hc => rw [hc] at hn; cases hn
  | stray => cases hn
  | headed hc hhead => rw [hhead.fence_eq, hc] at hn; cases hn
  | opened hc hf =>
    have hempty : s.buffer = [] := buffer_eq_nil hcoh hc
    exact ⟨lines, l, [], rfl, Option.some.inj hn, hf, by rw [hst, hc], List.forall_mem_nil _,
      fun _ => hempty⟩
  | written hc hq hf ht =>
    refine (hs n hn).concat hq hf fun hrun => ?_
    rw [isRun_eq_false_of_target hcoh ht] at hrun
    cases hrun
  | collected hc hq hf ht hr => exact (hs n hn).concat hq hf fun _ => ⟨hr, rfl⟩
  | passed hc hq hf ht hr =>
    refine (hs n hn).concat hq hf fun hrun => ?_
    rw [hr] at hrun
    cases hrun
  | closed => rw [closeFence_fence] at hn; cases hn

/-- Inside a fence the lines fed are known back to the one that opened it. -/
theorem fedSince (lenient : Bool) (lines : List SourceLine) :
    ∀ n, (feedAll lenient lines).context.fence = some n →
      FedSince lenient lines (feedAll lenient lines) n := by
  induction lines using List.reverseRecOn with
  | nil => exact fun n hn => by cases hn
  | append_singleton lines l ih =>
    intro n hn
    rw [feedAll_concat] at hn ⊢
    exact (fed lenient (feedAll lenient lines) l).since ih hn

/-! ## What follows -/

/-- **An error leaves the state as it was or the zero state**: the former
where the line has no kind, which only happens outside a fence, the latter
where it cannot stand. -/
theorem Fed.of_error {e : Error} (h : Fed lenient s l (.error e) t) :
    (t = s ∧ s.context.fence = none ∧ classify lenient s.context l = .error e) ∨
      (t = .zero ∧ ∃ kind, classify lenient s.context l = .ok kind ∧ step s kind l.number = .error e) := by
  cases h with
  | unclassified hc hclass => exact Or.inl ⟨rfl, hc, hclass⟩
  | stray hclass => exact Or.inr ⟨rfl, .stray, hclass, rfl⟩

/-- A run block is what the buffer held at its closing fence. -/
theorem Fed.of_run (h : Fed lenient s l (.ok effects) t) (hb : .run b ∈ effects) :
    Header.isFence l.chars = true ∧ ∃ start, s.context.fence = some start ∧ s.buffer ≠ [] ∧
      b = ⟨start, l.number, s.buffer⟩ := by
  cases h with
  | headed => cases hb
  | opened =>
    rw [openFence] at hb
    split at hb
    · cases List.mem_singleton.1 hb
    · cases hb
  | written => cases List.mem_singleton.1 hb
  | collected => cases hb
  | passed => cases hb
  | @closed start hc hf => exact ⟨hf, start, hc, run_mem_closeFence hb⟩

/-- The numbers of what was collected are those of the lines. -/
theorem ascending_unquoted : Ascending (lines.map SourceLine.unquoted) ↔ Ascending lines := by
  rw [Ascending, List.pairwise_map, Ascending]
  rfl

theorem Feeds.foldl_eq {m m' : MachineState} (h : Feeds lenient m lines effects m') :
    lines.foldl (fun s l => (feed lenient s l).2) m = m' := by
  induction h with
  | nil => rfl
  | cons hf _ ih => rw [List.foldl_cons, hf, ih]

/-- Lines that are read well lead to the state that feeding them leads
to. -/
theorem Feeds.feedAll_eq (h : Feeds lenient .zero lines effects s) : feedAll lenient lines = s :=
  h.foldl_eq

theorem Feeds.coherent (h : Feeds lenient .zero lines effects s) : s.Coherent :=
  h.feedAll_eq ▸ feedAll_coherent lenient lines

/-- **What is known of the machine after any lines.** -/
structure Kept (lenient : Bool) (lines : List SourceLine) : Prop where
  /-- The parts of the state agree. -/
  coherent : (feedAll lenient lines).Coherent
  /-- Inside a fence, the lines since it was opened are known. -/
  since : ∀ n, (feedAll lenient lines).context.fence = some n →
    FedSince lenient lines (feedAll lenient lines) n
  /-- A line that fails leaves the state as it was, which only happens
  outside a fence, or else the zero state. -/
  failed : ∀ l e t, feed lenient (feedAll lenient lines) l = (.error e, t) →
    (t = feedAll lenient lines ∧ (feedAll lenient lines).context.fence = none ∧
      classify lenient (feedAll lenient lines).context l = .error e) ∨
    (t = .zero ∧ ∃ kind, classify lenient (feedAll lenient lines).context l = .ok kind ∧
      step (feedAll lenient lines) kind l.number = .error e)
  /-- A run block has a line, and no file is named when it is run. Where
  the numbers of all lines fed increase, those of its lines do, and they
  lie between its two ends. -/
  ran : ∀ l effects t b, feed lenient (feedAll lenient lines) l = (.ok effects, t) →
    .run b ∈ effects → b.lines ≠ [] ∧ (feedAll lenient lines).context.target = none ∧
      (Ascending (lines ++ [l]) → Ascending b.lines ∧
        ∀ m ∈ b.lines, b.startLine < m.number ∧ m.number < b.endLine)

/-- **What the machine keeps**, whatever lines are fed, with errors or
without; and headers exclude each other also where kinds of lines come in
an order that no document gives them. -/
theorem feedAll_kept (lenient : Bool) (lines : List SourceLine) (events : List (LineKind × Nat)) :
    Kept lenient lines ∧ (events.foldl act .zero).context.Exclusive := by
  refine ⟨⟨feedAll_coherent lenient lines, fedSince lenient lines, ?_, ?_⟩, acts_exclusive events⟩
  · exact fun l e t h => (fed_of_feed h).of_error
  · intro l effects t b h hb
    have hcoh := feedAll_coherent lenient lines
    obtain ⟨-, start, hc, hne, rfl⟩ := (fed_of_feed h).of_run hb
    have hrun : (feedAll lenient lines).context.run = .collecting := hcoh.buffered.1 hne
    refine ⟨hne, ?_, fun hasc => ?_⟩
    · by_contra ht
      rw [hcoh.exclusive.idle ht] at hrun
      cases hrun
    · -- the buffer holds the lines after the one that opened the fence
      obtain ⟨before, o, inner, rfl, rfl, -, -, -, hbuffer⟩ := fedSince lenient lines start hc
      have hlines := hbuffer (by rw [Context.isRun, hrun]; rfl)
      obtain ⟨hfed, -, hlast⟩ := List.pairwise_append.1 hasc
      obtain ⟨hfirst, hinner⟩ := List.pairwise_cons.1 (List.pairwise_append.1 hfed).2.1
      simp only [hlines]
      refine ⟨ascending_unquoted.2 hinner, fun m hm => ?_⟩
      obtain ⟨k, hk, rfl⟩ := List.mem_map.1 hm
      exact ⟨hfirst k hk, hlast k (by simp [hk]) l List.mem_cons_self⟩

end Machine

end Tangle
