import Tangle.Proofs.Block.Holding
import Tangle.Proofs.Sink.Memory
/-!
# Which files are open in memory

A tangler makes passes over its documents, one after another, and goes on
after a pass that failed (`passes`). What is open in the memory sink
between two passes was left there by a pass that broke off inside the
fence of a file (`LeftOpen`), and nobody closes it again.

During a pass the open files are those left over and the one that the
effects hold, if they hold one (`Opens`). One call keeps this
(`perform_opens`), so all do (`issue_opens`), and a pass over lines keeps
its `Accounts` from any files; over the passes since the sink was empty
the files left over are known by name (`passes_opens`).
-/

namespace Tangle

namespace Tangler

variable {ε : Type}

/-- The state after passes over documents, one after another, whatever
became of each. -/
def passes {σ : Type} (t : Tangler σ) (history : List (List SourceLine)) (s : Report × σ) :
    Report × σ :=
  history.foldl (fun s lines => (t.tangleLines lines s).2) s

/-- **A name left open by a failed pass** of the history: closed before it
and open after. -/
def LeftOpen (t : Tangler (MemoryFiles × ε)) (history : List (List SourceLine))
    (s : Report × MemoryFiles × ε) (name : String) : Prop :=
  ∃ earlier lines later err, history = earlier ++ lines :: later ∧
    (t.tangleLines lines (t.passes earlier s)).1 = .error err ∧
    (t.passes earlier s).2.1.isOpen name = false ∧
    (t.tangleLines lines (t.passes earlier s)).2.2.1.isOpen name = true

/-- **The open files** are those left over and the one that is held. -/
structure Opens (left : String → Prop) (files : MemoryFiles) (held : Option String) : Prop where
  /-- A file is open if it was left over or is held. -/
  open_iff : ∀ name, files.isOpen name = true ↔ left name ∨ held = some name
  /-- What is held was not left over. -/
  fresh : ∀ name, held = some name → ¬ left name

/-- **The failures that there are**: a block fails, or a file is opened that
was left open. -/
inductive Excused (left : String → Prop) : Effect → Error → Prop
  /-- A block fails, in whatever way. -/
  | ran (block : RunBlock) (err : Error) : Excused left (.run block) err
  /-- A file left over is opened. -/
  | opened {name : String} (mode : WriteMode) : left name →
      Excused left (.openFile name mode) (.sink ⟨name⟩ .alreadyOpen)

variable {lenient : Bool} {scissors : Scissors} {executor : Executor ε} {files : MemoryFiles} {e : ε}
variable {left : String → Prop} {held last : Option String} {effect : Effect}
variable {effects later : List Effect}
variable {name : String} {lines : List SourceLine} {history : List (List SourceLine)}

/-! ## One call -/

/-- A change of a file that is open or becomes so, and stays. -/
theorem Opens.alter_open {f : MemoryFile → MemoryFile} (h : Opens left files held)
    (hheld : held = some name ∨ held = none) (hleft : ¬ left name)
    (hf : (f ((files.get? name).getD MemoryFiles.fresh)).isOpen = true) :
    Opens left (files.alter name MemoryFiles.fresh f) (some name) where
  open_iff other := by
    by_cases hne : other = name
    · rw [hne, isOpen_alter_self, hf]
      exact iff_of_true rfl (Or.inr rfl)
    · rw [isOpen_alter_of_ne f hne, h.open_iff]
      rcases hheld with rfl | rfl <;> simp [Ne.symm hne]
  fresh other hother := Option.some.inj hother ▸ hleft

/-- A change that closes the file held. -/
theorem Opens.alter_closed (h : Opens left files (some name)) :
    Opens left (files.alter name MemoryFiles.fresh MemoryFiles.closed) none where
  open_iff other := by
    by_cases hne : other = name
    · rw [hne, isOpen_alter_self]
      exact iff_of_false (fun h => by cases h) fun hor => hor.elim (h.fresh name rfl) (fun h => by cases h)
    · rw [isOpen_alter_of_ne _ hne, h.open_iff]
      simp [Ne.symm hne]
  fresh other hother := by cases hother

/-- **A call keeps account of the open files**, or it fails for a reason
there is while none is held, and leaves them. -/
theorem perform_opens (h : Holds held effect last) (hs : Opens left files held) :
    (∃ files' e', (inMemory lenient scissors executor).perform effect (files, e) =
        (.ok (), files', e') ∧ Opens left files' last) ∨
      ∃ err e', (inMemory lenient scissors executor).perform effect (files, e) =
        (.error err, files, e') ∧ held = none ∧ Excused left effect err := by
  cases h with
  | opened name mode =>
    cases hopen : files.isOpen name with
    | false =>
      have hleft : ¬ left name := fun hleft => by
        rw [(hs.open_iff name).2 (Or.inl hleft)] at hopen
        cases hopen
      exact Or.inl ⟨_, _, perform_open hopen, hs.alter_open (Or.inr rfl) hleft (by cases mode <;> rfl)⟩
    | true =>
      have hleft : left name := ((hs.open_iff name).1 hopen).resolve_right (fun h => by cases h)
      exact Or.inr ⟨_, _, perform_open_twice hopen, rfl, .opened mode hleft⟩
  | written name text =>
    have hopen : files.isOpen name = true := (hs.open_iff name).2 (Or.inr rfl)
    refine Or.inl ⟨_, _, perform_write hopen, hs.alter_open (Or.inl rfl) (hs.fresh name rfl) ?_⟩
    rw [MemoryFiles.isOpen, Option.any_eq_true] at hopen
    obtain ⟨file, hget, hfile⟩ := hopen
    rw [hget]
    exact hfile
  | closed name =>
    have hopen : files.isOpen name = true := (hs.open_iff name).2 (Or.inr rfl)
    exact Or.inl ⟨_, _, perform_close hopen, hs.alter_closed⟩
  | ran block =>
    rcases hrun : (executor.run block e).1 with err | ⟨⟩
    · exact Or.inr ⟨err, _, perform_run_error hrun, rfl, .ran block err⟩
    · exact Or.inl ⟨_, _, perform_run hrun, hs⟩

/-! ## Calls in order -/

variable (lenient scissors executor e)

/-- **So do calls in order**: where none fails the file held is the one that
the effects hold, and where one fails none is. -/
theorem issue_opens (h : Holding held effects last) (hs : Opens left files held) :
    ∃ now, Opens left ((inMemory lenient scissors executor).issue effects (files, e)).state.1 now ∧
      (((inMemory lenient scissors executor).issue effects (files, e)).failed = none → now = last) ∧
      ∀ effect err, ((inMemory lenient scissors executor).issue effects (files, e)).failed =
        some (effect, err) → now = none ∧ Excused left effect err := by
  induction h generalizing files e with
  | nil => exact ⟨_, hs, fun _ => rfl, fun _ _ h => by cases h⟩
  | cons hfirst hrest ih =>
    rcases perform_opens (e := e) hfirst hs with ⟨files', e', hp, hs'⟩ | ⟨err, e', hp, rfl, hexcused⟩
    · rw [issue_cons_of_ok hp]
      exact ih e' hs'
    · rw [issue_cons_of_error hp]
      refine ⟨none, hs, fun h => (by cases h), fun effect err h => ?_⟩
      cases h
      exact ⟨rfl, hexcused⟩

/-! ## A pass -/

/-- **The accounts of a pass**, where the files `left` are open before. -/
structure Accounts (t : Tangler (MemoryFiles × ε)) (left : String → Prop) (lines : List SourceLine)
    (s : Report × MemoryFiles × ε) : Prop where
  /-- The calls are those that its collaborators see. -/
  made : (t.logged.tangleLines lines (s.1, s.2, [])).2.2.2 = (t.calls lines s.2).made
  /-- Before it no other files are open. -/
  before : Opens left s.2.1 none
  /-- No write and no close fails, and an open only for a file left over. -/
  failed : ∀ effect err, (t.calls lines s.2).failed = some (effect, err) → Excused left effect err
  /-- After any number of calls one file at most is open beside those left
  over. -/
  during : ∀ k, ∃ held, Opens left (t.issue ((t.calls lines s.2).made.take k) s.2).state.1 held
  /-- A file that is closed was opened before, and only written between. -/
  closed : ∀ earlier name later, (t.calls lines s.2).made = earlier ++ .closeFile name :: later →
    ∃ mode before inner, earlier = before ++ .openFile name mode :: inner ∧
      ∀ e ∈ inner, ∃ text, e = .write name text
  /-- A pass that succeeds leaves open what was open. -/
  ok : (t.tangleLines lines s).1 = .ok () →
    ∀ name, (t.tangleLines lines s).2.2.1.isOpen name = s.2.1.isOpen name
  /-- One that fails adds one file at most, and adds it where no call fails
  and the lines break off inside its fence. -/
  error : ∀ err, (t.tangleLines lines s).1 = .error err →
    ∃ added, Opens left (t.tangleLines lines s).2.2.1 added ∧ ∀ name, added = some name ↔
      (t.calls lines s.2).failed = none ∧ Machine.BreaksOff t.lenient lines name err
  /-- There the error is that of a line inside the fence, or of the fence. -/
  defect : ∀ name err, Machine.BreaksOff t.lenient lines name err →
    (∃ n start, err = .atLine n (.unquotedInFence start)) ∨ ∃ start, err = .atLine start .openFence

/-- After the calls of a pass the file held is the one that its script
holds, or none if a call failed. -/
theorem calls_opens (lines : List SourceLine) (hs : Opens left files none) :
    ∃ now, Opens left ((inMemory lenient scissors executor).calls lines (files, e)).state.1 now ∧
      (((inMemory lenient scissors executor).calls lines (files, e)).failed = none →
        Holding none (Machine.script lenient .zero lines).effects now ∧
          ((Machine.script lenient .zero lines).verdict = .ok () → now = none)) ∧
      ∀ effect err, ((inMemory lenient scissors executor).calls lines (files, e)).failed =
        some (effect, err) → now = none ∧ Excused left effect err := by
  obtain ⟨last, hholding, hclean⟩ := Machine.script_holding lenient lines
  obtain ⟨now, hopens, hdone, hfailed⟩ :=
    issue_opens lenient scissors executor e hholding hs
  refine ⟨now, hopens, fun hnone => ?_, hfailed⟩
  rw [hdone hnone]
  exact ⟨hholding, hclean⟩

/-- The calls made, cut anywhere, hold one file at a time. -/
theorem made_holding {t : Tangler (MemoryFiles × ε)} {s : MemoryFiles × ε}
    (h : (t.calls lines s).made = effects ++ later) :
    ∃ between last, Holding none effects between ∧ Holding between later last := by
  obtain ⟨last, hholding, -⟩ := Machine.script_holding t.lenient lines
  obtain ⟨rest, hrest⟩ := issue_made_prefix t (Machine.script t.lenient .zero lines).effects s
  rw [← hrest] at hholding
  obtain ⟨last, hmade, -⟩ := hholding.split
  obtain ⟨between, hfirst, hlater⟩ := Holding.split (h ▸ hmade)
  exact ⟨between, last, hfirst, hlater⟩

/-- **A pass keeps account of the open files**, whatever files were left
over. -/
theorem accounts (lines : List SourceLine) {s : Report × MemoryFiles × ε} (hs : Opens left s.2.1 none) :
    (inMemory lenient scissors executor).Accounts left lines s := by
  obtain ⟨r, files, e⟩ := s
  obtain ⟨now, hopens, hdone, hfailed⟩ := calls_opens lenient scissors executor e lines hs
  refine {
    made := by rw [logged_tangleLines]
    before := hs
    failed := fun effect err h => (hfailed effect err h).2
    during := fun k => ?during
    closed := fun earlier name later hmade => ?closed
    ok := fun hok name => ?ok
    error := fun err herr => ?error
    defect := fun name err h => h.defect }
  case during =>
    obtain ⟨between, -, hfirst, -⟩ := made_holding (List.take_append_drop k _).symm
    obtain ⟨held, hheld, -⟩ := issue_opens lenient scissors executor e hfirst hs
    exact ⟨held, hheld⟩
  case closed =>
    obtain ⟨between, last, hfirst, hclose⟩ := made_holding hmade
    exact (hfirst.append hclose).opened_of_closed
  case ok =>
    rw [tangleLines_result] at hok
    rw [tangleLines_state]
    cases hnone : ((inMemory lenient scissors executor).calls lines (files, e)).failed with
    | some failure => rw [Issue.result, hnone] at hok; cases hok
    | none =>
      rw [Issue.result, hnone] at hok
      rw [(hdone hnone).2 hok] at hopens
      rw [Bool.eq_iff_iff, hopens.open_iff, hs.open_iff]
  case error =>
    rw [tangleLines_result] at herr
    rw [tangleLines_state]
    refine ⟨now, hopens, fun name => ?_⟩
    cases hnone : ((inMemory lenient scissors executor).calls lines (files, e)).failed with
    | some failure =>
      -- the call that failed left no file held
      rw [(hfailed failure.1 failure.2 hnone).1]
      simp
    | none =>
      rw [Issue.result, hnone] at herr
      refine ⟨fun hnow => ⟨rfl, Machine.breaksOff_iff.2 ⟨herr, hnow ▸ (hdone hnone).1⟩⟩, fun h => ?_⟩
      exact (hdone hnone).1.unique (Machine.breaksOff_iff.1 h.2).2

section Accounts

variable {t : Tangler (MemoryFiles × ε)} {s : Report × MemoryFiles × ε}

theorem Accounts.left_iff (h : t.Accounts left lines s) : s.2.1.isOpen name = true ↔ left name := by
  rw [h.before.open_iff, or_iff_left (by simp)]

/-- What was left over stays. -/
theorem Accounts.kept (h : t.Accounts left lines s) (hleft : left name) :
    (t.tangleLines lines s).2.2.1.isOpen name = true := by
  cases hres : (t.tangleLines lines s).1 with
  | ok => rw [h.ok hres, h.left_iff]; exact hleft
  | error err =>
    obtain ⟨added, hopens, -⟩ := h.error err hres
    exact (hopens.open_iff name).2 (Or.inl hleft)

/-- What is added is added by a failure. -/
theorem Accounts.fails (h : t.Accounts left lines s) (hleft : ¬ left name)
    (hopen : (t.tangleLines lines s).2.2.1.isOpen name = true) :
    ∃ err, (t.tangleLines lines s).1 = .error err := by
  cases hres : (t.tangleLines lines s).1 with
  | ok => rw [h.ok hres, h.left_iff] at hopen; exact absurd hopen hleft
  | error err => exact ⟨err, rfl⟩

end Accounts

/-! ## The passes since the sink was empty -/

theorem passes_concat {σ : Type} (t : Tangler σ) (history : List (List SourceLine))
    (lines : List SourceLine) (s : Report × σ) :
    t.passes (history ++ [lines]) s = (t.tangleLines lines (t.passes history s)).2 := by
  rw [passes, List.foldl_append, passes]
  rfl

/-- What is left open after one more pass. -/
theorem leftOpen_concat {t : Tangler (MemoryFiles × ε)} {s : Report × MemoryFiles × ε} :
    t.LeftOpen (history ++ [lines]) s name ↔ t.LeftOpen history s name ∨
      ((∃ err, (t.tangleLines lines (t.passes history s)).1 = .error err) ∧
        (t.passes history s).2.1.isOpen name = false ∧
        (t.passes (history ++ [lines]) s).2.1.isOpen name = true) := by
  constructor
  · rintro ⟨earlier, lines', later, err, heq, herr, hbefore, hafter⟩
    rcases List.eq_nil_or_concat later with rfl | ⟨later, last, rfl⟩
    · obtain ⟨rfl, hlast⟩ := List.append_inj' heq rfl
      cases hlast
      rw [passes_concat]
      exact Or.inr ⟨⟨err, herr⟩, hbefore, hafter⟩
    · obtain ⟨rfl, -⟩ := List.append_inj' (heq.trans (by simp : _ = (earlier ++ lines' :: later) ++ [last])) rfl
      exact Or.inl ⟨earlier, lines', later, err, rfl, herr, hbefore, hafter⟩
  · rintro (⟨earlier, lines', later, err, rfl, herr, hbefore, hafter⟩ | ⟨⟨err, herr⟩, hbefore, hafter⟩)
    · exact ⟨earlier, lines', later ++ [lines], err, by simp, herr, hbefore, hafter⟩
    · rw [passes_concat] at hafter
      exact ⟨history, lines, [], err, rfl, herr, hbefore, hafter⟩

/-- **Between two passes the open files are those left open.** -/
theorem passes_opens (history : List (List SourceLine)) (r : Report) :
    Opens ((inMemory lenient scissors executor).LeftOpen history (r, .empty, e))
      ((inMemory lenient scissors executor).passes history (r, .empty, e)).2.1 none := by
  induction history using List.reverseRecOn with
  | nil =>
    refine ⟨fun name => iff_of_false (fun h => by cases h) ?_, fun name h => by cases h⟩
    rintro (⟨earlier, lines, later, err, h, -⟩ | h)
    · simp at h
    · cases h
  | append_singleton history lines ih =>
    have hpass := accounts lenient scissors executor lines ih
    refine ⟨fun name => ?_, fun name h => by cases h⟩
    rw [leftOpen_concat, or_iff_left (by simp), passes_concat]
    constructor
    · intro hafter
      by_cases hleft : (inMemory lenient scissors executor).LeftOpen history (r, .empty, e) name
      · exact Or.inl hleft
      · have hbefore := Bool.eq_false_iff.2 fun h => hleft (hpass.left_iff.1 h)
        exact Or.inr ⟨hpass.fails hleft hafter, hbefore, hafter⟩
    · rintro (hleft | ⟨-, -, hafter⟩)
      · exact hpass.kept hleft
      · exact hafter

/-- **The handles of the sink in memory are accounted for**, over any
passes since it was empty and in the next, failures included. -/
theorem passes_accounts (lenient : Bool) (scissors : Scissors) (executor : Executor ε)
    (history : List (List SourceLine)) (lines : List SourceLine) (r : Report) (e : ε) :
    (inMemory lenient scissors executor).Accounts
      ((inMemory lenient scissors executor).LeftOpen history (r, .empty, e)) lines
      ((inMemory lenient scissors executor).passes history (r, .empty, e)) :=
  accounts lenient scissors executor lines (passes_opens lenient scissors executor e history r)

/-- A fence that is never closed keeps its file open: the same lines once
more fail where it is opened. -/
example :
    let t := inMemory true ⟨[], []⟩ (Executor.preview 0)
    let lines := [SourceLine.ofText 1 "> File `a`", .ofText 2 "> ```", .ofText 3 "> b"]
    (t.tangleLines lines (.empty, .empty, [])).1 = .error (.atLine 2 .openFence) ∧
      (t.tangleLines lines (t.passes [lines] (.empty, .empty, []))).1 =
        .error (.sink ⟨"a"⟩ .alreadyOpen) := by
  decide +kernel

end Tangler

end Tangle
