import Tangle.Proofs.Pass.Again
import Tangle.Proofs.Block.Body
import Tangle.Proofs.Scissors.Extraction
import Mathlib.Data.List.Induction
/-!
# The report is a ledger of the calls that succeed

One tangler is given jobs (`Job`), whole documents or lines that were cut
out already, and goes on whatever becomes of each. Its collaborators keep a
journal of the calls that they granted, each with the state that it found
(`journaled`), which changes nothing else (`journaled_work`). The report
then counts what the journal holds.

It also compares with the files. A line that is written has no line feed of
its own, so each write adds one to the content of its file, and only a
truncation takes some away. What the report counts more than the content
has is what truncations have found (`lost`), and this is the balance that a
call keeps (`Balanced.perform`).
-/

namespace Tangle

namespace Tangler

variable {σ ε : Type}

/-- What a tangler is asked to do. -/
inductive Job where
  /-- To tangle the program of a document. -/
  | document (text : Bytes)
  /-- To tangle lines. -/
  | lines (lines : List SourceLine)

/-- The lines given were cut out of documents. -/
def Job.Drawn : Job → Prop
  | document _ => True
  | lines ls => ∀ l ∈ ls, ∃ document, l ∈ Document.lines document

/-- Does a job. -/
def work (t : Tangler σ) : Job → Action (Report × σ) Unit
  | .document text => t.tangleDocument text
  | .lines ls => t.tangleLines ls

/-- The answers to jobs done one after another, whatever becomes of each,
and the state after the last. -/
def workAll (t : Tangler σ) : List Job → Report × σ → List (Except Error Unit) × (Report × σ)
  | [], s => ([], s)
  | job :: jobs, s => ((t.work job s).1 :: (t.workAll jobs (t.work job s).2).1, (t.workAll jobs (t.work job s).2).2)

/-- The calls that succeeded, each with the state that it found. -/
abbrev Journal (σ : Type) := List (Effect × σ)

/-- An operation that is entered in the journal if it succeeds. -/
def entering (effect : Effect) (a : Action σ Unit) : Action (σ × Journal σ) Unit :=
  fun s =>
    match a s.1 with
    | (.ok (), s') => (.ok (), s', s.2 ++ [(effect, s.1)])
    | (.error e, s') => (.error e, s', s.2)

/-- **The tangler whose collaborators keep a journal** of the calls that
they granted. -/
def journaled (t : Tangler σ) : Tangler (σ × Journal σ) where
  lenient := t.lenient
  scissors := t.scissors
  sink := {
    openFile := fun name mode => entering (.openFile name mode) (t.sink.openFile name mode)
    write := fun name text => entering (.write name text) (t.sink.write name text)
    closeFile := fun name => entering (.closeFile name) (t.sink.closeFile name) }
  executor := {
    name := t.executor.name
    run := fun block => entering (.run block) (t.executor.run block) }

variable {t : Tangler σ} {s s' : σ} {journal : Journal σ} {effect : Effect} {err : Error} {r : Report}
variable {effects : List Effect} {lines : List SourceLine} {job : Job} {jobs : List Job}

/-! ## Keeping a journal -/

theorem journaled_perform (t : Tangler σ) (effect : Effect) (s : σ) (journal : Journal σ) :
    t.journaled.perform effect (s, journal) = entering effect (t.perform effect) (s, journal) := by
  cases effect <;> rfl

theorem journaled_perform_of_ok (h : t.perform effect s = (.ok (), s')) :
    t.journaled.perform effect (s, journal) = (.ok (), s', journal ++ [(effect, s)]) := by
  rw [journaled_perform, entering, h]

theorem journaled_perform_of_error (h : t.perform effect s = (.error err, s')) :
    t.journaled.perform effect (s, journal) = (.error err, s', journal) := by
  rw [journaled_perform, entering, h]

/-- Calls in order are answered alike. -/
theorem journaled_issue (t : Tangler σ) (effects : List Effect) (s : σ) (journal : Journal σ) :
    ∃ entries, t.journaled.issue effects (s, journal) = ⟨(t.issue effects s).done,
      (t.issue effects s).failed, (t.issue effects s).state, journal ++ entries⟩ := by
  induction effects generalizing s journal with
  | nil => exact ⟨[], by simp [issue]⟩
  | cons effect effects ih =>
    rcases hp : t.perform effect s with ⟨err | ⟨⟩, s'⟩
    · refine ⟨[], ?_⟩
      rw [issue_cons_of_error (journaled_perform_of_error hp), issue_cons_of_error hp,
        List.append_nil]
    · obtain ⟨entries, heq⟩ := ih s' (journal ++ [(effect, s)])
      refine ⟨(effect, s) :: entries, ?_⟩
      rw [issue_cons_of_ok (journaled_perform_of_ok hp), issue_cons_of_ok hp, heq, List.append_assoc]
      rfl

/-- A pass over lines ends alike and leaves the same report. -/
theorem journaled_tangleLines (t : Tangler σ) (lines : List SourceLine) (r : Report) (s : σ)
    (journal : Journal σ) : ∃ entries, t.journaled.tangleLines lines (r, s, journal) =
      ((t.tangleLines lines (r, s)).1, (t.tangleLines lines (r, s)).2.1,
        (t.tangleLines lines (r, s)).2.2, journal ++ entries) := by
  obtain ⟨entries, hissue⟩ := journaled_issue t (Machine.script t.lenient .zero lines).effects s journal
  have hcalls : t.journaled.calls lines (s, journal) = ⟨(t.calls lines s).done, (t.calls lines s).failed,
      (t.calls lines s).state, journal ++ entries⟩ := hissue
  have hlenient : t.journaled.lenient = t.lenient := rfl
  have hresult : (t.journaled.calls lines (s, journal)).result (Machine.script t.lenient .zero lines).verdict =
      (t.calls lines s).result (Machine.script t.lenient .zero lines).verdict := by
    rw [hcalls]
    rfl
  refine ⟨entries, ?_⟩
  rw [tangleLines_eq, tangleLines_eq, hlenient, hresult, hcalls]
  rcases (t.calls lines s).result (Machine.script t.lenient .zero lines).verdict with err | ⟨⟩ <;> rfl

/-- **Keeping a journal changes nothing else.** -/
theorem journaled_work (t : Tangler σ) (job : Job) (r : Report) (s : σ) (journal : Journal σ) :
    ∃ entries, t.journaled.work job (r, s, journal) = ((t.work job (r, s)).1, (t.work job (r, s)).2.1,
      (t.work job (r, s)).2.2, journal ++ entries) := by
  cases job with
  | lines ls => exact journaled_tangleLines t ls r s journal
  | document text =>
    have hscissors : t.journaled.scissors = t.scissors := rfl
    rw [work, work, tangleDocument, tangleDocument, hscissors]
    cases t.scissors.program text with
    | error e => exact ⟨[], by rw [List.append_nil]⟩
    | ok ls => exact journaled_tangleLines t ls r s journal

theorem journaled_workAll (t : Tangler σ) (jobs : List Job) (r : Report) (s : σ) (journal : Journal σ) :
    (t.journaled.workAll jobs (r, s, journal)).1 = (t.workAll jobs (r, s)).1 ∧
      (t.journaled.workAll jobs (r, s, journal)).2.1 = (t.workAll jobs (r, s)).2.1 ∧
      (t.journaled.workAll jobs (r, s, journal)).2.2.1 = (t.workAll jobs (r, s)).2.2 := by
  induction jobs generalizing r s journal with
  | nil => exact ⟨rfl, rfl, rfl⟩
  | cons job jobs ih =>
    obtain ⟨entries, hwork⟩ := journaled_work t job r s journal
    obtain ⟨hanswers, hreport, hstate⟩ := ih (t.work job (r, s)).2.1 (t.work job (r, s)).2.2 (journal ++ entries)
    rw [workAll, workAll, hwork]
    exact ⟨congrArg _ hanswers, hreport, hstate⟩

end Tangler

/-! ## What is written has no line feed -/

/-- A line that is written was cut from a line of the document. -/
theorem Machine.exists_of_write_mem {lenient : Bool} {lines : List SourceLine} {name : String} {text : Bytes}
    (h : .write name text ∈ (script lenient .zero lines).effects) :
    ∃ l ∈ lines, text = LineKind.unquote l.raw := by
  obtain ⟨pre, m', hfeeds, hend⟩ := script_ends lenient .zero lines
  obtain ⟨front, l, back, before, m, now, m₂, rfl, -, hfeed, hmem⟩ := hfeeds.exists_of_mem h
  have hl : l ∈ lines := by
    rcases hend with ⟨rfl, -⟩ | ⟨line, rest, e, rfl, -⟩ <;> simp
  cases fed_of_feed hfeed with
  | written =>
    cases List.mem_singleton.1 hmem
    exact ⟨l, hl, rfl⟩
  | headed => cases hmem
  | collected => cases hmem
  | passed => cases hmem
  | opened =>
    rw [openFence] at hmem
    split at hmem <;> simp at hmem
  | closed =>
    rw [closeFence] at hmem
    split at hmem <;> split at hmem <;> simp at hmem

namespace Tangler

variable {σ ε : Type}

/-- The lines of a job have no line feed. -/
theorem lineFeed_notMem_of_drawn {ls : List SourceLine} (h : (Job.lines ls).Drawn) :
    ∀ l ∈ ls, lineFeed ∉ l.raw := fun l hl => by
  obtain ⟨document, hmem⟩ := h l hl
  exact (Document.mem_lines hmem).1

/-- Effects that write lines without a line feed. -/
def WritesLines (effects : List Effect) : Prop :=
  ∀ name text, .write name text ∈ effects → lineFeed ∉ text

theorem writesLines_script (lenient : Bool) {ls : List SourceLine} (h : ∀ l ∈ ls, lineFeed ∉ l.raw) :
    WritesLines (Machine.script lenient .zero ls).effects := by
  intro name text hmem hfeed
  obtain ⟨l, hl, rfl⟩ := Machine.exists_of_write_mem hmem
  exact h l hl ((unquote_suffix l.raw).subset hfeed)

/-! ## The balance -/

/-- The line feeds in what is recorded under a name. -/
def feeds (files : MemoryFiles) (name : String) : Nat :=
  ((files.content? name).getD []).count lineFeed

/-- The line feeds that an entry takes away: those that a truncation finds. -/
def takes (name : String) (entry : Effect × MemoryFiles × ε) : Nat :=
  if entry.1 = .openFile name .truncate then feeds entry.2.1 name else 0

/-- The line feeds that truncations have taken away. -/
def lost (journal : Journal (MemoryFiles × ε)) (name : String) : Nat :=
  journal.foldl (fun n entry => n + takes name entry) 0

theorem lost_concat (journal : Journal (MemoryFiles × ε)) (entry : Effect × MemoryFiles × ε) (name : String) :
    lost (journal ++ [entry]) name = lost journal name + takes name entry := by
  rw [lost, List.foldl_append]
  rfl

theorem lost_eq_zero_iff_takes (journal : Journal (MemoryFiles × ε)) (name : String) :
    lost journal name = 0 ↔ ∀ entry ∈ journal, takes name entry = 0 := by
  induction journal using List.reverseRecOn with
  | nil => exact iff_of_true rfl fun _ h => by cases h
  | append_singleton journal entry ih =>
    rw [lost_concat, Nat.add_eq_zero_iff, ih, List.forall_mem_append, List.forall_mem_singleton]

/-- The content is nothing, or it ends a line. -/
def Lined (files : MemoryFiles) : Prop :=
  ∀ name bytes, files.content? name = some bytes → bytes = [] ∨ lineFeed ∈ bytes

/-- **What each call keeps**: the report counts the entries, and the files
hold what it counts but for what is lost. -/
structure Balanced (journal : Journal (MemoryFiles × ε)) (r : Report) (files : MemoryFiles) : Prop where
  names : r.files.names = files.names
  lines : ∀ name, r.lines name = journal.countP fun entry => entry.1.writesTo name
  runs : r.runs = journal.countP fun entry => entry.1.isRun
  balance : ∀ name, r.lines name = feeds files name + lost journal name
  lined : Lined files
  found : ∀ entry ∈ journal, Lined entry.2.1

theorem balanced_empty : Balanced ([] : Journal (MemoryFiles × ε)) .empty .empty where
  names := rfl
  lines _ := rfl
  runs := rfl
  balance _ := rfl
  lined _ _ h := by cases h
  found _ h := by cases h

section Step

variable {files files' : MemoryFiles} {journal : Journal (MemoryFiles × ε)} {e e' : ε} {name : String}
variable {before : Option Bytes} {bytes : Bytes} {lenient : Bool} {scissors : Scissors}
variable {executor : Executor ε} {r : Report} {effect : Effect} {effects : List Effect} {job : Job} {jobs : List Job}

/-- One line feed for a line that is written, and none but by truncation
is taken away. -/
theorem count_leave (h : WritesLines [effect]) :
    ((effect.leave name before).getD []).count lineFeed +
        (if effect = .openFile name .truncate then (before.getD []).count lineFeed else 0) =
      (before.getD []).count lineFeed + if effect.writesTo name then 1 else 0 := by
  by_cases htrunc : effect = .openFile name .truncate
  · subst htrunc
    simp [Effect.leave, Effect.writesTo]
  · rw [if_neg htrunc, Nat.add_zero]
    cases hfills : effect.fills name with
    | false =>
      rw [Effect.leave_of_not_fills hfills, Report.writesTo_of_not_fills hfills]
      rfl
    | true =>
      rw [Effect.leave_of_fills hfills htrunc, Option.getD_some, List.count_append]
      cases effect with
      | write n text =>
        obtain rfl : n = name := by simpa [Effect.fills] using hfills
        have hnone : text.count lineFeed = 0 := List.count_eq_zero.2 (h n text List.mem_cons_self)
        simp [Effect.output, Effect.writesTo, hnone]
      | openFile n mode => rfl
      | closeFile n => rfl
      | run block => rfl

/-- A line that is added ends the content. -/
theorem lined_leave (h : ∀ bytes, before = some bytes → bytes = [] ∨ lineFeed ∈ bytes)
    (hleave : effect.leave name before = some bytes) : bytes = [] ∨ lineFeed ∈ bytes := by
  cases effect with
  | write n text =>
    rw [Effect.leave] at hleave
    split at hleave
    · cases hleave
      exact Or.inr (by simp)
    · exact h bytes hleave
  | openFile n mode =>
    cases mode with
    | truncate =>
      rw [Effect.leave] at hleave
      split at hleave
      · cases hleave
        exact Or.inl rfl
      · exact h bytes hleave
    | append =>
      rw [Effect.leave] at hleave
      split at hleave
      · cases before with
        | none => exact Or.inl (Option.some.inj hleave).symm
        | some bytes' => exact h bytes hleave
      · exact h bytes hleave
  | closeFile n => exact h bytes hleave
  | run block => exact h bytes hleave

/-- A file that was written has its name already. -/
theorem mem_names_of_perform_write {n : String} {text : Bytes} {s' : MemoryFiles × ε}
    (h : (inMemory lenient scissors executor).perform (.write n text) (files, e) = (.ok (), s')) :
    n ∈ files.names := by
  cases hopen : files.isOpen n with
  | true => exact (MemoryFiles.exists_of_isOpen hopen).1
  | false =>
    rw [perform_write_unopened hopen] at h
    cases h

/-- The report and the files list the same names. -/
theorem names_record (hnames : r.files.names = files.names) {s' : MemoryFiles × ε}
    (h : (inMemory lenient scissors executor).perform effect (files, e) = (.ok (), s')) :
    (r.record effect).files.names = effect.arrive files.names := by
  cases effect with
  | openFile n mode => rw [Report.record, Table.names_alter, hnames, Effect.arrive]
  | write n text =>
    rw [Report.record, Table.names_alter, hnames, if_pos (mem_names_of_perform_write h)]
    rfl
  | closeFile n => exact hnames
  | run block => exact hnames

/-- **A call that is granted keeps the balance.** -/
theorem Balanced.perform (hb : Balanced journal r files) (hwrites : WritesLines [effect])
    (h : (inMemory lenient scissors executor).perform effect (files, e) = (.ok (), files', e')) :
    Balanced (journal ++ [(effect, files, e)]) (r.record effect) files' := by
  rcases perform_cases lenient scissors executor effect files e with
    ⟨err, e₂, hp⟩ | ⟨files₂, e₂, hp, hcontent, hnames⟩
  · rw [hp] at h
    cases h
  rw [hp] at h
  cases h
  exact {
    names := by rw [names_record hb.names hp, hnames]
    lines := fun name => by
      rw [Report.record_lines, hb.lines, List.countP_append, List.countP_singleton]
    runs := by rw [Report.record_runs, hb.runs, List.countP_append, List.countP_singleton]
    balance := fun name => by
      have hcount : feeds files' name + takes name (effect, files, e) =
          feeds files name + if effect.writesTo name then 1 else 0 := by
        rw [feeds, hcontent]
        exact count_leave hwrites
      rw [Report.record_lines, hb.balance, lost_concat]
      omega
    lined := fun name bytes hbytes => lined_leave (hb.lined name) (hcontent name ▸ hbytes)
    found := fun entry hentry => by
      rcases List.mem_append.1 hentry with hold | hnew
      · exact hb.found entry hold
      · rw [List.mem_singleton.1 hnew]
        exact hb.lined }

/-- **So do calls in order**, whether or not one of them fails. -/
theorem Balanced.issue (hb : Balanced journal r files) (hwrites : WritesLines effects) :
    Balanced ((inMemory lenient scissors executor).journaled.issue effects ((files, e), journal)).state.2
      (r.recordAll ((inMemory lenient scissors executor).journaled.issue effects ((files, e), journal)).done)
      ((inMemory lenient scissors executor).journaled.issue effects ((files, e), journal)).state.1.1 := by
  induction effects generalizing files e r journal with
  | nil => exact hb
  | cons effect effects ih =>
    rcases hp : (inMemory lenient scissors executor).perform effect (files, e) with ⟨err | ⟨⟩, files', e'⟩
    · rcases perform_cases lenient scissors executor effect files e with
        ⟨_, _, hp'⟩ | ⟨_, _, hp', -⟩
      · rw [hp'] at hp
        cases hp
        rw [issue_cons_of_error (journaled_perform_of_error hp')]
        exact hb
      · rw [hp'] at hp
        cases hp
    · rw [issue_cons_of_ok (journaled_perform_of_ok hp)]
      have hstep := hb.perform (fun name text hmem => hwrites name text
        (List.mem_cons.2 (Or.inl (List.mem_singleton.1 hmem)))) hp
      exact ih hstep fun name text hmem => hwrites name text (List.mem_cons_of_mem _ hmem)

/-- Documents are counted apart. -/
theorem Balanced.of_eq {r' : Report} (hb : Balanced journal r files) (hfiles : r'.files = r.files)
    (hruns : r'.runs = r.runs) : Balanced journal r' files := by
  have hlines : ∀ name, r'.lines name = r.lines name := fun name => by
    rw [Report.lines, Report.lines, hfiles]
  exact {
    names := hfiles ▸ hb.names
    lines := fun name => (hlines name).trans (hb.lines name)
    runs := hruns.trans hb.runs
    balance := fun name => (hlines name).trans (hb.balance name)
    lined := hb.lined
    found := hb.found }

/-- A pass over lines keeps the balance. -/
theorem Balanced.tangleLines {ls : List SourceLine} (hb : Balanced journal r files)
    (h : ∀ l ∈ ls, lineFeed ∉ l.raw) :
    let after := ((inMemory lenient scissors executor).journaled.tangleLines ls (r, (files, e), journal)).2
    Balanced after.2.2 after.1 after.2.1.1 := by
  have hissue : Balanced ((inMemory lenient scissors executor).journaled.issue _ ((files, e), journal)).state.2
      _ _ := hb.issue (writesLines_script lenient h)
  dsimp only
  rw [tangleLines_state]
  exact hissue.of_eq (by rw [tangleLines_report]; rfl) (by rw [tangleLines_report]; rfl)

/-- **A job keeps the balance.** -/
theorem Balanced.work (hb : Balanced journal r files) (h : job.Drawn) :
    let after := ((inMemory lenient scissors executor).journaled.work job (r, (files, e), journal)).2
    Balanced after.2.2 after.1 after.2.1.1 := by
  cases job with
  | lines ls => exact hb.tangleLines (lineFeed_notMem_of_drawn h)
  | document text =>
    rw [Tangler.work, tangleDocument]
    cases hprogram : (inMemory lenient scissors executor).journaled.scissors.program text with
    | error err => exact hb
    | ok ls => exact hb.tangleLines fun l hl =>
        (Document.mem_lines ((Scissors.program_lines hprogram).1.subset hl)).1

/-- **And so do jobs, whatever becomes of each.** -/
theorem Balanced.workAll (hb : Balanced journal r files) (h : ∀ job ∈ jobs, job.Drawn) :
    let after := ((inMemory lenient scissors executor).journaled.workAll jobs (r, (files, e), journal)).2
    Balanced after.2.2 after.1 after.2.1.1 := by
  induction jobs generalizing r files e journal with
  | nil => exact hb
  | cons job jobs ih =>
    have hjob : Balanced ((inMemory lenient scissors executor).journaled.work job (r, (files, e), journal)).2.2.2
        _ _ := hb.work (h job List.mem_cons_self)
    exact ih hjob fun j hj => h j (List.mem_cons_of_mem _ hj)

/-- Where every content is lined, an entry takes nothing if it truncates
nothing. -/
theorem takes_eq_zero_iff {entry : Effect × MemoryFiles × ε} (h : Lined entry.2.1) :
    takes name entry = 0 ↔
      (entry.1 = .openFile name .truncate → (entry.2.1.content? name).getD [] = []) := by
  by_cases htrunc : entry.1 = .openFile name .truncate
  · rw [takes, if_pos htrunc, feeds, List.count_eq_zero]
    refine ⟨fun hnone _ => ?_, fun hempty => by rw [hempty htrunc]; exact List.not_mem_nil⟩
    cases hcontent : entry.2.1.content? name with
    | none => rfl
    | some bytes =>
      rw [hcontent] at hnone
      exact (h name bytes hcontent).resolve_right hnone
  · rw [takes, if_neg htrunc]
    exact iff_of_true rfl fun hpos => absurd hpos htrunc

/-- **Nothing is lost** where no truncation found anything. -/
theorem Balanced.lost_eq_zero_iff (hb : Balanced journal r files) :
    lost journal name = 0 ↔ ∀ entry ∈ journal, entry.1 = .openFile name .truncate →
      (entry.2.1.content? name).getD [] = [] := by
  rw [lost_eq_zero_iff_takes]
  exact forall₂_congr fun entry hentry => takes_eq_zero_iff (hb.found entry hentry)

/-- A name that is listed stands with the lines that are counted. -/
theorem Balanced.get? (hb : Balanced journal r files) (h : name ∈ files.names) :
    r.files.get? name = some (journal.countP fun entry => entry.1.writesTo name) := by
  obtain ⟨count, hcount⟩ := Option.isSome_iff_exists.1 (Table.mem_names_iff.1 (hb.names ▸ h))
  have hlines := hb.lines name
  rw [Report.lines, hcount, Option.getD_some] at hlines
  rw [hcount, hlines]

end Step

/-! ## Documents -/

/-- A document is counted for a job that succeeded. -/
theorem work_documents (t : Tangler σ) (job : Job) (r : Report) (s : σ) :
    (t.work job (r, s)).2.1.documents =
      r.documents + if (t.work job (r, s)).1.isOk then 1 else 0 := by
  have hlines : ∀ ls, (t.tangleLines ls (r, s)).2.1.documents =
      r.documents + if (t.tangleLines ls (r, s)).1.isOk then 1 else 0 := fun ls => by
    rw [tangleLines_report]
    rcases (t.tangleLines ls (r, s)).1 with err | ⟨⟩ <;> rfl
  cases job with
  | lines ls => exact hlines ls
  | document text =>
    rw [work, tangleDocument]
    cases t.scissors.program text with
    | error err => rfl
    | ok ls => exact hlines ls

theorem workAll_documents (t : Tangler σ) (jobs : List Job) (r : Report) (s : σ) :
    (t.workAll jobs (r, s)).2.1.documents = r.documents + (t.workAll jobs (r, s)).1.countP Except.isOk := by
  induction jobs generalizing r s with
  | nil => rfl
  | cons job jobs ih =>
    have hrest : (t.workAll jobs (t.work job (r, s)).2).2.1.documents = (t.work job (r, s)).2.1.documents +
        (t.workAll jobs (t.work job (r, s)).2).1.countP Except.isOk := ih _ _
    rw [workAll, List.countP_cons, hrest, work_documents]
    omega

/-! ## The ledger -/

/-- **What the report of jobs is**, by the answers to them, the calls that
were granted and the files that these left. -/
structure Ledger (answers : List (Except Error Unit)) (journal : Journal (MemoryFiles × ε)) (r : Report)
    (files : MemoryFiles) : Prop where
  /-- The names are those of the files, in the same order. -/
  names : r.files.names = files.names
  /-- Under each stands the number of lines written to it. -/
  written : ∀ name ∈ files.names,
    r.files.get? name = some (journal.countP fun entry => entry.1.writesTo name)
  /-- Run blocks are counted where they succeeded. -/
  runs : r.runs = journal.countP fun entry => entry.1.isRun
  /-- Documents are counted where the job succeeded. -/
  documents : r.documents = answers.countP Except.isOk
  /-- A file has no more line feeds than lines were written to it. -/
  atLeast : ∀ name, feeds files name ≤ r.lines name
  /-- It has as many if no truncation found anything, and only then. -/
  exactly : ∀ name, r.lines name = feeds files name ↔
    ∀ entry ∈ journal, entry.1 = .openFile name .truncate → (entry.2.1.content? name).getD [] = []

/-- **The report is a ledger of every history.** Jobs done one after
another into a fresh memory end alike with and without a journal, and the
journal accounts for the report. -/
theorem ledger_exact (lenient : Bool) (scissors : Scissors) (executor : Executor ε) (e : ε)
    (jobs : List Job) (h : ∀ job ∈ jobs, job.Drawn) :
    let t := inMemory lenient scissors executor
    let done := t.workAll jobs (.empty, .empty, e)
    let kept := t.journaled.workAll jobs (.empty, (.empty, e), [])
    (kept.1 = done.1 ∧ kept.2.1 = done.2.1 ∧ kept.2.2.1 = done.2.2) ∧
      Ledger done.1 kept.2.2.2 done.2.1 done.2.2.1 := by
  intro t done kept
  have hsame : kept.1 = done.1 ∧ kept.2.1 = done.2.1 ∧ kept.2.2.1 = done.2.2 :=
    journaled_workAll t jobs .empty (.empty, e) []
  obtain ⟨hanswers, hreport, hstate⟩ := hsame
  have hb : Balanced kept.2.2.2 kept.2.1 kept.2.2.1.1 := balanced_empty.workAll h
  rw [hreport, hstate] at hb
  refine ⟨⟨hanswers, hreport, hstate⟩, ?_⟩
  exact {
    names := hb.names
    written := fun name hname => hb.get? hname
    runs := hb.runs
    documents := by
      rw [workAll_documents]
      exact Nat.zero_add _
    atLeast := fun name => by
      rw [hb.balance name]
      exact Nat.le_add_right _ _
    exactly := fun name => by
      rw [← hb.lost_eq_zero_iff, hb.balance name]
      omega }

/-- A file that is replaced, a run block, and a pass that ends in the middle
of a file. -/
def sampleJobs : List Job :=
  [.document (Utf8.ofString "> File `b`\n> ```\n> 1\n> ```\n> Run\n> ```\n> 2\n> ```\n"),
    .lines (Document.lines (Utf8.ofString "> File `b`\n> ```\n> 3\n> ```\n> File `a`\n> ```\n> 4\n")),
    .document (Utf8.ofString "> File `a`\n> ```\n> 5\n> ```\n")]

theorem sampleJobs_ledger :
    let t := inMemory true ⟨[], []⟩ (.preview 0)
    let done := t.workAll sampleJobs (.empty, .empty, [])
    let kept := t.journaled.workAll sampleJobs (.empty, (.empty, []), [])
    (∀ job ∈ sampleJobs, job.Drawn) ∧
      Ledger done.1 kept.2.2.2 done.2.1 done.2.2.1 ∧
      done.1 = [.ok (), .error (.atLine 6 .openFence), .error (.sink ⟨"a"⟩ .alreadyOpen)] ∧
      done.2.1 = ⟨1, ⟨[("b", 2), ("a", 1)]⟩, 1⟩ ∧
      feeds done.2.2.1 "b" = 1 ∧ feeds done.2.2.1 "a" = 1 := by
  have hdrawn : ∀ job ∈ sampleJobs, job.Drawn := by
    intro job hjob
    simp only [sampleJobs, List.mem_cons, List.not_mem_nil, or_false] at hjob
    rcases hjob with rfl | rfl | rfl
    · trivial
    · exact fun l hl => ⟨_, hl⟩
    · trivial
  exact ⟨hdrawn, (ledger_exact true ⟨[], []⟩ (.preview 0) [] sampleJobs hdrawn).2, by decide +kernel⟩

end Tangler

end Tangle
