import Tangle.Proofs.Outline.Following
import Tangle.Proofs.Scissors.Extraction
import Tangle.Proofs.Block.Invariant
import Tangle.Proofs.Pass.Calls
import Tangle.Proofs.Pass.Honest
/-!
# Errors point at the culprit

A line is numbered when the document is cut, and keeps its number through
the ranges, the fences and the run blocks. So an error names a line of the
original document, and that line is what the error says: `Culprit` lists
what it can be, defect by defect, and `diagnosis` follows an error from
the four places where it can arise to the document that it is reported of.
The lines of a run block are followed likewise (`RunBlock.StandsIn`).
-/

namespace Tangle

namespace Document

/-- **The line is number `k` of the document**, counted from one. -/
def HasLine (document : Bytes) (k : Nat) (l : SourceLine) : Prop :=
  1 ≤ k ∧ k ≤ (lines document).length ∧ (lines document)[k - 1]? = some l

variable {document : Bytes} {l : SourceLine}

/-- A line of a document has its place for a number. -/
theorem hasLine_of_mem (h : l ∈ lines document) : HasLine document l.number l := by
  obtain ⟨i, hi⟩ := List.getElem?_of_mem h
  have hnumber : l.number = i + 1 := by
    have hat : (numbered 1 (splitLines document))[i]? = some l := hi
    rw [numbered_getElem?] at hat
    obtain ⟨raw, -, rfl⟩ := Option.map_eq_some_iff.1 hat
    exact Nat.add_comm 1 i
  obtain ⟨hlt, -⟩ := List.getElem?_eq_some_iff.1 hi
  rw [HasLine, hnumber, Nat.add_sub_cancel]
  exact ⟨Nat.succ_pos i, hlt, hi⟩

theorem oneLine_of_mem (h : l ∈ lines document) : l.OneLine := by
  obtain ⟨hraw, hl⟩ := mem_lines h
  rw [SourceLine.OneLine, SourceLine.chars, hl, SourceLine.ofBytes_content]
  exact newline_notMem_decode hraw

end Document

open Document

/-- **The line that a defect is about**, which is one of the document or,
where blocks are concerned, of its program. -/
inductive Culprit (s : Scissors) (document : Bytes) (l : SourceLine) : Defect → Prop
  /-- The marker that opened a range. -/
  | openRange : s.isOpen l.content = true → Culprit s document l .openRange
  /-- A marker that closes, but opens none. -/
  | closeWithoutOpen : s.isClose l.content = true → s.isOpen l.content = false →
      Culprit s document l .closeWithoutOpen
  /-- The fence that is left open. -/
  | openFence {program : List SourceLine} {i : Nat} : s.program document = .ok program →
      program[i]? = some l → l.IsFence → Culprit s document l .openFence
  /-- A file header without a backtick span. -/
  | headerWithoutName {program : List SourceLine} {i : Nat} : s.program document = .ok program →
      program[i]? = some l → Outline.Outside program i → l.IsFileHeader → ¬ l.HasSpan →
      Culprit s document l .headerWithoutName
  /-- Inside a fence a line that is not quoted, and so no fence. The fence
  that it names stands before it. -/
  | unquotedInFence {program : List SourceLine} {i j : Nat} {o : SourceLine} :
      s.program document = .ok program → program[i]? = some l → Outline.Inside program i →
      ¬ l.IsQuoted → ¬ l.IsFence → j < i → program[j]? = some o → o.IsFence →
      Culprit s document l (.unquotedInFence o.number)
  /-- Outside every fence a quoted line that is neither fence nor header. -/
  | stray {program : List SourceLine} {i : Nat} {d : Defect} : d = .strayAfterHeader ∨ d = .strayQuote →
      s.program document = .ok program → program[i]? = some l → Outline.Outside program i →
      l.IsQuoted → ¬ l.IsFence → ¬ l.IsHeader → Culprit s document l d

/-- **The error blames the culprit**, by its number in the document at this
path. -/
def Blamed (config : Config) (path : Path) (document : Bytes) (err : Error) : Prop :=
  ∃ s k l d, Scissors.compile config.scissors = .ok s ∧ err = .defect ⟨some path, k⟩ d ∧
    HasLine document k l ∧ Culprit s document l d

/-- **A run block stands in the document**: between two fence lines, whose
numbers it has, and each of its lines between the two under its own number,
with its quote mark. -/
structure RunBlock.StandsIn (document : Bytes) (block : RunBlock) : Prop where
  ordered : block.startLine < block.endLine
  opens : ∃ o, HasLine document block.startLine o ∧ o.IsFence
  closes : ∃ c, HasLine document block.endLine c ∧ c.IsFence
  lines : ∀ m ∈ block.lines, block.startLine < m.number ∧ m.number < block.endLine ∧
    ∃ l, HasLine document m.number l ∧ m.raw = LineKind.unquote l.raw

variable {s : Scissors} {document : Bytes} {program : List SourceLine} {l : SourceLine} {err : Error}
variable {lenient : Bool} {b : RunBlock}

/-! ## Ranges -/

namespace Scissors

theorem mem_of_mem_markers {lines : List SourceLine} (h : l ∈ s.markers lines) :
    l ∈ lines ∧ s.IsMarker l := by
  obtain ⟨hl, hm⟩ := List.mem_filter.1 h
  exact ⟨hl, of_decide_eq_true hm⟩

/-- What the markers of a document have reported is a marker of the wrong
kind. -/
theorem Pairing.culprit (h : s.Pairing (lines document) (.error err)) :
    ∃ l ∈ lines document, ∃ d, err = .atLine l.number d ∧ Culprit s document l d := by
  cases h with
  | @misplaced i l hl =>
    obtain ⟨hmem, hmarker⟩ := mem_of_mem_markers (List.mem_of_getElem? hl.1)
    have hclose : s.isClose l.content = true := hmarker.resolve_left (by simp [hl.2])
    exact ⟨l, hmem, _, rfl, .closeWithoutOpen hclose hl.2⟩
  | @unpaired l hno hodd hlast =>
    -- the last of an odd number stands where a range should open
    have hopen : s.isOpen l.content = true := by
      by_contra hopen
      refine hno ((s.markers (lines document)).length / 2) l ⟨?_, by simpa using hopen⟩
      rw [← hlast, List.getLast?_eq_getElem?]
      congr 1
      omega
    exact ⟨l, (mem_of_mem_markers (List.mem_of_getLast? hlast)).1, _, rfl, .openRange hopen⟩

/-- So is what is reported where there is no program. -/
theorem culprit_of_program (h : s.program document = .error err) :
    ∃ l ∈ lines document, ∃ d, err = .atLine l.number d ∧ Culprit s document l d := by
  have hpairing : s.Pairing (lines document) (s.extract document) :=
    pairing_select (lines_ascending document)
  rw [program] at h
  cases hr : s.extract document with
  | ok found => rw [hr] at h; cases h
  | error e =>
    rw [hr] at h hpairing
    cases h
    exact hpairing.culprit

end Scissors

/-! ## Blocks -/

namespace Outline

variable {doc : List SourceLine} {i : Nat}

/-- A line that does not fit is not quoted inside, or else quoted outside
where it may not stand. -/
theorem of_not_fits (hl : doc[i]? = some l) (h : ¬ Fits lenient doc i) :
    Inside doc i ∧ ¬ l.IsQuoted ∨ Outside doc i ∧ l.IsQuoted ∧ ¬ MayStand lenient doc i l := by
  by_contra hno
  simp only [not_or, not_and, not_not] at hno
  refine h fun l' hl' => ?_
  obtain rfl := Option.some.inj (hl.symm.trans hl')
  exact hno

end Outline

namespace Machine

/-- **What the machine reports of a program** is a line of it. -/
theorem culprit_of_run (hprogram : s.program document = .ok program)
    (h : (run lenient .zero program).1 = .error err) :
    ∃ l ∈ program, ∃ d, err = .atLine l.number d ∧ Culprit s document l d := by
  have hone : ∀ l ∈ program, l.OneLine := fun l hl =>
    oneLine_of_mem ((Scissors.program_lines hprogram).1.subset hl)
  have hout := Outline.run_outcome lenient program hone
  rw [h] at hout
  cases hout with
  | @refused i l d hl hbad _ hblames =>
    refine ⟨l, List.mem_of_getElem? hl, d, rfl, ?_⟩
    rcases Outline.of_not_fits hl hbad with ⟨hin, hq⟩ | ⟨hout, hq, hno⟩
    · cases hblames with
      | inside _ hj ho hfence =>
        exact .unquotedInFence hprogram hl hin hq (fun hf => hq hf.isQuoted) hj ho hfence
      | unnamed hout => exact absurd hin hout.2.2
      | afterHeader hout => exact absurd hin hout.2.2
      | stray hout => exact absurd hin hout.2.2
    · have hf : ¬ l.IsFence := fun hf => hout.2.1 (Outline.mem_fences.2 ⟨l, hl, hf⟩)
      have hrun : ¬ l.IsRunHeader := fun hr => hno (Or.inl hr)
      cases hblames with
      | inside hin => exact absurd hin hout.2.2
      | unnamed _ hl' hfile =>
        cases hl.symm.trans hl'
        exact .headerWithoutName hprogram hl hout hfile fun hs => hno (Or.inr (Or.inl ⟨hfile, hs⟩))
      | afterHeader _ hl' hfile =>
        cases hl.symm.trans hl'
        exact .stray (Or.inl rfl) hprogram hl hout hq hf (not_or_intro hrun hfile)
      | stray _ hl' hfile =>
        cases hl.symm.trans hl'
        exact .stray (Or.inr rfl) hprogram hl hout hq hf (not_or_intro hrun hfile)
  | @unclosed i o hlast ho =>
    obtain ⟨o', ho', hfence⟩ := Outline.mem_fences.1 (Outline.mem_of_unpaired? hlast)
    cases ho.symm.trans ho'
    exact ⟨o, List.mem_of_getElem? ho, _, rfl, .openFence hprogram ho hfence⟩

/-- **A run block is two fence lines and the quoted lines between them**,
at least one, without the quote marks. -/
theorem exists_of_run_mem (h : .run b ∈ (script lenient .zero program).effects) :
    ∃ before o inner c after, program = before ++ o :: (inner ++ c :: after) ∧
      Header.isFence o.chars = true ∧ Header.isFence c.chars = true ∧ inner ≠ [] ∧
      (∀ l ∈ inner, l.IsQuoted) ∧ b = ⟨o.number, c.number, inner.map SourceLine.unquoted⟩ := by
  obtain ⟨pre, m', hfeeds, hend⟩ := script_ends lenient .zero program
  obtain ⟨front, c, back, _, m, now, _, rfl, hfront, hfeed, hmem⟩ := hfeeds.exists_of_mem h
  obtain ⟨hfence, start, hc, hne, rfl⟩ := (fed_of_feed hfeed).of_run hmem
  have hcoh : m.Coherent := hfront.coherent
  have hrun : m.context.isRun = true := by
    rw [Context.isRun, hcoh.buffered.1 hne]
    rfl
  have hstate := hfront.feedAll_eq
  obtain ⟨before, o, inner, rfl, rfl, ho, -, hinner, hbuffer⟩ :=
    fedSince lenient front start (by rw [hstate, hc])
  rw [← hstate] at hrun hne ⊢
  have heq := hbuffer hrun
  have htail : ∃ tail, program = (before ++ o :: inner ++ c :: back) ++ tail := by
    rcases hend with ⟨heq, -⟩ | ⟨line, rest, -, heq, -⟩
    · exact ⟨[], by rw [heq, List.append_nil]⟩
    · exact ⟨line :: rest, heq⟩
  obtain ⟨tail, htail⟩ := htail
  refine ⟨before, o, inner, c, back ++ tail, by rw [htail]; simp, ho, hfence, ?_,
    fun l hl => (hinner l hl).1, by rw [heq]⟩
  rintro rfl
  exact hne heq

/-- So it stands in the document that the program is of. -/
theorem standsIn_of_run_mem (hprogram : s.program document = .ok program)
    (h : .run b ∈ (script lenient .zero program).effects) : b.StandsIn document := by
  obtain ⟨hsub, -⟩ := Scissors.program_lines hprogram
  have hasc : SourceLine.Ascending program := (lines_ascending document).sublist hsub
  obtain ⟨before, o, inner, c, after, rfl, ho, hc, -, -, rfl⟩ := exists_of_run_mem h
  have hline : ∀ l ∈ before ++ o :: (inner ++ c :: after), HasLine document l.number l ∧ l.OneLine :=
    fun l hl => ⟨hasLine_of_mem (hsub.subset hl), oneLine_of_mem (hsub.subset hl)⟩
  obtain ⟨hoLine, hoOne⟩ := hline o (by simp)
  obtain ⟨hcLine, hcOne⟩ := hline c (by simp)
  obtain ⟨hfirst, hrest⟩ := List.pairwise_cons.1 (List.pairwise_append.1 hasc).2.1
  obtain ⟨-, -, hlast⟩ := List.pairwise_append.1 hrest
  refine ⟨hfirst c (by simp), ⟨o, hoLine, (SourceLine.isFence_iff hoOne).1 ho⟩,
    ⟨c, hcLine, (SourceLine.isFence_iff hcOne).1 hc⟩, fun m hm => ?_⟩
  obtain ⟨l, hl, rfl⟩ := List.mem_map.1 hm
  exact ⟨hfirst l (by simp [hl]), hlast l hl c List.mem_cons_self, l, (hline l (by simp [hl])).1, rfl⟩

end Machine

/-! ## Documents -/

variable {config : Config} {path : Path} {d : Document} {σ : Type} {t : Tangler σ} {r : Report} {x : σ}

/-- A document is loaded with the program that its ranges select. -/
theorem Document.program_of_ofBytes (h : Document.ofBytes config path document = .ok d) :
    ∃ s, Scissors.compile config.scissors = .ok s ∧ s.program document = .ok d.program := by
  rw [Document.ofBytes] at h
  split at h
  · cases h
  · rename_i s hs
    split at h <;> cases h
    rename_i hprogram
    exact ⟨s, hs, hprogram⟩

/-- A defect in a line of the document is blamed with the document. -/
theorem blamed_of_culprit (hs : Scissors.compile config.scissors = .ok s)
    (h : ∃ l ∈ lines document, ∃ d, err = .atLine l.number d ∧ Culprit s document l d) :
    Blamed config path document (err.inDocument path) := by
  obtain ⟨l, hl, d, rfl, hculprit⟩ := h
  exact ⟨s, l.number, l, d, hs, rfl, hasLine_of_mem hl, hculprit⟩

/-- **A document that cannot be loaded** for a defect has its culprit. -/
theorem blamed_of_ofBytes (h : Document.ofBytes config path document = .error err)
    (hdefect : err.isDefect = true) : Blamed config path document err := by
  rw [Document.ofBytes] at h
  split at h
  · rename_i e hs
    rw [Scissors.compile] at hs
    split at hs <;> cases hs
    cases h
    cases hdefect
  · rename_i s hs
    split at h <;> cases h
    rename_i e hprogram
    exact blamed_of_culprit hs (Scissors.culprit_of_program hprogram)

/-- **So has one that cannot be tangled** for a defect, where the
collaborators are honest. -/
theorem blamed_of_tangleLines (ht : t.Honest) (hd : Document.ofBytes config path document = .ok d)
    (h : (t.tangleLines d.program (r, x)).1 = .error err) (hdefect : err.isDefect = true) :
    Blamed config path document (err.inDocument path) := by
  obtain ⟨s, hs, hprogram⟩ := Document.program_of_ofBytes hd
  rcases Tangler.tangleLines_error h with ⟨e, hfailed⟩ | hrun
  · rw [(ht.failed hfailed).1] at hdefect
    cases hdefect
  · obtain ⟨l, hl, hculprit⟩ := Machine.culprit_of_run hprogram hrun
    exact blamed_of_culprit hs ⟨l, (Scissors.program_lines hprogram).1.subset hl, hculprit⟩

/-- **What is reported of a document**, at any path and with any
configuration. -/
structure Diagnosis (config : Config) (path : Path) (document : Bytes) : Prop where
  /-- A defect that keeps the document from being loaded blames the
  culprit. -/
  loading : ∀ err, Document.ofBytes config path document = .error err → err.isDefect = true →
    Blamed config path document err
  /-- So does one that ends a pass over its program. -/
  tangling : ∀ {σ : Type} (t : Tangler σ) (d : Document) (r : Report) (x : σ) (err : Error), t.Honest →
    Document.ofBytes config path document = .ok d → (t.tangleLines d.program (r, x)).1 = .error err →
      err.isDefect = true → Blamed config path document (err.inDocument path)
  /-- Every block that is handed to the executor stands in the document. -/
  running : ∀ {σ : Type} (t : Tangler σ) (d : Document) (r : Report) (x : σ) (block : RunBlock),
    Document.ofBytes config path document = .ok d →
      .run block ∈ (t.logged.tangleLines d.program (r, x, [])).2.2.2 → block.StandsIn document
  /-- A block that failed is one of them. -/
  failing : ∀ {σ : Type} (t : Tangler σ) (d : Document) (r : Report) (x : σ) (status : Int)
    (first last : Nat), t.Honest → Document.ofBytes config path document = .ok d →
      (t.tangleLines d.program (r, x)).1 = .error (.runFailed status first last) →
        ∃ block : RunBlock, .run block ∈ (t.logged.tangleLines d.program (r, x, [])).2.2.2 ∧
          block.StandsIn document ∧ block.startLine = first ∧ block.endLine = last
  /-- The collaborators of a preview are honest. -/
  previewing : ∀ indent t,
    Tangler.ofConfig config Sink.memory.onFirst (Setting.printing indent).onSecond = .ok t → t.Honest
  /-- So are those of a run that writes files and runs blocks. -/
  executing : ∀ {κ : Type} (store : Store World κ) (base : Path) (i : Interpreter)
    (directory : Option Path) (t : Tangler (Handles κ × World)), Tangler.ofConfig config
      (Sink.files store base) (Executor.shell i directory).onSecond = .ok t → t.Honest

/-- **Errors point at the culprit** in the document as it is, be its program
all of it or cut out of it. -/
theorem diagnosis (config : Config) (path : Path) (document : Bytes) :
    Diagnosis config path document where
  loading err := blamed_of_ofBytes
  tangling t d r x err := blamed_of_tangleLines
  running t d r x block hd hmem := by
    obtain ⟨s, -, hprogram⟩ := Document.program_of_ofBytes hd
    rw [Tangler.logged_tangleLines] at hmem
    exact Machine.standsIn_of_run_mem hprogram ((Tangler.issue_made_prefix t _ x).subset hmem)
  failing t d r x status first last ht hd h := by
    obtain ⟨s, -, hprogram⟩ := Document.program_of_ofBytes hd
    rcases Tangler.tangleLines_error h with ⟨e, hfailed⟩ | hrun
    · obtain ⟨block, rfl, hfirst, hlast⟩ := (ht.failed hfailed).2 status first last rfl
      have hmade : .run block ∈ (t.calls d.program x).made := by
        rw [Issue.made, hfailed]
        simp
      refine ⟨block, ?_, ?_, hfirst, hlast⟩
      · rwa [Tangler.logged_tangleLines]
      · exact Machine.standsIn_of_run_mem hprogram ((Tangler.issue_made_prefix t _ x).subset hmade)
    · obtain ⟨l, -, d, herr, -⟩ := Machine.culprit_of_run hprogram hrun
      cases herr
  previewing indent t := Tangler.honest_of_preview
  executing store base i directory t := Tangler.honest_of_execute

end Tangle
