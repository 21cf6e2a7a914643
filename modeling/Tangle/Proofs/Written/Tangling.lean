import Tangle.Document
import Tangle.Proofs.Scissors.Unmarked
import Tangle.Proofs.Sink.Memory
import Tangle.Proofs.Written.Reading
import Mathlib.Algebra.GroupWithZero.Nat
/-!
# Written blocks tangle to themselves

A document of written blocks has no scissor markers if these have dashes,
so it is its own program; tangling it into memory leaves under each name
the lines of its blocks, and hands the lines of each run block that has
any to the executor.
-/

namespace Tangle

namespace Block

/-- The content of lines: each is ended by a line feed. -/
def text (body : List BodyLine) : Bytes :=
  body.flatMap fun l => l.bytes ++ [lineFeed]

/-- **What a block makes of the content under a name**: a block of that
file replaces it, or extends it if it says so. -/
def store (name : String) (before : Option Bytes) : Block → Option Bytes
  | file n continued body =>
    if String.ofList n.chars = name then
      some ((if continued then before.getD [] else []) ++ text body)
    else before
  | run _ => before

/-- The content under a name after blocks, of which there was none. -/
def stored (blocks : List Block) (name : String) : Option Bytes :=
  blocks.foldl (store name) none

/-- The lines of a block that is run. -/
def ran? : Block → Option (List Bytes)
  | file _ _ _ => none
  | run body => if body = [] then none else some (body.map BodyLine.bytes)

/-- The number of lines that a block writes under a name. -/
def lineCount (name : String) : Block → Nat
  | file n _ body => if String.ofList n.chars = name then body.length else 0
  | run _ => 0

/-- The run blocks among effects. -/
def runs (effects : List Effect) : List RunBlock :=
  effects.filterMap fun
    | .run block => some block
    | _ => none

variable {ε : Type} {executor : Executor ε} {files : MemoryFiles} {e : ε} {n : Nat}

/-! ## What the effects count to -/

theorem runs_file (n : Nat) (name : FileName) (continued : Bool) (body : List BodyLine) :
    runs ((file name continued body).effects n) = [] := by
  simp [runs, effects, List.filterMap_append, List.filterMap_map]

theorem runs_effects (b : Block) (n : Nat) :
    (runs (b.effects n)).map (fun block => block.lines.map SourceLine.raw) = b.ran?.toList := by
  cases b with
  | file name continued body => rw [runs_file]; rfl
  | run body =>
    cases body with
    | nil => rfl
    | cons l body =>
      simp only [effects, runs, ran?, if_neg (List.cons_ne_nil l body)]
      exact congrArg (fun x => [x]) Document.numbered_raw

/-- **The blocks that are run have the lines that were written.** -/
theorem runs_effectsFrom (blocks : List Block) (n : Nat) :
    (runs (effectsFrom n blocks)).map (fun block => block.lines.map SourceLine.raw) =
      blocks.filterMap ran? := by
  induction blocks generalizing n with
  | nil => rfl
  | cons b blocks ih =>
    rw [effectsFrom, runs, List.filterMap_append, List.map_append, ← runs, ← runs, runs_effects, ih]
    cases h : b.ran? <;> simp [h]

theorem writes_effects (b : Block) (n : Nat) (name : String) :
    (b.effects n).countP (Effect.writesTo name) = b.lineCount name := by
  cases b with
  | file m continued body =>
    by_cases h : String.ofList m.chars = name
    · simp [effects, lineCount, List.countP_append, List.countP_map, Effect.writesTo, h,
        Function.comp_def]
    · simp [effects, lineCount, List.countP_append, List.countP_map, Effect.writesTo, h,
        Function.comp_def]
  | run body => cases body <;> rfl

/-- The lines written under a name are those of its blocks. -/
theorem writes_effectsFrom (blocks : List Block) (n : Nat) (name : String) :
    (effectsFrom n blocks).countP (Effect.writesTo name) = (blocks.map (lineCount name)).sum := by
  induction blocks generalizing n with
  | nil => rfl
  | cons b blocks ih =>
    rw [effectsFrom, List.countP_append, writes_effects, ih, List.map_cons, List.sum_cons]

theorem isRun_countP (effects : List Effect) : effects.countP Effect.isRun = (runs effects).length := by
  induction effects with
  | nil => rfl
  | cons effect effects ih =>
    rw [List.countP_cons, ih]
    cases effect <;> simp [runs, Effect.isRun]

/-! ## What the effects do in memory -/

/-- The state of an executor after it ran some blocks. -/
def runAll (executor : Executor ε) (e : ε) (blocks : List RunBlock) : ε :=
  blocks.foldl (fun e block => (executor.run block e).2) e

variable (lenient : Bool) (scissors : Scissors)

/-- A block does what it was written for. -/
theorem succeeds_block (hexec : ∀ block e, (executor.run block e).1 = .ok ())
    (hclosed : ∀ name, files.isOpen name = false) (b : Block) :
    ∃ files' : MemoryFiles, (Tangler.inMemory lenient scissors executor).Succeeds (b.effects n)
        (files, e) (files', runAll executor e (runs (b.effects n))) ∧
      (∀ name, files'.isOpen name = false) ∧
      ∀ name, files'.content? name = store name (files.content? name) b := by
  cases b with
  | run body =>
    refine ⟨files, ?_, hclosed, fun name => rfl⟩
    rw [effects]
    split
    · exact Tangler.succeeds_nil
    · exact Tangler.succeeds_cons (Tangler.perform_run (hexec _ e)) Tangler.succeeds_nil
  | file m continued body =>
    obtain ⟨files', hsucc, hopen, hcontent, hother⟩ := Tangler.succeeds_file lenient scissors
      executor e (if continued then .append else .truncate) (body.map BodyLine.bytes)
      (hclosed (String.ofList m.chars))
    rw [List.map_map] at hsucc
    refine ⟨files', by rw [runs_file]; exact hsucc, fun name => ?_, fun name => ?_⟩
    · by_cases h : String.ofList m.chars = name
      · exact h ▸ hopen
      · rw [MemoryFiles.isOpen, hother name (Ne.symm h)]
        exact hclosed name
    · by_cases h : String.ofList m.chars = name
      · subst h
        rw [hcontent, store, if_pos rfl, text, List.flatMap_map]
        cases continued <;> rfl
      · rw [store, if_neg h, MemoryFiles.content?, hother name (Ne.symm h), MemoryFiles.content?]

/-- **So do blocks in turn.** -/
theorem succeeds_blocks (hexec : ∀ block e, (executor.run block e).1 = .ok ())
    (hclosed : ∀ name, files.isOpen name = false) (blocks : List Block) :
    ∃ files' : MemoryFiles, (Tangler.inMemory lenient scissors executor).Succeeds
        (effectsFrom n blocks) (files, e) (files', runAll executor e (runs (effectsFrom n blocks))) ∧
      ∀ name, files'.content? name = blocks.foldl (store name) (files.content? name) := by
  induction blocks generalizing n files e with
  | nil => exact ⟨files, Tangler.succeeds_nil, fun _ => rfl⟩
  | cons b blocks ih =>
    obtain ⟨files₁, hsucc₁, hclosed₁, hcontent₁⟩ :=
      succeeds_block (n := n) (e := e) lenient scissors hexec hclosed b
    obtain ⟨files₂, hsucc₂, hcontent₂⟩ :=
      ih (n := n + b.height) (e := runAll executor e (runs (b.effects n))) hclosed₁
    refine ⟨files₂, ?_, fun name => ?_⟩
    · rw [effectsFrom, runs, List.filterMap_append, runAll, List.foldl_append]
      exact hsucc₁.append hsucc₂
    · rw [hcontent₂, hcontent₁, List.foldl_cons]

/-! ## From bytes to files -/

theorem isQuoted_lines (b : Block) (n : Nat) :
    ∀ raw ∈ b.lines, (SourceLine.ofBytes n raw).IsQuoted := by
  intro raw hraw
  simp only [lines, List.mem_cons, List.mem_append, List.not_mem_nil, or_false] at hraw
  rcases hraw with rfl | rfl | hraw | rfl
  · cases b with
    | file name continued body => exact (file_isFileHeader n name continued body).isQuoted
    | run body => exact (run_isRunHeader n body).isQuoted
  · exact (fence_isFence n).2.isQuoted
  · obtain ⟨l, -, rfl⟩ := List.mem_map.1 hraw
    exact l.quoted_isQuoted n
  · exact (fence_isFence n).2.isQuoted

/-- **A written document is its own program**, where markers have dashes. -/
theorem program_document {m : Markers} {scissors : Scissors} (hs : Scissors.compile m = .ok scissors)
    (hdashes : 1 ≤ m.dashes) (blocks : List Block) :
    scissors.program (document blocks) = .ok (Document.numbered 1 (blocks.flatMap lines)) := by
  rw [← lines_document]
  refine Scissors.program_of_unmarked fun l hl => ?_
  rw [lines_document] at hl
  obtain ⟨raw, hraw, number, rfl⟩ := Document.mem_numbered hl
  obtain ⟨b, -, hb⟩ := List.mem_flatMap.1 hraw
  obtain ⟨rest, hrest⟩ := SourceLine.chars_of_isQuoted (isQuoted_lines b number raw hb)
  exact Scissors.not_marker_of_compile hs hdashes hrest (by decide)

/-- **Blocks that are written and tangled come out as they were.** The
document of any blocks loads and tangles into memory, in either mode, with
any executor that never fails. Under each name stands what the blocks make
of it, the executor was handed the run blocks that have lines, with their
bytes, and the report counts one document, these run blocks and the lines
of each file. -/
theorem tangle_document (config : Config) (executor : Executor ε) {scissors : Scissors}
    (hs : Scissors.compile config.scissors = .ok scissors) (hdashes : 1 ≤ config.scissors.dashes)
    (hexec : ∀ block e, (executor.run block e).1 = .ok ()) (path : Path) (blocks : List Block)
    (r : Report) (e : ε) :
    ∃ d t files handed r', Document.ofBytes config path (document blocks) = .ok d ∧
      Tangler.ofConfig config Sink.memory.onFirst executor.onSecond = .ok t ∧
      t.tangleLines d.program (r, .empty, e) = (.ok (), r', files, runAll executor e handed) ∧
      (∀ name, MemoryFiles.content? files name = stored blocks name) ∧
      handed.map (fun block => block.lines.map SourceLine.raw) = blocks.filterMap ran? ∧
      r'.documents = r.documents + 1 ∧ r'.runs = r.runs + handed.length ∧
      ∀ name, r'.lines name = r.lines name + (blocks.map (lineCount name)).sum := by
  have hload : Document.ofBytes config path (document blocks) =
      .ok ⟨path, Document.numbered 1 (blocks.flatMap lines)⟩ := by
    rw [Document.ofBytes, hs]
    simp only [program_document hs hdashes blocks]
  have htangler : Tangler.ofConfig config Sink.memory.onFirst executor.onSecond =
      .ok (Tangler.inMemory config.lenient scissors executor) := by
    rw [Tangler.ofConfig, hs]
    rfl
  have hfresh : ∀ name, MemoryFiles.isOpen .empty name = false := fun _ => rfl
  obtain ⟨files, hsucc, hcontent⟩ :=
    succeeds_blocks (n := 1) (e := e) config.lenient scissors hexec hfresh blocks
  have hrun : (Machine.run config.lenient .zero (Document.numbered 1 (blocks.flatMap lines))).1 =
      .ok (effectsFrom 1 blocks) := run_blocks config.lenient .nothing 1 blocks
  refine ⟨_, _, files, runs (effectsFrom 1 blocks), _, hload, htangler,
    Tangler.tangleLines_of_succeeds hrun hsucc, hcontent, runs_effectsFrom blocks 1, ?_, ?_,
    fun name => ?_⟩
  · rw [Report.countDocument, Report.recordAll_documents]
  · rw [← isRun_countP, ← Report.recordAll_runs]
    rfl
  · rw [← writes_effectsFrom blocks 1, ← Report.recordAll_lines]
    rfl

/-- A file with a line like a fence and one that is no text, more lines for
it, and a run block. -/
def sample : List Block :=
  [.file ⟨['a'], by decide, by decide, by decide⟩ false
      [⟨[0x60, 0x60, 0x60, 0x0D], by decide⟩, ⟨[0x20, 0xFF], by decide⟩],
    .run [⟨[0x78], by decide⟩],
    .file ⟨['a'], by decide, by decide, by decide⟩ true [⟨[], by decide⟩]]

theorem tangle_sample : ∃ d t files handed r',
    Document.ofBytes .standard ⟨"notes"⟩ (document sample) = .ok d ∧
      Tangler.ofConfig .standard Sink.memory.onFirst (Executor.recording []).onSecond = .ok t ∧
      t.tangleLines d.program (.empty, .empty, []) =
        (.ok (), r', files, runAll (.recording []) [] handed) ∧
      MemoryFiles.content? files "a" =
        some [0x60, 0x60, 0x60, 0x0D, 0x0A, 0x20, 0xFF, 0x0A, 0x0A] ∧
      handed.map (fun block => block.lines.map SourceLine.raw) = [[[0x78]]] ∧
      r'.documents = 1 ∧ r'.runs = handed.length ∧ r'.lines "a" = 3 := by
  obtain ⟨d, t, files, handed, r', hload, htangler, hpass, hcontent, hhanded, hdocs, hruns, hlines⟩ :=
    tangle_document .standard (.recording []) rfl (by decide) (fun _ _ => rfl) ⟨"notes"⟩ sample
      .empty []
  exact ⟨d, t, files, handed, r', hload, htangler, hpass, (hcontent "a").trans rfl, hhanded, hdocs,
    hruns.trans (Nat.zero_add _), (hlines "a").trans rfl⟩

end Block

end Tangle
