import Tangle.Proofs.Block.Body
import Tangle.Proofs.Pass.Diagnosis
import Tangle.Proofs.Written.Tangling
/-!
# Previews show what is run

A preview takes the place of the interpreter: the same blocks come to it,
in the order of the document, and it prints of each the text of what the
interpreter would be given as its last argument. `RunBlock.Shown` says so
of one block and `Tangler.Shows` of a pass, whatever sink the pass has and
however it ends; `preview_shows` proves both of every document.
-/

namespace Tangle

open Block (runs)

/-! ## The run blocks of a document -/

variable {lenient : Bool} {e : Effect} {effects later : List Effect} {b : RunBlock}

theorem mem_runs : b ∈ runs effects ↔ .run b ∈ effects := by
  rw [runs, List.mem_filterMap]
  constructor
  · rintro ⟨effect, hmem, heq⟩
    cases effect <;> cases heq
    exact hmem
  · exact fun h => ⟨_, h, rfl⟩

theorem runs_append : runs (effects ++ later) = runs effects ++ runs later :=
  List.filterMap_append

namespace Machine

open SourceLine

variable {m m' s t : MachineState} {l : SourceLine} {lines : List SourceLine}

/-- After a line no fence is open, or the same one as before, or one that
the line opened. A block that the line ran had the fence that was open
before, and none is open after it. -/
theorem Fed.runs_fence (h : Fed lenient s l (.ok effects) t) :
    (runs effects = [] ∧ ∀ n, t.context.fence = some n → s.context.fence = some n ∨ n = l.number) ∨
      ∃ b, runs effects = [b] ∧ s.context.fence = some b.startLine ∧ b.endLine = l.number ∧
        t.context.fence = none := by
  cases h with
  | headed hc hhead => exact Or.inl ⟨rfl, fun n hn => Or.inl (hhead.fence_eq ▸ hn)⟩
  | opened hc hf =>
    refine Or.inl ⟨?_, fun n hn => Or.inr (Option.some.inj hn).symm⟩
    rw [openFence]
    split <;> rfl
  | written | collected | passed => exact Or.inl ⟨rfl, fun n hn => Or.inl hn⟩
  | @closed start hc hf =>
    have hnone := closeFence_fence s start l.number
    cases hbuffer : s.buffer with
    | nil =>
      refine Or.inl ⟨?_, fun n hn => by rw [hnone] at hn; cases hn⟩
      rw [closeFence, hbuffer]
      split <;> rfl
    | cons first rest =>
      refine Or.inr ⟨⟨start, l.number, s.buffer⟩, ?_, hc, rfl, hnone⟩
      rw [closeFence, hbuffer]
      split <;> rfl

/-- **Blocks are run in the order of their lines**: where the numbers of
the lines increase, each block starts after the one before has ended. -/
theorem Feeds.runs_ordered (h : Feeds lenient m lines effects m') (hasc : Ascending lines) :
    (runs effects).Pairwise (fun a b => a.endLine < b.startLine) ∧
      ∀ b ∈ runs effects, m.context.fence = some b.startLine ∨ ∃ l ∈ lines, l.number = b.startLine := by
  induction h with
  | nil => exact ⟨.nil, List.forall_mem_nil _⟩
  | @cons m m₁ m₂ line rest effects later hf _ ih =>
    obtain ⟨hline, hrest⟩ := List.pairwise_cons.1 hasc
    obtain ⟨hlater, hstarts⟩ := ih hrest
    rw [runs_append]
    rcases (fed_of_feed hf).runs_fence with ⟨hnone, hfence⟩ | ⟨b, hb, hopen, hend, hnone⟩
    · rw [hnone, List.nil_append]
      refine ⟨hlater, fun b hb => ?_⟩
      rcases hstarts b hb with hstart | ⟨l, hl, hstart⟩
      · rcases hfence _ hstart with hstart | hstart
        · exact Or.inl hstart
        · exact Or.inr ⟨line, List.mem_cons_self, hstart.symm⟩
      · exact Or.inr ⟨l, List.mem_cons_of_mem _ hl, hstart⟩
    · -- no fence is open after the block, so those after it start at later lines
      have hafter : ∀ b' ∈ runs later, ∃ l ∈ rest, l.number = b'.startLine := fun b' hb' =>
        (hstarts b' hb').resolve_left (by simp [hnone])
      rw [hb, List.singleton_append]
      refine ⟨List.pairwise_cons.2 ⟨fun b' hb' => ?_, hlater⟩, List.forall_mem_cons.2
        ⟨Or.inl hopen, fun b' hb' => ?_⟩⟩
      · obtain ⟨l, hl, hstart⟩ := hafter b' hb'
        rw [hend, ← hstart]
        exact hline l hl
      · obtain ⟨l, hl, hstart⟩ := hafter b' hb'
        exact Or.inr ⟨l, List.mem_cons_of_mem _ hl, hstart⟩

theorem script_runs_ordered (hasc : Ascending lines) :
    (runs (script lenient .zero lines).effects).Pairwise fun a b => a.endLine < b.startLine := by
  obtain ⟨pre, m', hfeeds, hend⟩ := script_ends lenient .zero lines
  have hpre : pre <+: lines := by
    rcases hend with ⟨rfl, -⟩ | ⟨line, rest, -, rfl, -⟩
    · exact List.prefix_rfl
    · exact List.prefix_append _ _
  exact (hfeeds.runs_ordered (hasc.sublist hpre.sublist)).1

end Machine

/-! ## What the interpreter is given -/

/-- What becomes of a block whose interpreter was launched, or could not
be. -/
def Interpreter.conclude (i : Interpreter) (b : RunBlock) (w : World) :
    Except Fault (Shell.Ending × Shell.State) → Except Error Unit × World × String
  | .error fault => (.error (.spawn i.program fault), w, "")
  | .ok (ending, after) =>
    let w := { w with
      disk := after.disk
      out := w.out ++ Octets.toBytes (after.textOf 1)
      err := w.err ++ Octets.toBytes (after.textOf 2) }
    let status : Nat := match ending with
      | .exited status => status
      | .killed => 1
    if status = 0 then (.ok (), w, "")
    else (.error (.runFailed status b.startLine b.endLine), w, b.renderFailure status)

/-- Bytes survive being read as octets. -/
theorem Octets.toBytes_ofBytes (bytes : Bytes) : Octets.toBytes (Octets.ofBytes bytes) = bytes := by
  rw [toBytes, ofBytes, List.map_map]
  refine (List.map_congr_left fun b _ => ?_).trans (List.map_id _)
  have hvalid : b.toNat.isValidChar := Or.inl (Nat.lt_trans b.toNat_lt (by decide))
  rw [Function.comp_apply, Char.ofNat, dif_pos hvalid]
  exact UInt8.ofNat_toNat

/-- **What is shown of a block is what is run.** -/
structure RunBlock.Shown (document : Bytes) (b : RunBlock) : Prop where
  /-- Its lines are the text of its bytes, cut at the line feeds. -/
  cut : (Utf8.decode b.rawBody).splitOn '\n' = b.lines.map SourceLine.chars
  /-- A preview shows these pieces, each after spaces and before a line
  feed. -/
  preview : ∀ w, (b.renderPreview w).toList = ((Utf8.decode b.rawBody).splitOn '\n').flatMap
    fun piece => List.replicate w ' ' ++ piece ++ ['\n']
  /-- Its text is that of its bytes. -/
  body : b.body = Utf8.text b.rawBody
  /-- The bytes are the last argument of the interpreter that is launched. -/
  launched : ∀ (i : Interpreter) (directory : Option Path) (w : World), ∃ argument,
    Octets.toBytes argument = b.rawBody ∧ i.run directory b w = i.conclude b w
      (Shell.launch (Octets.ofString i.program) (i.args.map Octets.ofString ++ [argument]) directory
        w.disk w.cwd)
  /-- Each line is the line of the document that has its number, without
  the quote mark and at most one space. -/
  lines : ∀ m ∈ b.lines, ∃ l rest, Document.HasLine document m.number l ∧
    l.chars = '>' :: rest ∧ m.chars = unspaced rest

variable {s : Scissors} {document : Bytes} {program : List SourceLine}

/-- The blocks of a program were cut from the bytes of its document. -/
theorem isCut_of_run_mem (hprogram : s.program document = .ok program)
    (h : .run b ∈ (Machine.script lenient .zero program).effects) : b.IsCut := by
  obtain ⟨hsub, -⟩ := Scissors.program_lines hprogram
  obtain ⟨before, o, inner, c, after, rfl, -, -, hne, -, rfl⟩ := Machine.exists_of_run_mem h
  refine ⟨by simpa using hne, fun m hm => ?_, fun m hm hfeed => ?_⟩
  · obtain ⟨l, -, rfl⟩ := List.mem_map.1 hm
    rfl
  · obtain ⟨l, hl, rfl⟩ := List.mem_map.1 hm
    have hmem : l ∈ before ++ o :: (inner ++ c :: after) := by simp [hl]
    exact (Document.mem_lines (hsub.subset hmem)).1 ((unquote_suffix l.raw).subset hfeed)

/-- Their lines are those of the document without the quote mark. -/
theorem exists_line_of_run_mem (hprogram : s.program document = .ok program)
    (h : .run b ∈ (Machine.script lenient .zero program).effects) :
    ∀ m ∈ b.lines, ∃ l rest, Document.HasLine document m.number l ∧ l.chars = '>' :: rest ∧
      m.chars = unspaced rest := by
  obtain ⟨hsub, -⟩ := Scissors.program_lines hprogram
  obtain ⟨before, o, inner, c, after, rfl, -, -, -, hquoted, rfl⟩ := Machine.exists_of_run_mem h
  intro m hm
  obtain ⟨l, hl, rfl⟩ := List.mem_map.1 hm
  have hmem : l ∈ before ++ o :: (inner ++ c :: after) := by simp [hl]
  obtain ⟨rest, hrest⟩ := SourceLine.chars_of_isQuoted (hquoted l hl)
  refine ⟨l, rest, Document.hasLine_of_mem (hsub.subset hmem), hrest, ?_⟩
  rw [(Document.mem_lines (hsub.subset hmem)).2, SourceLine.chars, SourceLine.ofBytes_content] at hrest
  rw [SourceLine.chars, SourceLine.unquoted, SourceLine.ofBytes_content]
  exact decode_unquote hrest

/-- **Every run block is shown as it is run.** -/
theorem shown_of_run_mem (hprogram : s.program document = .ok program)
    (h : .run b ∈ (Machine.script lenient .zero program).effects) : b.Shown document := by
  have hcut := isCut_of_run_mem hprogram h
  refine ⟨hcut.splitOn_rawBody, fun w => ?_, hcut.body_eq, fun i directory w => ?_,
    exists_line_of_run_mem hprogram h⟩
  · rw [hcut.splitOn_rawBody]
    exact b.renderPreview_toList w
  · refine ⟨Octets.ofBytes b.rawBody, Octets.toBytes_ofBytes b.rawBody, ?_⟩
    rw [Interpreter.run]
    split <;> rename_i heq <;> rw [heq] <;> rfl

/-! ## The output of a pass -/

namespace Tangler

variable {σ ε : Type} {t : Tangler (σ × ε)} {sink : Sink σ} {executor : Executor ε}

/-- An effect concerns the executor if it runs a block. -/
theorem perform_second (hsink : t.sink = sink.onFirst) (hexec : t.executor = executor.onSecond)
    (e : Effect) (x : σ × ε) : (t.perform e x).2.2 = Block.runAll executor x.2 (runs [e]) := by
  cases e <;> rw [perform] <;> simp only [hsink, hexec] <;> rfl

theorem runAll_append (executor : Executor ε) (x : ε) (first second : List RunBlock) :
    Block.runAll executor x (first ++ second) =
      Block.runAll executor (Block.runAll executor x first) second :=
  List.foldl_append

/-- **The executor is left as the blocks of the calls leave it**, whatever
the sink does. -/
theorem issue_second (hsink : t.sink = sink.onFirst) (hexec : t.executor = executor.onSecond)
    (effects : List Effect) (x : σ × ε) :
    (t.issue effects x).state.2 = Block.runAll executor x.2 (runs (t.issue effects x).made) := by
  induction effects generalizing x with
  | nil => rfl
  | cons e effects ih =>
    have hsecond := perform_second hsink hexec e x
    rcases hp : t.perform e x with ⟨err | ⟨⟩, x'⟩
    · rw [hp] at hsecond
      rw [issue_cons_of_error hp]
      exact hsecond
    · rw [hp] at hsecond
      have hmade : ((t.issue effects x').after [e]).made = [e] ++ (t.issue effects x').made := rfl
      rw [issue_cons_of_ok hp, hmade, runs_append, runAll_append, ← hsecond]
      exact ih x'

/-- **What a pass that previews leaves** in its output, which is part of
what its executor keeps. -/
structure Shows (t : Tangler (σ × ε)) (output : ε → Bytes) (w : Nat) (lines : List SourceLine)
    (r : Report) (x : σ × ε) : Prop where
  /-- Blocks are called in the order of the script, from the first on, -/
  first : runs (t.calls lines x).made <+: runs (Machine.script t.lenient .zero lines).effects
  /-- and all of them in a pass that ends well. -/
  whole : (t.tangleLines lines (r, x)).1 = .ok () →
    runs (t.calls lines x).made = runs (Machine.script t.lenient .zero lines).effects
  /-- The output goes on with the previews of these blocks, -/
  printed : output (t.tangleLines lines (r, x)).2.2.2 =
    output x.2 ++ Utf8.ofString (RunBlock.previews w (runs (t.calls lines x).made))
  /-- where their lines can be read. -/
  readable : RunBlock.readBack w
      ((output (t.tangleLines lines (r, x)).2.2.2).drop (output x.2).length) =
    (runs (t.calls lines x).made).flatMap fun b => b.lines.map SourceLine.chars

variable {output : ε → Bytes} {w : Nat}

/-- An executor that prints each block prints them all. -/
theorem output_runAll (hprints : ∀ b x, output (executor.run b x).2 =
    output x ++ Utf8.ofString (b.renderPreview w)) (x : ε) (blocks : List RunBlock) :
    output (Block.runAll executor x blocks) =
      output x ++ Utf8.ofString (RunBlock.previews w blocks) := by
  induction blocks generalizing x with
  | nil => simp [Block.runAll, RunBlock.previews, Utf8.ofString, Utf8.encode]
  | cons b blocks ih =>
    rw [Block.runAll, List.foldl_cons, ← Block.runAll, ih, hprints, List.append_assoc]
    simp [RunBlock.previews, Utf8.ofString, Utf8.encode]

/-- **A pass shows what it runs**, if its executor prints each block. -/
theorem shows_of_prints (hsink : t.sink = sink.onFirst) (hexec : t.executor = executor.onSecond)
    (hprints : ∀ b x, output (executor.run b x).2 = output x ++ Utf8.ofString (b.renderPreview w))
    (hprogram : s.program document = .ok program) (r : Report) (x : σ × ε) :
    t.Shows output w program r x := by
  have hfirst : runs (t.calls program x).made <+: runs (Machine.script t.lenient .zero program).effects :=
    (Tangler.issue_made_prefix t _ x).filterMap _
  have hprinted : output (t.tangleLines program (r, x)).2.2.2 =
      output x.2 ++ Utf8.ofString (RunBlock.previews w (runs (t.calls program x).made)) := by
    rw [tangleLines_state, calls, issue_second hsink hexec, output_runAll hprints]
  refine ⟨hfirst, fun hok => ?_, hprinted, ?_⟩
  · rw [tangleLines_result, Issue.result] at hok
    split at hok
    · cases hok
    · rename_i hnone
      rw [calls, issue_made hnone]
  · rw [hprinted, List.drop_left]
    exact RunBlock.readBack_previews fun b hb =>
      isCut_of_run_mem hprogram (mem_runs.1 (hfirst.subset hb))

end Tangler

/-- **A preview shows exactly what is run**, in the order of the document.
Every run block of a document has for its lines those of the document
without their quote marks, and these are the text of the bytes that the
interpreter is given, cut at the line feeds; a preview shows them after
the indentation. A pass that previews, to bytes or on standard output,
with any sink, leaves the previews of the blocks that it came to, all of
them if it ends well, and their lines can be read there. -/
theorem preview_shows {config : Config} {path : Path} {document : Bytes} {d : Document}
    (hd : Document.ofBytes config path document = .ok d) :
    (∀ b, .run b ∈ (Machine.script config.lenient .zero d.program).effects → b.Shown document) ∧
    (runs (Machine.script config.lenient .zero d.program).effects).Pairwise
      (fun a b => a.endLine < b.startLine) ∧
    ∀ (σ : Type) (sink : Sink σ) (w : Nat) (r : Report) (x : σ),
      (∀ t, Tangler.ofConfig config sink.onFirst (Executor.preview w).onSecond = .ok t →
        t.lenient = config.lenient ∧ ∀ out, t.Shows id w d.program r (x, out)) ∧
      ∀ t, Tangler.ofConfig config sink.onFirst (Setting.printing w).onSecond = .ok t →
        t.lenient = config.lenient ∧ ∀ world, t.Shows World.out w d.program r (x, world) := by
  obtain ⟨s, hs, hprogram⟩ := Document.program_of_ofBytes hd
  obtain ⟨hsub, -⟩ := Scissors.program_lines hprogram
  refine ⟨fun b hb => shown_of_run_mem hprogram hb,
    Machine.script_runs_ordered ((Document.lines_ascending document).sublist hsub),
    fun σ sink w r x => ⟨fun t ht => ?_, fun t ht => ?_⟩⟩
  all_goals
    rw [Tangler.ofConfig, hs] at ht
    obtain rfl := Except.ok.inj ht
    exact ⟨rfl, fun out => Tangler.shows_of_prints rfl rfl (fun _ _ => rfl) hprogram r (x, out)⟩

/-- A document with a run block, one line of which ends within a character
while the other begins with two spaces. -/
def brokenDocument : Bytes :=
  Utf8.ofString "> Run\n> ```\n> e" ++ [0xE2, 0x82] ++ Utf8.ofString "\n>  x\n> ```\n"

/-- The run block of that document. -/
def brokenBlock : RunBlock := ⟨2, 5, [.ofBytes 3 [0x65, 0xE2, 0x82], .ofBytes 4 [0x20, 0x78]]⟩

/-- The block is shown with a replacement for the character that breaks
off, and a pass prints it and nothing else. -/
theorem brokenBlock_previewed : ∃ d t, Document.ofBytes .standard ⟨"notes"⟩ brokenDocument = .ok d ∧
    Tangler.ofConfig .standard Sink.memory.onFirst (Executor.preview 2).onSecond = .ok t ∧
    brokenBlock.Shown brokenDocument ∧ brokenBlock.renderPreview 2 = "  e\ufffd\n   x\n" ∧
    t.Shows id 2 d.program .empty (.empty, []) ∧
    runs (t.calls d.program (.empty, [])).made = [brokenBlock] := by
  have hd : Document.ofBytes .standard ⟨"notes"⟩ brokenDocument =
      .ok ⟨⟨"notes"⟩, Document.lines brokenDocument⟩ := rfl
  have hscript : Machine.script false .zero (Document.lines brokenDocument) =
      ⟨[.run brokenBlock], .ok ()⟩ := rfl
  have hmem : Effect.run brokenBlock ∈
      (Machine.script false .zero (Document.lines brokenDocument)).effects := by
    rw [hscript]
    exact List.mem_singleton.2 rfl
  obtain ⟨hshown, -, hshows⟩ := preview_shows hd
  refine ⟨_, _, hd, rfl, hshown brokenBlock hmem, rfl,
    ((hshows MemoryFiles Sink.memory 2 .empty .empty).1 _ rfl).2 [], ?_⟩
  change runs (Tangler.issue _ (Machine.script false .zero (Document.lines brokenDocument)).effects
    _).made = _
  rw [hscript]
  rfl

end Tangle
