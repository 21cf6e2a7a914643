import Tangle.Proofs.Pass.Handles
import Tangle.Proofs.Sink.Contents
/-!
# Tangling a document again

A document that is tangled into memory a second time leaves the files as
the first time did, unless it extends what it finds. Which it is depends on
the modes that its files are opened in and on nothing else: each file that
is written has to be truncated somewhere on the way (`again_same_iff`).

A header that names a file without extending it, with a fence right after
it, has the file truncated (`truncated_of_replaces`). Outside a fence is
where an even number of fences has passed: every fence line opens or closes
one, and no other line does (`Feeds.inFence`).
-/

namespace Tangle

namespace SourceLine

/-- **The line replaces a file**: it is a file header with this name, and the
rest of it does not extend the file. -/
def Replaces (l : SourceLine) (name : String) : Prop :=
  ∃ rest span after, Header.fileRest? l.chars = some rest ∧
    Header.firstSpan? rest = some (span, after) ∧ Header.isContinued after = false ∧
    name = String.ofList span

variable {l : SourceLine} {name : String}

theorem fenceMark_of_isFence (h : Header.isFence l.chars = true) : Header.fenceMark <+: l.chars := by
  rw [Header.isFence] at h
  split at h
  · rename_i tag hmark
    exact ⟨tag, (Header.after?_eq_some_iff.1 hmark).symm⟩
  · cases h

theorem isQuoted_of_isFence (h : Header.isFence l.chars = true) : l.IsQuoted := by
  obtain ⟨tag, hl⟩ := fenceMark_of_isFence h
  rw [IsQuoted, ← hl]
  rfl

theorem Replaces.fileMark (h : l.Replaces name) : Header.fileMark <+: l.chars := by
  obtain ⟨rest, -, -, hrest, -⟩ := h
  rw [Header.fileRest?] at hrest
  split at hrest
  · cases hrest
  · rename_i hmark
    exact ⟨_, (Header.after?_eq_some_iff.1 hmark).symm⟩
  · rename_i hmark
    exact ⟨_, (Header.after?_eq_some_iff.1 hmark).symm⟩

/-- It is read as what it is outside a fence. -/
theorem Replaces.classify {lenient : Bool} {c : Context} (h : l.Replaces name) (hc : c.inFence = false) :
    LineKind.classify lenient c l = .ok (.fileHeader name .truncate) := by
  have hmark := h.fileMark
  have hq : l.IsQuoted := by
    obtain ⟨rest, hl⟩ := hmark
    rw [IsQuoted, ← hl]
    rfl
  have hfence : ¬ Header.isFence l.chars = true := fun hf =>
    not_marked_of_marked (by decide) (by decide) (by decide) hmark (fenceMark_of_isFence hf)
  have hrun : ¬ Header.isRun l.chars = true := fun hr =>
    not_marked_of_marked (by decide) (by decide) (by decide) hmark (isRun_iff.1 hr).1
  obtain ⟨rest, span, after, hrest, hspan, hafter, rfl⟩ := h
  rw [LineKind.classify_quoted hq, if_neg hfence, if_neg (by simp [hc]), if_neg hrun, hrest]
  simp only [LineKind.ofFileHeader, hspan, hafter]
  rfl

end SourceLine

namespace Machine

variable {lenient : Bool} {s t m m' : MachineState} {l o : SourceLine} {lines : List SourceLine}
variable {effects : List Effect} {name : String}

/-! ## A file that is replaced -/

/-- A fence line outside a fence opens one. -/
theorem feed_opening (hf : Header.isFence o.chars = true) (hc : s.context.fence = none) :
    feed lenient s o = (.ok (openFence s.context o.number).2,
      ⟨(openFence s.context o.number).1, s.buffer⟩) := by
  have hclass : LineKind.classify lenient s.context o = .ok .fence := by
    rw [LineKind.classify_quoted (SourceLine.isQuoted_of_isFence hf), if_pos hf]
  rw [feed_of_classify hclass, step_open hc]

/-- Inside a fence it closes that. -/
theorem feed_closing {start : Nat} (hf : Header.isFence o.chars = true)
    (hc : s.context.fence = some start) : feed lenient s o =
      (.ok (closeFence s start o.number).2, ⟨(closeFence s start o.number).1, []⟩) := by
  have hclass : LineKind.classify lenient s.context o = .ok .fence := by
    rw [LineKind.classify_quoted (SourceLine.isQuoted_of_isFence hf), if_pos hf]
  rw [feed_of_classify hclass, step_close hc]

/-- **A fence line opens or closes a fence, and no other line does.** -/
theorem inFence_of_feed (h : feed lenient s l = (.ok effects, t)) :
    t.context.inFence = (s.context.inFence ^^ Header.isFence l.chars) := by
  cases hf : Header.isFence l.chars with
  | true =>
    cases hc : s.context.fence with
    | none =>
      rw [feed_opening hf hc] at h
      cases h
      rw [inFence_eq_false_iff.2 hc]
      rfl
    | some start =>
      rw [feed_closing hf hc] at h
      cases h
      rw [inFence_iff.2 ⟨start, hc⟩]
      exact inFence_eq_false_iff.2 (closeFence_fence s start l.number)
  | false =>
    have hsame : t.context.fence = s.context.fence := by
      cases fed_of_feed h with
      | headed _ hhead => exact hhead.fence_eq
      | opened _ hf' => rw [hf] at hf'; cases hf'
      | written => rfl
      | collected => rfl
      | passed => rfl
      | closed _ hf' => rw [hf] at hf'; cases hf'
    rw [Bool.xor_false, Context.inFence, hsame, Context.inFence]

/-- The number of fence lines. -/
def fenceCount (lines : List SourceLine) : Nat :=
  lines.countP fun l => Header.isFence l.chars

/-- **After an even number of fence lines none is open**, and after an odd
number one is. -/
theorem Feeds.inFence (h : Feeds lenient m lines effects m') :
    m'.context.inFence = (m.context.inFence ^^ decide (fenceCount lines % 2 = 1)) := by
  induction h with
  | nil => exact (Bool.xor_false _).symm
  | @cons _ _ _ line rest _ _ hf _ ih =>
    rw [ih, inFence_of_feed hf, Bool.xor_assoc, fenceCount, fenceCount, List.countP_cons]
    congr 1
    cases Header.isFence line.chars with
    | false => rw [if_neg (by decide), Nat.add_zero, Bool.false_xor]
    | true =>
      rw [if_pos rfl, Bool.true_xor, Bool.eq_iff_iff, Bool.not_eq_true', decide_eq_false_iff_not,
        decide_eq_true_iff]
      omega

/-- **The lines replace a file**: outside every fence a header that replaces
it is followed by a fence. -/
def Replaces (lines : List SourceLine) (name : String) : Prop :=
  ∃ pre h o rest, lines = pre ++ h :: o :: rest ∧ fenceCount pre % 2 = 0 ∧ h.Replaces name ∧
    Header.isFence o.chars = true

/-- **A file that is replaced is truncated.** -/
theorem truncated_of_replaces (hrun : (run lenient .zero lines).1 = .ok effects)
    (h : Replaces lines name) : .openFile name .truncate ∈ effects := by
  obtain ⟨pre, h, o, rest, rfl, heven, hh, ho⟩ := h
  obtain ⟨m', hfeeds, -⟩ := run_eq_ok_iff_feeds.1 hrun
  obtain ⟨before, m, _, hpre, hrest, rfl⟩ := feeds_append_iff.1 hfeeds
  have hout : m.context.inFence = false := by
    rw [hpre.inFence, heven]
    rfl
  have hheader : feed lenient m h = (.ok [], ⟨m.context.setTarget name .truncate, m.buffer⟩) := by
    rw [feed_of_classify (hh.classify hout)]
    rfl
  obtain ⟨_, m₁, _, hfeed, hrest, rfl⟩ := feeds_cons_iff.1 hrest
  cases hheader.symm.trans hfeed
  obtain ⟨_, m₂, _, hfeed, -, rfl⟩ := feeds_cons_iff.1 hrest
  have hopen : feed lenient ⟨m.context.setTarget name .truncate, m.buffer⟩ o = _ :=
    feed_opening ho (inFence_eq_false_iff.1 hout)
  cases hopen.symm.trans hfeed
  simp [openFence, Context.setTarget]

end Machine

namespace Tangler

open MemoryFiles

variable {ε : Type} {lenient : Bool} {scissors : Scissors} {executor : Executor ε}
variable {files : MemoryFiles} {held last : Option String} {effects : List Effect}
variable {lines : List SourceLine}

/-! ## Calls that succeed -/

/-- **Effects that hold one file at a time succeed** where no other file is
open and no block fails. -/
theorem succeeds_of_holding (scissors : Scissors) (e : ε)
    (hexec : ∀ block e, (executor.run block e).1 = .ok ()) (h : Holding held effects last)
    (hs : Opens (fun _ => False) files held) :
    ∃ files' e', (inMemory lenient scissors executor).Succeeds effects (files, e) (files', e') ∧
      Opens (fun _ => False) files' last := by
  induction h generalizing files e with
  | nil => exact ⟨files, e, succeeds_nil, hs⟩
  | cons hfirst _ ih =>
    rcases perform_opens (e := e) hfirst hs with ⟨files₁, e₁, hp, hs₁⟩ | ⟨err, e₁, hp, -, hexcused⟩
    · obtain ⟨files₂, e₂, hsucc, hs₂⟩ := ih e₁ hs₁
      exact ⟨files₂, e₂, succeeds_cons hp hsucc, hs₂⟩
    · cases hexcused with
      | ran block => rw [perform_run (hexec block e)] at hp; cases hp
      | opened _ hleft => exact hleft.elim

/-- **An accepted document is tangled into memory** where no file is open,
and leaves none open: each file and the order of the files are as its
effects leave them. -/
theorem tangleLines_inMemory (scissors : Scissors) (hexec : ∀ block e, (executor.run block e).1 = .ok ())
    (hrun : (Machine.run lenient .zero lines).1 = .ok effects)
    (hclosed : ∀ name, files.isOpen name = false) (r : Report) (e : ε) :
    ∃ r' files' e', (inMemory lenient scissors executor).tangleLines lines (r, files, e) =
        (.ok (), r', files', e') ∧
      (∀ name, MemoryFiles.isOpen files' name = false) ∧
      (∀ name, content? files' name = Effect.leaveAll name effects (files.content? name)) ∧
      files'.names = Effect.arriveAll effects files.names := by
  have hs : Opens (fun _ => False) files none :=
    ⟨fun name => by simp [hclosed name], fun name h => by cases h⟩
  obtain ⟨held, hholding, hclean⟩ := Machine.script_holding lenient lines
  rw [Machine.run_eq_ok_iff.1 hrun] at hholding hclean
  rw [hclean rfl] at hholding
  obtain ⟨files', e', hsucc, hs'⟩ := succeeds_of_holding scissors e hexec hholding hs
  obtain ⟨hbytes, hnames⟩ := issue_contents lenient scissors executor effects files e
  rw [hsucc] at hbytes hnames
  refine ⟨_, files', e', tangleLines_of_succeeds hrun hsucc, fun name => ?_, hbytes, hnames⟩
  rw [Bool.eq_false_iff, ne_eq, hs'.open_iff]
  simp

/-- The same files in the same order, with the same bytes. -/
def Same (files files' : MemoryFiles) : Prop :=
  files'.names = files.names ∧ ∀ name, files'.content? name = files.content? name

/-- **Tangling a document twice** leaves the files as once does exactly if
every file that it writes is truncated by it. So it is where every such
file is replaced, whatever there was before. -/
theorem again_same_iff (scissors : Scissors) (hexec : ∀ block e, (executor.run block e).1 = .ok ())
    (hrun : (Machine.run lenient .zero lines).1 = .ok effects)
    (hclosed : ∀ name, files.isOpen name = false) (r : Report) (e : ε) :
    ∃ once twice : Report × MemoryFiles × ε,
      (inMemory lenient scissors executor).tangleLines lines (r, files, e) = (.ok (), once) ∧
      (inMemory lenient scissors executor).tangleLines lines once = (.ok (), twice) ∧
      (Same once.2.1 twice.2.1 ↔
        ∀ name text, .write name text ∈ effects → .openFile name .truncate ∈ effects) ∧
      ((∀ name text, .write name text ∈ effects → Machine.Replaces lines name) →
        Same once.2.1 twice.2.1) := by
  obtain ⟨r₁, files₁, e₁, hfirst, hclosed₁, hbytes₁, hnames₁⟩ :=
    tangleLines_inMemory scissors hexec hrun hclosed r e
  obtain ⟨r₂, files₂, e₂, hsecond, -, hbytes₂, hnames₂⟩ :=
    tangleLines_inMemory scissors hexec hrun hclosed₁ r₁ e₁
  have hnames : files₂.names = files₁.names := by
    rw [hnames₂, hnames₁, Effect.arriveAll_again]
  have hsame : Same files₁ files₂ ↔
      ∀ name text, .write name text ∈ effects → .openFile name .truncate ∈ effects := by
    rw [Same, and_iff_right hnames]
    refine forall_congr' fun name => ?_
    rw [hbytes₂, hbytes₁, Effect.leaveAll_again_iff]
  exact ⟨_, _, hfirst, hsecond, hsame, fun h => hsame.2 fun name text hwrite =>
    Machine.truncated_of_replaces hrun (h name text hwrite)⟩

/-- A document that replaces its file. -/
def replacing : List SourceLine :=
  [.ofText 1 "> File `a`", .ofText 2 "> ```", .ofText 3 "> x", .ofText 4 "> ```"]

/-- One that extends it. -/
def extending : List SourceLine :=
  [.ofText 1 "> File `a` continued", .ofText 2 "> ```", .ofText 3 "> x", .ofText 4 "> ```"]

/-- A file that was written before. -/
def former : MemoryFiles := ⟨[("a", ⟨[[0x79, 0x0A]], false⟩)]⟩

theorem again_sample :
    (∃ once twice, (inMemory false ⟨[], []⟩ (.preview 0)).tangleLines replacing (.empty, former, []) =
        (.ok (), once) ∧
      (inMemory false ⟨[], []⟩ (.preview 0)).tangleLines replacing once = (.ok (), twice) ∧
      Same once.2.1 twice.2.1) ∧
    ∃ once twice, (inMemory false ⟨[], []⟩ (.preview 0)).tangleLines extending (.empty, former, []) =
        (.ok (), once) ∧
      (inMemory false ⟨[], []⟩ (.preview 0)).tangleLines extending once = (.ok (), twice) ∧
      ¬ Same once.2.1 twice.2.1 := by
  have hclosed : ∀ name, former.isOpen name = false := by
    intro name
    rw [MemoryFiles.isOpen, former, Table.get?, Table.lookup_cons_eq]
    split <;> rfl
  have hexec : ∀ block e, ((Executor.preview 0).run block e).1 = .ok () := fun _ _ => rfl
  have hreplaces : Machine.Replaces replacing "a" :=
    ⟨[], _, _, [.ofText 3 "> x", .ofText 4 "> ```"], rfl, rfl, ⟨_, ['a'], [], rfl, rfl, rfl, rfl⟩, rfl⟩
  constructor
  · obtain ⟨once, twice, hfirst, hsecond, -, hsame⟩ := again_same_iff ⟨[], []⟩ hexec
      (show (Machine.run false .zero replacing).1 =
        .ok [.openFile "a" .truncate, .write "a" [0x78], .closeFile "a"] from rfl) hclosed .empty []
    refine ⟨once, twice, hfirst, hsecond, hsame fun name text hwrite => ?_⟩
    simp only [List.mem_cons, List.not_mem_nil, or_false, reduceCtorEq, false_or, Effect.write.injEq] at hwrite
    exact hwrite.1 ▸ hreplaces
  · obtain ⟨once, twice, hfirst, hsecond, hsame, -⟩ := again_same_iff ⟨[], []⟩ hexec
      (show (Machine.run false .zero extending).1 =
        .ok [.openFile "a" .append, .write "a" [0x78], .closeFile "a"] from rfl) hclosed .empty []
    refine ⟨once, twice, hfirst, hsecond, fun h => ?_⟩
    exact absurd (hsame.1 h "a" [0x78] (by simp)) (by simp)

end Tangler

end Tangle
