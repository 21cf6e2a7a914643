import Tangle.Block.Machine
import Tangle.Proofs.Block.Shape
/-!
# The machine between fences, and within a pair

Between pairs the machine holds no more than the header in force, and
within a pair the header, the number of the fence and the lines read so
far. `Standing` names the former, `Standing.fenced` the latter; every
line that the machine accepts leads from one of these states to another,
and the lemmas here say which, shape by shape.
-/

namespace Tangle

namespace Machine

variable {lenient : Bool} {s t : MachineState} {l : SourceLine} {rest : List SourceLine}

/-- The result of a run, after effects that came before it. -/
def after (effects : List Effect) (r : Except Error (List Effect) × MachineState) :
    Except Error (List Effect) × MachineState :=
  (r.1.map (effects ++ ·), r.2)

@[simp] theorem after_nil (r : Except Error (List Effect) × MachineState) : after [] r = r := by
  obtain ⟨_ | _, _⟩ := r <;> rfl

theorem after_append (es fs : List Effect) (r : Except Error (List Effect) × MachineState) :
    after (es ++ fs) r = after es (after fs r) := by
  obtain ⟨_ | _, _⟩ := r <;> simp [after, Except.map]

theorem after_of_error {e : Error} {effects : List Effect}
    {r : Except Error (List Effect) × MachineState} (h : r.1 = .error e) :
    (after effects r).1 = .error e := by
  rw [after, h]
  rfl

theorem feed_of_classify_error {e : Error} (h : LineKind.classify lenient s.context l = .error e) :
    feed lenient s l = (.error e, s) := by
  rw [feed, h]

theorem feed_of_classify {kind : LineKind} (h : LineKind.classify lenient s.context l = .ok kind) :
    feed lenient s l = match step s kind l.number with
      | .error e => (.error e, .zero)
      | .ok (t, effects) => (.ok effects, t) := by
  rw [feed]
  generalize LineKind.classify lenient s.context l = c at h
  subst h
  rfl

theorem run_cons_of_ok {effects : List Effect} (h : feed lenient s l = (.ok effects, t)) :
    run lenient s (l :: rest) = after effects (run lenient t rest) := by
  rw [run, h]
  rfl

theorem run_cons_of_error {e : Error} (h : feed lenient s l = (.error e, t)) :
    run lenient s (l :: rest) = (.error e, t) := by
  rw [run, h]

end Machine

/-- The header in force between pairs. -/
inductive Standing where
  /-- No header is in force. -/
  | nothing
  /-- A file header, and how its file is opened next. -/
  | file (name : String) (mode : WriteMode)
  /-- A run header. -/
  | run
deriving DecidableEq

/-- A line of a run block as it is collected, without its quote mark. -/
def SourceLine.unquoted (l : SourceLine) : SourceLine :=
  .ofBytes l.number (LineKind.unquote l.raw)

namespace Standing

/-- The state of the machine outside a fence. -/
def state : Standing → MachineState
  | nothing => .zero
  | file name mode => ⟨⟨some name, mode, .idle, none⟩, []⟩
  | run => ⟨⟨none, .truncate, .declared, none⟩, []⟩

/-- The state inside the fence at line `n`, with the lines read so far. -/
def fenced (n : Nat) (seen : List SourceLine) : Standing → MachineState
  | nothing => ⟨⟨none, .truncate, .idle, some n⟩, []⟩
  | file name mode => ⟨⟨some name, mode, .idle, some n⟩, []⟩
  | run => ⟨⟨none, .truncate, if seen.isEmpty then .declared else .collecting, some n⟩,
      seen.map SourceLine.unquoted⟩

/-- What stands after a pair: the file is extended from now on. -/
def reopened : Standing → Standing
  | file name _ => file name .append
  | st => st

/-- The effects of an opening fence. -/
def opening : Standing → List Effect
  | file name mode => [.openFile name mode]
  | _ => []

/-- The effects of the lines between two fences. -/
def writing (inner : List SourceLine) : Standing → List Effect
  | file name _ => inner.map fun l => .write name (LineKind.unquote l.raw)
  | _ => []

/-- The effects of a closing fence. -/
def closing (o c : SourceLine) (inner : List SourceLine) : Standing → List Effect
  | file name _ => [.closeFile name]
  | run => if inner.isEmpty then [] else [.run ⟨o.number, c.number, inner.map SourceLine.unquoted⟩]
  | nothing => []

/-- **The effects of a pair of fences** and the lines between them. -/
def effects (st : Standing) (o c : SourceLine) (inner : List SourceLine) : List Effect :=
  st.opening ++ (st.writing inner ++ st.closing o c inner)

variable {st : Standing} {lenient : Bool} {o c l : SourceLine} {inner seen rest : List SourceLine}
variable {name after : List Char} {n : Nat}

@[simp] theorem state_inFence : st.state.context.inFence = false := by cases st <;> rfl

@[simp] theorem fenced_fence : (st.fenced n seen).context.fence = some n := by cases st <;> rfl

theorem state_hasHeader : st.state.context.hasHeader = decide (st ≠ nothing) := by cases st <;> rfl

/-! ## Outside a fence -/

theorem run_prose (hq : ¬ l.IsQuoted) :
    Machine.run lenient st.state (l :: rest) = Machine.run lenient nothing.state rest := by
  have hf : Machine.feed lenient st.state l = (.ok [], nothing.state) := by
    rw [Machine.feed_of_classify (LineKind.classify_unquoted hq)]
    cases st <;> rfl
  rw [Machine.run_cons_of_ok hf, Machine.after_nil]

theorem run_runHeader (hl : l.OneLine) (h : l.IsRunHeader) :
    Machine.run lenient st.state (l :: rest) = Machine.run lenient run.state rest := by
  have hf : Machine.feed lenient st.state l = (.ok [], run.state) := by
    rw [Machine.feed_of_classify (LineKind.classify_run hl h state_inFence)]
    cases st <;> rfl
  rw [Machine.run_cons_of_ok hf, Machine.after_nil]

theorem run_fileHeader (hl : l.OneLine) (h : l.IsFileHeader) (hn : l.Names name after) :
    Machine.run lenient st.state (l :: rest) = Machine.run lenient
      (file (String.ofList name) (if Header.isContinued after then .append else .truncate)).state
      rest := by
  have hf : Machine.feed lenient st.state l = (.ok [],
      (file (String.ofList name) (if Header.isContinued after then .append else .truncate)).state) := by
    rw [Machine.feed_of_classify (LineKind.classify_named hl h hn state_inFence)]
    cases st <;> rfl
  rw [Machine.run_cons_of_ok hf, Machine.after_nil]

theorem run_unnamed (hl : l.OneLine) (h : l.IsFileHeader) (hn : ¬ l.HasSpan) :
    (Machine.run lenient st.state (l :: rest)).1 = .error (.atLine l.number .headerWithoutName) := by
  rw [Machine.run_cons_of_error
    (Machine.feed_of_classify_error (LineKind.classify_unnamed hl h hn state_inFence))]

/-- A quoted line of no shape is prose in lenient mode, where no header is
in force. -/
theorem run_lenient (hl : l.OneLine) (hq : l.IsQuoted) (hf : ¬ l.IsFence) (hh : ¬ l.IsHeader) :
    Machine.run true nothing.state (l :: rest) = Machine.run true nothing.state rest := by
  have hf : Machine.feed true nothing.state l = (.ok [], nothing.state) := by
    rw [Machine.feed_of_classify (LineKind.classify_other hl hq hf hh state_inFence)]
    rfl
  rw [Machine.run_cons_of_ok hf, Machine.after_nil]

/-- Elsewhere it is a stray line. -/
theorem run_stray (hl : l.OneLine) (hq : l.IsQuoted) (hf : ¬ l.IsFence) (hh : ¬ l.IsHeader)
    (hst : lenient = false ∨ st ≠ nothing) :
    (Machine.run lenient st.state (l :: rest)).1 = .error (.atLine l.number
      (if st = nothing then .strayQuote else .strayAfterHeader)) := by
  have hk : LineKind.classify lenient st.state.context l = .ok .stray := by
    rw [LineKind.classify_other hl hq hf hh state_inFence, state_hasHeader]
    rcases hst with rfl | hst
    · rfl
    · simp [hst]
  have hf : Machine.feed lenient st.state l = (.error (.atLine l.number
      (if st = nothing then .strayQuote else .strayAfterHeader)), .zero) := by
    rw [Machine.feed_of_classify hk]
    cases st <;> rfl
  rw [Machine.run_cons_of_error hf]

/-! ## Within a pair -/

theorem run_open (hl : o.OneLine) (ho : o.IsFence) : Machine.run lenient st.state (o :: rest) =
    Machine.after st.opening (Machine.run lenient (st.fenced o.number []) rest) := by
  have hf : Machine.feed lenient st.state o = (.ok st.opening, st.fenced o.number []) := by
    rw [Machine.feed_of_classify (LineKind.classify_fence hl ho)]
    cases st <;> rfl
  rw [Machine.run_cons_of_ok hf]

/-- A line of a block is written, collected or passed over. -/
theorem feed_content (hl : l.OneLine) (hq : l.IsQuoted) (hf : ¬ l.IsFence) :
    Machine.feed lenient (st.fenced n seen) l =
      (.ok (st.writing [l]), st.fenced n (seen ++ [l])) := by
  have hc : (st.fenced n seen).context.inFence = true := by rw [Context.inFence, fenced_fence]; rfl
  rw [Machine.feed_of_classify (LineKind.classify_content hl hq hf hc)]
  cases st with
  | nothing => rfl
  | file name mode => rfl
  | run => cases seen <;> simp [fenced, writing, Machine.step, Context.isRun, SourceLine.unquoted]

theorem run_inner (hin : ∀ l ∈ inner, l.OneLine ∧ l.IsQuoted ∧ ¬ l.IsFence) :
    Machine.run lenient (st.fenced n seen) (inner ++ rest) =
      Machine.after (st.writing inner) (Machine.run lenient (st.fenced n (seen ++ inner)) rest) := by
  induction inner generalizing seen with
  | nil => cases st <;> simp [writing]
  | cons l inner ih =>
    obtain ⟨⟨hl, hq, hf⟩, hin⟩ := List.forall_mem_cons.1 hin
    rw [List.cons_append, Machine.run_cons_of_ok (feed_content hl hq hf), ih hin,
      ← Machine.after_append, List.append_assoc]
    cases st <;> rfl

theorem run_unquoted (hq : ¬ l.IsQuoted) :
    (Machine.run lenient (st.fenced n seen) (l :: rest)).1 =
      .error (.atLine l.number (.unquotedInFence n)) := by
  have hf : Machine.feed lenient (st.fenced n seen) l =
      (.error (.atLine l.number (.unquotedInFence n)), .zero) := by
    rw [Machine.feed_of_classify (LineKind.classify_unquoted hq)]
    cases st <;> rfl
  rw [Machine.run_cons_of_error hf]

theorem run_end : (Machine.run lenient (st.fenced n seen) []).1 = .error (.atLine n .openFence) := by
  cases st <;> rfl

theorem run_close (hl : c.OneLine) (hc : c.IsFence) :
    Machine.run lenient (st.fenced o.number inner) (c :: rest) =
      Machine.after (st.closing o c inner) (Machine.run lenient st.reopened.state rest) := by
  have hf : Machine.feed lenient (st.fenced o.number inner) c =
      (.ok (st.closing o c inner), st.reopened.state) := by
    rw [Machine.feed_of_classify (LineKind.classify_fence hl hc)]
    cases st with
    | nothing => rfl
    | file name mode => rfl
    | run => cases inner <;> rfl
  rw [Machine.run_cons_of_ok hf]

/-- **A pair of fences** asks for its effects and leaves its header in
force. -/
theorem run_pair (ho : o.OneLine ∧ o.IsFence) (hc : c.OneLine ∧ c.IsFence)
    (hin : ∀ l ∈ inner, l.OneLine ∧ l.IsQuoted ∧ ¬ l.IsFence) :
    Machine.run lenient st.state (o :: (inner ++ c :: rest)) =
      Machine.after (st.effects o c inner) (Machine.run lenient st.reopened.state rest) := by
  rw [run_open ho.1 ho.2, run_inner hin, List.nil_append, run_close hc.1 hc.2,
    ← Machine.after_append, ← Machine.after_append, effects, List.append_assoc]

/-- A line without a quote mark breaks a block off. -/
theorem run_broken (ho : o.OneLine ∧ o.IsFence) (hq : ¬ l.IsQuoted)
    (hin : ∀ l ∈ inner, l.OneLine ∧ l.IsQuoted ∧ ¬ l.IsFence) :
    (Machine.run lenient st.state (o :: (inner ++ l :: rest))).1 =
      .error (.atLine l.number (.unquotedInFence o.number)) := by
  rw [run_open ho.1 ho.2, run_inner hin]
  exact Machine.after_of_error (Machine.after_of_error (run_unquoted hq))

/-- So does the end of the document. -/
theorem run_dangling (ho : o.OneLine ∧ o.IsFence)
    (hin : ∀ l ∈ inner, l.OneLine ∧ l.IsQuoted ∧ ¬ l.IsFence) :
    (Machine.run lenient st.state (o :: inner)).1 = .error (.atLine o.number .openFence) := by
  rw [← List.append_nil inner, run_open ho.1 ho.2, run_inner hin]
  exact Machine.after_of_error (Machine.after_of_error run_end)

end Standing

end Tangle
