import Tangle.Proofs.Outline.Reading
/-!
# The machine reads what the document says

The machine reads line by line, and the document was described as a
whole. `Reached` is what is known of the lines read so far, between
pairs; a line or a pair that is accepted keeps it (`Reached.line`,
`Reached.pair`), and one that is refused is the first that does not fit
(`refused_unnamed`, `refused_stray`, `refused_inner`). Along the layout
of the document this settles every run: `reads_of_run` says what an
accepted document asks for, and `run_accepts` which documents are
accepted and what is reported of the others.
-/

namespace Tangle

namespace Outline

variable {doc pre rest inner : List SourceLine} {l o c : SourceLine} {lenient : Bool}
variable {st : Standing} {i : Nat}

/-- **What is known between pairs**, where the lines `pre` of a document
have been read: its fences are paired, its pairs have asked for `done`,
all its lines fit, and `st` is in force. -/
structure Reached (lenient : Bool) (doc pre : List SourceLine) (st : Standing)
    (done : List (List Effect)) : Prop where
  paired : (fences pre).length % 2 = 0
  leaves : Leaves doc pre.length st
  fits : ∀ i, i < pre.length → Fits lenient doc i
  asks : List.Forall₂ (Asks doc) (pairs pre) done

/-- What a document leads to, where the pairs read already have asked for
`done`. -/
inductive Outcome (lenient : Bool) (doc : List SourceLine) (done : List (List Effect)) :
    Except Error (List Effect) → Prop
  /-- Every line fits and every fence has a partner. -/
  | accepted {parts : List (List Effect)} : List.Forall₂ (Asks doc) (pairs doc) (done ++ parts) →
      (fences doc).length % 2 = 0 → (∀ i, Fits lenient doc i) →
      Outcome lenient doc done (.ok parts.flatten)
  /-- A line does not fit, and it is the first. -/
  | refused {i : Nat} {l : SourceLine} {d : Defect} : doc[i]? = some l → ¬ Fits lenient doc i →
      (∀ j, j < i → Fits lenient doc j) → Blames doc i d →
      Outcome lenient doc done (.error (.atLine l.number d))
  /-- Every line fits, and the last fence has no partner. -/
  | unclosed {i : Nat} {o : SourceLine} : unpaired? (fences doc) = some i → doc[i]? = some o →
      (∀ j, Fits lenient doc j) → Outcome lenient doc done (.error (.atLine o.number .openFence))

variable {done : List (List Effect)}

theorem Outcome.after {es : List Effect} {r : Except Error (List Effect) × MachineState}
    (h : Outcome lenient doc (done ++ [es]) r.1) : Outcome lenient doc done (Machine.after es r).1 := by
  obtain ⟨r, t⟩ := r
  simp only [Machine.after] at h ⊢
  cases h with
  | accepted hasks hpaired hfits =>
    rw [List.append_assoc] at hasks
    exact .accepted hasks hpaired hfits
  | refused hl hno hfits hd => exact .refused hl hno hfits hd
  | unclosed hi ho hfits => exact .unclosed hi ho hfits

theorem Reached.line {st' : Standing} (h : Reached lenient doc pre st done) (hl : ¬ l.IsFence)
    (hleaves : Leaves doc (pre.length + 1) st') (hfit : Fits lenient doc pre.length) :
    Reached lenient doc (pre ++ [l]) st' done where
  paired := by rw [fences_append_of_not (by simpa using hl)]; exact h.paired
  leaves := by rw [List.length_append]; exact hleaves
  fits i hi := by
    rw [List.length_append, List.length_singleton] at hi
    rcases Nat.lt_succ_iff_lt_or_eq.1 hi with hi | rfl
    · exact h.fits i hi
    · exact hfit
  asks := by rw [pairs_append_of_not (by simpa using hl)]; exact h.asks

theorem Reached.pair (h : Reached lenient doc pre st done)
    (hdoc : doc = pre ++ o :: (inner ++ c :: rest)) (ho : o.IsFence)
    (hin : ∀ l ∈ inner, ¬ l.IsFence) (hc : c.IsFence) (hq : ∀ l ∈ inner, l.IsQuoted) :
    Reached lenient doc (pre ++ o :: (inner ++ [c])) st.reopened
      (done ++ [st.effects o c inner]) := by
  have hlen : (pre ++ o :: (inner ++ [c])).length = pre.length + 2 + inner.length := by
    simp only [List.length_append, List.length_cons, List.length_nil]
    omega
  have hsplit : doc = (pre ++ o :: (inner ++ [c])) ++ rest := by rw [hdoc]; simp
  have hpaired : (fences (pre ++ o :: (inner ++ [c]))).length % 2 = 0 := by
    rw [fences_append_pair ho hin hc, List.length_append]
    have := h.paired
    simp only [List.length_cons, List.length_nil]
    omega
  have hp : (pre.length, pre.length + 1 + inner.length) ∈ pairs doc := by
    rw [hsplit]
    refine (pairs_initial hpaired).subset ?_
    rw [pairs_append_pair h.paired ho hin hc]
    simp
  have hno : ∀ m, pre.length ≤ m → m < pre.length + 2 + inner.length → ¬ Outside doc m :=
    fun m hm hm' => hdoc ▸ not_outside_block h.paired ho hin hm (by omega)
  refine ⟨hpaired, ?_, fun i hi => ?_, ?_⟩
  · rw [hlen]
    exact h.leaves.reopened hp rfl (by simp only; omega) hno
  · rcases Nat.lt_or_ge i pre.length with hlt | hge
    · exact h.fits i hlt
    · rcases Nat.lt_or_ge i (pre.length + 1 + inner.length) with hlt | hge'
      · exact fits_block hdoc h.paired ho hin hq hge hlt
      · obtain rfl : i = pre.length + 1 + inner.length := by omega
        exact fits_of_not_outside (hdoc ▸ getElem?_pair.2) (hno _ hge (by omega)) hc.isQuoted
  · rw [pairs_append_pair h.paired ho hin hc]
    have hasks : Asks doc (pre.length, pre.length + 1 + inner.length) (st.effects o c inner) := by
      have := Leaves.asks (p := (pre.length, pre.length + 1 + inner.length)) h.leaves
        (hdoc ▸ getElem?_pair.1) (hdoc ▸ getElem?_pair.2)
      rwa [hdoc, between_pair, ← hdoc] at this
    exact List.rel_append h.asks (.cons hasks .nil)

/-! ## What ends a run -/

/-- A file header without a name is refused. -/
theorem Reached.refused_unnamed (h : Reached lenient doc pre st done) (hdoc : doc = pre ++ l :: rest)
    (hf : l.IsFileHeader) (hn : ¬ l.HasSpan) :
    Outcome lenient doc done (.error (.atLine l.number .headerWithoutName)) := by
  have hl : doc[pre.length]? = some l := by simp [hdoc]
  have hout : Outside doc pre.length := hdoc ▸ outside_line h.paired hf.not_isFence
  refine .refused hl (not_fits_of_not_mayStand hl hout hf.isQuoted ?_) h.fits (.unnamed hout hl hf)
  rintro (hr | ⟨-, hs⟩ | ⟨-, hno, -⟩)
  · exact hf.not_isRunHeader hr
  · exact hn hs
  · exact hno hf

/-- So is a quoted line that is no header, but in lenient mode where no
header is in force. -/
theorem Reached.refused_stray (h : Reached lenient doc pre st done) (hdoc : doc = pre ++ l :: rest)
    (hq : l.IsQuoted) (hf : ¬ l.IsFence) (hh : ¬ l.IsHeader) (hst : lenient = false ∨ st ≠ .nothing) :
    Outcome lenient doc done (.error (.atLine l.number
      (if st = .nothing then .strayQuote else .strayAfterHeader))) := by
  have hl : doc[pre.length]? = some l := by simp [hdoc]
  have hout : Outside doc pre.length := hdoc ▸ outside_line h.paired hf
  have hno : ¬ MayStand lenient doc pre.length l := by
    rintro (hr | ⟨hr, -⟩ | ⟨hlen, -, hno⟩)
    · exact hh (Or.inl hr)
    · exact hh (Or.inr hr)
    · rcases hst with hst | hst
      · exact absurd (hlen.symm.trans hst) (by decide)
      · obtain ⟨k, h', hu, hh'⟩ := h.leaves.exists_header hst
        exact hno k h' hu hh'
  refine .refused hl (not_fits_of_not_mayStand hl hout hq hno) h.fits ?_
  by_cases hs : st = .nothing
  · rw [if_pos hs]
    exact .stray hout hl (fun hr => hh (Or.inr hr)) (hs ▸ h.leaves : Leaves doc pre.length .nothing)
  · rw [if_neg hs]
    obtain ⟨k, h', hu, hh'⟩ := h.leaves.exists_header hs
    exact .afterHeader hout hl (fun hr => hh (Or.inr hr)) hu hh'

/-- The first line of a block without a quote mark is refused. -/
theorem Reached.refused_inner (h : Reached lenient doc pre st done)
    (hdoc : doc = pre ++ o :: (inner ++ l :: rest)) (ho : o.IsFence)
    (hin : ∀ l ∈ inner, ¬ l.IsFence) (hq : ∀ l ∈ inner, l.IsQuoted) (hl : ¬ l.IsQuoted) :
    Outcome lenient doc done (.error (.atLine l.number (.unquotedInFence o.number))) := by
  have hat : doc[pre.length]? = some o ∧ doc[pre.length + 1 + inner.length]? = some l :=
    hdoc ▸ getElem?_pair
  -- no fence comes after the one that opened, so the line is inside
  have hnf : pre.length + 1 + inner.length ∉ fences doc :=
    notMem_fences hat.2 fun hf => hl hf.isQuoted
  have hinside : Inside doc (pre.length + 1 + inner.length) := by
    rw [hdoc] at hnf ⊢
    exact inside_block h.paired ho hin (by omega) (Nat.le_refl _) hnf
  refine .refused hat.2 (fun hfit => hl ((hfit l hat.2).1 hinside)) (fun j hj => ?_)
    (.inside hinside (by omega) hat.1 ho fun m hm hm' => ?_)
  · rcases Nat.lt_or_ge j pre.length with hlt | hge
    · exact h.fits j hlt
    · exact fits_block hdoc h.paired ho hin hq hge hj
  · obtain ⟨n, rfl⟩ := Nat.exists_eq_add_of_lt hm
    have hn : n < inner.length := by omega
    refine notMem_fences (l := inner[n]) ?_ (hin _ (List.getElem_mem hn))
    rw [hdoc, List.getElem?_append_right (by omega),
      show pre.length + n + 1 - pre.length = n + 1 by omega, List.getElem?_cons_succ,
      List.getElem?_append_left hn, List.getElem?_eq_getElem hn]

/-- A last fence without a partner is reported where all lines fit. -/
theorem Reached.unclosed (h : Reached lenient doc pre st done) (hdoc : doc = pre ++ o :: inner)
    (ho : o.IsFence) (hin : ∀ l ∈ inner, ¬ l.IsFence) (hq : ∀ l ∈ inner, l.IsQuoted) :
    Outcome lenient doc done (.error (.atLine o.number .openFence)) := by
  -- the fences before are paired, and no other follows
  have hlast : unpaired? (fences doc) = some pre.length := by
    rw [hdoc, fences_append_dangling ho hin, unpaired?_append h.paired]
    rfl
  refine .unclosed hlast (by simp [hdoc]) fun j => ?_
  rcases Nat.lt_or_ge j pre.length with hlt | hge
  · exact h.fits j hlt
  · rcases Nat.lt_or_ge j (pre.length + 1 + inner.length) with hlt | hge'
    · have hdoc' : doc = pre ++ o :: (inner ++ []) := by rw [hdoc, List.append_nil]
      exact fits_block hdoc' h.paired ho hin hq hge hlt
    · intro l hl
      obtain ⟨hj, -⟩ := List.getElem?_eq_some_iff.1 hl
      rw [hdoc, List.length_append, List.length_cons] at hj
      omega

/-! ## The whole run -/

theorem reached_nil : Reached lenient doc [] .nothing [] where
  paired := rfl
  leaves := leaves_zero
  fits i hi := absurd hi (Nat.not_lt_zero i)
  asks := .nil

variable {tail : List SourceLine}

/-- The machine at a quoted line outside, where it reads the rest well. -/
theorem Reached.run_quoted (h : Reached lenient doc pre st done) (hdoc : doc = pre ++ l :: tail)
    (hl : l.OneLine) (hf : ¬ l.IsFence) (hq : l.IsQuoted)
    (ih : ∀ {st'}, Reached lenient doc (pre ++ [l]) st' done →
      Outcome lenient doc done (Machine.run lenient st'.state tail).1) :
    Outcome lenient doc done (Machine.run lenient st.state (l :: tail)).1 := by
  have hat : doc[pre.length]? = some l := by simp [hdoc]
  have hout : Outside doc pre.length := hdoc ▸ outside_line h.paired hf
  by_cases hr : l.IsRunHeader
  · rw [Standing.run_runHeader hl hr]
    exact ih (h.line hf (leaves_run hout hat hr) (fits_of_mayStand hat hout (Or.inl hr)))
  by_cases hfile : l.IsFileHeader
  · by_cases hs : l.HasSpan
    · obtain ⟨name, after, hn⟩ := LineKind.exists_names hs
      rw [Standing.run_fileHeader hl hfile hn]
      exact ih (h.line hf (leaves_file hout hat hfile hn)
        (fits_of_mayStand hat hout (Or.inr (Or.inl ⟨hfile, hs⟩))))
    · rw [Standing.run_unnamed hl hfile hs]
      exact h.refused_unnamed hdoc hfile hs
  have hh : ¬ l.IsHeader := not_or_intro hr hfile
  by_cases hst : lenient = false ∨ st ≠ .nothing
  · rw [Standing.run_stray hl hq hf hh hst]
    exact h.refused_stray hdoc hq hf hh hst
  · simp only [not_or, Bool.not_eq_false, not_not] at hst
    obtain ⟨rfl, rfl⟩ := hst
    rw [Standing.run_lenient hl hq hf hh]
    exact ih (h.line hf (leaves_of_not_isHeader hout hat hh)
      (fits_of_mayStand hat hout (Or.inr (Or.inr ⟨rfl, hfile, h.leaves⟩))))

/-- The machine at any line outside. -/
theorem Reached.run_line (h : Reached lenient doc pre st done) (hdoc : doc = pre ++ l :: tail)
    (hl : l.OneLine) (hf : ¬ l.IsFence)
    (ih : ∀ {st'}, Reached lenient doc (pre ++ [l]) st' done →
      Outcome lenient doc done (Machine.run lenient st'.state tail).1) :
    Outcome lenient doc done (Machine.run lenient st.state (l :: tail)).1 := by
  by_cases hq : l.IsQuoted
  · exact h.run_quoted hdoc hl hf hq ih
  · have hat : doc[pre.length]? = some l := by simp [hdoc]
    have hout : Outside doc pre.length := hdoc ▸ outside_line h.paired hf
    have hh : ¬ l.IsHeader := fun hh => hq hh.isQuoted
    rw [Standing.run_prose hq]
    exact ih (h.line hf (leaves_of_not_isHeader hout hat hh) (fits_of_not_quoted hat hout hq))

/-- The machine at a pair: its lines are all quoted, or the first that is
not is refused. -/
theorem Reached.run_pair (h : Reached lenient doc pre st done)
    (hdoc : doc = pre ++ o :: (inner ++ c :: tail)) (hone : ∀ l ∈ doc, l.OneLine) (ho : o.IsFence)
    (hin : ∀ l ∈ inner, ¬ l.IsFence) (hc : c.IsFence)
    (ih : Reached lenient doc (pre ++ o :: (inner ++ [c])) st.reopened
        (done ++ [st.effects o c inner]) →
      Outcome lenient doc (done ++ [st.effects o c inner])
        (Machine.run lenient st.reopened.state tail).1) :
    Outcome lenient doc done (Machine.run lenient st.state (o :: (inner ++ c :: tail))).1 := by
  have hmem : ∀ l ∈ o :: (inner ++ c :: tail), l.OneLine := fun l hl =>
    hone l (hdoc ▸ List.mem_append_right _ hl)
  have hfences : o.OneLine ∧ c.OneLine := ⟨hmem o (by simp), hmem c (by simp)⟩
  rcases split_first (fun l => ¬ l.IsQuoted) inner with hq | ⟨front, l, back, rfl, hq, hl⟩
  · simp only [not_not] at hq
    rw [Standing.run_pair ⟨hfences.1, ho⟩ ⟨hfences.2, hc⟩
      fun l hl => ⟨hmem l (by simp [hl]), hq l hl, hin l hl⟩]
    exact (ih (h.pair hdoc ho hin hc hq)).after
  · simp only [not_not] at hq
    rw [List.append_assoc] at hdoc hmem ⊢
    have hfront : ∀ l ∈ front, ¬ l.IsFence := fun l hl => hin l (List.mem_append_left _ hl)
    rw [List.cons_append, Standing.run_broken ⟨hfences.1, ho⟩ hl
      fun l hl => ⟨hmem l (by simp [hl]), hq l hl, hfront l hl⟩]
    exact h.refused_inner hdoc ho hfront hq hl

/-- The machine at a fence without a partner. -/
theorem Reached.run_dangling (h : Reached lenient doc pre st done) (hdoc : doc = pre ++ o :: inner)
    (hone : ∀ l ∈ doc, l.OneLine) (ho : o.IsFence) (hin : ∀ l ∈ inner, ¬ l.IsFence) :
    Outcome lenient doc done (Machine.run lenient st.state (o :: inner)).1 := by
  have hmem : ∀ l ∈ o :: inner, l.OneLine := fun l hl =>
    hone l (hdoc ▸ List.mem_append_right _ hl)
  rcases split_first (fun l => ¬ l.IsQuoted) inner with hq | ⟨front, l, back, rfl, hq, hl⟩
  · simp only [not_not] at hq
    rw [Standing.run_dangling ⟨hmem o (by simp), ho⟩
      fun l hl => ⟨hmem l (by simp [hl]), hq l hl, hin l hl⟩]
    exact h.unclosed hdoc ho hin hq
  · simp only [not_not] at hq
    have hfront : ∀ l ∈ front, ¬ l.IsFence := fun l hl => hin l (List.mem_append_left _ hl)
    rw [Standing.run_broken ⟨hmem o (by simp), ho⟩ hl
      fun l hl => ⟨hmem l (by simp [hl]), hq l hl, hfront l hl⟩]
    exact h.refused_inner hdoc ho hfront hq hl

/-- **The machine reads what the document says**, from any point between
pairs on. -/
theorem run_of_layout (hlay : Layout tail) :
    ∀ {pre st done}, doc = pre ++ tail → (∀ l ∈ doc, l.OneLine) → Reached lenient doc pre st done →
      Outcome lenient doc done (Machine.run lenient st.state tail).1 := by
  induction hlay with
  | nil =>
    intro pre st done hdoc hone h
    rw [List.append_nil] at hdoc
    subst hdoc
    have hrun : (Machine.run lenient st.state []).1 = .ok [] := by cases st <;> rfl
    have hasks : List.Forall₂ (Asks doc) (pairs doc) (done ++ []) := by
      rw [List.append_nil]
      exact h.asks
    rw [hrun]
    exact .accepted hasks h.paired fun i l hl => h.fits i (List.getElem?_eq_some_iff.1 hl).1 l hl
  | @line l tail hf _ ih =>
    intro pre st done hdoc hone h
    have hnext : doc = (pre ++ [l]) ++ tail := by rw [hdoc]; simp
    exact h.run_line hdoc (hone l (by simp [hdoc])) hf fun h' => ih hnext hone h'
  | @pair o c inner tail ho hin hc _ ih =>
    intro pre st done hdoc hone h
    have hnext : doc = (pre ++ o :: (inner ++ [c])) ++ tail := by rw [hdoc]; simp
    exact h.run_pair hdoc hone ho hin hc fun h' => ih hnext hone h'
  | dangling ho hin =>
    intro pre st done hdoc hone h
    exact h.run_dangling hdoc hone ho hin

theorem run_outcome (lenient : Bool) (doc : List SourceLine) (h : ∀ l ∈ doc, l.OneLine) :
    Outcome lenient doc [] (Machine.run lenient .zero doc).1 :=
  run_of_layout (layout doc) rfl h reached_nil

/-- **An accepted document asks for what it says.** The effects of a run
that ends well are the effects of its pairs in order, and no other list
is. -/
theorem reads_of_run (lenient : Bool) {effects : List Effect} (hone : ∀ l ∈ doc, l.OneLine)
    (hrun : (Machine.run lenient .zero doc).1 = .ok effects) (es : List Effect) :
    Reads doc es ↔ es = effects := by
  have hreads : Reads doc effects := by
    have hout := run_outcome lenient doc hone
    rw [hrun] at hout
    cases hout with
    | @accepted parts hasks _ _ => exact ⟨parts, hasks, rfl⟩
  exact ⟨fun h => h.unique hreads, fun h => h ▸ hreads⟩

/-- A file with two blocks under its header, and a run block. -/
def sample : List SourceLine :=
  [.ofText 1 "> File `a` continued", .ofText 2 "> ```", .ofText 3 "> x", .ofText 4 "> ```",
   .ofText 5 "> ```c", .ofText 6 ">  y", .ofText 7 "> ```", .ofText 8 "", .ofText 9 "> Run ",
   .ofText 10 "> ```", .ofText 11 ">", .ofText 12 "> ```"]

theorem sample_oneLine : ∀ l ∈ sample, l.OneLine := by decide

theorem reads_sample : Reads sample
    [.openFile "a" .append, .write "a" [0x78], .closeFile "a",
     .openFile "a" .append, .write "a" [0x20, 0x79], .closeFile "a",
     .run ⟨10, 12, [.ofBytes 11 []]⟩] :=
  (reads_of_run false sample_oneLine rfl _).2 rfl

/-- **What is accepted, and what is reported.** A document is accepted if
and only if its fences are paired and every line fits where it stands.
Otherwise the first line that does not fit is blamed, and if all lines fit
the fence that has no partner. -/
theorem run_accepts (lenient : Bool) (hone : ∀ l ∈ doc, l.OneLine) :
    ((∃ effects, (Machine.run lenient .zero doc).1 = .ok effects) ↔
      (fences doc).length % 2 = 0 ∧ ∀ i, Fits lenient doc i) ∧
    (∀ i l, doc[i]? = some l → ¬ Fits lenient doc i → (∀ j, j < i → Fits lenient doc j) →
      ∃ d, Blames doc i d ∧ (Machine.run lenient .zero doc).1 = .error (.atLine l.number d)) ∧
    ((∀ i, Fits lenient doc i) → (fences doc).length % 2 = 1 →
      ∃ i o, unpaired? (fences doc) = some i ∧ doc[i]? = some o ∧
        (Machine.run lenient .zero doc).1 = .error (.atLine o.number .openFence)) := by
  have hout := run_outcome lenient doc hone
  cases hrun : (Machine.run lenient .zero doc).1 with
  | ok effects =>
    rw [hrun] at hout
    cases hout with
    | accepted _ hpaired hfits =>
      refine ⟨iff_of_true ⟨_, rfl⟩ ⟨hpaired, hfits⟩, fun i l _ hno _ => absurd (hfits i) hno, ?_⟩
      intro _ hodd
      omega
  | error e =>
    have hno : ¬ ∃ effects : List Effect, Except.error e = .ok effects := by simp
    rw [hrun] at hout
    cases hout with
    | @refused i l d hl hbad hfits hd =>
      refine ⟨iff_of_false hno fun h => hbad (h.2 i), fun j l' hl' hbad' hfits' => ?_,
        fun h => absurd (h i) hbad⟩
      -- two lines that are the first not to fit are the same line
      obtain rfl : i = j := by
        rcases Nat.lt_trichotomy i j with hlt | heq | hlt
        · exact absurd (hfits' i hlt) hbad
        · exact heq
        · exact absurd (hfits j hlt) hbad'
      obtain rfl := Option.some.inj (hl.symm.trans hl')
      exact ⟨d, hd, rfl⟩
    | @unclosed i o hi ho hfits =>
      have hodd : (fences doc).length % 2 ≠ 0 := fun h => by
        rw [unpaired?_eq_none_iff.2 h] at hi
        cases hi
      exact ⟨iff_of_false hno fun h => hodd h.1, fun j _ _ hbad _ => absurd (hfits j) hbad,
        fun _ _ => ⟨i, o, hi, ho, rfl⟩⟩

theorem sample_accepted : (fences sample).length % 2 = 0 ∧ ∀ i, Fits false sample i :=
  (run_accepts false sample_oneLine).1.1 ⟨_, rfl⟩

end Outline

end Tangle
