import Tangle.Proofs.Block.Standing
import Tangle.Proofs.Outline
import Mathlib.Data.List.Forall2
/-!
# Reading a document

What a document asks for and what is wrong with it, said of the document
as a whole: `Asks` gives the effects of a pair of fences by the line that
the pair stands under, `Fits` says which lines may stand where, and
`Blames` what is reported of one that does not fit. `Leaves` says the
same of the machine's memory between pairs: which header the lines before
a position leave in force there.
-/

namespace Tangle

theorem WriteMode.eq_of_append_iff {m m' : WriteMode} (h : m = .append ↔ m' = .append) : m = m' := by
  cases m <;> cases m' <;> simp at h ⊢

namespace Outline

/-- **What a pair asks for**, by the line that it stands under: a file
header has the lines between the fences written, a run header has them
run, and any other line, or none, asks for nothing. A file is extended
by a header that says so, and by every further pair under one header. -/
inductive Asks (doc : List SourceLine) (p : Nat × Nat) : List Effect → Prop
  /-- Under a file header. -/
  | file {k : Nat} {h : SourceLine} {name after : List Char} {mode : WriteMode} :
      Under doc p.1 k h → h.IsFileHeader → h.Names name after →
      (mode = .append ↔ Header.Extends after ∨ ∃ q ∈ pairs doc, q.2 < p.1 ∧ Under doc q.1 k h) →
      Asks doc p (.openFile (String.ofList name) mode ::
        ((between doc p).map fun l => .write (String.ofList name) (LineKind.unquote l.raw)) ++
        [.closeFile (String.ofList name)])
  /-- Under a run header. -/
  | run {k : Nat} {h o c : SourceLine} :
      Under doc p.1 k h → h.IsRunHeader → doc[p.1]? = some o → doc[p.2]? = some c →
      Asks doc p (if between doc p = [] then [] else
        [.run ⟨o.number, c.number,
          (between doc p).map fun l => .ofBytes l.number (LineKind.unquote l.raw)⟩])
  /-- Under no header. -/
  | bare : (∀ k h, Under doc p.1 k h → ¬ h.IsHeader) → Asks doc p []

/-- The effects that a document asks for, pair by pair. -/
def Reads (doc : List SourceLine) (effects : List Effect) : Prop :=
  ∃ parts, List.Forall₂ (Asks doc) (pairs doc) parts ∧ effects = parts.flatten

/-- A quoted line that is no fence may stand outside as a header; in
lenient mode also where no header is in force, unless it has the shape of
a file header. -/
def MayStand (lenient : Bool) (doc : List SourceLine) (i : Nat) (l : SourceLine) : Prop :=
  l.IsRunHeader ∨ (l.IsFileHeader ∧ l.HasSpan) ∨
    (lenient = true ∧ ¬ l.IsFileHeader ∧ ∀ k h, Under doc i k h → ¬ h.IsHeader)

/-- **The line at a position may stand there.** -/
def Fits (lenient : Bool) (doc : List SourceLine) (i : Nat) : Prop :=
  ∀ l, doc[i]? = some l →
    (Inside doc i → l.IsQuoted) ∧ (Outside doc i → l.IsQuoted → MayStand lenient doc i l)

/-- **What is reported** of a line that may not stand where it does. -/
inductive Blames (doc : List SourceLine) (i : Nat) : Defect → Prop
  /-- Inside, the fence that opened is named. -/
  | inside {j : Nat} {o : SourceLine} : Inside doc i → j < i → doc[j]? = some o → o.IsFence →
      (∀ m, j < m → m < i → m ∉ fences doc) → Blames doc i (.unquotedInFence o.number)
  /-- A file header that names no file. -/
  | unnamed {l : SourceLine} : Outside doc i → doc[i]? = some l → l.IsFileHeader →
      Blames doc i .headerWithoutName
  /-- A stray line under a header. -/
  | afterHeader {l h : SourceLine} {k : Nat} : Outside doc i → doc[i]? = some l →
      ¬ l.IsFileHeader → Under doc i k h → h.IsHeader → Blames doc i .strayAfterHeader
  /-- A stray line under none. -/
  | stray {l : SourceLine} : Outside doc i → doc[i]? = some l → ¬ l.IsFileHeader →
      (∀ k h, Under doc i k h → ¬ h.IsHeader) → Blames doc i .strayQuote

variable {doc pre rest inner : List SourceLine} {l o c : SourceLine} {lenient : Bool}
variable {st : Standing} {p : Nat × Nat} {i : Nat}

/-- **A pair asks for one thing.** -/
theorem Asks.unique {es fs : List Effect} (h₁ : Asks doc p es) (h₂ : Asks doc p fs) : es = fs := by
  cases h₁ with
  | file hu hh hn hm =>
    cases h₂ with
    | file hu' hh' hn' hm' =>
      obtain ⟨rfl, rfl⟩ := hu.unique hu'
      obtain ⟨rfl, rfl⟩ := hn.unique hn'
      rw [WriteMode.eq_of_append_iff (hm.trans hm'.symm)]
    | run hu' hh' =>
      obtain ⟨-, rfl⟩ := hu.unique hu'
      exact absurd hh' hh.not_isRunHeader
    | bare hno => exact absurd (Or.inr hh) (hno _ _ hu)
  | run hu hh ho hc =>
    cases h₂ with
    | file hu' hh' =>
      obtain ⟨-, rfl⟩ := hu.unique hu'
      exact absurd hh hh'.not_isRunHeader
    | run hu' hh' ho' hc' =>
      obtain rfl := Option.some.inj (ho.symm.trans ho')
      obtain rfl := Option.some.inj (hc.symm.trans hc')
      rfl
    | bare hno => exact absurd (Or.inl hh) (hno _ _ hu)
  | bare hno =>
    cases h₂ with
    | file hu hh => exact absurd (Or.inr hh) (hno _ _ hu)
    | run hu hh => exact absurd (Or.inl hh) (hno _ _ hu)
    | bare => rfl

/-- And so a document asks for one list of effects. -/
theorem Reads.unique {es fs : List Effect} (h₁ : Reads doc es) (h₂ : Reads doc fs) : es = fs := by
  obtain ⟨ps, hps, rfl⟩ := h₁
  obtain ⟨qs, hqs, rfl⟩ := h₂
  have hunique : Relator.RightUnique (Asks doc) := fun _ _ _ => Asks.unique
  rw [List.right_unique_forall₂' hunique hps hqs]

/-- One fence at most is the last before a position. -/
theorem last_fence_unique {j j' : Nat} (hj : j < i) (hmem : j ∈ fences doc)
    (hj' : j' < i) (hmem' : j' ∈ fences doc) (hnear : ∀ m, j < m → m < i → m ∉ fences doc)
    (hnear' : ∀ m, j' < m → m < i → m ∉ fences doc) : j = j' := by
  rcases Nat.lt_trichotomy j j' with hlt | heq | hlt
  · exact absurd hmem' (hnear j' hlt hj')
  · exact heq
  · exact absurd hmem (hnear' j hlt hj)

/-- **One thing is reported of a line.** -/
theorem Blames.unique {d d' : Defect} (h : Blames doc i d) (h' : Blames doc i d') : d = d' := by
  cases h with
  | inside hin hj ho hf hnear =>
    cases h' with
    | inside _ hj' ho' hf' hnear' =>
      obtain rfl := last_fence_unique hj (mem_fences.2 ⟨_, ho, hf⟩) hj'
        (mem_fences.2 ⟨_, ho', hf'⟩) hnear hnear'
      rw [Option.some.inj (ho.symm.trans ho')]
    | unnamed hout => exact absurd hin hout.2.2
    | afterHeader hout => exact absurd hin hout.2.2
    | stray hout => exact absurd hin hout.2.2
  | unnamed hout hl hf =>
    cases h' with
    | inside hin => exact absurd hin hout.2.2
    | unnamed => rfl
    | afterHeader _ hl' hf' => exact absurd (Option.some.inj (hl.symm.trans hl') ▸ hf) hf'
    | stray _ hl' hf' => exact absurd (Option.some.inj (hl.symm.trans hl') ▸ hf) hf'
  | afterHeader hout hl hf hu hh =>
    cases h' with
    | inside hin => exact absurd hin hout.2.2
    | unnamed _ hl' hf' => exact absurd (Option.some.inj (hl'.symm.trans hl) ▸ hf') hf
    | afterHeader => rfl
    | stray _ _ _ hno => exact absurd hh (hno _ _ hu)
  | stray hout hl hf hno =>
    cases h' with
    | inside hin => exact absurd hin hout.2.2
    | unnamed _ hl' hf' => exact absurd (Option.some.inj (hl'.symm.trans hl) ▸ hf') hf
    | afterHeader _ _ _ hu hh => exact absurd hh (hno _ _ hu)
    | stray => rfl

/-! ## What the machine stands on -/

/-- **The standing that the lines before a position leave**: the header
that a pair would stand under there, and whether one stands under it
already. -/
def Leaves (doc : List SourceLine) (i : Nat) : Standing → Prop
  | .nothing => ∀ k h, Under doc i k h → ¬ h.IsHeader
  | .file name mode => ∃ k h n after, Under doc i k h ∧ h.IsFileHeader ∧ h.Names n after ∧
      name = String.ofList n ∧
      (mode = .append ↔ Header.Extends after ∨ ∃ q ∈ pairs doc, q.2 < i ∧ Under doc q.1 k h)
  | .run => ∃ k h, Under doc i k h ∧ h.IsRunHeader

theorem leaves_zero : Leaves doc 0 .nothing := fun k _ hu => absurd hu.1 (Nat.not_lt_zero k)

/-- Something in force is a header above. -/
theorem Leaves.exists_header (h : Leaves doc i st) (hst : st ≠ .nothing) :
    ∃ k h, Under doc i k h ∧ h.IsHeader := by
  cases st with
  | nothing => exact absurd rfl hst
  | file name mode =>
    obtain ⟨k, h, n, after, hu, hh, -⟩ := h
    exact ⟨k, h, hu, Or.inr hh⟩
  | run =>
    obtain ⟨k, h, hu, hh⟩ := h
    exact ⟨k, h, hu, Or.inl hh⟩

/-- An outside line that is no header leaves nothing in force. -/
theorem leaves_of_not_isHeader (hout : Outside doc i) (hl : doc[i]? = some l) (hh : ¬ l.IsHeader) :
    Leaves doc (i + 1) .nothing := by
  intro k h hu
  obtain ⟨-, rfl⟩ := (under_succ hout hl).1 hu
  exact hh

theorem leaves_run (hout : Outside doc i) (hl : doc[i]? = some l) (h : l.IsRunHeader) :
    Leaves doc (i + 1) .run :=
  ⟨i, l, (under_succ hout hl).2 ⟨rfl, rfl⟩, h⟩

theorem leaves_file {name after : List Char} (hout : Outside doc i) (hl : doc[i]? = some l)
    (h : l.IsFileHeader) (hn : l.Names name after) : Leaves doc (i + 1)
      (.file (String.ofList name) (if Header.isContinued after then .append else .truncate)) := by
  refine ⟨i, l, name, after, (under_succ hout hl).2 ⟨rfl, rfl⟩, h, hn, rfl, ?_⟩
  -- no pair stands under the header yet, so its own word decides
  have hno : ¬ ∃ q ∈ pairs doc, q.2 < i + 1 ∧ Under doc q.1 i l := by
    rintro ⟨q, hq, hlt, hu⟩
    have := pair_lt hq
    have := hu.1
    omega
  rw [← Header.isContinued_iff, or_iff_left hno]
  cases Header.isContinued after <;> simp

/-- **A pair leaves its header in force**, and reopens its file. -/
theorem Leaves.reopened {j : Nat} (h : Leaves doc i st) (hp : p ∈ pairs doc) (hpi : p.1 = i)
    (hpj : p.2 < j) (hno : ∀ m, i ≤ m → m < j → ¬ Outside doc m) : Leaves doc j st.reopened := by
  have hij : i ≤ j := by have := pair_lt hp; omega
  cases st with
  | nothing => exact fun k h' hu => h k h' ((under_of_not_outside hij hno).1 hu)
  | run =>
    obtain ⟨k, h', hu, hh⟩ := h
    exact ⟨k, h', (under_of_not_outside hij hno).2 hu, hh⟩
  | file name mode =>
    obtain ⟨k, h', n, after, hu, hh, hn, hname, -⟩ := h
    exact ⟨k, h', n, after, (under_of_not_outside hij hno).2 hu, hh, hn, hname,
      iff_of_true rfl (Or.inr ⟨p, hp, hpj, hpi ▸ hu⟩)⟩

/-- **The effects of a pair are what it asks for.** -/
theorem Leaves.asks (h : Leaves doc p.1 st) (ho : doc[p.1]? = some o) (hc : doc[p.2]? = some c) :
    Asks doc p (st.effects o c (between doc p)) := by
  cases st with
  | nothing => exact .bare h
  | run =>
    obtain ⟨k, h', hu, hh⟩ := h
    have hasks := Asks.run hu hh ho hc
    cases hb : between doc p <;> rw [hb] at hasks <;> exact hasks
  | file name mode =>
    obtain ⟨k, h', n, after, hu, hh, hn, rfl, hmode⟩ := h
    exact .file hu hh hn hmode

/-! ## Which lines fit -/

theorem fits_of_not_quoted (hl : doc[i]? = some l) (hout : Outside doc i) (hq : ¬ l.IsQuoted) :
    Fits lenient doc i := by
  intro l' hl'
  obtain rfl := Option.some.inj (hl.symm.trans hl')
  exact ⟨fun h => absurd h hout.2.2, fun _ h => absurd h hq⟩

theorem fits_of_mayStand (hl : doc[i]? = some l) (hout : Outside doc i)
    (hm : MayStand lenient doc i l) : Fits lenient doc i := by
  intro l' hl'
  obtain rfl := Option.some.inj (hl.symm.trans hl')
  exact ⟨fun h => absurd h hout.2.2, fun _ _ => hm⟩

theorem fits_of_not_outside (hl : doc[i]? = some l) (hout : ¬ Outside doc i) (hq : l.IsQuoted) :
    Fits lenient doc i := by
  intro l' hl'
  obtain rfl := Option.some.inj (hl.symm.trans hl')
  exact ⟨fun _ => hq, fun h => absurd h hout⟩

theorem not_fits_of_not_mayStand (hl : doc[i]? = some l) (hout : Outside doc i) (hq : l.IsQuoted)
    (hm : ¬ MayStand lenient doc i l) : ¬ Fits lenient doc i :=
  fun hfit => hm ((hfit l hl).2 hout hq)

/-- The lines of a block fit if they are quoted. -/
theorem fits_block (hdoc : doc = pre ++ o :: (inner ++ rest)) (hpre : (fences pre).length % 2 = 0)
    (ho : o.IsFence) (hin : ∀ l ∈ inner, ¬ l.IsFence) (hq : ∀ l ∈ inner, l.IsQuoted)
    (hi : pre.length ≤ i) (hi' : i < pre.length + 1 + inner.length) : Fits lenient doc i := by
  obtain ⟨n, rfl⟩ := Nat.exists_eq_add_of_le hi
  have hout : ¬ Outside doc (pre.length + n) :=
    hdoc ▸ not_outside_block hpre ho hin hi (Nat.le_of_lt hi')
  have hat : doc[pre.length + n]? = (o :: inner)[n]? := by
    rw [hdoc, List.getElem?_append_right (Nat.le_add_right _ _), Nat.add_sub_cancel_left,
      ← List.cons_append, List.getElem?_append_left (by rw [List.length_cons]; omega)]
  have hn : n < (o :: inner).length := by rw [List.length_cons]; omega
  rw [List.getElem?_eq_getElem hn] at hat
  refine fits_of_not_outside hat hout ?_
  rcases List.mem_cons.1 (List.getElem_mem hn) with h | h
  · rw [h]; exact ho.isQuoted
  · exact hq _ h

end Outline

end Tangle
