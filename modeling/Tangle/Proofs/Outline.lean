import Tangle.Proofs.Block.Shape
/-!
# Outlines — what a document says when it is read as a whole

The fence lines of a document are paired, the first with the second, the
third with the fourth and so on; a position is inside where it lies
between the fences of a pair or after a last fence without a partner, and
outside where it is neither inside nor a fence. Each pair stands under
the nearest outside line before it.

`inside_iff` says that inside and outside are a matter of parity: a line
that is no fence is inside exactly when an odd number of fences precede
it. What parity says of a position depends on the lines before it alone,
so it can be followed along them; `Layout` cuts a document into the
lines and pairs that a proof goes through one by one.
-/

namespace Tangle

namespace Outline

/-- Elements in pairs: first with second, third with fourth. -/
def pairUp {α : Type} : List α → List (α × α)
  | a :: b :: rest => (a, b) :: pairUp rest
  | _ => []

/-- The last element, where it has no partner. -/
def unpaired? {α : Type} : List α → Option α
  | [] => none
  | [a] => some a
  | _ :: _ :: rest => unpaired? rest

/-- The positions of the fence lines. -/
def fences (doc : List SourceLine) : List Nat :=
  doc.findIdxs fun l => decide l.IsFence

/-- The pairs of fences, by position. -/
def pairs (doc : List SourceLine) : List (Nat × Nat) :=
  pairUp (fences doc)

/-- The position lies between the fences of a pair, or after a last fence
without a partner. -/
def Inside (doc : List SourceLine) (i : Nat) : Prop :=
  (∃ p ∈ pairs doc, p.1 < i ∧ i < p.2) ∨ ∃ o, unpaired? (fences doc) = some o ∧ o < i

/-- The position is that of a line neither inside nor a fence. -/
def Outside (doc : List SourceLine) (i : Nat) : Prop :=
  i < doc.length ∧ i ∉ fences doc ∧ ¬ Inside doc i

/-- **The nearest outside line.** What stands at position `i` stands
under the line `h`, which is at position `k`. -/
def Under (doc : List SourceLine) (i k : Nat) (h : SourceLine) : Prop :=
  k < i ∧ Outside doc k ∧ doc[k]? = some h ∧ ∀ j, k < j → j < i → ¬ Outside doc j

/-- The lines strictly between two positions. -/
def between (doc : List SourceLine) (p : Nat × Nat) : List SourceLine :=
  (doc.take p.2).drop (p.1 + 1)

/-- The number of fences before a position. -/
def fencesBefore (doc : List SourceLine) (i : Nat) : Nat :=
  (doc.take i).countP fun l => decide l.IsFence

variable {doc pre rest : List SourceLine} {i : Nat}

/-! ## Parity -/

theorem mem_fences : i ∈ fences doc ↔ ∃ l, doc[i]? = some l ∧ l.IsFence := by
  rw [fences, List.mem_findIdxs_iff_exists_getElem_pos]
  constructor
  · rintro ⟨h, hf⟩
    exact ⟨doc[i], List.getElem?_eq_getElem h, of_decide_eq_true hf⟩
  · rintro ⟨l, hl, hf⟩
    obtain ⟨h, rfl⟩ := List.getElem?_eq_some_iff.1 hl
    exact ⟨h, decide_eq_true hf⟩

/-- The fences before a position are those of the lines before it. -/
theorem countP_fences_lt (doc : List SourceLine) (i : Nat) :
    (fences doc).countP (· < i) = fencesBefore doc i := by
  -- the fences split where the document does, and those of the front are the ones below
  have hsplit : fences doc = (doc.take i).findIdxs (fun l => decide l.IsFence) ++
      (doc.drop i).findIdxs (fun l => decide l.IsFence) (0 + (doc.take i).length) := by
    rw [← List.findIdxs_append, List.take_append_drop, fences]
  have hfront : ∀ j ∈ (doc.take i).findIdxs (fun l => decide l.IsFence), decide (j < i) = true := by
    intro j hj
    have := List.lt_add_of_mem_findIdxs j hj
    rw [List.length_take] at this
    exact decide_eq_true (by omega)
  have hback : ∀ j ∈ (doc.drop i).findIdxs (fun l => decide l.IsFence) (0 + (doc.take i).length),
      ¬ decide (j < i) = true := by
    intro j hj
    have hle := List.ge_of_mem_findIdxs j hj
    have hlt := List.lt_add_of_mem_findIdxs j hj
    rw [List.length_take] at hle
    rw [List.length_drop, List.length_take] at hlt
    simp only [decide_eq_true_eq]
    omega
  rw [hsplit, List.countP_append, List.countP_eq_length.2 hfront, List.countP_eq_zero.2 hback,
    List.length_findIdxs, fencesBefore, Nat.add_zero]

/-- A number between the two of a pair, or past an unpaired last, has an
odd number of the sorted numbers below it. -/
theorem exists_pairUp_iff {fs : List Nat} (hs : fs.Pairwise (· < ·)) (hi : i ∉ fs) :
    ((∃ p ∈ pairUp fs, p.1 < i ∧ i < p.2) ∨ ∃ o, unpaired? fs = some o ∧ o < i) ↔
      fs.countP (· < i) % 2 = 1 := by
  induction fs using pairUp.induct with
  | case1 a b rest ih =>
    simp only [List.pairwise_cons, List.mem_cons, not_or] at hs hi
    obtain ⟨hab, hb, hrest⟩ := hs
    have hlt : a < b := hab b (Or.inl rfl)
    have ih := ih hrest hi.2.2
    simp only [pairUp, unpaired?, List.mem_cons, List.countP_cons, decide_eq_true_eq]
    -- both numbers of the first pair are below, or none of the rest is
    rcases Nat.lt_or_ge b i with hbi | hbi
    · rw [if_pos hbi, if_pos (by omega : a < i), show ∀ n, (n + 1 + 1) % 2 = n % 2 by omega, ← ih]
      refine or_congr_left ⟨?_, fun ⟨p, hp, h⟩ => ⟨p, Or.inr hp, h⟩⟩
      rintro ⟨p, rfl | hp, h⟩
      · exact absurd h.2 (by simp only; omega)
      · exact ⟨p, hp, h⟩
    · have hnone : rest.countP (fun j => decide (j < i)) = 0 :=
        List.countP_eq_zero.2 fun j hj => by
          have := hb j hj
          simp only [decide_eq_true_eq]
          omega
      rw [hnone] at ih ⊢
      rw [if_neg (by omega : ¬ b < i)]
      by_cases hai : a < i
      · rw [if_pos hai]
        exact iff_of_true (Or.inl ⟨(a, b), Or.inl rfl, hai, by simp only; omega⟩) rfl
      · rw [if_neg hai]
        refine iff_of_false ?_ (by decide)
        rintro (⟨p, rfl | hp, h⟩ | ho)
        · exact hai h.1
        · exact absurd (ih.1 (Or.inl ⟨p, hp, h⟩)) (by decide)
        · exact absurd (ih.1 (Or.inr ho)) (by decide)
  | case2 fs hno =>
    cases fs with
    | nil => simp [pairUp, unpaired?]
    | cons a rest =>
      cases rest with
      | cons b rest => exact absurd rfl (hno a b rest)
      | nil => by_cases ha : a < i <;> simp [pairUp, unpaired?, ha]

/-- **Inside means an odd number of fences before.** -/
theorem inside_iff (hi : i ∉ fences doc) : Inside doc i ↔ fencesBefore doc i % 2 = 1 := by
  have hs : (fences doc).Pairwise (· < ·) := List.pairwise_findIdxs
  rw [← countP_fences_lt]
  exact exists_pairUp_iff hs hi

/-- **Outside means an even number.** -/
theorem outside_iff :
    Outside doc i ↔ i < doc.length ∧ i ∉ fences doc ∧ fencesBefore doc i % 2 = 0 := by
  refine and_congr_right fun _ => and_congr_right fun hi => ?_
  rw [inside_iff hi]
  omega

/-! ## The nearest outside line -/

/-- There is one nearest outside line at most. -/
theorem Under.unique {k k' : Nat} {h h' : SourceLine} (hk : Under doc i k h)
    (hk' : Under doc i k' h') : k = k' ∧ h = h' := by
  have heq : k = k' := by
    rcases Nat.lt_trichotomy k k' with hlt | heq | hlt
    · exact absurd hk'.2.1 (hk.2.2.2 k' hlt hk'.1)
    · exact heq
    · exact absurd hk.2.1 (hk'.2.2.2 k hlt hk.1)
  subst heq
  exact ⟨rfl, Option.some.inj (hk.2.2.1.symm.trans hk'.2.2.1)⟩

/-- After an outside line, that line is the nearest. -/
theorem under_succ {l h : SourceLine} {k : Nat} (hout : Outside doc i) (hl : doc[i]? = some l) :
    Under doc (i + 1) k h ↔ k = i ∧ h = l := by
  have hunder : Under doc (i + 1) i l := ⟨Nat.lt_succ_self i, hout, hl, fun j h₁ h₂ => by omega⟩
  constructor
  · exact fun hu => hu.unique hunder
  · rintro ⟨rfl, rfl⟩
    exact hunder

/-- Lines that are not outside leave the line above them the nearest. -/
theorem under_of_not_outside {h : SourceLine} {j k : Nat} (hij : i ≤ j)
    (hno : ∀ m, i ≤ m → m < j → ¬ Outside doc m) : Under doc j k h ↔ Under doc i k h := by
  constructor
  · rintro ⟨hk, hout, hl, hnear⟩
    have hki : k < i := by
      by_contra hge
      exact hno k (by omega) hk hout
    exact ⟨hki, hout, hl, fun m h₁ h₂ => hnear m h₁ (by omega)⟩
  · rintro ⟨hk, hout, hl, hnear⟩
    refine ⟨by omega, hout, hl, fun m h₁ h₂ => ?_⟩
    rcases Nat.lt_or_ge m i with hm | hm
    · exact hnear m h₁ hm
    · exact hno m hm h₂

/-! ## The document, one line or one pair at a time -/

/-- **A document is outside lines and pairs of fences**, and at its end
perhaps a fence without a partner. -/
inductive Layout : List SourceLine → Prop
  /-- No line. -/
  | nil : Layout []
  /-- A line that is no fence. -/
  | line {l : SourceLine} {rest : List SourceLine} : ¬ l.IsFence → Layout rest → Layout (l :: rest)
  /-- Two fences and the lines between them. -/
  | pair {o c : SourceLine} {inner rest : List SourceLine} :
      o.IsFence → (∀ l ∈ inner, ¬ l.IsFence) → c.IsFence → Layout rest →
      Layout (o :: (inner ++ c :: rest))
  /-- A fence and the lines after it. -/
  | dangling {o : SourceLine} {inner : List SourceLine} :
      o.IsFence → (∀ l ∈ inner, ¬ l.IsFence) → Layout (o :: inner)

/-- The lines up to the first that is of some kind, if there is one. -/
theorem split_first (p : SourceLine → Prop) [DecidablePred p] (doc : List SourceLine) :
    (∀ l ∈ doc, ¬ p l) ∨ ∃ inner c rest,
      doc = inner ++ c :: rest ∧ (∀ l ∈ inner, ¬ p l) ∧ p c := by
  induction doc with
  | nil => exact Or.inl (by simp)
  | cons l doc ih =>
    by_cases hl : p l
    · exact Or.inr ⟨[], l, doc, rfl, by simp, hl⟩
    · rcases ih with h | ⟨inner, c, rest, rfl, hin, hc⟩
      · exact Or.inl (List.forall_mem_cons.2 ⟨hl, h⟩)
      · exact Or.inr ⟨l :: inner, c, rest, rfl, List.forall_mem_cons.2 ⟨hl, hin⟩, hc⟩

theorem layout (doc : List SourceLine) : Layout doc := by
  -- a pair takes all lines up to its second fence, so the induction is on length
  generalize hn : doc.length = n
  induction n using Nat.strongRecOn generalizing doc with
  | ind n ih =>
    subst hn
    cases doc with
    | nil => exact .nil
    | cons l doc =>
      by_cases hl : l.IsFence
      · rcases split_first SourceLine.IsFence doc with h | ⟨inner, c, rest, rfl, hin, hc⟩
        · exact .dangling hl h
        · refine .pair hl hin hc (ih rest.length ?_ rest rfl)
          simp only [List.length_cons, List.length_append]
          omega
      · exact .line hl (ih doc.length (Nat.lt_succ_self _) doc rfl)

variable {l o c : SourceLine} {inner : List SourceLine}

theorem pairUp_append {α : Type} {xs ys : List α} (h : xs.length % 2 = 0) :
    pairUp (xs ++ ys) = pairUp xs ++ pairUp ys := by
  induction xs using pairUp.induct with
  | case1 a b xs ih =>
    simp only [List.length_cons] at h
    simp only [List.cons_append, pairUp]
    rw [ih (by omega)]
  | case2 xs hno =>
    cases xs with
    | nil => rfl
    | cons a xs =>
      cases xs with
      | nil => simp at h
      | cons b xs => exact absurd rfl (hno a b xs)

theorem unpaired?_eq_none_iff {α : Type} {xs : List α} : unpaired? xs = none ↔ xs.length % 2 = 0 := by
  induction xs using unpaired?.induct with
  | case1 => simp [unpaired?]
  | case2 a => simp [unpaired?]
  | case3 a b xs ih =>
    rw [unpaired?, ih, List.length_cons, List.length_cons]
    omega

theorem mem_of_unpaired? {α : Type} {xs : List α} {a : α} (h : unpaired? xs = some a) : a ∈ xs := by
  induction xs using unpaired?.induct with
  | case1 => cases h
  | case2 b =>
    cases h
    exact List.mem_singleton_self _
  | case3 b c xs ih => exact List.mem_cons_of_mem b (List.mem_cons_of_mem c (ih h))

theorem unpaired?_append {α : Type} {xs ys : List α} (h : xs.length % 2 = 0) :
    unpaired? (xs ++ ys) = unpaired? ys := by
  induction xs using unpaired?.induct with
  | case1 => rfl
  | case2 a => simp at h
  | case3 a b xs ih =>
    simp only [List.length_cons] at h
    simp only [List.cons_append, unpaired?]
    exact ih (by omega)

theorem fences_append :
    fences (pre ++ rest) = fences pre ++ rest.findIdxs (fun l => decide l.IsFence) pre.length := by
  rw [fences, List.findIdxs_append, Nat.zero_add, fences]

theorem findIdxs_eq_nil (h : ∀ l ∈ inner, ¬ l.IsFence) (n : Nat) :
    inner.findIdxs (fun l => decide l.IsFence) n = [] :=
  List.findIdxs_eq_nil_iff.2 fun l hl => decide_eq_false (h l hl)

/-- Lines that are no fences add no fence. -/
theorem fences_append_of_not (h : ∀ l ∈ inner, ¬ l.IsFence) : fences (pre ++ inner) = fences pre := by
  rw [fences_append, findIdxs_eq_nil h, List.append_nil]

/-- A fence without a partner adds one. -/
theorem fences_append_dangling (ho : o.IsFence) (hin : ∀ l ∈ inner, ¬ l.IsFence) :
    fences (pre ++ o :: inner) = fences pre ++ [pre.length] := by
  rw [fences_append, List.findIdxs_cons, if_pos (decide_eq_true ho), findIdxs_eq_nil hin]

/-- A pair adds its two. -/
theorem fences_append_pair (ho : o.IsFence) (hin : ∀ l ∈ inner, ¬ l.IsFence) (hc : c.IsFence) :
    fences (pre ++ o :: (inner ++ [c])) =
      fences pre ++ [pre.length, pre.length + 1 + inner.length] := by
  rw [fences_append, List.findIdxs_cons, if_pos (decide_eq_true ho), List.findIdxs_append,
    findIdxs_eq_nil hin, List.findIdxs_cons, if_pos (decide_eq_true hc)]
  rfl

theorem pairs_append_of_not (h : ∀ l ∈ inner, ¬ l.IsFence) : pairs (pre ++ inner) = pairs pre := by
  rw [pairs, fences_append_of_not h, pairs]

theorem pairs_append_pair (hpre : (fences pre).length % 2 = 0) (ho : o.IsFence)
    (hin : ∀ l ∈ inner, ¬ l.IsFence) (hc : c.IsFence) : pairs (pre ++ o :: (inner ++ [c])) =
      pairs pre ++ [(pre.length, pre.length + 1 + inner.length)] := by
  rw [pairs, fences_append_pair ho hin hc, pairUp_append hpre]
  rfl

theorem mem_pairUp_bounds {fs : List Nat} {p : Nat × Nat} (hs : fs.Pairwise (· < ·))
    (hp : p ∈ pairUp fs) : p.2 ∈ fs ∧ p.1 < p.2 := by
  induction fs using pairUp.induct with
  | case1 a b fs ih =>
    simp only [List.pairwise_cons] at hs
    rw [pairUp, List.mem_cons] at hp
    rcases hp with rfl | hp
    · exact ⟨by simp, hs.1 b (by simp)⟩
    · obtain ⟨h₁, h₂⟩ := ih hs.2.2 hp
      exact ⟨by simp [h₁], h₂⟩
  | case2 fs hno =>
    cases fs with
    | nil => cases hp
    | cons a fs =>
      cases fs with
      | nil => cases hp
      | cons b fs => exact absurd rfl (hno a b fs)

/-- The fences of a pair stand in order. -/
theorem pair_lt {p : Nat × Nat} (hp : p ∈ pairs doc) : p.1 < p.2 :=
  (mem_pairUp_bounds List.pairwise_findIdxs hp).2

/-- The pairs of a document begin with those of its first lines, if these
are all paired. -/
theorem pairs_initial (hpre : (fences pre).length % 2 = 0) : pairs pre <+: pairs (pre ++ rest) := by
  rw [pairs, pairs, fences_append, pairUp_append hpre]
  exact List.prefix_append _ _

/-! ## Where the next line or pair stands -/

theorem fencesBefore_length : fencesBefore (pre ++ rest) pre.length = (fences pre).length := by
  rw [fencesBefore, List.take_left, fences, List.length_findIdxs]

theorem notMem_fences (hl : doc[i]? = some l) (hf : ¬ l.IsFence) : i ∉ fences doc := by
  rw [mem_fences, hl]
  rintro ⟨l', hl', hf'⟩
  exact hf (Option.some.inj hl' ▸ hf')

/-- After pairs, a line that is no fence is outside. -/
theorem outside_line (hpre : (fences pre).length % 2 = 0) (hl : ¬ l.IsFence) :
    Outside (pre ++ l :: rest) pre.length := by
  have hat : (pre ++ l :: rest)[pre.length]? = some l := by simp
  exact outside_iff.2 ⟨(List.getElem?_eq_some_iff.1 hat).1, notMem_fences hat hl,
    fencesBefore_length ▸ hpre⟩

/-- From the first line of a block to the fence that ends it, one more
fence has been passed. -/
theorem fencesBefore_block (ho : o.IsFence) (hin : ∀ l ∈ inner, ¬ l.IsFence) (hi : pre.length < i)
    (hi' : i ≤ pre.length + 1 + inner.length) :
    fencesBefore (pre ++ o :: (inner ++ rest)) i = (fences pre).length + 1 := by
  obtain ⟨n, rfl⟩ : ∃ n, i = pre.length + (n + 1) := ⟨i - pre.length - 1, by omega⟩
  have htake : (inner ++ rest).take n = inner.take n := List.take_append_of_le_length (by omega)
  have hzero : (inner.take n).countP (fun l => decide l.IsFence) = 0 :=
    List.countP_eq_zero.2 fun l hl => by simpa using hin l (List.mem_of_mem_take hl)
  rw [fencesBefore, List.take_length_add_append, List.take_succ_cons, htake, List.countP_append,
    List.countP_cons, if_pos (decide_eq_true ho), hzero, fences, List.length_findIdxs]

theorem inside_block (hpre : (fences pre).length % 2 = 0) (ho : o.IsFence)
    (hin : ∀ l ∈ inner, ¬ l.IsFence) (hi : pre.length < i) (hi' : i ≤ pre.length + 1 + inner.length)
    (hnf : i ∉ fences (pre ++ o :: (inner ++ rest))) : Inside (pre ++ o :: (inner ++ rest)) i := by
  rw [inside_iff hnf, fencesBefore_block ho hin hi hi']
  omega

/-- From a fence that opens up to the next fence, no line is outside. -/
theorem not_outside_block (hpre : (fences pre).length % 2 = 0) (ho : o.IsFence)
    (hin : ∀ l ∈ inner, ¬ l.IsFence) (hi : pre.length ≤ i) (hi' : i ≤ pre.length + 1 + inner.length) :
    ¬ Outside (pre ++ o :: (inner ++ rest)) i := by
  rintro ⟨-, hnf, hno⟩
  rcases Nat.eq_or_lt_of_le hi with rfl | hlt
  · exact hnf (mem_fences.2 ⟨o, by simp, ho⟩)
  · exact hno (inside_block hpre ho hin hlt hi' hnf)

/-- The two fences of the next pair. -/
theorem getElem?_pair :
    (pre ++ o :: (inner ++ c :: rest))[pre.length]? = some o ∧
      (pre ++ o :: (inner ++ c :: rest))[pre.length + 1 + inner.length]? = some c := by
  have hdoc : pre ++ o :: (inner ++ c :: rest) = (pre ++ o :: inner) ++ c :: rest := by simp
  have hlen : pre.length + 1 + inner.length = (pre ++ o :: inner).length := by
    simp only [List.length_append, List.length_cons]
    omega
  refine ⟨by simp, ?_⟩
  rw [hdoc, hlen, List.getElem?_append_right (Nat.le_refl _), Nat.sub_self]
  rfl

/-- The lines between them. -/
theorem between_pair : between (pre ++ o :: (inner ++ c :: rest))
    (pre.length, pre.length + 1 + inner.length) = inner := by
  have hdoc : pre ++ o :: (inner ++ c :: rest) = (pre ++ [o]) ++ (inner ++ c :: rest) := by simp
  have hlen : pre.length + 1 = (pre ++ [o]).length := by simp
  rw [between, hdoc, hlen, List.take_length_add_append, List.drop_left, List.take_left]

end Outline

end Tangle
