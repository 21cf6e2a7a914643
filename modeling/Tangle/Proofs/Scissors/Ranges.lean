import Tangle.Scissors.Ranges
import Tangle.Proofs.Outline
import Tangle.Proofs.Text.Line
/-!
# Ranges as pairs of markers

The walk over a document knows the marker that opened the current range
and no other. Here all its markers are taken together and paired, the
first with the second, the third with the fourth: `Pairing` says what the
document selects by its pairs, and what is reported where they are not in
order. A marker that ends a pair may be of either kind, so only the first
of a pair can be wrong, and only the last marker can be without a partner.

The walk is followed one pair at a time (`pairing_pair`), and
`extract_iff_pairing` says that it selects what the pairs do.
-/

namespace Tangle

namespace Scissors

open SourceLine

/-- A marker is a line that opens or closes a range. -/
def IsMarker (s : Scissors) (l : SourceLine) : Prop :=
  s.isOpen l.content = true ∨ s.isClose l.content = true

instance (s : Scissors) (l : SourceLine) : Decidable (s.IsMarker l) :=
  inferInstanceAs (Decidable (_ ∨ _))

/-- The markers among lines, in order. -/
def markers (s : Scissors) (lines : List SourceLine) : List SourceLine :=
  lines.filter fun l => decide (s.IsMarker l)

/-- The line stands strictly between the two markers of a pair. -/
def Encloses (s : Scissors) (lines : List SourceLine) (l : SourceLine) : Prop :=
  ∃ p ∈ Outline.pairUp (s.markers lines), p.1.number < l.number ∧ l.number < p.2.number

instance (s : Scissors) (lines : List SourceLine) (l : SourceLine) :
    Decidable (s.Encloses lines l) :=
  inferInstanceAs (Decidable (∃ p ∈ Outline.pairUp (s.markers lines), _ ∧ _))

/-- **The lines inside the ranges**: those that stand strictly between the
markers of a pair, as they are and in order. -/
def enclosed (s : Scissors) (lines : List SourceLine) : List SourceLine :=
  lines.filter fun l => decide (s.Encloses lines l)

/-- The marker that should open range `i`, counted from zero, does not. -/
def Misplaced (s : Scissors) (lines : List SourceLine) (i : Nat) (l : SourceLine) : Prop :=
  (s.markers lines)[2 * i]? = some l ∧ s.isOpen l.content = false

/-- **What the markers of a document come to**, all taken together. -/
inductive Pairing (s : Scissors) (lines : List SourceLine) :
    Except Error (Option (List SourceLine)) → Prop
  /-- The first marker that should open a range and does not is reported. -/
  | misplaced {i : Nat} {l : SourceLine} : s.Misplaced lines i l →
      (∀ j l', j < i → ¬ s.Misplaced lines j l') →
      Pairing s lines (.error (.atLine l.number .closeWithoutOpen))
  /-- Otherwise the last marker, if their number is odd. -/
  | unpaired {l : SourceLine} : (∀ i l', ¬ s.Misplaced lines i l') →
      (s.markers lines).length % 2 = 1 → (s.markers lines).getLast? = some l →
      Pairing s lines (.error (.atLine l.number .openRange))
  /-- Without markers nothing is selected. -/
  | unmarked : s.markers lines = [] → Pairing s lines (.ok none)
  /-- Markers that are in order select what they enclose. -/
  | paired : (∀ i l', ¬ s.Misplaced lines i l') → (s.markers lines).length % 2 = 0 →
      s.markers lines ≠ [] → Pairing s lines (.ok (some (s.enclosed lines)))

variable {s : Scissors} {lines inner tail : List SourceLine} {l o c : SourceLine}
variable {r r' : Except Error (Option (List SourceLine))}

/-- **The markers come to one thing.** -/
theorem Pairing.unique (h : s.Pairing lines r) (h' : s.Pairing lines r') : r = r' := by
  cases h with
  | @misplaced i l hl hfirst =>
    cases h' with
    | @misplaced j l' hl' hfirst' =>
      -- two that are the first are the same
      obtain rfl : i = j := by
        rcases Nat.lt_trichotomy i j with hlt | heq | hlt
        · exact absurd hl (hfirst' i l hlt)
        · exact heq
        · exact absurd hl' (hfirst j l' hlt)
      rw [Option.some.inj (hl.1.symm.trans hl'.1)]
    | unpaired hno => exact absurd hl (hno i l)
    | unmarked hnil =>
      have hat := hl.1
      rw [hnil] at hat
      cases hat
    | paired hno => exact absurd hl (hno i l)
  | unpaired hno hodd hlast =>
    cases h' with
    | misplaced hl' => exact absurd hl' (hno _ _)
    | unpaired _ _ hlast' => rw [Option.some.inj (hlast.symm.trans hlast')]
    | unmarked hnil => rw [hnil] at hodd; cases hodd
    | paired _ heven => omega
  | unmarked hnil =>
    cases h' with
    | misplaced hl' =>
      have hat := hl'.1
      rw [hnil] at hat
      cases hat
    | unpaired _ hodd' => rw [hnil] at hodd'; cases hodd'
    | unmarked => rfl
    | paired _ _ hne => exact absurd hnil hne
  | paired hno heven hne =>
    cases h' with
    | misplaced hl' => exact absurd hl' (hno _ _)
    | unpaired _ hodd' => omega
    | unmarked hnil => exact absurd hnil hne
    | paired => rfl

/-! ## The markers of the next line, or of the next pair -/

theorem markers_cons_of_not (hl : ¬ s.IsMarker l) : s.markers (l :: tail) = s.markers tail := by
  rw [markers, List.filter_cons_of_neg (by simpa using hl), markers]

theorem markers_eq_nil_iff : s.markers lines = [] ↔ ∀ l ∈ lines, ¬ s.IsMarker l := by
  rw [markers, List.filter_eq_nil_iff]
  simp only [decide_eq_true_eq]

theorem markers_dangling (ho : s.IsMarker o) (hin : ∀ l ∈ inner, ¬ s.IsMarker l) :
    s.markers (o :: inner) = [o] := by
  rw [markers, List.filter_cons_of_pos (by simpa using ho), ← markers, markers_eq_nil_iff.2 hin]

theorem markers_pair (ho : s.IsMarker o) (hin : ∀ l ∈ inner, ¬ s.IsMarker l) (hc : s.IsMarker c) :
    s.markers (o :: (inner ++ c :: tail)) = o :: c :: s.markers tail := by
  rw [markers, List.filter_cons_of_pos (by simpa using ho), List.filter_append, ← markers,
    markers_eq_nil_iff.2 hin, List.nil_append, List.filter_cons_of_pos (by simpa using hc), markers]

theorem mem_of_mem_pairUp {α : Type} {xs : List α} {p : α × α} (hp : p ∈ Outline.pairUp xs) :
    p.1 ∈ xs ∧ p.2 ∈ xs := by
  induction xs using Outline.pairUp.induct with
  | case1 a b xs ih =>
    rw [Outline.pairUp, List.mem_cons] at hp
    rcases hp with rfl | hp
    · simp
    · obtain ⟨h₁, h₂⟩ := ih hp
      exact ⟨by simp [h₁], by simp [h₂]⟩
  | case2 xs hno =>
    rw [Outline.pairUp] at hp
    · cases hp
    · exact hno

/-- A pair of later lines encloses none of the lines before them. -/
theorem not_encloses_of_le (h : ∀ m ∈ tail, l.number ≤ m.number) : ¬ s.Encloses tail l := by
  rintro ⟨p, hp, hlt, -⟩
  have hmem : p.1 ∈ tail := List.mem_of_mem_filter (mem_of_mem_pairUp hp).1
  have := h p.1 hmem
  omega

theorem encloses_pair (ho : s.IsMarker o) (hin : ∀ l ∈ inner, ¬ s.IsMarker l) (hc : s.IsMarker c) :
    s.Encloses (o :: (inner ++ c :: tail)) l ↔
      o.number < l.number ∧ l.number < c.number ∨ s.Encloses tail l := by
  rw [Encloses, markers_pair ho hin hc, Outline.pairUp, List.exists_mem_cons_iff, Encloses]

theorem enclosed_cons_of_not (hasc : Ascending (l :: tail)) (hl : ¬ s.IsMarker l) :
    s.enclosed (l :: tail) = s.enclosed tail := by
  have hsame : ∀ m, s.Encloses (l :: tail) m ↔ s.Encloses tail m := fun m => by
    rw [Encloses, markers_cons_of_not hl, Encloses]
  have hno : ¬ s.Encloses tail l :=
    not_encloses_of_le fun m hm => Nat.le_of_lt ((List.pairwise_cons.1 hasc).1 m hm)
  simp only [enclosed, hsame]
  exact List.filter_cons_of_neg (by simpa using hno)

/-- **A pair adds the lines between its markers.** -/
theorem enclosed_pair (hasc : Ascending (o :: (inner ++ c :: tail))) (ho : s.IsMarker o)
    (hin : ∀ l ∈ inner, ¬ s.IsMarker l) (hc : s.IsMarker c) :
    s.enclosed (o :: (inner ++ c :: tail)) = inner ++ s.enclosed tail := by
  obtain ⟨hfirst, hrest⟩ := List.pairwise_cons.1 hasc
  obtain ⟨-, hctail, hbefore⟩ := List.pairwise_append.1 hrest
  have hafter : ∀ m ∈ tail, c.number < m.number := (List.pairwise_cons.1 hctail).1
  have hbounds : ∀ l ∈ inner, o.number < l.number ∧ l.number < c.number := fun l hl =>
    ⟨hfirst l (List.mem_append_left _ hl), hbefore l hl c List.mem_cons_self⟩
  have hoc : o.number < c.number := hfirst c (by simp)
  -- neither marker is enclosed, all lines between them are, and those after by later pairs only
  have ho' : ¬ s.Encloses (o :: (inner ++ c :: tail)) o := by
    rw [encloses_pair ho hin hc]
    rintro (h | h)
    · omega
    · exact not_encloses_of_le (fun m hm => by have := hafter m hm; omega) h
  have hin' : ∀ l ∈ inner, s.Encloses (o :: (inner ++ c :: tail)) l := fun l hl =>
    (encloses_pair ho hin hc).2 (Or.inl (hbounds l hl))
  have hc' : ¬ s.Encloses (o :: (inner ++ c :: tail)) c := by
    rw [encloses_pair ho hin hc]
    rintro (h | h)
    · omega
    · exact not_encloses_of_le (fun m hm => Nat.le_of_lt (hafter m hm)) h
  have htail' : ∀ m ∈ tail, (s.Encloses (o :: (inner ++ c :: tail)) m ↔ s.Encloses tail m) := by
    intro m hm
    rw [encloses_pair ho hin hc]
    refine or_iff_right fun h => ?_
    have := hafter m hm
    omega
  have hkept : inner.filter (fun l => decide (s.Encloses (o :: (inner ++ c :: tail)) l)) = inner :=
    List.filter_eq_self.2 fun l hl => decide_eq_true (hin' l hl)
  have hlater : tail.filter (fun l => decide (s.Encloses (o :: (inner ++ c :: tail)) l)) =
      s.enclosed tail :=
    List.filter_congr fun m hm => decide_eq_decide.2 (htail' m hm)
  rw [enclosed, List.filter_cons_of_neg (by simpa using ho'), List.filter_append, hkept,
    List.filter_cons_of_neg (by simpa using hc'), hlater]

theorem enclosed_eq_nil (h : s.markers lines = []) : s.enclosed lines = [] := by
  rw [enclosed, List.filter_eq_nil_iff]
  intro l _
  simp [Encloses, h, Outline.pairUp]

/-! ## The walk -/

/-- What is selected after a range with these lines: not nothing, though it
may be no line. -/
def afterRange (inner : List SourceLine) (r : Except Error (Option (List SourceLine))) :
    Except Error (Option (List SourceLine)) :=
  r.map fun found => some (inner ++ found.getD [])

/-- The walk remembers that a range was seen. -/
theorem afterRange_select (opened : Option Nat) (lines : List SourceLine) :
    afterRange [] (s.select opened true lines) = s.select opened true lines := by
  induction lines generalizing opened with
  | nil => cases opened <;> rfl
  | cons l tail ih =>
    cases opened with
    | none =>
      rw [select]
      split
      · exact ih (some l.number)
      · split
        · rfl
        · exact ih none
    | some n =>
      rw [select]
      split
      · exact ih none
      · rw [← ih (some n)]
        cases s.select (some n) true tail <;> rfl

/-- From outside a range, that is all the difference. -/
theorem select_true (lines : List SourceLine) :
    s.select none true lines = afterRange [] (s.select none false lines) := by
  induction lines with
  | nil => rfl
  | cons l tail ih =>
    rw [select, select, ih]
    split
    · exact (afterRange_select _ _).symm
    · split <;> rfl

theorem select_skip (hl : ¬ s.IsMarker l) :
    s.select none false (l :: tail) = s.select none false tail := by
  obtain ⟨ho, hc⟩ := not_or.1 hl
  rw [select, if_neg ho, if_neg hc]

theorem select_open (ho : s.isOpen o.content = true) :
    s.select none false (o :: tail) = s.select (some o.number) true tail := by
  rw [select, if_pos ho]

theorem select_misplaced (ho : s.isOpen o.content = false) (hc : s.isClose o.content = true) :
    s.select none false (o :: tail) = .error (.atLine o.number .closeWithoutOpen) := by
  rw [select, if_neg (by simp [ho]), if_pos hc]

/-- Inside a range lines are taken up to the next marker. -/
theorem select_inside (n : Nat) (hin : ∀ l ∈ inner, ¬ s.IsMarker l) (hc : s.IsMarker c) :
    s.select (some n) true (inner ++ c :: tail) =
      (s.select none true tail).map fun found => found.map (inner ++ ·) := by
  have hc' : (s.isOpen c.content || s.isClose c.content) = true := Bool.or_eq_true_iff.2 hc
  induction inner with
  | nil =>
    rw [List.nil_append, select, if_pos hc']
    cases s.select none true tail with
    | error e => rfl
    | ok found => cases found <;> rfl
  | cons l inner ih =>
    obtain ⟨hl, hin⟩ := List.forall_mem_cons.1 hin
    have hl' : ¬ (s.isOpen l.content || s.isClose l.content) = true := fun h =>
      hl (Bool.or_eq_true_iff.1 h)
    rw [List.cons_append, select, if_neg hl', ih hin]
    cases s.select none true tail with
    | error e => rfl
    | ok found => cases found <;> rfl

/-- **A pair of markers** selects the lines between them, before those that
the rest selects. -/
theorem select_pair (ho : s.isOpen o.content = true) (hin : ∀ l ∈ inner, ¬ s.IsMarker l)
    (hc : s.IsMarker c) : s.select none false (o :: (inner ++ c :: tail)) =
      afterRange inner (s.select none false tail) := by
  rw [select_open ho, select_inside o.number hin hc, select_true]
  cases s.select none false tail <;> rfl

/-- A range without a marker after it is not closed. -/
theorem select_dangling (n : Nat) (found : Bool) (hin : ∀ l ∈ inner, ¬ s.IsMarker l) :
    s.select (some n) found inner = .error (.atLine n .openRange) := by
  induction inner with
  | nil => rfl
  | cons l inner ih =>
    obtain ⟨hl, hin⟩ := List.forall_mem_cons.1 hin
    have hl' : ¬ (s.isOpen l.content || s.isClose l.content) = true := fun h =>
      hl (Bool.or_eq_true_iff.1 h)
    rw [select, if_neg hl', ih hin]
    rfl

/-! ## The walk selects what the pairs do -/

/-- Lines with the same markers that enclose the same come to the same. -/
theorem Pairing.congr (hmarkers : s.markers lines = s.markers tail)
    (henclosed : s.enclosed lines = s.enclosed tail) (h : s.Pairing tail r) : s.Pairing lines r := by
  have hmis : ∀ i l, s.Misplaced lines i l ↔ s.Misplaced tail i l := fun i l => by
    rw [Misplaced, hmarkers, Misplaced]
  cases h with
  | misplaced hat hfirst =>
    exact .misplaced ((hmis _ _).2 hat) fun j l' hj hbad => hfirst j l' hj ((hmis _ _).1 hbad)
  | unpaired hno hodd hlast =>
    exact .unpaired (fun i l' hbad => hno i l' ((hmis _ _).1 hbad)) (hmarkers ▸ hodd)
      (hmarkers ▸ hlast)
  | unmarked hnil => exact .unmarked (hmarkers.trans hnil)
  | paired hno heven hne =>
    rw [← henclosed]
    exact .paired (fun i l' hbad => hno i l' ((hmis _ _).1 hbad)) (hmarkers ▸ heven)
      (hmarkers ▸ hne)

/-- The first marker is wrong where it does not open a range. -/
theorem pairing_misplaced (ho : s.isOpen o.content = false) (hc : s.isClose o.content = true) :
    s.Pairing (o :: tail) (.error (.atLine o.number .closeWithoutOpen)) := by
  have hmarkers : s.markers (o :: tail) = o :: s.markers tail := by
    rw [markers, List.filter_cons_of_pos (by simp [IsMarker, hc]), markers]
  exact .misplaced (i := 0) ⟨by rw [hmarkers]; rfl, ho⟩ fun j l' hj => absurd hj (Nat.not_lt_zero j)

/-- A marker without a partner is. -/
theorem pairing_dangling (ho : s.isOpen o.content = true) (hin : ∀ l ∈ inner, ¬ s.IsMarker l) :
    s.Pairing (o :: inner) (.error (.atLine o.number .openRange)) := by
  have hmarkers : s.markers (o :: inner) = [o] := markers_dangling (Or.inl ho) hin
  refine .unpaired ?_ (by rw [hmarkers]; rfl) (by rw [hmarkers]; rfl)
  rintro i l ⟨hat, hno⟩
  rw [hmarkers] at hat
  cases i with
  | zero =>
    obtain rfl : o = l := Option.some.inj hat
    exact absurd ho (by simp [hno])
  | succ i => cases hat

/-- Before a pair that is in order the others keep theirs. -/
theorem misplaced_pair (ho : s.isOpen o.content = true) (hin : ∀ l ∈ inner, ¬ s.IsMarker l)
    (hc : s.IsMarker c) (i : Nat) : s.Misplaced (o :: (inner ++ c :: tail)) i l ↔
      ∃ j, i = j + 1 ∧ s.Misplaced tail j l := by
  rw [Misplaced, markers_pair (Or.inl ho) hin hc]
  cases i with
  | zero =>
    refine iff_of_false ?_ (by rintro ⟨j, hj, -⟩; cases hj)
    rintro ⟨hat, hno⟩
    obtain rfl : o = l := Option.some.inj hat
    exact absurd ho (by simp [hno])
  | succ i =>
    constructor
    · exact fun h => ⟨i, rfl, h⟩
    · rintro ⟨j, hj, h⟩
      obtain rfl := Nat.succ.inj hj
      exact h

/-- **A pair in order** adds what it encloses, and leaves what is wrong with
the rest. -/
theorem pairing_pair (hasc : Ascending (o :: (inner ++ c :: tail))) (ho : s.isOpen o.content = true)
    (hin : ∀ l ∈ inner, ¬ s.IsMarker l) (hc : s.IsMarker c) (h : s.Pairing tail r) :
    s.Pairing (o :: (inner ++ c :: tail)) (afterRange inner r) := by
  have hmarkers : s.markers (o :: (inner ++ c :: tail)) = o :: c :: s.markers tail :=
    markers_pair (Or.inl ho) hin hc
  have henclosed : s.enclosed (o :: (inner ++ c :: tail)) = inner ++ s.enclosed tail :=
    enclosed_pair hasc (Or.inl ho) hin hc
  have hmis : ∀ i l, s.Misplaced (o :: (inner ++ c :: tail)) i l ↔
      ∃ j, i = j + 1 ∧ s.Misplaced tail j l := fun i l => misplaced_pair ho hin hc i
  have hnone : (∀ i l, ¬ s.Misplaced tail i l) →
      ∀ i l, ¬ s.Misplaced (o :: (inner ++ c :: tail)) i l := by
    intro hno i l hbad
    obtain ⟨j, -, hbad⟩ := (hmis i l).1 hbad
    exact hno j l hbad
  have hne : s.markers (o :: (inner ++ c :: tail)) ≠ [] := by
    rw [hmarkers]
    exact List.cons_ne_nil _ _
  have hlength : (s.markers (o :: (inner ++ c :: tail))).length = (s.markers tail).length + 2 := by
    rw [hmarkers]
    rfl
  cases h with
  | @misplaced i l hat hfirst =>
    refine .misplaced ((hmis (i + 1) l).2 ⟨i, rfl, hat⟩) fun j l' hj hbad => ?_
    obtain ⟨k, rfl, hlater⟩ := (hmis j l').1 hbad
    exact hfirst k l' (Nat.lt_of_succ_lt_succ hj) hlater
  | unpaired hno hodd hlast =>
    refine .unpaired (hnone hno) (by omega) ?_
    rw [hmarkers, List.getLast?_cons_cons, List.getLast?_cons, hlast, Option.getD_some]
  | unmarked hnil =>
    have hall : afterRange inner (.ok none) =
        .ok (some (s.enclosed (o :: (inner ++ c :: tail)))) := by
      rw [henclosed, enclosed_eq_nil hnil]
      rfl
    rw [hall]
    refine .paired (hnone ?_) (by rw [hlength, hnil]; rfl) hne
    rintro i l ⟨hat, -⟩
    rw [hnil] at hat
    cases hat
  | paired hno heven hsome =>
    have hall : afterRange inner (.ok (some (s.enclosed tail))) =
        .ok (some (s.enclosed (o :: (inner ++ c :: tail)))) := by
      rw [henclosed]
      rfl
    rw [hall]
    exact .paired (hnone hno) (by omega) hne

/-- **The walk selects what the pairs do.** -/
theorem pairing_select (hasc : Ascending lines) : s.Pairing lines (s.select none false lines) := by
  -- a pair takes all lines up to its second marker, so the induction is on length
  generalize hn : lines.length = n
  induction n using Nat.strongRecOn generalizing lines with
  | ind n ih =>
    subst hn
    cases lines with
    | nil => exact .unmarked rfl
    | cons l tail =>
      by_cases hl : s.IsMarker l
      · cases ho : s.isOpen l.content with
        | false =>
          have hc : s.isClose l.content = true := by simpa [IsMarker, ho] using hl
          rw [select_misplaced ho hc]
          exact pairing_misplaced ho hc
        | true =>
          rcases Outline.split_first s.IsMarker tail with hin | ⟨inner, c, tail, rfl, hin, hc⟩
          · rw [select_open ho, select_dangling l.number true hin]
            exact pairing_dangling ho hin
          · rw [select_pair ho hin hc]
            refine pairing_pair hasc ho hin hc (ih tail.length ?_ ?_ rfl)
            · simp only [List.length_cons, List.length_append]
              omega
            · exact (List.pairwise_cons.1 (List.pairwise_append.1
                (List.pairwise_cons.1 hasc).2).2.1).2
      · rw [select_skip hl]
        exact (ih tail.length (Nat.lt_succ_self _) (List.pairwise_cons.1 hasc).2 rfl).congr
          (markers_cons_of_not hl) (enclosed_cons_of_not hasc hl)

/-- No line that is selected is a marker. -/
theorem not_isMarker_of_select {opened : Option Nat} {found : Bool} {selected : List SourceLine}
    (h : s.select opened found lines = .ok (some selected)) : ∀ l ∈ selected, ¬ s.IsMarker l := by
  induction lines generalizing opened found selected with
  | nil =>
    cases opened with
    | some n => cases h
    | none =>
      cases found with
      | false => cases h
      | true =>
        cases h
        exact List.forall_mem_nil _
  | cons l tail ih =>
    cases opened with
    | none =>
      rw [select] at h
      split at h
      · exact ih h
      · split at h
        · cases h
        · exact ih h
    | some n =>
      rw [select] at h
      split at h
      · exact ih h
      · rename_i hl
        cases hrest : s.select (some n) found tail with
        | error e => rw [hrest] at h; cases h
        | ok rest =>
          cases rest with
          | none => rw [hrest] at h; cases h
          | some rest =>
            rw [hrest] at h
            cases h
            refine List.forall_mem_cons.2 ⟨fun hm => hl (Bool.or_eq_true_iff.2 hm), ih hrest⟩

/-- **What the markers of a document select.** The lines that are selected,
and what is reported of markers out of order, are those of the markers
taken together (`Pairing`). No line selected is a marker, and their
numbers increase. The program of the document is what is selected, and
where there are no markers all of it. -/
theorem extract_iff_pairing (s : Scissors) (document : Bytes) :
    (∀ r, s.Pairing (Document.lines document) r ↔ s.extract document = r) ∧
    (∀ selected, s.extract document = .ok (some selected) →
      (∀ l ∈ selected, ¬ s.IsMarker l) ∧ Ascending selected ∧
        s.program document = .ok selected) ∧
    (s.extract document = .ok none → s.program document = .ok (Document.lines document)) ∧
    ∀ e, s.program document = .error e ↔ s.extract document = .error e := by
  have hasc : Ascending (Document.lines document) := Document.lines_ascending document
  have hpairing : s.Pairing (Document.lines document) (s.extract document) := pairing_select hasc
  refine ⟨fun r => ⟨fun h => hpairing.unique h, fun h => h ▸ hpairing⟩, ?_, ?_, ?_⟩
  · intro selected h
    refine ⟨not_isMarker_of_select h, ?_, by rw [program, h]; rfl⟩
    rw [h] at hpairing
    cases hpairing with
    | paired => exact hasc.filter _
  · intro h
    rw [program, h]
    rfl
  · intro e
    rw [program]
    cases s.extract document <;> simp [Except.map]

end Scissors

end Tangle
