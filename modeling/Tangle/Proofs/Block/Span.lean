import Tangle.Block.Header
import Mathlib.Data.List.Basic
/-!
# Backtick spans and the words around them

The name in a file header is the leftmost backtick span of its text:
between two backticks, not empty, without a backtick of its own. What
follows the name extends the file if it is one word between blanks.
`firstSpan?` scans for the former and `isContinued` trims for the latter;
both are proved here to find what is described, and `after?` to split a
text at its mark.
-/

namespace Tangle

namespace Header

/-- **A backtick span.** `name` stands in `text` between two backticks,
after `before` and followed by `after`; it is not empty and has no
backtick in it. -/
structure IsSpan (text before name after : List Char) : Prop where
  eq : text = before ++ tick :: (name ++ tick :: after)
  ne_nil : name ≠ []
  free : tick ∉ name

/-- The leftmost backtick span of a text. -/
def IsFirstSpan (text name after : List Char) : Prop :=
  ∃ before, IsSpan text before name after ∧ ∀ b n a, IsSpan text b n a → before.length ≤ b.length

/-- What follows a name extends the file: one word between blanks. -/
def Extends (after : List Char) : Prop :=
  ∃ front back, after = front ++ continuedWord ++ back ∧
    (∀ c ∈ front, Text.isBlank c) ∧ ∀ c ∈ back, Text.isBlank c

variable {text before name after b n a : List Char}

/-! ## Spans -/

/-- A text up to a backtick, and from it on. -/
theorem split_tick (hn : tick ∉ n) : (n ++ tick :: a).takeWhile (· ≠ tick) = n ∧
    (n ++ tick :: a).dropWhile (· ≠ tick) = tick :: a := by
  have hall : ∀ c ∈ n, decide (c ≠ tick) = true := fun c hc => decide_eq_true fun h => hn (h ▸ hc)
  rw [List.takeWhile_append_of_pos hall, List.dropWhile_append_of_pos hall]
  simp

/-- Two spans that start at the same place are the same. -/
theorem IsSpan.unique {b₁ b₂ n₁ n₂ a₁ a₂ : List Char} (h₁ : IsSpan text b₁ n₁ a₁)
    (h₂ : IsSpan text b₂ n₂ a₂) (hlen : b₁.length = b₂.length) : n₁ = n₂ ∧ a₁ = a₂ := by
  obtain ⟨-, htail⟩ := List.append_inj (h₁.eq.symm.trans h₂.eq) hlen
  injection htail with _ htail
  obtain ⟨hn₁, ha₁⟩ := split_tick (a := a₁) h₁.free
  obtain ⟨hn₂, ha₂⟩ := split_tick (a := a₂) h₂.free
  rw [htail] at hn₁ ha₁
  refine ⟨hn₁.symm.trans hn₂, ?_⟩
  injection ha₁.symm.trans ha₂

/-- The leftmost span of a text is unique. -/
theorem IsFirstSpan.unique {n₁ n₂ a₁ a₂ : List Char} (h₁ : IsFirstSpan text n₁ a₁)
    (h₂ : IsFirstSpan text n₂ a₂) : n₁ = n₂ ∧ a₁ = a₂ := by
  obtain ⟨b₁, hs₁, hmin₁⟩ := h₁
  obtain ⟨b₂, hs₂, hmin₂⟩ := h₂
  exact hs₁.unique hs₂ (Nat.le_antisymm (hmin₁ _ _ _ hs₂) (hmin₂ _ _ _ hs₁))

/-- A span at the very front is cut off at the next backtick. -/
theorem isSpan_nil_iff {c : Char} : IsSpan (c :: text) [] n a ↔
    c = tick ∧ n ≠ [] ∧ text.takeWhile (· ≠ tick) = n ∧ text.dropWhile (· ≠ tick) = tick :: a := by
  constructor
  · rintro ⟨heq, hne, hfree⟩
    injection heq with hc heq
    obtain ⟨htake, hdrop⟩ := split_tick (a := a) hfree
    rw [← heq] at htake hdrop
    exact ⟨hc, hne, htake, hdrop⟩
  · rintro ⟨rfl, hne, htake, hdrop⟩
    refine ⟨?_, hne, ?_⟩
    · rw [List.nil_append, ← htake, ← hdrop, List.takeWhile_append_dropWhile]
    · intro h
      rw [← htake] at h
      simpa using List.all_eq_true.1 List.all_takeWhile _ h

/-- A span further on is one of the rest. -/
theorem isSpan_cons_iff {c d : Char} : IsSpan (c :: text) (d :: b) n a ↔
    c = d ∧ IsSpan text b n a := by
  constructor
  · rintro ⟨heq, hne, hfree⟩
    injection heq with hc heq
    exact ⟨hc, heq, hne, hfree⟩
  · rintro ⟨rfl, heq, hne, hfree⟩
    exact ⟨by rw [heq]; rfl, hne, hfree⟩

/-- A text without backticks in front moves a span and changes nothing. -/
theorem isSpan_append_iff {p : List Char} (hp : tick ∉ p) :
    IsSpan (p ++ text) b n a ↔ ∃ b', b = p ++ b' ∧ IsSpan text b' n a := by
  induction p generalizing b with
  | nil => simp
  | cons c p ih =>
    simp only [List.mem_cons, not_or] at hp
    cases b with
    | nil =>
      rw [List.cons_append, isSpan_nil_iff]
      exact ⟨fun h => absurd h.1.symm hp.1, by rintro ⟨b', hb, -⟩; cases hb⟩
    | cons d b =>
      rw [List.cons_append, isSpan_cons_iff, ih hp.2]
      constructor
      · rintro ⟨rfl, b', rfl, hs⟩
        exact ⟨b', rfl, hs⟩
      · rintro ⟨b', hb, hs⟩
        injection hb with hd hb
        exact ⟨hd.symm, b', hb, hs⟩

/-- Nor does it change which span is the leftmost. -/
theorem isFirstSpan_append_iff {p : List Char} (hp : tick ∉ p) :
    IsFirstSpan (p ++ text) n a ↔ IsFirstSpan text n a := by
  constructor
  · rintro ⟨b, hs, hmin⟩
    obtain ⟨b', rfl, hs'⟩ := (isSpan_append_iff hp).1 hs
    refine ⟨b', hs', fun c m d h => ?_⟩
    have := hmin _ _ _ ((isSpan_append_iff hp).2 ⟨c, rfl, h⟩)
    simp only [List.length_append] at this
    omega
  · rintro ⟨b, hs, hmin⟩
    refine ⟨p ++ b, (isSpan_append_iff hp).2 ⟨b, rfl, hs⟩, fun c m d h => ?_⟩
    obtain ⟨c', rfl, h'⟩ := (isSpan_append_iff hp).1 h
    have := hmin _ _ _ h'
    simp only [List.length_append]
    omega

/-! ## The scanner finds the leftmost span -/

/-- One step of the scanner: a span at the front, or the search goes on. -/
theorem firstSpan?_cons (c : Char) (text : List Char) :
    (∃ n a, IsSpan (c :: text) [] n a ∧ firstSpan? (c :: text) = some (n, a)) ∨
      (∀ n a, ¬ IsSpan (c :: text) [] n a) ∧ firstSpan? (c :: text) = firstSpan? text := by
  rw [firstSpan?]
  by_cases hc : c = tick
  · rw [if_pos hc]
    split
    · rename_i d span e after htake hdrop
      have he : e = tick := by
        have := List.head?_dropWhile_not (fun c => decide (c ≠ tick)) text
        rw [hdrop] at this
        simpa using this
      exact Or.inl ⟨_, _, isSpan_nil_iff.2 ⟨hc, by simp, htake, he ▸ hdrop⟩, rfl⟩
    · rename_i hno
      refine Or.inr ⟨fun n a h => ?_, rfl⟩
      obtain ⟨-, hne, htake, hdrop⟩ := isSpan_nil_iff.1 h
      cases n with
      | nil => exact hne rfl
      | cons d n => exact hno _ _ _ _ htake hdrop
  · rw [if_neg hc]
    exact Or.inr ⟨fun n a h => hc (isSpan_nil_iff.1 h).1, rfl⟩

/-- **What the scanner finds is the leftmost span.** -/
theorem isFirstSpan_of_firstSpan? (h : firstSpan? text = some (n, a)) : IsFirstSpan text n a := by
  induction text with
  | nil => simp [firstSpan?] at h
  | cons c text ih =>
    rcases firstSpan?_cons c text with ⟨n', a', hs, heq⟩ | ⟨hno, heq⟩
    · rw [heq, Option.some.injEq, Prod.mk.injEq] at h
      obtain ⟨rfl, rfl⟩ := h
      exact ⟨[], hs, fun _ _ _ _ => Nat.zero_le _⟩
    · obtain ⟨b, hs, hmin⟩ := ih (heq ▸ h)
      refine ⟨c :: b, isSpan_cons_iff.2 ⟨rfl, hs⟩, fun b' n' a' hs' => ?_⟩
      cases b' with
      | nil => exact absurd hs' (hno n' a')
      | cons d b' => exact Nat.succ_le_succ (hmin _ _ _ (isSpan_cons_iff.1 hs').2)

/-- **Where it finds none, there is none.** -/
theorem firstSpan?_eq_none_iff : firstSpan? text = none ↔ ∀ b n a, ¬ IsSpan text b n a := by
  induction text with
  | nil =>
    refine iff_of_true rfl fun b n a h => ?_
    simpa using congrArg List.length h.eq
  | cons c text ih =>
    rcases firstSpan?_cons c text with ⟨n, a, hs, heq⟩ | ⟨hno, heq⟩
    · rw [heq]
      exact iff_of_false (by simp) fun h => h _ _ _ hs
    · rw [heq, ih]
      constructor
      · intro h b n a hs
        cases b with
        | nil => exact hno n a hs
        | cons d b => exact h _ _ _ (isSpan_cons_iff.1 hs).2
      · exact fun h b n a hs => h (c :: b) n a (isSpan_cons_iff.2 ⟨rfl, hs⟩)

theorem firstSpan?_eq_some_iff : firstSpan? text = some (n, a) ↔ IsFirstSpan text n a := by
  refine ⟨isFirstSpan_of_firstSpan?, fun h => ?_⟩
  cases hf : firstSpan? text with
  | none =>
    obtain ⟨b, hs, -⟩ := h
    exact absurd hs (firstSpan?_eq_none_iff.1 hf b n a)
  | some found =>
    obtain ⟨rfl, rfl⟩ := (isFirstSpan_of_firstSpan? hf).unique h
    rfl

/-! ## Marks and words -/

theorem after?_eq_some_iff {mark rest : List Char} : after? mark text = some rest ↔ text = mark ++ rest := by
  unfold after?
  constructor
  · intro h
    split at h
    · rename_i hp
      obtain ⟨tail, rfl⟩ := List.isPrefixOf_iff_prefix.1 hp
      rw [List.drop_left, Option.some.injEq] at h
      rw [h]
    · cases h
  · rintro rfl
    rw [if_pos (List.isPrefixOf_iff_prefix.2 (List.prefix_append _ _)), List.drop_left]

theorem after?_eq_none_iff {mark : List Char} : after? mark text = none ↔ ¬ mark <+: text := by
  rw [after?, ← List.isPrefixOf_iff_prefix]
  split <;> simp_all

/-- Between blanks, a word without blanks at its ends is what trimming
leaves. -/
theorem trim_between {front word back : List Char} {c d : Char} (hf : ∀ c ∈ front, Text.isBlank c)
    (hb : ∀ c ∈ back, Text.isBlank c) (hc : word.head? = some c) (hd : word.getLast? = some d)
    (hcn : Text.isBlank c = false) (hdn : Text.isBlank d = false) :
    Text.trim (front ++ word ++ back) = word := by
  have hleft : Text.trimLeft (front ++ word ++ back) = word ++ back := by
    rw [Text.trimLeft, List.append_assoc, List.dropWhile_append_of_pos hf]
    cases word with
    | nil => cases hc
    | cons e word =>
      rw [List.head?_cons, Option.some.injEq] at hc
      rw [List.cons_append, List.dropWhile_cons_of_neg (by rw [hc, hcn]; decide)]
  have hright : Text.trimLeft (word ++ back).reverse = word.reverse := by
    rw [Text.trimLeft, List.reverse_append,
      List.dropWhile_append_of_pos fun c h => hb c (List.mem_reverse.1 h)]
    rw [List.getLast?_eq_head?_reverse] at hd
    cases hw : word.reverse with
    | nil => rw [hw] at hd; cases hd
    | cons e rest =>
      rw [hw, List.head?_cons, Option.some.injEq] at hd
      rw [List.dropWhile_cons_of_neg (by rw [hd, hdn]; decide)]
  rw [Text.trim, hleft, hright, List.reverse_reverse]

/-- Trimming takes blanks from the two ends and nothing else. -/
theorem eq_trim_between (text : List Char) : ∃ front back, text = front ++ Text.trim text ++ back ∧
    (∀ c ∈ front, Text.isBlank c) ∧ ∀ c ∈ back, Text.isBlank c := by
  have cut : ∀ s : List Char, s = s.takeWhile Text.isBlank ++ Text.trimLeft s := fun s =>
    (List.takeWhile_append_dropWhile).symm
  refine ⟨text.takeWhile Text.isBlank, ((Text.trimLeft text).reverse.takeWhile Text.isBlank).reverse,
    ?_, fun c hc => List.all_eq_true.1 List.all_takeWhile c hc,
    fun c hc => List.all_eq_true.1 List.all_takeWhile c (List.mem_reverse.1 hc)⟩
  rw [Text.trim, List.append_assoc, ← List.reverse_append, ← cut, List.reverse_reverse, ← cut]

theorem isContinued_iff : isContinued a = true ↔ Extends a := by
  rw [isContinued, decide_eq_true_iff]
  constructor
  · intro h
    obtain ⟨front, back, heq, hf, hb⟩ := eq_trim_between a
    exact ⟨front, back, h ▸ heq, hf, hb⟩
  · rintro ⟨front, back, rfl, hf, hb⟩
    exact trim_between hf hb (c := 'c') (d := 'd') rfl rfl rfl rfl

end Header

end Tangle
