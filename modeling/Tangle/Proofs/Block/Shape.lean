import Tangle.Block.LineKind
import Tangle.Proofs.Block.Span
/-!
# Shapes of lines

What a fence, a run header and a file header look like, said without a
scanner: a mark in front and a condition on what follows it. The
recognisers of `Header` are then proved to find these shapes in every
line without a line feed, and `classify` is read off shape by shape.
-/

namespace Tangle

namespace SourceLine

open Header

/-- The characters of a line. -/
abbrev chars (l : SourceLine) : List Char := l.content.toList

/-- The text of a line has no line feed. -/
def OneLine (l : SourceLine) : Prop := '\n' ∉ l.chars

/-- A quoted line starts with `>`. -/
def IsQuoted (l : SourceLine) : Prop := l.chars.head? = some '>'

/-- **A fence line** is `> ` and three backticks, and no fourth. -/
def IsFence (l : SourceLine) : Prop :=
  fenceMark <+: l.chars ∧ l.chars[fenceMark.length]? ≠ some tick

/-- **A run header** is `> Run` and blanks. -/
def IsRunHeader (l : SourceLine) : Prop :=
  runMark <+: l.chars ∧ ∀ c ∈ l.chars.drop runMark.length, Text.isBlank c

/-- **A file header** is `> File` at the end of the line or before a blank. -/
def IsFileHeader (l : SourceLine) : Prop :=
  fileMark <+: l.chars ∧ ∀ c ∈ l.chars[fileMark.length]?, Text.isBlank c

/-- The line is a header of one of the two kinds. -/
def IsHeader (l : SourceLine) : Prop := l.IsRunHeader ∨ l.IsFileHeader

/-- Some backtick span stands in the line. -/
def HasSpan (l : SourceLine) : Prop := ∃ before name after, IsSpan l.chars before name after

/-- The line names a file, with what is said after the name. -/
def Names (l : SourceLine) (name after : List Char) : Prop := IsFirstSpan l.chars name after

instance (l : SourceLine) : Decidable l.OneLine := inferInstanceAs (Decidable (¬ _))

instance (l : SourceLine) : Decidable l.IsQuoted := inferInstanceAs (Decidable (_ = _))

instance (l : SourceLine) : Decidable l.IsFence := inferInstanceAs (Decidable (_ ∧ _))

variable {l : SourceLine}

theorem isFence_iff (h : l.OneLine) : isFence l.chars = true ↔ l.IsFence := by
  unfold isFence IsFence
  cases hmark : after? fenceMark l.chars with
  | none => simp [after?_eq_none_iff.1 hmark]
  | some tag =>
    have heq := after?_eq_some_iff.1 hmark
    rw [OneLine, heq, List.mem_append, not_or] at h
    rw [heq, List.getElem?_append_right (Nat.le_refl _), Nat.sub_self]
    cases tag with
    | nil => simp [isTag]
    | cons c rest =>
      have hrest : '\n' ∉ rest := fun hm => h.2 (List.mem_cons_of_mem _ hm)
      simp [isTag, hrest]

theorem isRun_iff : isRun l.chars = true ↔ l.IsRunHeader := by
  unfold isRun IsRunHeader
  cases hmark : after? runMark l.chars with
  | none => simp [after?_eq_none_iff.1 hmark]
  | some rest =>
    rw [after?_eq_some_iff.1 hmark, List.drop_left]
    simp

theorem fileRest?_eq_none_iff (h : l.OneLine) : fileRest? l.chars = none ↔ ¬ l.IsFileHeader := by
  unfold fileRest? IsFileHeader
  cases hmark : after? fileMark l.chars with
  | none => simp [after?_eq_none_iff.1 hmark]
  | some rest =>
    have heq := after?_eq_some_iff.1 hmark
    rw [OneLine, heq, List.mem_append, not_or] at h
    rw [heq, List.getElem?_append_right (Nat.le_refl _), Nat.sub_self]
    cases rest with
    | nil => simp
    | cons c rest =>
      have hrest : '\n' ∉ Text.trimLeft rest := fun hm =>
        h.2 (List.mem_cons_of_mem _ ((List.dropWhile_sublist _).subset hm))
      by_cases hc : Text.isBlank c = true <;> simp [hrest, hc]

/-- What a file header says stands after a front without backticks. -/
theorem eq_append_fileRest {rest : List Char} (h : fileRest? l.chars = some rest) :
    ∃ front, l.chars = front ++ rest ∧ tick ∉ front := by
  unfold fileRest? at h
  split at h
  · cases h
  · rename_i hmark
    injection h with h
    exact ⟨fileMark, h ▸ after?_eq_some_iff.1 hmark, by decide⟩
  · rename_i c tail hmark
    split at h
    · rename_i hc
      injection h with h
      have hblank : Text.isBlank c = true := (Bool.and_eq_true_iff.1 hc).1
      refine ⟨fileMark ++ c :: tail.takeWhile Text.isBlank, ?_, fun hm => ?_⟩
      · rw [after?_eq_some_iff.1 hmark, List.append_assoc, List.cons_append, ← h, Text.trimLeft,
          List.takeWhile_append_dropWhile]
      · have hall : ∀ d ∈ c :: tail.takeWhile Text.isBlank, Text.isBlank d = true :=
          List.forall_mem_cons.2 ⟨hblank, fun d hd => List.all_eq_true.1 List.all_takeWhile d hd⟩
        rcases List.mem_append.1 hm with hm | hm
        · exact absurd hm (by decide)
        · exact absurd (hall tick hm) (by decide)
    · cases h

/-! ## Which shapes exclude each other -/

theorem chars_of_isQuoted (h : l.IsQuoted) : ∃ rest, l.chars = '>' :: rest := by
  rw [IsQuoted] at h
  cases hl : l.chars with
  | nil => rw [hl] at h; cases h
  | cons c rest =>
    rw [hl, List.head?_cons, Option.some.injEq] at h
    exact ⟨rest, by rw [h]⟩

theorem IsFence.isQuoted (h : l.IsFence) : l.IsQuoted := by
  obtain ⟨rest, heq⟩ := h.1
  unfold IsQuoted
  rw [← heq]
  rfl

theorem IsRunHeader.isQuoted (h : l.IsRunHeader) : l.IsQuoted := by
  obtain ⟨rest, heq⟩ := h.1
  unfold IsQuoted
  rw [← heq]
  rfl

theorem IsFileHeader.isQuoted (h : l.IsFileHeader) : l.IsQuoted := by
  obtain ⟨rest, heq⟩ := h.1
  unfold IsQuoted
  rw [← heq]
  rfl

theorem IsHeader.isQuoted (h : l.IsHeader) : l.IsQuoted :=
  h.elim IsRunHeader.isQuoted IsFileHeader.isQuoted

/-- The marks of two shapes differ within their first three characters. -/
theorem not_marked_of_marked {m₁ m₂ : List Char} (hne : m₁.take 3 ≠ m₂.take 3) (h₁ : 3 ≤ m₁.length)
    (h₂ : 3 ≤ m₂.length) (h : m₁ <+: l.chars) : ¬ m₂ <+: l.chars := by
  rintro ⟨r₂, e₂⟩
  obtain ⟨r₁, e₁⟩ := h
  apply hne
  have := congrArg (List.take 3) (e₁.trans e₂.symm)
  rwa [List.take_append_of_le_length h₁, List.take_append_of_le_length h₂] at this

theorem IsRunHeader.not_isFence (h : l.IsRunHeader) : ¬ l.IsFence := fun hf =>
  not_marked_of_marked (by decide) (by decide) (by decide) h.1 hf.1

theorem IsFileHeader.not_isFence (h : l.IsFileHeader) : ¬ l.IsFence := fun hf =>
  not_marked_of_marked (by decide) (by decide) (by decide) h.1 hf.1

theorem IsFileHeader.not_isRunHeader (h : l.IsFileHeader) : ¬ l.IsRunHeader := fun hr =>
  not_marked_of_marked (by decide) (by decide) (by decide) h.1 hr.1

end SourceLine

namespace LineKind

open Header SourceLine

variable {l : SourceLine} {lenient : Bool} {c : Context} {name after : List Char}

/-! ## What `classify` makes of each shape -/

theorem classify_unquoted (h : ¬ l.IsQuoted) :
    classify lenient c l = .ok (if c.inFence then .stray else .prose) := by
  unfold classify
  exact if_pos h

/-- A quoted line is tried as a fence, as content, as a run header and as
a file header, in this order. -/
theorem classify_quoted (hq : l.IsQuoted) : classify lenient c l =
    if isFence l.chars then .ok .fence
    else if c.inFence then .ok (.content (unquote l.raw))
    else if isRun l.chars then .ok .runHeader
    else
      match fileRest? l.chars with
      | some rest => ofFileHeader l.number rest
      | none => .ok (if lenient && !c.hasHeader then .prose else .stray) := by
  unfold classify
  exact if_neg (not_not_intro hq)

theorem classify_fence (hl : l.OneLine) (h : l.IsFence) : classify lenient c l = .ok .fence := by
  rw [classify_quoted h.isQuoted, if_pos ((isFence_iff hl).2 h)]

theorem classify_content (hl : l.OneLine) (hq : l.IsQuoted) (hf : ¬ l.IsFence)
    (hc : c.inFence = true) : classify lenient c l = .ok (.content (unquote l.raw)) := by
  rw [classify_quoted hq, if_neg (fun h => hf ((isFence_iff hl).1 h)), if_pos hc]

/-- Outside a fence a quoted line that is no fence is a header or none. -/
theorem classify_outside (hl : l.OneLine) (hq : l.IsQuoted) (hf : ¬ l.IsFence)
    (hc : c.inFence = false) : classify lenient c l =
    if isRun l.chars then .ok .runHeader
    else
      match fileRest? l.chars with
      | some rest => ofFileHeader l.number rest
      | none => .ok (if lenient && !c.hasHeader then .prose else .stray) := by
  rw [classify_quoted hq, if_neg (fun h => hf ((isFence_iff hl).1 h)), if_neg (by simp [hc])]

theorem classify_run (hl : l.OneLine) (h : l.IsRunHeader) (hc : c.inFence = false) :
    classify lenient c l = .ok .runHeader := by
  rw [classify_outside hl h.isQuoted h.not_isFence hc, if_pos (isRun_iff.2 h)]

/-- A file header is read for its name. -/
theorem classify_file (hl : l.OneLine) (h : l.IsFileHeader) (hc : c.inFence = false) :
    ∃ rest, fileRest? l.chars = some rest ∧ classify lenient c l = ofFileHeader l.number rest := by
  cases hr : fileRest? l.chars with
  | none => exact absurd h ((fileRest?_eq_none_iff hl).1 hr)
  | some rest =>
    refine ⟨rest, rfl, ?_⟩
    rw [classify_outside hl h.isQuoted h.not_isFence hc,
      if_neg (fun hrun => h.not_isRunHeader (isRun_iff.1 hrun)), hr]

theorem classify_named (hl : l.OneLine) (h : l.IsFileHeader) (hn : l.Names name after)
    (hc : c.inFence = false) : classify lenient c l =
      .ok (.fileHeader (String.ofList name) (if isContinued after then .append else .truncate)) := by
  obtain ⟨rest, hr, heq⟩ := classify_file hl h hc
  obtain ⟨front, hsplit, hfree⟩ := eq_append_fileRest hr
  rw [Names, hsplit, isFirstSpan_append_iff hfree] at hn
  rw [heq, ofFileHeader, firstSpan?_eq_some_iff.2 hn]

theorem classify_unnamed (hl : l.OneLine) (h : l.IsFileHeader) (hn : ¬ l.HasSpan)
    (hc : c.inFence = false) : classify lenient c l = .error (.atLine l.number .headerWithoutName) := by
  obtain ⟨rest, hr, heq⟩ := classify_file hl h hc
  obtain ⟨front, hsplit, hfree⟩ := eq_append_fileRest hr
  have hnone : firstSpan? rest = none := firstSpan?_eq_none_iff.2 fun b n a hs =>
    hn ⟨front ++ b, n, a, hsplit ▸ (isSpan_append_iff hfree).2 ⟨b, rfl, hs⟩⟩
  rw [heq, ofFileHeader, hnone]

theorem classify_other (hl : l.OneLine) (hq : l.IsQuoted) (hf : ¬ l.IsFence) (hh : ¬ l.IsHeader)
    (hc : c.inFence = false) :
    classify lenient c l = .ok (if lenient && !c.hasHeader then .prose else .stray) := by
  rw [classify_outside hl hq hf hc, if_neg (fun h => hh (Or.inl (isRun_iff.1 h))),
    (fileRest?_eq_none_iff hl).2 fun h => hh (Or.inr h)]

/-- A line that has a span has a leftmost one. -/
theorem exists_names (h : l.HasSpan) : ∃ name after, l.Names name after := by
  cases hf : firstSpan? l.chars with
  | none =>
    obtain ⟨b, n, a, hs⟩ := h
    exact absurd hs (firstSpan?_eq_none_iff.1 hf b n a)
  | some found => exact ⟨found.1, found.2, firstSpan?_eq_some_iff.1 hf⟩

end LineKind

end Tangle
