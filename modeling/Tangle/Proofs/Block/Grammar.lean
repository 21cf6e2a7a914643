import Tangle.Proofs.Block.Shape
/-!
# The grammar of lines

`Grammar` says of a line and the state before it which kind the line has,
or that its header is an error, with no scanner in it: by the shapes of
lines, and in a file header by the first index where a name opens.
`classify` computes this relation (`classify_eq_iff_grammar`): on every
line without a line feed it gives the one verdict that the grammar allows.
-/

namespace Tangle

namespace Header

variable {text before name after : List Char} {i : Nat}

/-- **A name opens** at an index: a backtick stands there, none right after
it, and one that closes the name further on. -/
def OpensAt (text : List Char) (i : Nat) : Prop :=
  text[i]? = some tick ∧ text[i + 1]? ≠ some tick ∧ tick ∈ text.drop (i + 2)

/-- The name that opens at an index, up to the next backtick. -/
def nameAt (text : List Char) (i : Nat) : List Char :=
  (text.drop (i + 1)).takeWhile (· ≠ tick)

/-- What follows the backtick that closes that name. -/
def afterName (text : List Char) (i : Nat) : List Char :=
  text.drop (i + 1 + (nameAt text i).length + 1)

/-- The first index where a name opens. -/
def OpensFirst (text : List Char) (i : Nat) : Prop :=
  OpensAt text i ∧ ∀ j < i, ¬ OpensAt text j

instance : Decidable (OpensAt text i) := inferInstanceAs (Decidable (_ ∧ _ ∧ _))

instance : Decidable (OpensFirst text i) := inferInstanceAs (Decidable (_ ∧ _))

/-- A span opens a name, and holds it. -/
theorem IsSpan.opensAt (h : IsSpan text before name after) : OpensAt text before.length ∧
    nameAt text before.length = name ∧ afterName text before.length = after := by
  obtain ⟨rfl, hne, hfree⟩ := h
  have hname : nameAt (before ++ tick :: (name ++ tick :: after)) before.length = name := by
    rw [nameAt, List.drop_length_add_append, List.drop_succ_cons, List.drop_zero, (split_tick hfree).1]
  refine ⟨⟨by simp, ?_, ?_⟩, hname, ?_⟩
  · cases name with
    | nil => exact absurd rfl hne
    | cons d name =>
      have hne : d ≠ tick := fun h => hfree (h ▸ List.mem_cons_self)
      simpa using hne
  · rw [List.drop_length_add_append]
    cases name with
    | nil => exact absurd rfl hne
    | cons d name => simp
  · rw [afterName, hname, Nat.add_assoc, Nat.add_assoc, List.drop_length_add_append, Nat.add_comm 1,
      List.drop_succ_cons, List.drop_length_add_append]
    rfl

/-- A name that opens stands in a span. -/
theorem OpensAt.isSpan (h : OpensAt text i) :
    IsSpan text (text.take i) (nameAt text i) (afterName text i) ∧ (text.take i).length = i := by
  obtain ⟨htick, hne, hclose⟩ := h
  have hlong : i + 1 < text.length := by
    have := List.length_pos_of_mem hclose
    rw [List.length_drop] at this
    omega
  have hc : text[i + 1]? = some text[i + 1] := List.getElem?_eq_getElem hlong
  have hcons : ∀ {j d}, text[j]? = some d → text.drop j = d :: text.drop (j + 1) := by
    intro j d hd
    obtain ⟨hj, rfl⟩ := List.getElem?_eq_some_iff.1 hd
    exact List.drop_eq_getElem_cons hj
  have hlen : (text.take i).length = i :=
    List.length_take_of_le (Nat.le_of_lt (List.getElem?_eq_some_iff.1 htick).1)
  obtain ⟨name, after, hrest, hfree⟩ :=
    List.eq_append_cons_of_mem (hcons hc ▸ List.mem_cons_of_mem _ hclose)
  have hspan : IsSpan text (text.take i) name after := by
    refine ⟨?_, ?_, hfree⟩
    · rw [← hrest, ← hcons htick, List.take_append_drop]
    · rintro rfl
      rw [hcons hc] at hrest
      rw [hc, (List.cons.inj hrest).1] at hne
      exact hne rfl
  obtain ⟨-, hname, hafter⟩ := hspan.opensAt
  rw [hlen] at hname hafter
  exact ⟨hname.symm ▸ hafter.symm ▸ hspan, hlen⟩

/-- **The first name that opens is the leftmost span.** -/
theorem OpensFirst.isFirstSpan (h : OpensFirst text i) :
    IsFirstSpan text (nameAt text i) (afterName text i) := by
  obtain ⟨hspan, hlen⟩ := h.1.isSpan
  refine ⟨text.take i, hspan, fun b n a hs => Nat.le_of_not_lt fun hlt => ?_⟩
  rw [hlen] at hlt
  exact h.2 _ hlt hs.opensAt.1

/-- A text with a span has a first index where a name opens. -/
theorem IsFirstSpan.opensFirst (h : IsFirstSpan text name after) :
    ∃ i, OpensFirst text i ∧ nameAt text i = name ∧ afterName text i = after := by
  obtain ⟨before, hs, hmin⟩ := h
  obtain ⟨hopens, hname, hafter⟩ := hs.opensAt
  refine ⟨before.length, ⟨hopens, fun j hlt hj => ?_⟩, hname, hafter⟩
  obtain ⟨hspan, hlen⟩ := hj.isSpan
  have := hmin _ _ _ hspan
  omega

end Header

namespace SourceLine

open Header

variable {l : SourceLine}

/-- What a file header says: the text after its mark, without the blanks
at its front. -/
def said (l : SourceLine) : List Char :=
  Text.trimLeft (l.chars.drop fileMark.length)

theorem fileRest?_eq_said (hl : l.OneLine) (h : l.IsFileHeader) : fileRest? l.chars = some l.said := by
  cases hr : fileRest? l.chars with
  | none => exact absurd h ((fileRest?_eq_none_iff hl).1 hr)
  | some rest =>
    unfold fileRest? at hr
    unfold said
    split at hr
    · cases hr
    · rename_i hmark
      rw [after?_eq_some_iff.1 hmark, List.drop_left]
      exact hr.symm
    · rename_i c tail hmark
      rw [after?_eq_some_iff.1 hmark, List.drop_left]
      split at hr
      · rename_i hc
        rw [Text.trimLeft, List.dropWhile_cons_of_pos (Bool.and_eq_true_iff.1 hc).1]
        exact hr.symm
      · cases hr

end SourceLine

namespace LineKind

open Header SourceLine

/-- **The grammar of lines.** What a line is after `c`: its kind, or the
error of a header. -/
inductive Grammar (lenient : Bool) (c : Context) (l : SourceLine) : Except Error LineKind → Prop
  /-- A fence line is a fence wherever it stands. -/
  | fence : l.IsFence → Grammar lenient c l (.ok .fence)
  /-- Inside a fence every other quoted line is content, -/
  | content : c.inFence = true → ¬ l.IsFence → l.IsQuoted →
      Grammar lenient c l (.ok (.content (unquote l.raw)))
  /-- and a line without a quote mark is stray. -/
  | unquotedInside : c.inFence = true → ¬ l.IsQuoted → Grammar lenient c l (.ok .stray)
  /-- Outside, a line without a quote mark is prose. -/
  | unquoted : c.inFence = false → ¬ l.IsQuoted → Grammar lenient c l (.ok .prose)
  /-- A run header is one. -/
  | run : c.inFence = false → l.IsRunHeader → Grammar lenient c l (.ok .runHeader)
  /-- A file header where no name opens is an error at its line. -/
  | unnamed : c.inFence = false → l.IsFileHeader → (∀ i, ¬ OpensAt l.said i) →
      Grammar lenient c l (.error (.atLine l.number .headerWithoutName))
  /-- The first name that opens names the file, which is extended if the
  one word between blanks after it says so, -/
  | extending {i : Nat} : c.inFence = false → l.IsFileHeader → OpensFirst l.said i →
      Extends (afterName l.said i) →
      Grammar lenient c l (.ok (.fileHeader (String.ofList (nameAt l.said i)) .append))
  /-- and replaced if not. -/
  | replacing {i : Nat} : c.inFence = false → l.IsFileHeader → OpensFirst l.said i →
      ¬ Extends (afterName l.said i) →
      Grammar lenient c l (.ok (.fileHeader (String.ofList (nameAt l.said i)) .truncate))
  /-- Another quoted line without a header before it is prose to a lenient
  reader, -/
  | passed : c.inFence = false → l.IsQuoted → ¬ l.IsFence → ¬ l.IsHeader → lenient = true →
      c.hasHeader = false → Grammar lenient c l (.ok .prose)
  /-- and stray to any other, or after a header. -/
  | stray : c.inFence = false → l.IsQuoted → ¬ l.IsFence → ¬ l.IsHeader →
      (lenient = false ∨ c.hasHeader = true) → Grammar lenient c l (.ok .stray)

variable {l : SourceLine} {lenient : Bool} {c : Context} {r : Except Error LineKind}

/-- A file header where a name opens is read as that name. -/
theorem classify_opening {i : Nat} (hl : l.OneLine) (hc : c.inFence = false) (h : l.IsFileHeader)
    (hi : OpensFirst l.said i) : classify lenient c l = .ok (.fileHeader (String.ofList (nameAt l.said i))
      (if isContinued (afterName l.said i) then .append else .truncate)) := by
  obtain ⟨rest, hr, heq⟩ := classify_file hl h hc
  rw [fileRest?_eq_said hl h, Option.some.injEq] at hr
  rw [heq, ← hr, ofFileHeader, firstSpan?_eq_some_iff.2 hi.isFirstSpan]

/-- What the grammar says of a line is what `classify` gives. -/
theorem Grammar.classify_eq (hl : l.OneLine) (h : Grammar lenient c l r) :
    classify lenient c l = r := by
  cases h with
  | fence hf => exact classify_fence hl hf
  | content hc hf hq => exact classify_content hl hq hf hc
  | unquotedInside hc hq => rw [classify_unquoted hq, if_pos hc]
  | unquoted hc hq => rw [classify_unquoted hq, if_neg (by simp [hc])]
  | run hc hr => exact classify_run hl hr hc
  | unnamed hc hf hno =>
    obtain ⟨rest, hr, heq⟩ := classify_file hl hf hc
    rw [fileRest?_eq_said hl hf, Option.some.injEq] at hr
    rw [heq, ← hr, ofFileHeader, firstSpan?_eq_none_iff.2 fun b n a hs => hno _ hs.opensAt.1]
  | extending hc hf hi he => rw [classify_opening hl hc hf hi, if_pos (isContinued_iff.2 he)]
  | replacing hc hf hi he =>
    rw [classify_opening hl hc hf hi, if_neg fun h => he (isContinued_iff.1 h)]
  | passed hc hq hf hh hlen hno => rw [classify_other hl hq hf hh hc, if_pos (by simp [hlen, hno])]
  | stray hc hq hf hh hor =>
    rw [classify_other hl hq hf hh hc, if_neg (by rcases hor with h | h <;> simp [h])]

/-- The grammar says something of every line in every state. -/
theorem exists_grammar (lenient : Bool) (c : Context) (l : SourceLine) :
    ∃ r, Grammar lenient c l r := by
  -- shape before state: a fence is one in every state
  by_cases hf : l.IsFence
  · exact ⟨_, .fence hf⟩
  by_cases hq : l.IsQuoted
  swap
  · cases hc : c.inFence with
    | true => exact ⟨_, .unquotedInside hc hq⟩
    | false => exact ⟨_, .unquoted hc hq⟩
  cases hc : c.inFence with
  | true => exact ⟨_, .content hc hf hq⟩
  | false =>
    by_cases hr : l.IsRunHeader
    · exact ⟨_, .run hc hr⟩
    by_cases hh : l.IsFileHeader
    · cases hs : firstSpan? l.said with
      | none =>
        exact ⟨_, .unnamed hc hh fun i hi => firstSpan?_eq_none_iff.1 hs _ _ _ hi.isSpan.1⟩
      | some found =>
        obtain ⟨i, hi, -⟩ := (firstSpan?_eq_some_iff.1 hs).opensFirst
        by_cases he : Extends (afterName l.said i)
        · exact ⟨_, .extending hc hh hi he⟩
        · exact ⟨_, .replacing hc hh hi he⟩
    · have hno : ¬ l.IsHeader := not_or.2 ⟨hr, hh⟩
      by_cases hp : lenient = true ∧ c.hasHeader = false
      · exact ⟨_, .passed hc hq hf hno hp.1 hp.2⟩
      · refine ⟨_, .stray hc hq hf hno ?_⟩
        rw [not_and_or] at hp
        simpa using hp

/-- **Lines are classified by the grammar**: on a line without a line
feed `classify` gives, in every state, what the grammar says of it and
nothing else. -/
theorem classify_eq_iff_grammar (hl : l.OneLine) :
    classify lenient c l = r ↔ Grammar lenient c l r := by
  refine ⟨?_, Grammar.classify_eq hl⟩
  rintro rfl
  obtain ⟨r, h⟩ := exists_grammar lenient c l
  rwa [h.classify_eq hl]

/-- A run of backticks before a name: the span that is not empty begins
at the second of them, and the word after the name goes unread. -/
def tickedHeader : SourceLine := .ofText 3 "> File say `` `a b` continued"

/-- Between blanks of any kind the word extends the file. -/
def extendingHeader : SourceLine := .ofText 4 "> File\u2003see `a b`\u3000continued\u00a0"

theorem headers_classified :
    classify false .zero tickedHeader = .ok (.fileHeader " " .truncate) ∧
    classify true .zero extendingHeader = .ok (.fileHeader "a b" .append) := by
  have hticked : tickedHeader.IsFileHeader := by
    refine ⟨by decide, ?_⟩
    rintro c ⟨⟩
    decide
  have hextending : extendingHeader.IsFileHeader := by
    refine ⟨by decide, ?_⟩
    rintro c ⟨⟩
    decide
  exact ⟨(classify_eq_iff_grammar (by decide)).2 (.replacing (i := 5) rfl hticked (by decide)
      fun h => absurd (isContinued_iff.2 h) (by decide)),
    (classify_eq_iff_grammar (by decide)).2 (.extending (i := 4) rfl hextending (by decide)
      (isContinued_iff.1 (by decide)))⟩

end LineKind

end Tangle
