import Tangle.Text.Line
import Tangle.Proofs.Text.Utf8
/-!
# Lines written and cut

A document written line by line, each line ended by a carriage return and
a line feed, is cut into the same lines, carriage returns at the end of a
line included: only the last one before the line feed is part of its end.
-/

namespace Tangle

/-- The numbers of the lines increase. -/
def SourceLine.Ascending (lines : List SourceLine) : Prop :=
  lines.Pairwise fun a b => a.number < b.number

namespace Document

/-- The end of a written line. -/
def lineEnd : Bytes := [carriageReturn, lineFeed]

/-- The document that has these lines. -/
def ofLines (lines : List Bytes) : Bytes :=
  lines.flatMap (· ++ lineEnd)

/-- Lines with numbers from `n` on. -/
def numbered (n : Nat) (lines : List Bytes) : List SourceLine :=
  (lines.zipIdx n).map fun (raw, number) => SourceLine.ofBytes number raw

/-- A list without `a` at its end, if it ends so. -/
def dropEnd {α : Type} [DecidableEq α] (a : α) (xs : List α) : List α :=
  if xs.getLast? = some a then xs.dropLast else xs

variable {line : Bytes} {ls later : List Bytes} {n : Nat}

section DropEnd

variable {α : Type} [DecidableEq α] {a b c : α} {xs : List α}

theorem dropEnd_of_ne (h : xs.getLast? ≠ some a) : dropEnd a xs = xs := if_neg h

theorem dropEnd_concat (xs : List α) (a : α) : dropEnd a (xs ++ [a]) = xs := by
  rw [dropEnd, if_pos List.getLast?_concat, List.dropLast_concat]

theorem dropEnd_cons_cons : dropEnd a (b :: c :: xs) = b :: dropEnd a (c :: xs) := by
  rw [dropEnd, dropEnd, List.getLast?_cons_cons, List.dropLast_cons_cons]
  split <;> rfl

/-- What is left and what may have been dropped. -/
theorem eq_dropEnd (a : α) (xs : List α) : xs = dropEnd a xs ∨ xs = dropEnd a xs ++ [a] := by
  by_cases h : xs.getLast? = some a
  · obtain ⟨ys, rfl⟩ := List.getLast?_eq_some_iff.1 h
    rw [dropEnd_concat]
    exact Or.inr rfl
  · exact Or.inl (dropEnd_of_ne h).symm

end DropEnd

/-- **A line ends at its line feed**, and one carriage return before that is
part of the end. -/
theorem splitLines_append (h : lineFeed ∉ line) (rest : Bytes) :
    splitLines (line ++ lineFeed :: rest) = dropEnd carriageReturn line :: splitLines rest := by
  induction line with
  | nil => rw [List.nil_append, splitLines, if_pos rfl]; rfl
  | cons b line ih =>
    rw [List.mem_cons, not_or] at h
    rw [List.cons_append, splitLines, if_neg (Ne.symm h.1), ih h.2]
    cases line with
    | nil =>
      by_cases hb : b = carriageReturn
      · subst hb
        exact if_pos ⟨rfl, rfl⟩
      · have hlast : [b].getLast? ≠ some carriageReturn := fun h => hb (Option.some.inj h)
        rw [dropEnd_of_ne hlast]
        exact if_neg fun hcr => hb hcr.1
    | cons d line =>
      -- a carriage return further to the front is not before the line feed
      have hd : d ≠ lineFeed := fun h' => h.2 (h' ▸ List.mem_cons_self)
      rw [dropEnd_cons_cons]
      exact if_neg fun hcr => hd (Option.some.inj hcr.2)

theorem splitLines_line (h : lineFeed ∉ line) (rest : Bytes) :
    splitLines (line ++ lineEnd ++ rest) = line :: splitLines rest := by
  have hreturn : lineFeed ∉ line ++ [carriageReturn] := by
    rw [List.mem_append, not_or]
    exact ⟨h, by decide⟩
  rw [show line ++ lineEnd ++ rest = (line ++ [carriageReturn]) ++ lineFeed :: rest by simp [lineEnd],
    splitLines_append hreturn, dropEnd_concat]

/-- **A written document is cut into its lines.** -/
theorem splitLines_ofLines (h : ∀ l ∈ ls, lineFeed ∉ l) : splitLines (ofLines ls) = ls := by
  induction ls with
  | nil => rfl
  | cons l ls ih =>
    obtain ⟨hl, hls⟩ := List.forall_mem_cons.1 h
    rw [ofLines, List.flatMap_cons, splitLines_line hl, ← ofLines, ih hls]

theorem carriageReturn_notMem_encodeChar {c : Char} (hc : c ≠ '\r') :
    carriageReturn ∉ String.utf8EncodeChar c := by
  intro hmem
  have hval : c.toNat = 13 := Utf8.mem_encodeChar (by decide) hmem
  exact hc (by rw [← Char.ofNat_toNat c, hval])

/-- **A text ends in a carriage return where its bytes do.** -/
theorem dropEnd_encode (text : List Char) :
    dropEnd carriageReturn (Utf8.encode text) = Utf8.encode (dropEnd '\r' text) := by
  rcases List.eq_nil_or_concat' text with rfl | ⟨init, c, rfl⟩
  · rfl
  · have hencode : Utf8.encode (init ++ [c]) = Utf8.encode init ++ String.utf8EncodeChar c := by
      rw [Utf8.encode, List.flatMap_append, List.flatMap_singleton, Utf8.encode]
    by_cases hc : c = '\r'
    · subst hc
      rw [dropEnd_concat, hencode]
      exact dropEnd_concat _ _
    · have hchar : (init ++ [c]).getLast? ≠ some '\r' := by
        rw [List.getLast?_concat]
        exact fun h => hc (Option.some.inj h)
      have hbyte : (Utf8.encode (init ++ [c])).getLast? ≠ some carriageReturn := by
        rw [hencode, List.getLast?_append]
        cases hlast : (String.utf8EncodeChar c).getLast? with
        | none => exact absurd (List.getLast?_eq_none_iff.1 hlast) String.utf8EncodeChar_ne_nil
        | some b =>
          intro h
          obtain rfl : b = carriageReturn := Option.some.inj h
          exact carriageReturn_notMem_encodeChar hc (List.mem_of_getLast? hlast)
      rw [dropEnd_of_ne hchar, dropEnd_of_ne hbyte]

/-- Lines each ended by a line feed alone lose a carriage return at their
end. -/
theorem splitLines_joined (h : ∀ l ∈ ls, lineFeed ∉ l) :
    splitLines (ls.flatMap (· ++ [lineFeed])) = ls.map (dropEnd carriageReturn) := by
  induction ls with
  | nil => rfl
  | cons l ls ih =>
    obtain ⟨hl, hls⟩ := List.forall_mem_cons.1 h
    rw [List.flatMap_cons, List.append_assoc, List.singleton_append, splitLines_append hl, ih hls,
      List.map_cons]

/-- Text without a line feed is written without one. -/
theorem lineFeed_notMem_encode {text : List Char} (h : '\n' ∉ text) :
    lineFeed ∉ Utf8.encode text := fun hm => h (Utf8.mem_encode (b := lineFeed) (by decide) hm)

/-- Bytes without a line feed are read without one. -/
theorem newline_notMem_decode {raw : Bytes} (h : lineFeed ∉ raw) : '\n' ∉ Utf8.decode raw :=
  fun hm => h (Utf8.mem_decode (by decide) hm)

/-- **Lines joined and cut again** are numbered from one and lose a carriage
return at their end. -/
theorem lines_joinLines {program : List SourceLine} (h : ∀ l ∈ program, '\n' ∉ l.content.toList) :
    lines (Utf8.ofString (joinLines program)) =
      numbered 1 (program.map fun l => Utf8.encode (dropEnd '\r' l.content.toList)) := by
  have hbytes : Utf8.ofString (joinLines program) =
      (program.map fun l => Utf8.encode l.content.toList).flatMap (· ++ [lineFeed]) := by
    rw [Utf8.ofString, joinLines, String.toList_ofList, Utf8.encode, List.flatMap_assoc,
      List.flatMap_map]
    refine List.flatMap_congr fun l _ => ?_
    rw [List.flatMap_append]
    rfl
  have hnone : ∀ raw ∈ program.map (fun l => Utf8.encode l.content.toList), lineFeed ∉ raw := by
    intro raw hraw
    obtain ⟨l, hl, rfl⟩ := List.mem_map.1 hraw
    exact lineFeed_notMem_encode (h l hl)
  rw [lines, hbytes, splitLines_joined hnone, List.map_map, ← numbered]
  exact congrArg (numbered 1) (List.map_congr_left fun l _ => dropEnd_encode l.content.toList)

/-- **No line of a document has a line feed.** -/
theorem lineFeed_notMem_splitLines (document : Bytes) : ∀ l ∈ splitLines document, lineFeed ∉ l := by
  induction document with
  | nil => exact List.forall_mem_nil _
  | cons b rest ih =>
    rw [splitLines]
    split
    · exact List.forall_mem_cons.2 ⟨List.not_mem_nil, ih⟩
    · rename_i hb
      have hcons : ∀ l : Bytes, lineFeed ∉ l → lineFeed ∉ b :: l := fun l hl h =>
        (List.mem_cons.1 h).elim (fun h => hb h.symm) hl
      split
      · exact List.forall_mem_singleton.2 (hcons [] List.not_mem_nil)
      · rename_i line lines heq
        rw [heq] at ih
        obtain ⟨hline, hlines⟩ := List.forall_mem_cons.1 ih
        split
        · exact ih
        · exact List.forall_mem_cons.2 ⟨hcons line hline, hlines⟩

theorem lines_ofLines (h : ∀ l ∈ ls, lineFeed ∉ l) : lines (ofLines ls) = numbered 1 ls := by
  rw [lines, splitLines_ofLines h, numbered]

theorem numbered_cons : numbered n (line :: ls) = .ofBytes n line :: numbered (n + 1) ls := rfl

theorem numbered_append :
    numbered n (ls ++ later) = numbered n ls ++ numbered (n + ls.length) later := by
  rw [numbered, List.zipIdx_append, List.map_append, numbered, numbered, Nat.add_comm]

theorem mem_numbered {l : SourceLine} (h : l ∈ numbered n ls) :
    ∃ raw ∈ ls, ∃ number, l = .ofBytes number raw := by
  obtain ⟨⟨raw, number⟩, hmem, rfl⟩ := List.mem_map.1 h
  exact ⟨raw, List.fst_mem_of_mem_zipIdx hmem, number, rfl⟩

/-- A line of a document is its number and its bytes, which have no line
feed. -/
theorem mem_lines {document : Bytes} {l : SourceLine} (h : l ∈ lines document) :
    lineFeed ∉ l.raw ∧ l = .ofBytes l.number l.raw := by
  obtain ⟨raw, hraw, number, rfl⟩ := mem_numbered h
  exact ⟨lineFeed_notMem_splitLines document raw hraw, rfl⟩

theorem numbered_raw : (numbered n ls).map SourceLine.raw = ls := by
  rw [numbered, List.map_map]
  exact List.zipIdx_map_fst n ls

theorem numbered_getElem? (n : Nat) (ls : List Bytes) (i : Nat) :
    (numbered n ls)[i]? = ls[i]?.map (SourceLine.ofBytes (n + i)) := by
  rw [numbered, List.getElem?_map, List.getElem?_zipIdx, Option.map_map]
  rfl

theorem numbered_length : (numbered n ls).length = ls.length := by
  rw [numbered, List.length_map, List.length_zipIdx]

theorem numbered_ascending (n : Nat) (ls : List Bytes) : SourceLine.Ascending (numbered n ls) := by
  rw [SourceLine.Ascending, List.pairwise_iff_getElem]
  intro i j hi hj hij
  have hat : ∀ k (hk : k < (numbered n ls).length), (numbered n ls)[k].number = n + k := by
    intro k hk
    have hget := numbered_getElem? n ls k
    rw [List.getElem?_eq_getElem hk] at hget
    obtain ⟨raw, -, heq⟩ := Option.map_eq_some_iff.1 hget.symm
    rw [← heq, SourceLine.ofBytes]
  rw [hat i hi, hat j hj]
  omega

/-- **The lines of a document are numbered upwards.** -/
theorem lines_ascending (document : Bytes) : SourceLine.Ascending (lines document) :=
  numbered_ascending 1 (splitLines document)

end Document

namespace SourceLine

@[simp] theorem ofBytes_number (n : Nat) (raw : Bytes) : (ofBytes n raw).number = n := rfl

@[simp] theorem ofBytes_raw (n : Nat) (raw : Bytes) : (ofBytes n raw).raw = raw := rfl

@[simp] theorem ofBytes_content (n : Nat) (raw : Bytes) :
    (ofBytes n raw).content.toList = Utf8.decode raw := by
  rw [ofBytes, Utf8.text, String.toList_ofList]

end SourceLine

end Tangle
