import Tangle.Proofs.Text.Line
import Tangle.Proofs.Text.Lossy
/-!
# What cutting a document into lines loses

Its lines, each ended by a line feed, are the document again, but for two
things: a carriage return before a line feed is lost
(`Document.withoutReturns`), and a last line that was not ended is
(`Document.missingEnd`). Nothing else is, whatever the bytes, and a
carriage return that stands elsewhere is kept.

The induction is on the line feeds of the document: one cuts off a line
(`splitLines_append`), and what comes after the last is a line if it is
anything (`splitLines_last`).
-/

namespace Tangle

namespace Document

/-- The bytes with each carriage return and line feed replaced by a line
feed. -/
def withoutReturns : Bytes → Bytes
  | [] => []
  | [b] => [b]
  | b :: d :: rest =>
    if b = carriageReturn ∧ d = lineFeed then lineFeed :: withoutReturns rest
    else b :: withoutReturns (d :: rest)

/-- The line feed that a document lacks at its end, if it lacks one. -/
def missingEnd (document : Bytes) : Bytes :=
  if document = [] ∨ document.getLast? = some lineFeed then [] else [lineFeed]

/-- The bytes of lines, each ended by a line feed. -/
def ended (lines : List SourceLine) : Bytes :=
  lines.flatMap fun l => l.raw ++ [lineFeed]

variable {line document : Bytes} {ls : List Bytes}

/-! ## Cutting at line feeds -/

/-- A document is a last line, or a line with its end and more. -/
theorem last_or_append (document : Bytes) : lineFeed ∉ document ∨
    ∃ line rest, document = line ++ lineFeed :: rest ∧ lineFeed ∉ line := by
  by_cases h : lineFeed ∈ document
  · obtain ⟨line, rest, heq, hline⟩ := List.eq_append_cons_of_mem h
    exact Or.inr ⟨line, rest, heq, hline⟩
  · exact Or.inl h

/-- What has no line feed is one line, if it is anything. -/
theorem splitLines_last (h : lineFeed ∉ document) :
    splitLines document = if document = [] then [] else [document] := by
  induction document with
  | nil => rfl
  | cons b rest ih =>
    rw [List.mem_cons, not_or] at h
    rw [splitLines, if_neg (Ne.symm h.1), ih h.2, if_neg (List.cons_ne_nil b rest)]
    cases rest with
    | nil => rfl
    | cons d rest =>
      -- a carriage return here is followed by something else
      have hd : d ≠ lineFeed := fun hd => h.2 (hd ▸ List.mem_cons_self)
      rw [if_neg (List.cons_ne_nil d rest)]
      exact if_neg fun hcr => hd (Option.some.inj hcr.2)

theorem withoutReturns_last (h : lineFeed ∉ document) : withoutReturns document = document := by
  induction document with
  | nil => rfl
  | cons b rest ih =>
    rw [List.mem_cons, not_or] at h
    cases rest with
    | nil => rfl
    | cons d rest =>
      have hd : d ≠ lineFeed := fun hd => h.2 (hd ▸ List.mem_cons_self)
      rw [withoutReturns, if_neg fun hcr => hd hcr.2, ih h.2]

/-- Of a line that is ended, one carriage return at its end is left out. -/
theorem withoutReturns_append (h : lineFeed ∉ line) (rest : Bytes) :
    withoutReturns (line ++ lineFeed :: rest) =
      dropEnd carriageReturn line ++ lineFeed :: withoutReturns rest := by
  induction line with
  | nil =>
    cases rest with
    | nil => rfl
    | cons d rest => exact if_neg fun hcr => absurd hcr.1 (by decide)
  | cons b line ih =>
    rw [List.mem_cons, not_or] at h
    cases line with
    | nil =>
      by_cases hb : b = carriageReturn
      · subst hb
        exact if_pos ⟨rfl, rfl⟩
      · have hlast : [b].getLast? ≠ some carriageReturn := fun h => hb (Option.some.inj h)
        have hrest := ih List.not_mem_nil
        rw [List.nil_append, show dropEnd carriageReturn ([] : Bytes) = [] from rfl] at hrest
        rw [List.singleton_append, withoutReturns, if_neg fun hcr => hb hcr.1, hrest,
          dropEnd_of_ne hlast]
        rfl
    | cons d line =>
      have hd : d ≠ lineFeed := fun hd => h.2 (hd ▸ List.mem_cons_self)
      rw [List.cons_append, List.cons_append, withoutReturns, if_neg fun hcr => hd hcr.2,
        dropEnd_cons_cons, ← List.cons_append, ih h.2, List.cons_append]

theorem missingEnd_last (h : lineFeed ∉ document) :
    missingEnd document = if document = [] then [] else [lineFeed] := by
  have hlast : document.getLast? ≠ some lineFeed := fun hlast => h (List.mem_of_getLast? hlast)
  simp only [missingEnd, hlast, or_false]

theorem missingEnd_append (line rest : Bytes) :
    missingEnd (line ++ lineFeed :: rest) = missingEnd rest := by
  cases rest with
  | nil => simp [missingEnd]
  | cons d rest =>
    have hlast : (line ++ lineFeed :: d :: rest).getLast? = (d :: rest).getLast? := by
      rw [List.getLast?_append_of_ne_nil _ (List.cons_ne_nil _ _), List.getLast?_cons_cons]
    rw [missingEnd, missingEnd, hlast]
    simp

/-- **The lines of a document with their ends** are the document but for
what is said to be lost. -/
theorem flatMap_splitLines (document : Bytes) : (splitLines document).flatMap (· ++ [lineFeed]) =
    withoutReturns document ++ missingEnd document := by
  induction hn : document.length using Nat.strongRecOn generalizing document with
  | ind n ih =>
    rcases last_or_append document with hlast | ⟨line, rest, rfl, hline⟩
    · rw [splitLines_last hlast, withoutReturns_last hlast, missingEnd_last hlast]
      by_cases hnil : document = []
      · rw [if_pos hnil, if_pos hnil, hnil]
        rfl
      · rw [if_neg hnil, if_neg hnil, List.flatMap_singleton]
    · have hshort : rest.length < n := by
        rw [← hn, List.length_append, List.length_cons]
        omega
      rw [splitLines_append hline, List.flatMap_cons, ih rest.length hshort rest rfl,
        withoutReturns_append hline, missingEnd_append, List.append_assoc, List.append_assoc]
      rfl

/-! ## The text of the lines -/

theorem ended_eq (ls : List SourceLine) :
    ended ls = (ls.map SourceLine.raw).flatMap (· ++ [lineFeed]) := by
  rw [ended, List.flatMap_map]

/-- Lines each ended by a line feed are read line by line. -/
theorem decode_ended (ls : List Bytes) : Utf8.decode (ls.flatMap (· ++ [lineFeed])) =
    ls.flatMap fun raw => Utf8.decode raw ++ ['\n'] := by
  induction ls with
  | nil => rfl
  | cons raw ls ih =>
    rw [List.flatMap_cons, List.append_assoc, List.singleton_append,
      Utf8.decode_append_ascii (by decide), ih, List.flatMap_cons, List.append_assoc]
    rfl

/-- **What is kept of a document in its lines.** -/
structure Kept (document : Bytes) : Prop where
  /-- The lines are numbered from one. -/
  number : (lines document).map SourceLine.number = List.range' 1 (lines document).length
  /-- None has a line feed. -/
  whole : ∀ l ∈ lines document, lineFeed ∉ l.raw
  /-- With their ends they are the document, without the carriage returns
  before line feeds, and ended. -/
  bytes : ended (lines document) = withoutReturns document ++ missingEnd document
  /-- Their text is that of their bytes. -/
  content : ∀ l ∈ lines document, Utf8.Lossy l.raw l.content.toList
  /-- And joined that of all their bytes. -/
  joined : Utf8.Lossy (ended (lines document)) (joinLines (lines document)).toList

/-- **Cutting a document into lines loses nothing** but carriage returns
before line feeds. -/
theorem lines_kept (document : Bytes) : Kept document where
  number := by
    rw [lines, List.map_map, List.length_map, List.length_zipIdx]
    exact List.zipIdx_map_snd 1 _
  whole l hl := (mem_lines hl).1
  bytes := by
    rw [← flatMap_splitLines, ended_eq, lines, ← numbered, numbered_raw]
  content l hl := by
    rw [Utf8.lossy_iff, (mem_lines hl).2, SourceLine.ofBytes_content, SourceLine.ofBytes_raw]
  joined := by
    rw [Utf8.lossy_iff, joinLines, String.toList_ofList, ended_eq, decode_ended, List.flatMap_map]
    refine List.flatMap_congr fun l hl => ?_
    rw [(mem_lines hl).2, SourceLine.ofBytes_content, SourceLine.ofBytes_raw]

/-- A carriage return too many, and a character cut off by the end of its
line. -/
example : (lines [0x61, 0x0D, 0x0D, 0x0A, 0xC3, 0x0A, 0xA9, 0x0D]).map SourceLine.raw =
    [[0x61, 0x0D], [0xC3], [0xA9, 0x0D]] := by
  decide

end Document

end Tangle
