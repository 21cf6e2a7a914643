import Tangle.Proofs.Block.Renumber
import Tangle.Proofs.Scissors.Ranges
import Tangle.Proofs.Scissors.Unmarked
/-!
# Extracting first, and tangling afterwards

The program of a document can be written out as text and taken for a
document of its own. Its lines are those of the program, numbered anew, of
which each has lost one carriage return at its end; and a line that was no
marker is none without it (`isMarker_of_dropEnd`), so the text is its own
program. Where no line ends so, and all are text, the machine does with
it what it does with the program, under the new numbers (`program_again`).
-/

namespace Tangle

namespace Document

/-- The place of a line among lines, counted from one, by its number. -/
def place (lines : List SourceLine) (n : Nat) : Nat :=
  (lines.map SourceLine.number).idxOf n + 1

variable {lines : List SourceLine} {l : SourceLine} {i : Nat}

/-- Where numbers increase, each stands for one place. -/
theorem place_number (hasc : SourceLine.Ascending lines) (hl : lines[i]? = some l) :
    place lines l.number = i + 1 := by
  have hnodup : (lines.map SourceLine.number).Nodup :=
    (List.pairwise_map.2 hasc).imp Nat.ne_of_lt
  obtain ⟨hi, rfl⟩ := List.getElem?_eq_some_iff.1 hl
  have hi' : i < (lines.map SourceLine.number).length := by rwa [List.length_map]
  have hat : (lines.map SourceLine.number)[i] = lines[i].number := List.getElem_map _
  rw [place, ← hat, hnodup.idxOf_getElem i hi']

end Document

namespace Scissors

open SourceLine Document

variable {s : Scissors} {m : Markers} {document : Bytes} {lines : List SourceLine}
variable {l l' : SourceLine}

/-! ## The lines of a program -/

/-- **A line that is a marker without a carriage return is one with it.** -/
theorem isMarker_of_dropEnd (hs : compile m = .ok s) (hl : l'.chars = dropEnd '\r' l.chars)
    (h : s.IsMarker l') : s.IsMarker l := by
  have hkeep : ∀ line, Markers.Shows line l'.content → Markers.Shows line l.content := by
    intro line h
    rcases eq_dropEnd '\r' l.chars with heq | heq
    · exact h.append (List.forall_mem_nil _) (by rw [List.append_nil, ← chars, ← chars, hl, ← heq])
    · exact h.append (List.forall_mem_singleton.2 (show Text.isBlank '\r' = true by decide))
        (by rw [← chars, ← chars, hl, ← heq])
  rw [IsMarker, isOpen_iff_shows hs, isClose_iff_shows hs] at h ⊢
  exact h.imp (hkeep _) (hkeep _)

/-- A program is lines of its document, in order, and none is a marker. -/
theorem program_lines (h : s.program document = .ok lines) :
    lines.Sublist (Document.lines document) ∧ ∀ l ∈ lines, ¬ s.IsMarker l := by
  have hpairing : s.Pairing (Document.lines document) (s.extract document) :=
    pairing_select (lines_ascending document)
  rw [program] at h
  cases hr : s.extract document with
  | error e => rw [hr] at h; cases h
  | ok found =>
    rw [hr] at h hpairing
    cases hpairing with
    | unmarked hnil =>
      cases h
      exact ⟨List.Sublist.refl _, markers_eq_nil_iff.1 hnil⟩
    | paired =>
      cases h
      exact ⟨List.filter_sublist, not_isMarker_of_select hr⟩

/-- The lines of the text of a program, as bytes. -/
def rewritten (lines : List SourceLine) : List Bytes :=
  lines.map fun l => Utf8.encode (dropEnd '\r' l.chars)

theorem rewritten_getElem? (i : Nat) : (numbered 1 (rewritten lines))[i]? =
    lines[i]?.map fun l => .ofBytes (1 + i) (Utf8.encode (dropEnd '\r' l.chars)) := by
  rw [numbered_getElem?, rewritten, List.getElem?_map, Option.map_map]
  rfl

/-- Lines that are text and keep their end are the same lines, numbered by
their place. -/
theorem numbered_rewritten (hasc : Ascending lines)
    (hline : ∀ l ∈ lines, l = .ofBytes l.number l.raw)
    (htext : ∀ l ∈ lines, (∃ text, l.raw = Utf8.encode text) ∧ l.raw.getLast? ≠ some carriageReturn) :
    numbered 1 (rewritten lines) = lines.map (renumber (place lines)) := by
  refine List.ext_getElem? fun i => ?_
  rw [rewritten_getElem?, List.getElem?_map]
  cases hl : lines[i]? with
  | none => rfl
  | some l =>
    have hmem : l ∈ lines := List.mem_of_getElem? hl
    obtain ⟨⟨text, hraw⟩, hlast⟩ := htext l hmem
    have hcontent : l.content = Utf8.text l.raw := congrArg SourceLine.content (hline l hmem)
    have hsame : Utf8.encode (dropEnd '\r' l.chars) = l.raw := by
      rw [← dropEnd_encode, SourceLine.chars, hcontent, Utf8.text, String.toList_ofList, hraw,
        Utf8.decode_encode, ← hraw, dropEnd_of_ne hlast]
    rw [Option.map_some, Option.map_some, hsame, renumber, place_number hasc hl, hcontent,
      Nat.add_comm]
    rfl

/-- As many lines are read again. -/
theorem numbered_rewritten_length : (numbered 1 (rewritten lines)).length = lines.length := by
  rw [numbered_length, rewritten, List.length_map]

/-- Each is read again in its place, without the carriage return at its
end. -/
theorem numbered_rewritten_chars {i : Nat} (hl : lines[i]? = some l) :
    ∃ l', (numbered 1 (rewritten lines))[i]? = some l' ∧ l'.number = i + 1 ∧
      l'.chars = dropEnd '\r' l.chars := by
  refine ⟨.ofBytes (1 + i) (Utf8.encode (dropEnd '\r' l.chars)), ?_, Nat.add_comm 1 i, ?_⟩
  · rw [rewritten_getElem?, hl, Option.map_some]
  · rw [SourceLine.chars, ofBytes_content, Utf8.decode_encode]

/-- **No marker is read again where there was none**: with its carriage
return it would have been a marker before. -/
theorem not_isMarker_rewritten (hs : compile m = .ok s) (h : ∀ l ∈ lines, ¬ s.IsMarker l) :
    ∀ l ∈ numbered 1 (rewritten lines), ¬ s.IsMarker l := by
  intro l' hl' hm
  obtain ⟨i, hi, rfl⟩ := List.mem_iff_getElem.1 hl'
  have hat : lines[i]? = some (lines.get ⟨i, numbered_rewritten_length ▸ hi⟩) :=
    List.getElem?_eq_getElem _
  obtain ⟨l'', hl'', -, htext⟩ := numbered_rewritten_chars hat
  obtain rfl := Option.some.inj ((List.getElem?_eq_getElem hi).symm.trans hl'')
  exact h _ (List.mem_of_getElem? hat) (isMarker_of_dropEnd hs htext hm)

/-- **A program that is written out and read again.** The text of a program
has no markers, so all of it is its program: as many lines, numbered from
one, each with its text less one carriage return at its end. Where every
line is text that does not end so, the machine accepts both or neither, in
either mode; it asks for the same, or reports the same, with each line
under the number of its place. -/
theorem program_again (hs : compile m = .ok s) (h : s.program document = .ok lines) :
    ∃ again, s.program (Utf8.ofString (joinLines lines)) = .ok again ∧
      again = Document.lines (Utf8.ofString (joinLines lines)) ∧
      (∀ l ∈ again, ¬ s.IsMarker l) ∧
      again.length = lines.length ∧
      (∀ i l, lines[i]? = some l → ∃ l', again[i]? = some l' ∧ l'.number = i + 1 ∧
        l'.chars = dropEnd '\r' l.chars) ∧
      ((∀ l ∈ lines, (∃ text, l.raw = Utf8.encode text) ∧ l.raw.getLast? ≠ some carriageReturn) →
        (∀ i l, lines[i]? = some l → place lines l.number = i + 1) ∧
        ∀ lenient, (Machine.run lenient .zero again).1 =
          Machine.renumberResult (place lines) (Machine.run lenient .zero lines).1) := by
  obtain ⟨hsub, hunmarked⟩ := program_lines h
  have hasc : Ascending lines := (lines_ascending document).sublist hsub
  have hline : ∀ l ∈ lines, lineFeed ∉ l.raw ∧ l = .ofBytes l.number l.raw := fun l hl =>
    mem_lines (hsub.subset hl)
  have hone : ∀ l ∈ lines, '\n' ∉ l.content.toList := by
    intro l hl
    rw [(hline l hl).2, ofBytes_content]
    exact newline_notMem_decode (hline l hl).1
  have hagain : Document.lines (Utf8.ofString (joinLines lines)) = numbered 1 (rewritten lines) :=
    lines_joinLines hone
  have hnone : ∀ l ∈ numbered 1 (rewritten lines), ¬ s.IsMarker l := not_isMarker_rewritten hs hunmarked
  refine ⟨numbered 1 (rewritten lines), ?_, hagain.symm, hnone, numbered_rewritten_length,
    fun i l => numbered_rewritten_chars, fun htext => ?_⟩
  · rw [← hagain] at hnone ⊢
    refine program_of_unmarked fun l hl => ?_
    simpa [IsMarker] using hnone l hl
  · refine ⟨fun i l => place_number hasc, fun lenient => ?_⟩
    have hrun : Machine.run lenient _ (lines.map (SourceLine.renumber (place lines))) = _ :=
      Machine.run_renumber (s := .zero) lines
    rw [numbered_rewritten hasc (fun l hl => (hline l hl).2) htext]
    exact congrArg Prod.fst hrun

/-- A document with a run block in a range. -/
def sample : Bytes := Utf8.ofString "-8<-\n> Run\n> ```\n> a\n> ```\n->8-\n"

/-- The lines of the range. -/
def sampleProgram : List SourceLine :=
  [.ofText 2 "> Run", .ofText 3 "> ```", .ofText 4 "> a", .ofText 5 "> ```"]

theorem sample_again : ∃ s again, compile ⟨1, "8<", ">8"⟩ = .ok s ∧
    s.program sample = .ok sampleProgram ∧
    s.program (Utf8.ofString (joinLines sampleProgram)) = .ok again ∧ again.length = 4 ∧
    ∀ lenient,
      (Machine.run lenient .zero sampleProgram).1 = .ok [.run ⟨3, 5, [.ofBytes 4 [0x61]]⟩] ∧
      (Machine.run lenient .zero again).1 = .ok [.run ⟨2, 4, [.ofBytes 3 [0x61]]⟩] := by
  have hs : compile ⟨1, "8<", ">8"⟩ = .ok ⟨Markers.openPattern ⟨1, "8<", ">8"⟩,
      Markers.closePattern ⟨1, "8<", ">8"⟩⟩ := rfl
  have hprogram : program ⟨Markers.openPattern ⟨1, "8<", ">8"⟩,
      Markers.closePattern ⟨1, "8<", ">8"⟩⟩ sample = .ok sampleProgram := rfl
  have htext : ∀ l ∈ sampleProgram,
      (∃ text, l.raw = Utf8.encode text) ∧ l.raw.getLast? ≠ some carriageReturn := by
    simp only [sampleProgram, List.forall_mem_cons, List.not_mem_nil, false_imp_iff, implies_true,
      and_true]
    exact ⟨⟨⟨_, rfl⟩, by decide⟩, ⟨⟨_, rfl⟩, by decide⟩, ⟨⟨_, rfl⟩, by decide⟩, ⟨_, rfl⟩, by decide⟩
  obtain ⟨again, hagain, -, -, hlength, -, hrun⟩ := program_again hs hprogram
  refine ⟨_, again, hs, hprogram, hagain, hlength, fun lenient => ?_⟩
  have hfirst : (Machine.run lenient .zero sampleProgram).1 =
      .ok [.run ⟨3, 5, [.ofBytes 4 [0x61]]⟩] := by cases lenient <;> rfl
  refine ⟨hfirst, ?_⟩
  rw [(hrun htext).2 lenient, hfirst]
  rfl

end Scissors

end Tangle
