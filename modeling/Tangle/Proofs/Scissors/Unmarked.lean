import Tangle.Scissors.Ranges
import Tangle.Proofs.Scissors.Pattern
/-!
# Documents without markers

Where no line is a marker a document is its own program. Markers with
dashes begin with a dash, so a document of quoted lines has none.
-/

namespace Tangle

namespace Scissors

variable {s : Scissors} {lines : List SourceLine}

theorem select_of_unmarked (found : Bool)
    (h : ∀ l ∈ lines, s.isOpen l.content = false ∧ s.isClose l.content = false) :
    s.select none found lines = .ok (if found then some [] else none) := by
  induction lines with
  | nil => rfl
  | cons l lines ih =>
    obtain ⟨⟨hopen, hclose⟩, hlines⟩ := List.forall_mem_cons.1 h
    rw [select, if_neg (by simp [hopen]), if_neg (by simp [hclose]), ih hlines]

/-- **A document without markers is its own program.** -/
theorem program_of_unmarked {document : Bytes} (h : ∀ l ∈ Document.lines document,
    s.isOpen l.content = false ∧ s.isClose l.content = false) :
    s.program document = .ok (Document.lines document) := by
  rw [program, extract, select_of_unmarked false h]
  rfl

/-- **Markers with dashes are no lines that begin otherwise.** -/
theorem not_marker_of_compile {m : Markers} {content : String} {c : Char} {text : List Char}
    (hs : compile m = .ok s) (hdashes : 1 ≤ m.dashes) (hcontent : content.toList = c :: text)
    (hc : c ≠ '-') : s.isOpen content = false ∧ s.isClose content = false := by
  have hno : ∀ glyph, ¬ Markers.Shows (m.line glyph) content := by
    intro glyph h
    have hhead := h.head?_eq hdashes
    rw [hcontent, List.head?_cons, Option.some.injEq] at hhead
    exact hc hhead
  exact ⟨Bool.eq_false_iff.2 fun h => hno _ ((isOpen_iff_shows hs).1 h),
    Bool.eq_false_iff.2 fun h => hno _ ((isClose_iff_shows hs).1 h)⟩

end Scissors

end Tangle
