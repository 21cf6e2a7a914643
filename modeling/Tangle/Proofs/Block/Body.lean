import Tangle.Block.Effect
import Tangle.Proofs.Block.Standing
import Tangle.Proofs.Text.Line
/-!
# The text of run blocks

A run block is kept in two forms, the bytes of its lines and their text.
The bytes are what an interpreter is given, the text is what a preview
shows, and the two agree: decoding commutes with joining the lines at line
feeds (`body_eq`, `splitOn_rawBody`) and with taking off the quote mark of
each (`decode_unquote`). A preview can be read: without the indentation
its lines are those of the blocks (`readBack_previews`).
-/

namespace Tangle

/-- A text without one space at its front. -/
def unspaced : List Char → List Char
  | ' ' :: text => text
  | text => text

/-- **The text of an unquoted line** is that of the line without its quote
mark and at most one space. -/
theorem decode_unquote {raw : Bytes} {rest : List Char} (h : Utf8.decode raw = '>' :: rest) :
    Utf8.decode (LineKind.unquote raw) = unspaced rest := by
  obtain ⟨raw, rfl, rfl⟩ := (Utf8.decode_eq_cons_iff (by decide)).1 h
  rcases raw with _ | ⟨b, raw⟩
  · rfl
  · by_cases hb : b = 0x20
    · subst hb
      rw [Utf8.decode_cons_of_ascii (by decide)]
      rfl
    · -- no other byte begins a text with a space
      have hspace : ∀ text, Utf8.decode (b :: raw) ≠ ' ' :: text := fun text heq => by
        obtain ⟨_, hcons, -⟩ := (Utf8.decode_eq_cons_iff (by decide)).1 heq
        exact hb (List.cons.inj hcons).1
      have hraw : LineKind.unquote (0x3E :: b :: raw) = b :: raw := by
        rw [LineKind.unquote]
        exact fun _ heq => hb (List.cons.inj heq).1
      change Utf8.decode (LineKind.unquote (0x3E :: b :: raw)) = _
      rw [hraw, unspaced]
      exact hspace

/-- What is left of a line is its end. -/
theorem unquote_suffix (raw : Bytes) : LineKind.unquote raw <:+ raw := by
  unfold LineKind.unquote
  -- with a quote mark or without, and then with a space or without
  split <;> dsimp only <;> split
  · exact (List.suffix_cons _ _).trans (List.suffix_cons _ _)
  · exact List.suffix_cons _ _
  · exact List.suffix_cons _ _
  · exact List.suffix_rfl

namespace RunBlock

variable {b : RunBlock} {blocks : List RunBlock} {w : Nat}

/-- **A block that was cut from bytes**: it has lines, each with the text
of its bytes and none with a line feed. -/
structure IsCut (b : RunBlock) : Prop where
  ne_nil : b.lines ≠ []
  text : ∀ m ∈ b.lines, m.content = Utf8.text m.raw
  oneLine : ∀ m ∈ b.lines, lineFeed ∉ m.raw

theorem IsCut.chars_eq (h : b.IsCut) : b.lines.map SourceLine.chars =
    (b.lines.map SourceLine.raw).map Utf8.decode := by
  rw [List.map_map]
  refine List.map_congr_left fun m hm => ?_
  rw [SourceLine.chars, h.text m hm, Utf8.text, String.toList_ofList]
  rfl

theorem IsCut.newline_notMem (h : b.IsCut) : ∀ piece ∈ b.lines.map SourceLine.chars, '\n' ∉ piece := by
  rw [h.chars_eq, List.map_map]
  intro piece hpiece
  obtain ⟨m, hm, rfl⟩ := List.mem_map.1 hpiece
  exact Document.newline_notMem_decode (h.oneLine m hm)

/-- The text of the block's bytes is that of its lines, joined. -/
theorem IsCut.decode_rawBody (h : b.IsCut) :
    Utf8.decode b.rawBody = List.intercalate ['\n'] (b.lines.map SourceLine.chars) := by
  rw [rawBody, Utf8.decode_intercalate (by decide), h.chars_eq]
  rfl

/-- **The body is the text of the bytes.** -/
theorem IsCut.body_eq (h : b.IsCut) : b.body = Utf8.text b.rawBody := by
  rw [← String.toList_inj, body, String.toList_intercalate, Utf8.text, h.decode_rawBody,
    List.map_map]
  exact String.toList_ofList.symm

/-- **Cut at line feeds it is the lines.** -/
theorem IsCut.splitOn_rawBody (h : b.IsCut) :
    (Utf8.decode b.rawBody).splitOn '\n' = b.lines.map SourceLine.chars := by
  rw [h.decode_rawBody]
  exact List.splitOn_intercalate '\n' h.newline_notMem (by simp [h.ne_nil])

/-! ## Previews -/

/-- A line of a preview. -/
def indented (w : Nat) (piece : List Char) : List Char :=
  List.replicate w ' ' ++ piece ++ ['\n']

/-- The previews of blocks, one after another. -/
def previews (w : Nat) (blocks : List RunBlock) : String :=
  String.join (blocks.map fun b => b.renderPreview w)

/-- The lines that a preview shows. -/
def readBack (w : Nat) (printed : Bytes) : List (List Char) :=
  ((Utf8.decode printed).splitOn '\n').dropLast.map (List.drop w)

theorem renderPreview_toList (b : RunBlock) (w : Nat) :
    (b.renderPreview w).toList = (b.lines.map SourceLine.chars).flatMap (indented w) := by
  rw [renderPreview, String.toList_ofList, List.flatMap_map]
  rfl

theorem previews_toList (w : Nat) (blocks : List RunBlock) : (previews w blocks).toList =
    (blocks.flatMap fun b => b.lines.map SourceLine.chars).flatMap (indented w) := by
  rw [previews, String.toList_join, List.flatMap_map, List.flatMap_assoc]
  exact List.flatMap_congr fun b _ => renderPreview_toList b w

/-- Lines that are ended by line feeds can be cut again. -/
theorem splitOn_ended {pieces : List (List Char)} (h : ∀ piece ∈ pieces, '\n' ∉ piece) :
    (pieces.flatMap (· ++ ['\n'])).splitOn '\n' = pieces ++ [[]] := by
  induction pieces with
  | nil => rfl
  | cons piece pieces ih =>
    obtain ⟨hpiece, hpieces⟩ := List.forall_mem_cons.1 h
    rw [List.flatMap_cons, List.append_assoc, List.singleton_append,
      List.splitOn_append_cons_self_of_not_mem hpiece, ih hpieces, List.cons_append]

/-- Also if they are indented. -/
theorem splitOn_indented {pieces : List (List Char)} (h : ∀ piece ∈ pieces, '\n' ∉ piece) :
    (pieces.flatMap (indented w)).splitOn '\n' =
      pieces.map (List.replicate w ' ' ++ ·) ++ [[]] := by
  have hended : pieces.flatMap (indented w) =
      (pieces.map (List.replicate w ' ' ++ ·)).flatMap (· ++ ['\n']) := by
    rw [List.flatMap_map]
    rfl
  rw [hended]
  refine splitOn_ended fun line hline => ?_
  obtain ⟨piece, hpiece, rfl⟩ := List.mem_map.1 hline
  rw [List.mem_append, not_or]
  exact ⟨fun hm => absurd (List.eq_of_mem_replicate hm) (by decide), h piece hpiece⟩

/-- **What is printed can be read**: it tells the lines of the blocks. -/
theorem readBack_previews (h : ∀ b ∈ blocks, b.IsCut) :
    readBack w (Utf8.ofString (previews w blocks)) =
      blocks.flatMap fun b => b.lines.map SourceLine.chars := by
  have hfree : ∀ piece ∈ blocks.flatMap (fun b => b.lines.map SourceLine.chars), '\n' ∉ piece := by
    intro piece hpiece
    obtain ⟨b, hb, hpiece⟩ := List.mem_flatMap.1 hpiece
    exact (h b hb).newline_notMem piece hpiece
  rw [readBack, Utf8.ofString, Utf8.decode_encode, previews_toList, splitOn_indented hfree,
    List.dropLast_concat, List.map_map]
  exact (List.map_congr_left fun piece _ => List.drop_left' List.length_replicate).trans
    (List.map_id _)

end RunBlock

end Tangle
