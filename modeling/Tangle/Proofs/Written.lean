import Tangle.Proofs.Block.Shape
import Tangle.Proofs.Text.Line
/-!
# Blocks written as a document

Any content can be written as a block of a document: a header, a fence,
the lines each with a quote mark, and the fence again. Only a line that
would then be a fence itself needs care: it is quoted without a space
(`BodyLine.quoted`). The lines so written have the shapes that the machine
reads them by, and `unquote` gives their bytes back.
-/

namespace Tangle

/-- The bytes of one line. -/
structure BodyLine where
  /-- The bytes. -/
  bytes : Bytes
  /-- They have no line feed. -/
  oneLine : lineFeed ∉ bytes

/-- A name that can stand between backticks. -/
structure FileName where
  /-- The characters. -/
  chars : List Char
  /-- There is one. -/
  ne_nil : chars ≠ []
  /-- None is a backtick. -/
  free : Header.tick ∉ chars
  /-- None is a line feed. -/
  oneLine : '\n' ∉ chars

/-- A block to be written. -/
inductive Block where
  /-- Lines of a file, which are to extend it if `continued`. -/
  | file (name : FileName) (continued : Bool) (body : List BodyLine)
  /-- Lines to be run. -/
  | run (body : List BodyLine)

/-- The byte of the backtick. -/
def tickByte : UInt8 := 0x60

namespace BodyLine

/-- The line begins with three backticks and no fourth. -/
def Fenced (l : BodyLine) : Prop :=
  [tickByte, tickByte, tickByte] <+: l.bytes ∧ l.bytes[3]? ≠ some tickByte

instance (l : BodyLine) : Decidable l.Fenced := inferInstanceAs (Decidable (_ ∧ _))

/-- **The line as it is quoted**, with a space after the mark unless it
would be a fence then. -/
def quoted (l : BodyLine) : Bytes :=
  if l.Fenced then 0x3E :: l.bytes else 0x3E :: 0x20 :: l.bytes

end BodyLine

namespace Block

open Header

/-- The lines of the block. -/
def body : Block → List BodyLine
  | file _ _ body => body
  | run body => body

/-- What is said after the name of a file. -/
def afterName (continued : Bool) : List Char :=
  if continued then ' ' :: continuedWord else []

/-- The header of the block. -/
def header : Block → List Char
  | file name continued _ =>
    fileMark ++ ' ' :: tick :: (name.chars ++ tick :: afterName continued)
  | run _ => runMark

/-- The line of a fence. -/
def fence : Bytes := Utf8.encode fenceMark

/-- **The lines that the block is written as.** -/
def lines (b : Block) : List Bytes :=
  Utf8.encode b.header :: fence :: (b.body.map BodyLine.quoted ++ [fence])

/-- **The document that has these blocks** and nothing else. -/
def document (blocks : List Block) : Bytes :=
  Document.ofLines (blocks.flatMap lines)

variable {n : Nat} {blocks : List Block}

/-! ## Written lines are lines -/

theorem lineFeed_notMem_quoted (l : BodyLine) : lineFeed ∉ l.quoted := by
  have hl := l.oneLine
  rw [BodyLine.quoted]
  split <;> simp [lineFeed] at hl ⊢ <;> exact hl

theorem lineFeed_notMem_header (b : Block) : '\n' ∉ b.header := by
  cases b with
  | run body => rw [header]; decide
  | file name continued body =>
    have hname := name.oneLine
    have hafter : '\n' ∉ afterName continued := by cases continued <;> decide
    simp only [header, List.mem_append, List.mem_cons, not_or]
    exact ⟨by decide, by decide, by decide, hname, by decide, hafter⟩

/-- **No written line has a line feed.** -/
theorem lineFeed_notMem_lines (b : Block) : ∀ l ∈ b.lines, lineFeed ∉ l := by
  have hfence : lineFeed ∉ fence := Document.lineFeed_notMem_encode (by decide)
  have hbody : ∀ l ∈ b.body.map BodyLine.quoted, lineFeed ∉ l := by
    intro l hl
    obtain ⟨l, -, rfl⟩ := List.mem_map.1 hl
    exact lineFeed_notMem_quoted l
  rw [lines]
  simp only [List.forall_mem_cons, List.forall_mem_append]
  exact ⟨Document.lineFeed_notMem_encode (lineFeed_notMem_header b), hfence, hbody, hfence, by simp⟩

theorem lines_document (blocks : List Block) :
    Document.lines (document blocks) = Document.numbered 1 (blocks.flatMap lines) := by
  refine Document.lines_ofLines fun l hl => ?_
  obtain ⟨b, -, hb⟩ := List.mem_flatMap.1 hl
  exact lineFeed_notMem_lines b l hb

/-! ## Their shapes -/

/-- A line without the byte of a line feed has no such character. -/
theorem oneLine_ofBytes {raw : Bytes} (h : lineFeed ∉ raw) : (SourceLine.ofBytes n raw).OneLine := by
  rw [SourceLine.OneLine, SourceLine.chars, SourceLine.ofBytes_content]
  exact Document.newline_notMem_decode h

theorem chars_encode (n : Nat) (text : List Char) :
    (SourceLine.ofBytes n (Utf8.encode text)).chars = text := by
  rw [SourceLine.chars, SourceLine.ofBytes_content, Utf8.decode_encode]

theorem fence_isFence (n : Nat) :
    (SourceLine.ofBytes n fence).OneLine ∧ (SourceLine.ofBytes n fence).IsFence := by
  refine ⟨oneLine_ofBytes (Document.lineFeed_notMem_encode (by decide)), ?_⟩
  unfold SourceLine.IsFence fence
  rw [chars_encode]
  exact ⟨List.prefix_refl _, by decide⟩

theorem run_isRunHeader (n : Nat) (body : List BodyLine) :
    (SourceLine.ofBytes n (Utf8.encode (run body).header)).IsRunHeader := by
  unfold SourceLine.IsRunHeader header
  rw [chars_encode]
  exact ⟨List.prefix_refl _, by simp⟩

theorem file_isFileHeader (n : Nat) (name : FileName) (continued : Bool) (body : List BodyLine) :
    (SourceLine.ofBytes n (Utf8.encode (file name continued body).header)).IsFileHeader := by
  unfold SourceLine.IsFileHeader header
  rw [chars_encode]
  refine ⟨List.prefix_append _ _, ?_⟩
  rw [List.getElem?_append_right (Nat.le_refl _), Nat.sub_self]
  intro c hc
  obtain rfl : ' ' = c := by simpa using hc
  decide

/-- **The header names the file.** -/
theorem file_names (n : Nat) (name : FileName) (continued : Bool) (body : List BodyLine) :
    (SourceLine.ofBytes n (Utf8.encode (file name continued body).header)).Names name.chars
      (afterName continued) := by
  have hmark : fileMark ++ ' ' :: tick :: (name.chars ++ tick :: afterName continued) =
      (fileMark ++ [' ']) ++ tick :: (name.chars ++ tick :: afterName continued) := by simp
  rw [SourceLine.Names, chars_encode, header, hmark, isFirstSpan_append_iff (by decide)]
  exact ⟨[], ⟨rfl, name.ne_nil, name.free⟩, fun _ _ _ _ => Nat.zero_le _⟩

theorem isContinued_afterName (continued : Bool) : isContinued (afterName continued) = continued := by
  cases continued <;> decide

end Block

namespace BodyLine

open Header

variable {n : Nat}

/-- A text begins with a backtick if its bytes do. -/
theorem decode_eq_tick_cons {bytes : Bytes} {text : List Char}
    (h : Utf8.decode bytes = tick :: text) :
    ∃ rest, bytes = tickByte :: rest ∧ Utf8.decode rest = text :=
  (Utf8.decode_eq_cons_iff (by decide)).1 h

/-- **A line whose text would follow a fence's mark is one that is quoted
without a space.** -/
theorem fenced_of_decode (l : BodyLine) (h : [tick, tick, tick] <+: Utf8.decode l.bytes)
    (hno : (Utf8.decode l.bytes)[3]? ≠ some tick) : l.Fenced := by
  obtain ⟨text, htext⟩ := h
  obtain ⟨rest₁, hbytes, h₁⟩ := decode_eq_tick_cons htext.symm
  obtain ⟨rest₂, rfl, h₂⟩ := decode_eq_tick_cons h₁
  obtain ⟨rest₃, rfl, h₃⟩ := decode_eq_tick_cons h₂
  rw [Fenced, hbytes]
  refine ⟨⟨rest₃, rfl⟩, fun hfourth => hno ?_⟩
  cases rest₃ with
  | nil => cases hfourth
  | cons b rest =>
    obtain rfl : b = tickByte := Option.some.inj hfourth
    have htail : text = tick :: Utf8.decode rest :=
      h₃.symm.trans (Utf8.decode_cons_of_ascii (by decide) rest)
    rw [← htext, htail]
    rfl

/-- The characters of a quoted line. -/
theorem chars_quoted (n : Nat) (l : BodyLine) : (SourceLine.ofBytes n l.quoted).chars =
    '>' :: if l.Fenced then Utf8.decode l.bytes else ' ' :: Utf8.decode l.bytes := by
  rw [SourceLine.chars, SourceLine.ofBytes_content, quoted]
  split
  · rw [Utf8.decode_cons_of_ascii (by decide)]
    rfl
  · rw [Utf8.decode_cons_of_ascii (by decide), Utf8.decode_cons_of_ascii (by decide)]
    rfl

theorem quoted_isQuoted (n : Nat) (l : BodyLine) : (SourceLine.ofBytes n l.quoted).IsQuoted := by
  unfold SourceLine.IsQuoted
  rw [chars_quoted]
  rfl

/-- **No quoted line is a fence.** -/
theorem quoted_not_isFence (n : Nat) (l : BodyLine) :
    ¬ (SourceLine.ofBytes n l.quoted).IsFence := by
  unfold SourceLine.IsFence
  rw [chars_quoted]
  rintro ⟨hmark, hno⟩
  by_cases hl : l.Fenced
  -- a backtick follows the quote mark, where a fence has its space
  · obtain ⟨rest, hrest⟩ := hl.1
    rw [if_pos hl, ← hrest, List.cons_append, Utf8.decode_cons_of_ascii (by decide)] at hmark
    exact absurd (List.cons_prefix_cons.1 (List.cons_prefix_cons.1 hmark).2).1 (by decide)
  · rw [if_neg hl] at hmark hno
    have hticks := (List.cons_prefix_cons.1 (List.cons_prefix_cons.1 hmark).2).2
    exact hl (l.fenced_of_decode hticks hno)

/-- **Taking the quote mark away gives the line back.** -/
theorem unquote_quoted (l : BodyLine) : LineKind.unquote l.quoted = l.bytes := by
  unfold quoted
  split
  · rename_i hl
    obtain ⟨⟨rest, hrest⟩, -⟩ := hl
    rw [← hrest]
    rfl
  · rfl

/-- What the machine needs to know of the lines of a block. -/
theorem quoted_shape (n : Nat) (l : BodyLine) : (SourceLine.ofBytes n l.quoted).OneLine ∧
    (SourceLine.ofBytes n l.quoted).IsQuoted ∧ ¬ (SourceLine.ofBytes n l.quoted).IsFence :=
  ⟨Block.oneLine_ofBytes (Block.lineFeed_notMem_quoted l), quoted_isQuoted n l, quoted_not_isFence n l⟩

end BodyLine

end Tangle
