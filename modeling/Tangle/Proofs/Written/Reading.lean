import Tangle.Proofs.Written
import Tangle.Proofs.Block.Standing
/-!
# Written blocks are read back

The machine reads the document of some blocks in either mode, and asks for
each block in turn: a file opened, written line by line and closed, or its
lines run, if there are any.
-/

namespace Tangle

namespace Block

open Header

/-- The number of lines that the block is written as. -/
def height (b : Block) : Nat := b.body.length + 3

/-- **What a block asks for** whose header is line `n`. -/
def effects (n : Nat) : Block → List Effect
  | file name continued body =>
    .openFile (String.ofList name.chars) (if continued then .append else .truncate) ::
      (body.map (fun l => .write (String.ofList name.chars) l.bytes) ++
        [.closeFile (String.ofList name.chars)])
  | run body =>
    if body = [] then [] else
      [.run ⟨n + 1, n + 2 + body.length, Document.numbered (n + 2) (body.map BodyLine.bytes)⟩]

/-- What blocks ask for, of which the first begins at line `n`. -/
def effectsFrom (n : Nat) : List Block → List Effect
  | [] => []
  | b :: blocks => b.effects n ++ effectsFrom (n + b.height) blocks

/-- What the header of a block puts in force. -/
def standing : Block → Standing
  | file name continued _ =>
    .file (String.ofList name.chars) (if continued then .append else .truncate)
  | run _ => .run

variable {n : Nat} {lenient : Bool} {st : Standing} {rest : List SourceLine}

theorem lines_length (b : Block) : b.lines.length = b.height := by
  simp [lines, height]

/-- The header puts itself in force. -/
theorem run_header (b : Block) :
    Machine.run lenient st.state (.ofBytes n (Utf8.encode b.header) :: rest) =
      Machine.run lenient b.standing.state rest := by
  have hone : (SourceLine.ofBytes n (Utf8.encode b.header)).OneLine :=
    oneLine_ofBytes (Document.lineFeed_notMem_encode (lineFeed_notMem_header b))
  cases b with
  | run body => exact Standing.run_runHeader hone (run_isRunHeader n body)
  | file name continued body =>
    rw [Standing.run_fileHeader hone (file_isFileHeader n name continued body)
      (file_names n name continued body), isContinued_afterName]
    rfl

/-- Lines that were quoted are collected as they were. -/
theorem unquoted_numbered (n : Nat) (body : List BodyLine) :
    (Document.numbered n (body.map BodyLine.quoted)).map SourceLine.unquoted =
      Document.numbered n (body.map BodyLine.bytes) := by
  induction body generalizing n with
  | nil => rfl
  | cons l body ih =>
    rw [List.map_cons, List.map_cons, Document.numbered_cons, Document.numbered_cons, List.map_cons,
      ih, SourceLine.unquoted, SourceLine.ofBytes_raw, SourceLine.ofBytes_number,
      BodyLine.unquote_quoted]

/-- And written as they were. -/
theorem writes_numbered (n : Nat) (name : String) (body : List BodyLine) :
    ((Document.numbered n (body.map BodyLine.quoted)).map fun l =>
      Effect.write name (LineKind.unquote l.raw)) = body.map fun l => .write name l.bytes := by
  induction body generalizing n with
  | nil => rfl
  | cons l body ih =>
    rw [List.map_cons, Document.numbered_cons, List.map_cons, ih, SourceLine.ofBytes_raw,
      BodyLine.unquote_quoted, List.map_cons]

/-- The pair of fences asks for the block. -/
theorem standing_effects (b : Block) (n : Nat) (raw : Bytes) :
    b.standing.effects (.ofBytes (n + 1) raw) (.ofBytes (n + 2 + b.body.length) raw)
      (Document.numbered (n + 2) (b.body.map BodyLine.quoted)) = b.effects n := by
  cases b with
  | file name continued body =>
    simp only [Standing.effects, standing, Standing.opening, Standing.writing, Standing.closing,
      Block.body, writes_numbered]
    rfl
  | run body =>
    simp only [Standing.effects, standing, Standing.opening, Standing.writing, Standing.closing,
      Block.body, unquoted_numbered, List.nil_append, effects, SourceLine.ofBytes_number]
    cases body <;> rfl

/-- **A written block is read back**, whatever stands before and after. -/
theorem run_lines (b : Block) :
    Machine.run lenient st.state (Document.numbered n b.lines ++ rest) =
      Machine.after (b.effects n) (Machine.run lenient b.standing.reopened.state rest) := by
  have hinner : ∀ l ∈ Document.numbered (n + 2) (b.body.map BodyLine.quoted),
      l.OneLine ∧ l.IsQuoted ∧ ¬ l.IsFence := by
    intro l hl
    obtain ⟨raw, hraw, number, rfl⟩ := Document.mem_numbered hl
    obtain ⟨line, -, rfl⟩ := List.mem_map.1 hraw
    exact line.quoted_shape number
  have hlines : Document.numbered n b.lines ++ rest =
      .ofBytes n (Utf8.encode b.header) :: (.ofBytes (n + 1) fence ::
        (Document.numbered (n + 2) (b.body.map BodyLine.quoted) ++
          (.ofBytes (n + 2 + b.body.length) fence :: rest))) := by
    rw [lines, Document.numbered_cons, Document.numbered_cons, Document.numbered_append,
      List.length_map, List.cons_append, List.cons_append, List.append_assoc]
    rfl
  rw [hlines, run_header, Standing.run_pair (fence_isFence _) (fence_isFence _) hinner,
    standing_effects]

/-- **A written document is read back**, in either mode. -/
theorem run_blocks (lenient : Bool) (st : Standing) (n : Nat) (blocks : List Block) :
    (Machine.run lenient st.state (Document.numbered n (blocks.flatMap lines))).1 =
      .ok (effectsFrom n blocks) := by
  induction blocks generalizing st n with
  | nil => cases st <;> rfl
  | cons b blocks ih =>
    have ih := ih b.standing.reopened (n + b.height)
    rw [List.flatMap_cons, Document.numbered_append, lines_length, run_lines, Machine.after, ih]
    rfl

end Block

end Tangle
