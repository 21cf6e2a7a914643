import Tangle.Block.Header
import Tangle.Block.State
import Tangle.Error
/-!
# Kinds of lines

`classify` gives each line its one kind, which depends on the line's text,
on whether a fence is open, and in lenient mode on whether a header is in
force. Inside a fence only another fence line has a meaning of its own;
every other quoted line there is content, kept byte for byte.
-/

namespace Tangle

/-- The kind of a line. -/
inductive LineKind where
  /-- A file header. -/
  | fileHeader (name : String) (mode : WriteMode)
  /-- A run header. -/
  | runHeader
  /-- A fence line, opening or closing. -/
  | fence
  /-- A line of a block, without its quote mark. -/
  | content (text : Bytes)
  /-- A line that belongs to no block and ends the header in force. -/
  | prose
  /-- A line that cannot stand where it stands. -/
  | stray
deriving Repr, DecidableEq

namespace LineKind

/-- The bytes of a line without a leading `>` and then one leading space. -/
def unquote (raw : Bytes) : Bytes :=
  let rest := match raw with
    | 0x3E :: r => r
    | r => r
  match rest with
  | 0x20 :: r => r
  | r => r

/-- The kind of a file header that says `rest`. -/
def ofFileHeader (number : Nat) (rest : List Char) : Except Error LineKind :=
  match Header.firstSpan? rest with
  | none => .error (.atLine number .headerWithoutName)
  | some (name, after) =>
    .ok (.fileHeader (String.ofList name) (if Header.isContinued after then .append else .truncate))

/-- The kind of a line where `context` holds. -/
def classify (lenient : Bool) (context : Context) (line : SourceLine) : Except Error LineKind :=
  let text := line.content.toList
  if text.head? ≠ some '>' then .ok (if context.inFence then .stray else .prose)
  else if Header.isFence text then .ok .fence
  else if context.inFence then .ok (.content (unquote line.raw))
  else if Header.isRun text then .ok .runHeader
  else
    match Header.fileRest? text with
    | some rest => ofFileHeader line.number rest
    | none => .ok (if lenient && !context.hasHeader then .prose else .stray)

end LineKind

end Tangle
