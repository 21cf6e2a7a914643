import Tangle.Block.State
/-!
# Effects

What a document asks for, in order: opening, writing and closing output
files, and running blocks. A run block keeps the numbers of its fences and
of its lines, so that a failure can be shown in terms of the document
(`RunBlock.renderFailure`).
-/

namespace Tangle

/-- A completed run block. -/
structure RunBlock where
  /-- The line of the opening fence. -/
  startLine : Nat
  /-- The line of the closing fence. -/
  endLine : Nat
  /-- The content. -/
  lines : List SourceLine
deriving Repr, DecidableEq

namespace RunBlock

/-- The text of the block, lines separated by line feeds. -/
def body (b : RunBlock) : String :=
  String.intercalate "\n" (b.lines.map SourceLine.content)

/-- The bytes of the block, lines separated by line feeds. -/
def rawBody (b : RunBlock) : Bytes :=
  List.intercalate [lineFeed] (b.lines.map SourceLine.raw)

/-- A text after spaces up to a width. -/
def padLeft (width : Nat) (s : String) : String :=
  String.ofList (List.replicate (width - s.length) ' ') ++ s

/-- The block as it is previewed: each line after `indent` spaces. -/
def renderPreview (b : RunBlock) (indent : Nat) : String :=
  let pad := List.replicate indent ' '
  String.ofList (b.lines.flatMap fun line => pad ++ line.content.toList ++ ['\n'])

/-- The first line of a failure report. -/
def failureHead (b : RunBlock) (status : Int) : String :=
  "run block at lines " ++ toString b.startLine ++ "-" ++ toString b.endLine
    ++ " failed with exit status " ++ toString status ++ "\n"

/-- A line of a failure report: the number in five columns, a bar and the
text. -/
def failureLine (line : SourceLine) : String :=
  padLeft 5 (toString line.number) ++ " | " ++ line.content ++ "\n"

/-- The report that the block ended with `status`. -/
def renderFailure (b : RunBlock) (status : Int) : String :=
  String.join (b.failureHead status :: b.lines.map failureLine)

end RunBlock

/-- Something that a document asks for. -/
inductive Effect where
  /-- Open an output file. -/
  | openFile (name : String) (mode : WriteMode)
  /-- Write a line to an open output file. -/
  | write (name : String) (text : Bytes)
  /-- Close an output file. -/
  | closeFile (name : String)
  /-- Run a block. -/
  | run (block : RunBlock)
deriving Repr, DecidableEq

namespace Effect

/-- A short description of an effect. -/
def describe : Effect → String
  | openFile name .truncate => "create " ++ name
  | openFile name .append => "append " ++ name
  | write name _ => "write " ++ name
  | closeFile name => "close " ++ name
  | run b => "run lines " ++ toString b.startLine ++ "-" ++ toString b.endLine

end Effect

end Tangle
