import Tangle.Text.Utf8
/-!
# Lines of a document

A document is cut at each line feed, and one carriage return before the
line feed belongs to the line's end (`Document.lines`). A line keeps its
number, its exact bytes, which are what gets written, and their text,
which is what gets matched and shown.
-/

namespace Tangle

/-- One line of a source document. -/
structure SourceLine where
  /-- The line's number in its document, counted from one. -/
  number : Nat
  /-- The line's text. -/
  content : String
  /-- The line's bytes, without its end. -/
  raw : Bytes
deriving Repr, DecidableEq

namespace SourceLine

/-- The line with these bytes. -/
def ofBytes (number : Nat) (raw : Bytes) : SourceLine :=
  ⟨number, Utf8.text raw, raw⟩

/-- The line with this text. -/
def ofText (number : Nat) (content : String) : SourceLine :=
  ⟨number, content, Utf8.ofString content⟩

end SourceLine

/-- The line feed byte. -/
def lineFeed : UInt8 := 10

/-- The carriage return byte. -/
def carriageReturn : UInt8 := 13

namespace Document

/-- The bytes of each line. Text after the last line feed is a line of its
own; nothing after it is none. -/
def splitLines : Bytes → List Bytes
  | [] => []
  | b :: rest =>
    if b = lineFeed then [] :: splitLines rest
    else
      match splitLines rest with
      | [] => [[b]]
      | line :: lines =>
        if b = carriageReturn ∧ rest.head? = some lineFeed then line :: lines
        else (b :: line) :: lines

/-- The numbered lines of a document. -/
def lines (document : Bytes) : List SourceLine :=
  ((splitLines document).zipIdx 1).map fun (raw, number) => SourceLine.ofBytes number raw

/-- The text of lines, each ended by a line feed. -/
def joinLines (lines : List SourceLine) : String :=
  String.ofList (lines.flatMap fun line => line.content.toList ++ ['\n'])

end Document

end Tangle
