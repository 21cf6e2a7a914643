import Tangle.Text.Line
import Tangle.Scissors.Pattern
/-!
# Scissor ranges

A document can mark its program with scissor lines; the program is then
the lines strictly inside the ranges, and the rest is discarded. Ranges do
not nest: inside a range, a marker of either kind closes it. A document
without markers is its own program (`Scissors.program`).
-/

namespace Tangle

namespace Scissors

/-- Walks over lines, with the number of the marker that opened the
current range and whether a range was seen. Yields the lines inside the
ranges, or nothing if there are no ranges. -/
def select (s : Scissors) : Option Nat → Bool → List SourceLine → Except Error (Option (List SourceLine))
  | some opened, _, [] => .error (.atLine opened .openRange)
  | none, found, [] => .ok (if found then some [] else none)
  | none, found, line :: rest =>
    if s.isOpen line.content then select s (some line.number) true rest
    else if s.isClose line.content then .error (.atLine line.number .closeWithoutOpen)
    else select s none found rest
  | some opened, found, line :: rest =>
    if s.isOpen line.content || s.isClose line.content then select s none found rest
    else (select s (some opened) found rest).map fun lines => lines.map (line :: ·)

/-- The lines inside the ranges of a document, or nothing if it has no
markers. -/
def extract (s : Scissors) (document : Bytes) : Except Error (Option (List SourceLine)) :=
  s.select none false (Document.lines document)

/-- The text inside the ranges of a document. -/
def extractText (s : Scissors) (document : Bytes) : Except Error (Option String) :=
  (s.extract document).map (·.map Document.joinLines)

/-- The program of a document: what its ranges select, or all of it. -/
def program (s : Scissors) (document : Bytes) : Except Error (List SourceLine) :=
  (s.extract document).map (·.getD (Document.lines document))

end Scissors

end Tangle
