import Tangle.Scissors.Ranges
/-!
# Documents

A document is loaded for tangling as its path and its program. A defect
found in it is reported with its path.
-/

namespace Tangle

/-- A document with its program. -/
structure Document where
  /-- The document's path. -/
  path : Path
  /-- The lines to tangle, numbered as in the document. -/
  program : List SourceLine
deriving Repr, DecidableEq

namespace Document

/-- The document with this content. -/
def ofBytes (config : Config) (path : Path) (content : Bytes) : Except Error Document :=
  match Scissors.compile config.scissors with
  | .error e => .error e
  | .ok scissors =>
    match scissors.program content with
    | .error e => .error (e.inDocument path)
    | .ok program => .ok ⟨path, program⟩

/-- The text of the program. -/
def programText (d : Document) : String :=
  joinLines d.program

end Document

end Tangle
