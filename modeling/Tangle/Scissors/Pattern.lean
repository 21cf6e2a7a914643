import Tangle.Text.Blank
import Tangle.Text.Utf8
import Tangle.Config
import Tangle.Error
/-!
# Patterns of marker lines

A marker line is recognised by a pattern anchored at both ends: a counted
run of dashes, the glyph, the dashes again, and any blanks
(`Markers.openPattern`, `Markers.closePattern`). A pattern has a written
form (`Pattern.source`), where each character of the glyph that means
something in patterns is escaped, and a matcher (`Pattern.accepts`) that
tries every way to divide a line among the pieces. Beside them stand the
lines that the same markers are written as (`Markers.openLine`,
`Markers.closeLine`).
-/

namespace Tangle

/-- A piece of a marker pattern. -/
inductive Pattern.Piece where
  /-- Exactly this many dashes. -/
  | dashes (count : Nat)
  /-- This text. -/
  | literal (text : List Char)
  /-- Any number of blanks. -/
  | blanks
deriving Repr, DecidableEq

/-- A pattern for whole lines: pieces in sequence. -/
abbrev Pattern := List Pattern.Piece

namespace Pattern

/-- The characters that are escaped in a pattern's written form. -/
def special : List Char :=
  ['\\', '.', '+', '*', '?', '(', ')', '|', '[', ']', '\x7b', '\x7d', '^', '$', '#', '&', '-', '~']

/-- A text with a backslash before each special character. -/
def escape (s : List Char) : List Char :=
  s.flatMap fun c => if c ∈ special then ['\\', c] else [c]

/-- The written form of a piece. -/
def Piece.source : Piece → List Char
  | .dashes n => "-\x7b".toList ++ (toString n).toList ++ "\x7d".toList
  | .literal s => escape s
  | .blanks => "\\s*".toList

/-- The written form of a pattern. -/
def source (p : Pattern) : String :=
  String.ofList ('^' :: p.flatMap Piece.source ++ ['$'])

/-- What follows `n` dashes. -/
def dropDashes : Nat → List Char → Option (List Char)
  | 0, s => some s
  | n + 1, '-' :: s => dropDashes n s
  | _ + 1, _ => none

/-- Some way of skipping blanks leads to a rest that `rest` accepts. -/
def skipBlanks (rest : List Char → Bool) : List Char → Bool
  | [] => rest []
  | c :: s => rest (c :: s) || (Text.isBlank c && skipBlanks rest s)

/-- The pattern matches the whole of a line. -/
def accepts : Pattern → List Char → Bool
  | [], s => s.isEmpty
  | .dashes n :: p, s =>
    match dropDashes n s with
    | some r => accepts p r
    | none => false
  | .literal t :: p, s => t.isPrefixOf s && accepts p (s.drop t.length)
  | .blanks :: p, s => skipBlanks (accepts p) s

/-- The number of byte positions that a piece takes in a compiled pattern. -/
def Piece.size : Piece → Nat
  | .dashes n => n
  | .literal s => (Utf8.encode s).length
  | .blanks => 1

/-- The number of byte positions of a pattern. -/
def size (p : Pattern) : Nat :=
  (p.map Piece.size).foldl (· + ·) 0

/-- Patterns above this size are refused. -/
def sizeLimit : Nat := 327680

end Pattern

namespace Markers

/-- A glyph between two runs of dashes. -/
def line (m : Markers) (glyph : String) : String :=
  String.ofList (List.replicate m.dashes '-' ++ glyph.toList ++ List.replicate m.dashes '-')

/-- The line that opens a range. -/
def openLine (m : Markers) : String := m.line m.opening

/-- The line that closes a range. -/
def closeLine (m : Markers) : String := m.line m.closing

/-- The pattern of marker lines with a glyph. -/
def pattern (m : Markers) (glyph : String) : Pattern :=
  [.dashes m.dashes, .literal glyph.toList, .dashes m.dashes, .blanks]

/-- The pattern of lines that open a range. -/
def openPattern (m : Markers) : Pattern := m.pattern m.opening

/-- The pattern of lines that close a range. -/
def closePattern (m : Markers) : Pattern := m.pattern m.closing

end Markers

/-- The compiled markers: the patterns of opening and closing lines. -/
structure Scissors where
  /-- The pattern of lines that open a range. -/
  opens : Pattern
  /-- The pattern of lines that close a range. -/
  closes : Pattern
deriving Repr, DecidableEq

namespace Scissors

/-- Compiles markers, unless a pattern is too large. -/
def compile (m : Markers) : Except Error Scissors :=
  if m.openPattern.size ≤ Pattern.sizeLimit ∧ m.closePattern.size ≤ Pattern.sizeLimit then
    .ok ⟨m.openPattern, m.closePattern⟩
  else .error (.pattern "the compiled pattern exceeds the size limit")

/-- The text is a line that opens a range. -/
def isOpen (s : Scissors) (content : String) : Bool :=
  Pattern.accepts s.opens content.toList

/-- The text is a line that closes a range. -/
def isClose (s : Scissors) (content : String) : Bool :=
  Pattern.accepts s.closes content.toList

end Scissors

end Tangle
