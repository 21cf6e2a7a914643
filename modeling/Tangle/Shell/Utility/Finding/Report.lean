import Tangle.Shell.Format
import Tangle.Shell.Utility.Inspection
import Tangle.Shell.Utility.Paths
/-!
# Reports on files that are found

A format is read into pieces (`Piece.read`), and the pieces are filled with
what is known of a file (`Visited.fill`).
-/

namespace Tangle

namespace Shell

namespace Utility

namespace Finding

/-- A file that was found. -/
structure Visited where
  /-- The path. -/
  path : Octets
  /-- The operand from which it was reached. -/
  start : Octets
  /-- How far below the operand it is. -/
  depth : Nat
  /-- What it is. -/
  node : Node
  /-- Where it is. -/
  place : Place

namespace Visited

/-- The last segment of the path. A path of slashes is its own. -/
def name (v : Visited) : Octets := lastSegment v.path

/-- The last segment of the path with the slashes behind it. -/
def fullName (v : Visited) : Octets :=
  let slashes := v.path.reverse.takeWhile (· = '/')
  if slashes.length = v.path.length then ['/']
  else ((v.path.dropLast.take (v.path.length - slashes.length - 1)).reverse.takeWhile (· ≠ '/')).reverse
    ++ v.path.drop (v.path.length - slashes.length - 1)

/-- The path of the directory that the file is in. -/
def directory (v : Visited) : Octets :=
  let trimmed := (v.path.reverse.dropWhile (· = '/')).reverse
  if trimmed.isEmpty then [] else if trimmed.contains '/' then frontSegments v.path else ['.']

/-- The path up to its last slash. -/
def front (v : Visited) : Octets :=
  if v.path.contains '/' then (v.path.reverse.dropWhile (· ≠ '/')).reverse.dropLast else ['.']

/-- The path behind the operand from which the file was reached. -/
def inner (v : Visited) : Octets := (v.path.drop v.start.length).dropWhile (· = '/')

end Visited

/-- A piece of a format. -/
inductive Piece where
  /-- A text. -/
  | text (s : Octets)
  /-- What a letter stands for. -/
  | field (layout : Format.Layout) (letter : Char)
  /-- The time in a form of its own. -/
  | time (layout : Format.Layout) (letter : Char)
  /-- Nothing more is printed. -/
  | stop

/-- What a format is read into: pieces, and what is doubtful about it. -/
abbrev PieceReading := Except (List String × String) (List Piece × List String)

/-- The reading with a piece in front. -/
def PieceReading.cons (p : Piece) (r : PieceReading) : PieceReading := r.map fun (ps, warnings) => (p :: ps, warnings)

/-- The reading with a warning in front. -/
def PieceReading.warn (message : String) (r : PieceReading) : PieceReading :=
  match r with
  | .ok (ps, warnings) => .ok (ps, ("warning: " ++ message) :: warnings)
  | .error (warnings, problem) => .error (("warning: " ++ message) :: warnings, problem)

/-- Reads a format. -/
def Piece.read : Nat → Octets → PieceReading
  | 0, _ => .ok ([], [])
  | _ + 1, [] => .ok ([], [])
  | fuel + 1, '\\' :: s =>
    match s with
    | [] => PieceReading.warn "escape \x60\\' followed by nothing at all" (.ok ([.text ['\\']], []))
    | 'c' :: _ => .ok ([.stop], [])
    | c :: rest =>
      match Format.escape? .plainFormat s with
      | some (shown, rest) => if c = 'e' then unknown fuel c rest else (Piece.read fuel rest).cons (.text shown)
      | none => unknown fuel c rest
  | fuel + 1, '%' :: s =>
    let flags := s.takeWhile fun c => "-+ #0".toList.contains c
    let rest := s.drop flags.length
    -- A blank ends the flags where it is their last one.
    let width := rest.takeWhile Char.isDigit
    let rest := rest.drop width.length
    let digits := (rest.drop 1).takeWhile Char.isDigit
    let hasPoint := rest.head? = some '.'
    let rest := if hasPoint then rest.drop (1 + digits.length) else rest
    let layout : Format.Layout := ⟨flags.contains '-', flags.contains '0', flags.contains '+', flags.contains ' ',
      flags.contains '#', (Octets.nat? width).getD 0, if hasPoint then some ((Octets.nat? digits).getD 0) else none⟩
    let whole (rest : Octets) : Octets := '%' :: s.take (s.length - rest.length)
    match rest with
    | [] =>
      if s.isEmpty then .error ([], "error: % at end of format string")
      else .error ([], "error: the format directive \x60%\x00' is reserved for future use")
    | c :: rest =>
      if "([\x7b".toList.contains c then
        .error ([], "error: the format directive \x60%" ++ Octets.text [c] ++ "' is reserved for future use")
      else if c = '%' then (Piece.read fuel rest).cons (.text ['%'])
      else if "ABCT".toList.contains c then
        match rest with
        | [] => PieceReading.warn ("format directive \x60%" ++ Octets.text [c]
            ++ "' should be followed by another character") (.ok ([.text (whole [])], []))
        | letter :: rest => (Piece.read fuel rest).cons (.time layout letter)
      else if "abcdDfFgGhHiklmMnpPsStuUyYZ".toList.contains c then (Piece.read fuel rest).cons (.field layout c)
      else
        ((Piece.read fuel rest).cons (.text (whole rest))).warn
          ("unrecognized format directive \x60%" ++ Octets.text [c] ++ "'")
  | fuel + 1, c :: s => (Piece.read fuel s).cons (.text [c])
where
  /-- An escape without a meaning, and the rest of the format. -/
  unknown (fuel : Nat) (c : Char) (rest : Octets) : PieceReading :=
    ((Piece.read fuel rest).cons (.text ['\\', c])).warn ("unrecognized escape \x60\\" ++ Octets.text [c] ++ "'")

/-- The letter of the kind of a file. -/
def kindLetter : Node → Char
  | .directory _ _ => 'd'
  | .link _ => 'l'
  | .device _ => 'c'
  | _ => 'f'

/-- The fraction of a second, with the point in front. -/
def fraction (nanoseconds : Int) : Octets := '.' :: formatTime nanoseconds "%N0".toList

/-- A time in the form that a letter stands for. -/
def timeField (letter : Char) (nanoseconds : Int) : Octets :=
  let shown (format : String) : Octets := formatTime nanoseconds format.toList
  match letter with
  | '@' => shown "%s" ++ fraction nanoseconds
  | '+' => shown "%Y-%m-%d+%H:%M:%S" ++ fraction nanoseconds
  | 'S' | 'T' | 'X' => shown (if letter = 'S' then "%S" else "%H:%M:%S") ++ fraction nanoseconds
  | 'N' | 'q' => ['%', letter]
  | c => if c.isAlpha then formatTime nanoseconds ['%', c] else ['%', c]

/-- A text in a layout. -/
def textField (l : Format.Layout) (s : Octets) : Octets := l.pad (l.precision.elim s fun n => s.take n)

/-- What a letter stands for. -/
def Visited.field (v : Visited) (s : State) (l : Format.Layout) (letter : Char) : Octets :=
  let time := v.node.modified
  match letter with
  | 'a' | 'c' | 't' => textField l (formatTime time "%a %b %e %H:%M:%S".toList ++ fraction time
      ++ formatTime time " %Y".toList)
  | 'b' => textField l (decimal (roomOf v.node / 512))
  | 'd' => l.signed v.depth
  | 'D' => textField l "65024".toList
  | 'f' => textField l v.fullName
  | 'F' => textField l "overlay".toList
  | 'g' | 'u' => textField l "root".toList
  | 'G' | 'U' => textField l ['0']
  | 'h' => textField l v.front
  | 'H' => textField l v.start
  | 'i' => textField l (decimal (fileNumber v.place s))
  | 'k' => textField l (decimal (ceilDiv (roomOf v.node) 1024))
  | 'l' => match v.node with
    | .link target => textField l (Octets.ofString target)
    | _ => textField l []
  | 'm' => l.unsigned 'o' v.node.mode
  | 'M' => textField l (modeRow v.node)
  | 'n' => textField l (decimal (nameCountOf v.node s))
  | 'p' => textField l v.path
  | 'P' => textField l v.inner
  | 's' => textField l (decimal (sizeOf v.node))
  | 'S' => textField l ['1']
  | 'y' => textField l [kindLetter v.node]
  | 'Y' =>
    let goal : Char := match s.disk.find [] (State.path (State.placeOctets v.place)) with
      | .ok found => (found.node.map kindLetter).getD 'N'
      | .error .tooManyLinks => 'L'
      | .error _ => 'N'
    textField l [if v.node.isLink then goal else kindLetter v.node]
  | _ => []

/-- What a format tells of a file. -/
def Visited.fill (v : Visited) (s : State) : List Piece → Octets
  | [] => []
  | .text t :: rest => t ++ v.fill s rest
  | .field l letter :: rest => v.field s l letter ++ v.fill s rest
  | .time l letter :: rest => textField l (timeField letter v.node.modified) ++ v.fill s rest
  | .stop :: _ => []

/-- A character of a name with an escape if it cannot be seen. -/
def escapedName (s : Octets) : Octets :=
  s.flatMap fun c => if c = '\n' then ['\\', 'n'] else if c = '\t' then ['\\', 't'] else if c = '\\' || c = ' ' then ['\\', c] else [c]

/-- The row of a long listing. -/
def Visited.row (v : Visited) (s : State) : Octets :=
  let left (width : Nat) (s : Octets) : Octets := s ++ List.replicate (width - s.length) ' '
  let now := s.now
  let isRecent := now - 15778476 * 1000000000 < v.node.modified && v.node.modified ≤ now
  let time := formatTime v.node.modified (if isRecent then "%b %e %H:%M" else "%b %e  %Y").toList
  let goal : Octets := match v.node with
    | .link target => " -> ".toList ++ escapedName (Octets.ofString target)
    | _ => []
  let size : Octets := match v.node with
    | .device d => padLeft 3 (decimal (deviceNumbers d).1) ++ [',', ' '] ++ padLeft 3 (decimal (deviceNumbers d).2)
    | n => padLeft 8 (decimal (sizeOf n))
  List.intercalate [' '] [padLeft 9 (decimal (fileNumber v.place s)), padLeft 6 (decimal (ceilDiv (roomOf v.node) 1024)),
    modeRow v.node, padLeft 3 (decimal (nameCountOf v.node s)), left 8 "root".toList, left 8 "root".toList, size, time,
    escapedName v.path] ++ goal ++ ['\n']

end Finding

end Utility

end Shell

end Tangle
