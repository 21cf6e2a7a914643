import Tangle.Shell.Format
import Tangle.Shell.Utility.Inspection
import Tangle.Shell.Utility.Paths
/-!
# Reports on files

The program that prints what is known of files (`stat`), in a format whose
directives stand for single facts (`Directive.shown`), or in one of two
formats of its own.
-/

namespace Tangle

namespace Shell

namespace Utility

namespace Status

/-- A file and how it was named. -/
structure Subject where
  /-- The name. -/
  name : Octets
  /-- The file. -/
  node : Node
  /-- Where it is. -/
  place : Place
  /-- Names are quoted where a directive asks for it. -/
  quotes : Bool

/-- A directive of a format. -/
structure Directive where
  /-- How it places its text. -/
  layout : Format.Layout
  /-- There is a point, so seconds have a fraction. -/
  hasPoint : Bool
  /-- What stands before the letter. -/
  modifiers : Octets

/-- The directive that text starts with, and what follows it. -/
def Directive.read (s : Octets) : Directive × Octets :=
  let flags := s.takeWhile fun c => "'-+ #0I".toList.contains c
  let rest := s.drop flags.length
  let width := rest.takeWhile Char.isDigit
  let rest := rest.drop width.length
  let digits := (rest.drop 1).takeWhile Char.isDigit
  let hasPoint := rest.head? = some '.'
  let rest := if hasPoint then rest.drop (1 + digits.length) else rest
  let precision := if hasPoint && !digits.isEmpty then Octets.nat? digits else none
  (⟨⟨flags.contains '-', flags.contains '0', flags.contains '+', flags.contains ' ', flags.contains '#', (Octets.nat? width).getD 0, precision⟩, hasPoint,
    s.take (s.length - rest.length)⟩, rest)

/-- A text in the layout of a directive. -/
def Directive.text (d : Directive) (s : Octets) : Octets :=
  let kept := if d.hasPoint then s.take (d.layout.precision.getD 0) else s
  d.layout.pad kept

/-- A number in the layout of a directive. -/
def Directive.number (d : Directive) (letter : Char) (n : Nat) : Octets :=
  { d.layout with precision := if d.hasPoint then some (d.layout.precision.getD 0) else none }.unsigned letter n

/-- The seconds since the start of 1970, with as many digits of their
fraction as the precision tells, or nine. -/
def Directive.seconds (d : Directive) (nanoseconds : Int) : Octets :=
  let t := Moment.ofNanoseconds nanoseconds
  let whole := decimal t.seconds.natAbs
  let count := if d.hasPoint then d.layout.precision.getD 9 else 0
  let nine := Octets.ofString (String.ofList (List.replicate (9 - (decimal t.nanoseconds).length) '0')) ++ decimal t.nanoseconds
  let fraction := (nine ++ List.replicate (count - 9) '0').take count
  let digits := if count = 0 then whole else whole ++ '.' :: fraction
  d.layout.padNumber true (d.layout.sign (t.seconds < 0)) digits

/-- The bits of the kind of a file. -/
def kindBits : Node → Nat
  | .directory _ _ => 0o40000
  | .link _ => 0o120000
  | .device _ => 0o20000
  | _ => 0o100000

/-- What a directive stands for. -/
def Directive.shown (d : Directive) (letter : Char) (x : Subject) (s : State) : Octets :=
  let quoted (o : Octets) : Octets := d.text (if x.quotes then quoteOctets o else o)
  let (major, minor) : Nat × Nat := match x.node with
    | .device device => deviceNumbers device
    | _ => (0, 0)
  let time := formatTime x.node.modified "%Y-%m-%d %H:%M:%S.%N %z".toList
  let disk := 65024
  match letter with
  | 'n' => d.text x.name
  | 'N' => match x.node with
    | .link target => quoted x.name ++ " -> ".toList ++ quoted (Octets.ofString target)
    | _ => quoted x.name
  | 's' => d.number 'u' (sizeOf x.node)
  | 'a' => d.number 'o' x.node.mode
  | 'A' => d.text (modeRow x.node)
  | 'f' => d.number 'x' (kindBits x.node + x.node.mode)
  | 'F' => d.text (kindName x.node).toList
  | 'b' => d.number 'u' (roomOf x.node / 512)
  | 'B' => d.number 'u' 512
  | 'o' => d.number 'u' 4096
  | 'h' => d.number 'u' (nameCountOf x.node s)
  | 'i' => d.number 'u' (fileNumber x.place s)
  | 'd' => d.number 'u' disk
  | 'D' => d.number 'x' disk
  | 'u' | 'g' => d.number 'u' 0
  | 'U' | 'G' => d.text "root".toList
  | 'm' => d.text ['/']
  | 't' => d.number 'x' major
  | 'T' => d.number 'x' minor
  | 'r' => d.number 'u' (major * 256 + minor)
  | 'R' => d.number 'x' (major * 256 + minor)
  | 'w' | 'x' | 'y' | 'z' => d.text time
  | 'W' | 'X' | 'Y' | 'Z' => d.seconds x.node.modified
  | _ => ['?']

/-- What comes of a format. -/
structure Report where
  /-- The text, its pieces in reverse. -/
  pieces : List Octets
  /-- The warnings, in reverse. -/
  warnings : List String
  /-- A directive is invalid, which ends everything. -/
  invalid : Option Octets

/-- The report with a piece more. -/
def Report.add (piece : Octets) (r : Report) : Report := { r with pieces := piece :: r.pieces }

/-- An escape behind its backslash. -/
def escape (s : Octets) (r : Report) : Report × Octets :=
  match s with
  | [] => ({ r.add ['\\'] with warnings := "warning: backslash at end of format" :: r.warnings }, [])
  | '"' :: rest => (r.add ['"'], rest)
  | c :: rest =>
    match Format.octalEscape? false s with
    | some (d, rest) => (r.add [d], rest)
    | none =>
      match (Format.hexEscape? false s), Format.escaped? c with
      | some (text, rest), _ => (r.add text, rest)
      | none, some d => (r.add [d], rest)
      | none, none =>
        ({ r.add [c] with warnings := ("warning: unrecognized escape '\\" ++ Octets.text [c] ++ "'") :: r.warnings }, rest)

/-- Fills a format with the facts about a file. -/
def fill (escapes : Bool) (x : Subject) (s : State) : Nat → Octets → Report → Report
  | 0, _, r => r
  | _ + 1, [], r => r
  | fuel + 1, '%' :: format, r =>
    let (d, rest) := Directive.read format
    let hasModifiers := !d.modifiers.isEmpty
    match rest with
    | [] => if hasModifiers then { r with invalid := some ('%' :: d.modifiers) } else r.add ['%']
    | '%' :: rest =>
      if hasModifiers then { r with invalid := some ('%' :: d.modifiers ++ ['%']) }
      else fill escapes x s fuel rest (r.add ['%'])
    | part :: letter :: rest =>
      if (part = 'H' || part = 'L') && (letter = 'd' || letter = 'r') then
        let n := if letter = 'd' then 65024 else match x.node with
          | .device device => (deviceNumbers device).1 * 256 + (deviceNumbers device).2
          | _ => 0
        fill escapes x s fuel rest (r.add (d.number 'u' (if part = 'H' then n / 256 else n % 256)))
      else fill escapes x s fuel (letter :: rest) (r.add (d.shown part x s))
    | [letter] => r.add (d.shown letter x s)
  | fuel + 1, '\\' :: format, r =>
    if escapes then
      let (r, rest) := escape format r
      fill escapes x s fuel rest r
    else fill escapes x s fuel format (r.add ['\\'])
  | fuel + 1, c :: format, r => fill escapes x s fuel format (r.add [c])

/-- The format of a full report. -/
def fullFormat (node : Node) : Octets :=
  let device := match node with
    | .device _ => "-5h Device type: %Hr,%Lr"
    | _ => "h"
  ("  File: %N\n  Size: %-10s\tBlocks: %-10b IO Block: %-6o %F\nDevice: %Hd,%Ld\tInode: %-10i  Links: %" ++ device
    ++ "\nAccess: (%04a/%10.10A)  Uid: (%5u/%8U)   Gid: (%5g/%8G)\nAccess: %x\nModify: %y\nChange: %z\n Birth: %w\n").toList

/-- The format of a terse report. -/
def terseFormat : Octets := "%n %s %b %f %u %g %D %i %h %t %T %X %Y %Z %W %o\n".toList

/-- The last format that an option gives, and that it has escapes and no line
end behind it. -/
def formatOf (options : List (Char × Octets)) : Option (Bool × Octets) :=
  ((options.filter fun o => o.1 = 'c' || o.1 = 'π').getLast?).map fun o => (o.1 = 'π', o.2)

/-- The file that an operand names; `-` is what standard input reads. -/
def subject (follows quotes : Bool) (o : Octets) (s : State) : Except Fault Subject := do
  let path := State.path o
  let found ← if o = ['-'] then
      match placeOf 0 s with
      | some place => s.disk.find [] (State.path (State.placeOctets place))
      | none => s.disk.find [] (State.path "/dev/null".toList)
    else if follows then s.disk.find s.cwd path else s.entryAt path
  return ⟨o, ← found.existing, found.place, quotes⟩

/-- Reports on one file, until a directive is invalid. -/
def report (i : Invoked) (o : Octets) (s : State) : State × Bool :=
  let given := formatOf i.options
  let quotes := given.any fun g => (g.2.zip (g.2.drop 1)).contains ('%', 'N')
  match subject (i.has 'L') quotes o s with
  | .error fault => (i.complain ("cannot statx " ++ quote o ++ ": " ++ faultText fault) s, false)
  | .ok x =>
    let (escapes, format) := given.getD (true, if i.has 't' then terseFormat else fullFormat x.node)
    let r := fill escapes x s (format.length + 1) format ⟨[], [], none⟩
    let s := s.print (r.pieces.reverse.flatten ++ if escapes || r.invalid.isSome then [] else ['\n'])
    let s := r.warnings.reverse.foldl (fun s w => s.complain (i.name ++ ": " ++ w)) s
    match r.invalid with
    | some directive => (i.complain (curly directive ++ ": invalid directive") s, true)
    | none => (s, false)

end Status

/-- Prints what is known of files. -/
def stat : Utility :=
  withSetting ⟨"Lft", "cπκ", "", [("cached", 'κ'), ("dereference", 'L'), ("file-system", 'f'), ("format", 'c'), ("printf", 'π'),
      ("terse", 't')], false, 1⟩
    (fun options => (options.filter fun o => o.1 = 'κ').forM fun o =>
      (chooseWord "--cached" [["default"], ["never"], ["always"]] o.2).map fun _ => ())
    fun i _ s =>
      if i.operands.isEmpty then i.refuse "missing operand" s
      else (i.operands.foldl (fun (s, ended) o => if ended then (s, true) else Status.report i o s) (s, false)).1

end Utility

end Shell

end Tangle
