import Tangle.Shell.Utility.Difference.Report
import Tangle.Shell.Utility.Inspection
import Tangle.Shell.Utility.Paths
/-!
# Comparing files line by line

The program that tells what differs between two files, or between the files
of two directories (`diff`). Its status is that of the worst comparison:
nothing differs, something does, or something could not be compared.
-/

namespace Tangle

namespace Shell

namespace Utility

namespace Difference

/-! ## Options -/

/-- The number that an option asks for. -/
def numberOf (what : String) (o : Octets) : Except Problem Nat :=
  match Octets.nat? o with
  | some n => .ok n
  | none => .error (.usage ("invalid " ++ what ++ " '" ++ Octets.text o ++ "'"))

/-- The expression that an option gives. -/
def expressionOf (o : Octets) : Except Problem Regex :=
  match Regex.read { Regex.Rules.posixBasic with repeatsOnce := false } o with
  | .ok r => .ok r
  | .error _ => .error (.value (Octets.text o ++ ": Invalid regular expression"))

/-- The setting with a style. -/
def Setting.styled (v : Setting) (style : Style) : Except Problem Setting :=
  match v.style with
  | some former => if former = style then .ok v else .error (.usage "conflicting output style options")
  | none => .ok { v with style := some style }

/-- The setting with so many lines around changes at least. -/
def Setting.surrounded (v : Setting) (n : Nat) : Setting := { v with around := some (max n (v.around.getD 0)) }

/-- The setting with an option added. -/
def Setting.add (v : Setting) (o : Char × Octets) : Except Problem Setting := do
  match o.1 with
  | 'a' => return { v with asText := true }
  | 'b' => return { v with blanks := .amount }
  | 'B' => return { v with ignoresEmpty := true }
  | 'c' => return (← v.styled .context).surrounded 3
  | 'C' | 'η' =>
    let n ← if o.2.isEmpty then pure 3 else numberOf "context length" o.2
    return (← v.styled .context).surrounded n
  | 'd' => return { v with minimal := true }
  | 'e' => v.styled .editor
  | 'E' => return { v with blanks := if v.blanks = .exact then .expanded else v.blanks }
  | 'f' => v.styled .forward
  | 'F' => return { v with headings := v.headings ++ [← expressionOf o.2] }
  | 'i' => return { v with folds := true }
  | 'I' => return { v with ignored := v.ignored ++ [← expressionOf o.2] }
  | 'L' =>
    if v.labels.length = 2 then throw (.value "too many file label options")
    return { v with labels := v.labels ++ [o.2] }
  | 'n' => v.styled .counted
  | 'N' => return { v with newFiles := true }
  | 'p' => return { v with headings := v.headings ++ [← expressionOf "^[[:alpha:]$_]".toList] }
  | 'P' => return { v with newFirst := true }
  | 'q' => return { v with brief := true }
  | 'r' => return { v with recursive := true }
  | 's' => return { v with tellsIdentical := true }
  | 'S' => return { v with startName := o.2 }
  | 't' => return { v with expands := true }
  | 'T' => return { v with tabbed := true }
  | 'u' => return (← v.styled .unified).surrounded 3
  | 'U' | 'θ' =>
    let n ← if o.2.isEmpty then pure 3 else numberOf "context length" o.2
    return (← v.styled .unified).surrounded n
  | 'w' => return { v with blanks := .none }
  | 'W' =>
    let n ← numberOf "width" o.2
    if v.width.any (· ≠ n) then throw (.value "conflicting width options")
    return { v with width := some n }
  | 'x' => return { v with excluded := v.excluded ++ [o.2] }
  | 'y' => v.styled .beside
  | 'Z' => return { v with blanks := if v.blanks = .exact || v.blanks = .expanded then .trailing else v.blanks }
  | 'α' => v.styled .normal
  | 'β' => return { v with tab := ← numberOf "tabsize" o.2 }
  | 'γ' => return { v with dropsReturns := true }
  | 'δ' => return { v with leftOnly := true }
  | 'ε' => return { v with changesOnly := true }
  | 'ζ' => return { v with bareEmpty := true }
  | _ => return v

/-- The setting that options describe. Digits are a number of lines around
changes. -/
def Setting.of (options : List (Char × Octets)) : Except Problem Setting := do
  let v ← options.foldlM Setting.add Setting.standard
  let digits := (options.map Prod.fst).filter Char.isDigit
  let v := if options.any (fun o => o.1 = 'p') && v.style.isNone then { v with style := some .context } else v
  match Octets.nat? digits with
  | none => return v
  | some n =>
    let isExplicit := options.any fun o => ['C', 'U', 'η', 'θ'].contains o.1 && !o.2.isEmpty
    return { v with around := some (if isExplicit then max n (v.around.getD 0) else n) }

/-- The options that the program understands. -/
def spec : Spec :=
  ⟨"0123456789abBcdeEfhHilnNpPqrstTuwyZαγδεζκ", "CFILSUWxXβ", "ηθ",
    [("binary", 'κ'), ("brief", 'q'), ("context", 'η'), ("ed", 'e'), ("exclude", 'x'), ("expand-tabs", 't'),
     ("forward-ed", 'f'), ("ignore-all-space", 'w'), ("ignore-blank-lines", 'B'), ("ignore-case", 'i'),
     ("ignore-matching-lines", 'I'), ("ignore-space-change", 'b'), ("ignore-tab-expansion", 'E'),
     ("ignore-trailing-space", 'Z'), ("initial-tab", 'T'), ("label", 'L'), ("left-column", 'δ'), ("minimal", 'd'),
     ("new-file", 'N'), ("no-dereference", 'κ'), ("normal", 'α'), ("paginate", 'l'), ("rcs", 'n'), ("recursive", 'r'),
     ("report-identical-files", 's'), ("show-c-function", 'p'), ("show-function-line", 'F'), ("side-by-side", 'y'),
     ("speed-large-files", 'H'), ("starting-file", 'S'), ("strip-trailing-cr", 'γ'), ("suppress-blank-empty", 'ζ'),
     ("suppress-common-lines", 'ε'), ("tabsize", 'β'), ("text", 'a'), ("unidirectional-new-file", 'P'),
     ("unified", 'θ'), ("width", 'W')], false, 2⟩

/-! ## Files -/

/-- The side of a comparison. -/
structure Side where
  /-- The name of the file. -/
  name : Octets
  /-- What is there; nothing if it is missing and counts as empty. -/
  node : Option Node
  /-- Where it lies, if it is a file. -/
  place : Option Place
  /-- It is standard input. -/
  isInput : Bool

/-- The side that an operand names. -/
def Side.of (o : Octets) (s : State) : Except Fault Side :=
  if o = ['-'] then .ok ⟨o, (placeOf 0 s).bind s.disk.get?, placeOf 0 s, true⟩
  else do
    let found ← s.disk.find s.cwd (State.path o)
    return ⟨o, some (← found.existing), some found.place, false⟩

namespace Side

/-- The side is a directory. -/
def isDirectory (x : Side) : Bool := x.node.any Node.isDirectory

/-- The file is missing. -/
def isMissing (x : Side) : Bool := x.node.isNone && !x.isInput

/-- The name as titles have it. -/
def escaped (x : Side) : Octets :=
  if x.name.any fun c => c = ' ' || c = '"' || c = '\\' || c.toNat < 32 then
    ['"'] ++ x.name.flatMap (fun c =>
      if c = '"' || c = '\\' then ['\\', c] else if c.toNat < 32 then controlEscape c else [c]) ++ ['"']
  else x.name

/-- The name and the time of the file. -/
def title (x : Side) (s : State) : Octets :=
  let time : Int := match x.node with
    | some n => n.modified
    | none => if x.isInput then s.now else 0
  x.escaped ++ ['\t'] ++ formatTime time "%Y-%m-%d %H:%M:%S.%N %z".toList

end Side

/-- What is told of two files, by the name that each has in the report. -/
def Setting.called (v : Setting) (a b : Side) : Octets × Octets :=
  (v.labels.head?.getD a.name, v.labels[1]?.getD b.name)

/-- The status becomes another one if that is worse. -/
def worsened (status : Nat) (s : State) : State := { s with status := max s.status status }

/-- Prints a line. -/
def say (line : Octets) (s : State) : State := s.print (line ++ ['\n'])

/-- Files differ if any of their bytes do, which is all that is told. -/
def Setting.comparesBytes (v : Setting) : Bool :=
  v.brief && !v.ignoresEmpty && !v.folds && !v.dropsReturns && v.ignored.isEmpty && v.blanks = .exact

/-- The lines of a text as they are compared. -/
def Setting.linesOf (v : Setting) (text : Octets) : List Octets :=
  let lines := endedLines text
  if !v.dropsReturns then lines
  else lines.map fun l => if ['\r', '\n'].isSuffixOf l then l.take (l.length - 2) ++ ['\n'] else l

/-- Tells what differs between two texts; `head` is the line in front of
it. -/
def compareTexts (i : Invoked) (v : Setting) (head : Octets) (a b : Side) (x y : Octets) (s : State) : State :=
  let names := v.called a b
  let isBinary := !v.asText && (x.contains '\x00' || y.contains '\x00')
  let differ (word : String) (s : State) : State :=
    say (word.toList ++ names.1 ++ " and ".toList ++ names.2 ++ " differ".toList) s
  if isBinary then
    if x = y then s else worsened 1 (differ (if v.brief then "Files " else "Binary files ") s)
  else
    let endsDiffer := v.chosen ≠ .editor && v.chosen ≠ .forward
      && (x.getLast? = some '\n' || x.isEmpty) ≠ (y.getLast? = some '\n' || y.isEmpty)
    let (ls, ms) := (v.linesOf x, v.linesOf y)
    let changes := script v.minimal endsDiffer v.margin v.key ls ms
    let p : Pair := ⟨ls.toArray, ms.toArray⟩
    let differs := if v.comparesBytes then x ≠ y else changes.any (counts v p)
    let s := if differs then worsened 1 s else s
    let titles := (v.labels.head?.getD (a.title s), v.labels[1]?.getD (b.title s))
    let s := if v.brief then (if differs then differ "Files " s else s)
      else if !differs && v.chosen ≠ .beside then s
      else s.print (head ++ report v titles p changes)
    if v.comparesBytes || v.chosen ≠ .editor && v.chosen ≠ .forward then s
    else [(names.1, x), (names.2, y)].foldl (fun s (name, text) =>
      if text.isEmpty || text.getLast? = some '\n' then s
      else worsened 2 (s.complain (i.name ++ ": " ++ Octets.text name ++ ": No newline at end of file\n"))) s

/-- The names of the entries of two directories in order. -/
def namesIn (v : Setting) (isTop : Bool) (a b : Side) : List String :=
  let names (x : Side) : List String := (x.node.map fun n => n.entries.map Prod.fst).getD []
  let all := (names a ++ names b).eraseDups.mergeSort fun x y => !decide (Octets.ofString y < Octets.ofString x)
  all.filter fun n =>
    let name := Octets.ofString n
    !(v.excluded.any fun p => globAccepts false p name) && !(isTop && decide (name < v.startName))

/-- Compares two sides, which are entries of directories unless `isTop` is
set. `switches` are the options as they were given. -/
def compareSides (i : Invoked) (v : Setting) (switches : Octets) : Nat → Bool → Side → Side → State → State
  | 0, _, _, _, s => worsened 2 s
  | fuel + 1, isTop, a, b, s =>
    let names := v.called a b
    let isSame := match a.place, b.place with
      | some p, some q => s.isSameFile p q
      | _, _ => a.isInput && b.isInput
    let identical (s : State) : State :=
      if v.tellsIdentical then say ("Files ".toList ++ names.1 ++ " and ".toList ++ names.2 ++ " are identical".toList) s
      else s
    if a.isMissing && b.isMissing then s
    else if isSame && v.chosen ≠ .beside then (if a.isDirectory then s else identical s)
    else if a.isDirectory && b.isDirectory || (a.isMissing || b.isMissing) && (a.isDirectory || b.isDirectory) then
      if !isTop && !v.recursive then
        say ("Common subdirectories: ".toList ++ a.name ++ " and ".toList ++ b.name) s
      else
        (namesIn v isTop a b).foldl (fun s n =>
          let entry (x : Side) : Side :=
            let node := (x.node.bind fun m => m.entries.lookup n)
            let place := x.place.map fun p => p ++ [n]
            -- A link stands for what it leads to.
            let followed : Option Node := match node with
              | some (.link _) => (s.lookup (State.path (below x.name (Octets.ofString n)))).toOption
              | node => node
            ⟨below x.name (Octets.ofString n), followed, if followed.isSome then place else none, false⟩
          let (c, d) := (entry a, entry b)
          let counted := v.newFiles || (v.newFirst && c.isMissing)
          let only (x : Side) : State := worsened 1 (say ("Only in ".toList ++ x.name ++ ": ".toList ++ Octets.ofString n) s)
          if (c.isMissing || d.isMissing) && !counted then only (if c.isMissing then b else a)
          else compareSides i v switches fuel false c d s) s
    else if a.isDirectory || b.isDirectory then
      let kind (x : Side) : Octets := ((x.node.map kindName).getD "regular empty file").toList
      worsened 1 (say ("File ".toList ++ names.1 ++ " is a ".toList ++ kind a ++ " while file ".toList ++ names.2
        ++ " is a ".toList ++ kind b) s)
    else
      let read (x : Side) (s : State) : Except Fault Octets × State :=
        if x.isMissing then (.ok [], s) else content (if x.isInput then ['-'] else x.name) s
      let failed (x : Side) (fault : Fault) (s : State) : State :=
        worsened 2 (s.complain (i.name ++ ": " ++ Octets.text x.name ++ ": " ++ faultText fault))
      match read a s with
      | (.error fault, s) => failed a fault s
      | (.ok x, s) =>
        match if isSame then (.ok x, s) else read b s with
        | (.error fault, s) => failed b fault s
        | (.ok y, s) =>
          let head : Octets := if isTop then []
            else "diff".toList ++ switches ++ [' '] ++ v.labels.head?.getD a.escaped ++ [' '] ++ v.labels[1]?.getD b.escaped
              ++ ['\n']
          let before := s.status
          let after := compareTexts i v head a b x y { s with status := 0 }
          let after := if after.status = 0 then identical after else after
          worsened before after

/-- The arguments that are no operands, each after a blank. -/
def switchesOf (argv operands : List Octets) : Octets :=
  let rec go : List Octets → List Octets → List Octets
    | [], _ => []
    | a :: rest, o :: os => if a = o then go rest os else a :: go rest (o :: os)
    | rest, [] => rest
  ((go (argv.drop 1).reverse operands.reverse).reverse).flatMap fun a => ' ' :: if needsQuotes a then quoteOctets a else a

/-- Compares what two operands name. -/
def compareOperands (i : Invoked) (v : Setting) (switches a b : Octets) (s : State) : State :=
  let refuse (o : Octets) (fault : Fault) (s : State) : State :=
    worsened 2 (s.complain (i.name ++ ": " ++ Octets.text o ++ ": " ++ faultText fault))
  let depth := s.disk.descendants.length + 1
  let missing (o : Octets) : Side := ⟨o, none, none, false⟩
  match Side.of a s, Side.of b s with
  | .error .notFound, .ok y =>
    if v.newFiles || v.newFirst then compareSides i v switches depth true (missing a) y s else refuse a .notFound s
  | .ok x, .error .notFound =>
    if v.newFiles then compareSides i v switches depth true x (missing b) s else refuse b .notFound s
  | .error fault, .error fault' => refuse b fault' (refuse a fault s)
  | .error fault, .ok _ => refuse a fault s
  | .ok _, .error fault => refuse b fault s
  | .ok x, .ok y =>
    if x.isDirectory = y.isDirectory then compareSides i v switches depth true x y s
    else
      let (directory, file) := if x.isDirectory then (x, y) else (y, x)
      if file.isInput then worsened 2 (s.complain (i.name ++ ": cannot compare '-' to a directory"))
      else
        let inside := below directory.name (lastSegment file.name)
        match Side.of inside s with
        | .error fault => refuse inside fault s
        | .ok z => if x.isDirectory then compareSides i v switches depth true z y s
          else compareSides i v switches depth true x z s

end Difference

/-- Compares two files line by line, or the files of two directories. -/
def diff : Utility := fun call argv =>
  withSetting Difference.spec Difference.Setting.of (fun i v s =>
    match i.operands with
    | [a, b] => Difference.compareOperands i v (Difference.switchesOf argv i.operands) a b s
    | _ :: _ :: extra :: _ => (i.refuse ("extra operand '" ++ Octets.text extra ++ "'") s).ended 2
    | operands =>
      let last := Octets.text ((operands ++ argv.reverse).head?.getD [])
      (i.refuse ("missing operand after '" ++ last ++ "'") s).ended 2) call argv

end Utility

end Shell

end Tangle
