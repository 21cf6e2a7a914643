import Tangle.Shell.Utility.Paths
import Tangle.Shell.Regex.Matching
/-!
# Searching lines

`grep` prints the lines that match one of its patterns, or tells about them.
What is looked for (`Grep.Needle`) and what is told (`Grep.Setting`) follow from
the options; the files are searched one after the other (`Grep.searchFile`).
-/

namespace Tangle

namespace Shell

namespace Utility

namespace Grep

/-! ## Matches in a line -/

/-- What lines are searched for. -/
structure Needle where
  /-- The expressions. -/
  patterns : List Regex
  /-- How characters are compared. -/
  mode : Regex.Mode
  /-- Matches are whole words. -/
  words : Bool
  /-- Matches are whole lines. -/
  lines : Bool

namespace Needle

/-- The places where a match from a place can end, as far as words and
lines allow. -/
def admissible (n : Needle) (s : Regex.Spot) (ends : List (Regex.Spot × Regex.Groups)) : List Nat :=
  (ends.filter fun (e, _) =>
    (!n.lines || (s.position = 0 && e.rest.isEmpty))
      && (!n.words || (!s.before.any n.mode.isWord && !(n.mode.after e).any n.mode.isWord))).map
    fun (e, _) => e.position

/-- The first match at or after a place: where it starts and ends. -/
def searchFrom (n : Needle) (line : Octets) : Nat → Regex.Spot → Option (Nat × Nat)
  | 0, s => here s
  | fuel + 1, s =>
    match here s with
    | some found => some found
    | none => if s.rest.isEmpty then none else searchFrom n line fuel (n.mode.next s)
where
  /-- The longest match from a place. -/
  here (s : Regex.Spot) : Option (Nat × Nat) :=
    let stops := n.patterns.flatMap fun r => n.admissible s (Regex.ends n.mode line r s [])
    if stops.isEmpty then none else some (s.position, stops.foldl max 0)

/-- The first match in a line from an offset on. -/
def search (n : Needle) (line : Octets) (offset : Nat) : Option (Nat × Nat) :=
  n.searchFrom line (line.length + 1) (Regex.Spot.ofText n.mode line offset)

/-- The matches in a line that are not empty, one after the other: where they
start, and their texts. -/
def matchesIn (n : Needle) (line : Octets) : Nat → Nat → List (Nat × Octets)
  | 0, _ => []
  | fuel + 1, offset =>
    match if line.length < offset then none else n.search line offset with
    | none => []
    | some (a, b) =>
      if a = b then matchesIn n line fuel (b + 1)
      else (a, (line.drop a).take (b - a)) :: matchesIn n line fuel b

/-- All matches in a line. -/
def found (n : Needle) (line : Octets) : List (Nat × Octets) := n.matchesIn line (line.length + 2) 0

end Needle

/-! ## What is told -/

/-- What is told about a file. -/
inductive Report where
  /-- The lines that are wanted. -/
  | lines
  /-- The parts of them that match. -/
  | parts
  /-- Their number. -/
  | count
  /-- The name, if there are such lines or if there are none. -/
  | names (wanted : Bool)
  /-- Nothing. -/
  | nothing
deriving Repr, DecidableEq

/-- What is done with a file that is no text. -/
inductive Foreign where
  /-- It is only told that there is a match. -/
  | told
  /-- It counts as text. -/
  | text
  /-- It has no match. -/
  | skipped
deriving Repr, DecidableEq

/-- How files are searched. -/
structure Setting where
  /-- How the program was called. -/
  invoked : Invoked
  /-- What lines are searched for. -/
  needle : Needle
  /-- The lines without a match are wanted. -/
  inverted : Bool
  /-- What is told. -/
  report : Report
  /-- The number of lines after which the search ends. -/
  limit : Option Nat
  /-- The lines that are shown before a wanted one. -/
  before : Nat
  /-- The lines that are shown after a wanted one. -/
  after : Nat
  /-- What is printed between lines that do not follow each other. -/
  divider : Option Octets
  /-- Lines have their numbers in front. -/
  numbered : Bool
  /-- Lines have the number of octets before them in front. -/
  placed : Bool
  /-- Lines start where a tab ends. -/
  aligned : Bool
  /-- Names end with a zero. -/
  zeros : Bool
  /-- The parts have their colours. -/
  colored : Bool
  /-- The character at the end of lines. -/
  lineEnd : Char
  /-- What is done with a file that is no text. -/
  foreign : Foreign
  /-- The name of standard input. -/
  label : Octets
  /-- There are no complaints about files. -/
  silent : Bool

/-- A text in a colour. -/
def Setting.paint (v : Setting) (color : String) (s : Octets) : Octets :=
  if v.colored then "\x1b[".toList ++ color.toList ++ "m\x1b[K".toList ++ s ++ "\x1b[m\x1b[K".toList else s

/-- A mark between the parts of a row. -/
def Setting.mark (v : Setting) (s : Octets) : Octets := v.paint "36" s

/-- A line that was looked at. -/
structure Line where
  /-- Its number. -/
  number : Nat
  /-- The number of octets before it. -/
  offset : Nat
  /-- Its text. -/
  text : Octets
  /-- It is one of those that are wanted. -/
  isHit : Bool

/-- How a file is shown. -/
structure Title where
  /-- Its name. -/
  name : Octets
  /-- Rows have the name in front. -/
  shown : Bool
  /-- The width of numbers. -/
  width : Nat

/-- What stands in a row before a text of a line that has so many octets
before it. -/
def Setting.lead (v : Setting) (t : Title) (l : Line) (inner : Nat) (text : Octets) : Octets :=
  let sign := v.mark [if l.isHit then ':' else '-']
  let number (n : Nat) : Octets := v.paint "32" (padLeft t.width (decimal n)) ++ sign
  let tabbed := v.aligned && (t.shown || v.numbered || v.placed) && !text.isEmpty
  (if t.shown then v.paint "35" t.name ++ (if v.zeros then ['\x00'] else sign) else [])
    ++ (if v.numbered then number l.number else [])
    ++ (if v.placed then number (l.offset + inner) else [])
    ++ (if tabbed then ['\t'] else [])

/-- A line with its matches in colour. -/
def Setting.highlight (v : Setting) (line : Octets) : Octets :=
  let go := (v.needle.found line).foldr (fun (start, t) (acc : Octets × Nat) =>
    ((v.paint "01;31" t) ++ (line.drop (start + t.length)).take (acc.2 - (start + t.length)) ++ acc.1, start))
    ([], line.length)
  line.take go.2 ++ go.1

/-- The texts of a line that are shown, with the numbers of octets before
them. -/
def Setting.texts (v : Setting) (l : Line) : List (Nat × Octets × Octets) :=
  let matching := l.isHit != v.inverted
  if v.report = .parts then
    if matching && l.isHit then (v.needle.found l.text).map fun (n, t) => (n, t, v.paint "01;31" t) else []
  else [(0, l.text, if v.colored && matching then v.highlight l.text else l.text)]

/-! ## Lines -/

/-- The lines of a text with the numbers of octets before them. -/
def placedLines (lineEnd : Char) (text : Octets) : List (Nat × Octets) :=
  ((linesWithEnds lineEnd text).foldl (fun (acc : Nat × List (Nat × Octets)) l =>
    (acc.1 + l.1.length + 1, (acc.1, l.1) :: acc.2)) (0, [])).2.reverse

/-- Which lines lie at most so many lines after a wanted one. -/
def reached (count : Nat) (lines : List Line) : List Bool :=
  (lines.foldl (fun (acc : Nat × List Bool) l =>
    let left := if l.isHit then count + 1 else acc.1
    (left - 1, (0 < left) :: acc.2)) (0, [])).2.reverse

/-- The lines that are shown: those that are wanted and those around them. -/
def shownLines (before after : Nat) (lines : List Line) : List Line :=
  let behind := reached after lines
  let ahead := (reached before lines.reverse).reverse
  (lines.zip (behind.zip ahead)).filterMap fun (l, b, a) => if b || a then some l else none

/-- The lines after so many hits are not wanted any more. -/
def limited (limit : Option Nat) (lines : List Line) : List Line :=
  match limit with
  | none => lines
  | some n => (lines.foldl (fun (acc : Nat × List Line) l =>
      if l.isHit && acc.1 = 0 then (0, { l with isHit := false } :: acc.2)
      else (if l.isHit then acc.1 - 1 else acc.1, l :: acc.2)) (n, [])).2.reverse

/-! ## Files -/

/-- What a search has come to. -/
structure Progress where
  /-- There was a line that is wanted. -/
  found : Bool
  /-- A file could not be searched. -/
  failed : Bool
  /-- Lines were shown. -/
  shown : Bool
  /-- The state. -/
  state : State

/-- A file cannot be searched. -/
def Progress.refuse (v : Setting) (name : Octets) (reason : String) (p : Progress) : Progress :=
  { p with
    failed := true
    state := if v.silent then p.state else v.invoked.complain (Octets.text name ++ ": " ++ reason) p.state }

/-- The text has octets that are no part of a character. -/
def isBroken (s : Octets) : Bool := (Octets.chars s).any Octets.isStray

/-- The number of digits of the numbers in front of lines. -/
def numberWidth (v : Setting) (file text : Octets) (s : State) : Nat :=
  if !v.aligned then 0
  else if file = ['-'] && !s.readsFile then 19
  else (decimal text.length).length

/-- Shows lines. The first value tells that some were left out because they
are no text. -/
def showLines (v : Setting) (t : Title) (lines : List Line) (p : Progress) : Bool × Progress :=
  let (output, _, _, left) := lines.foldl (fun (output, (last : Option Nat), shown, left) l =>
    let rule := match v.divider with
      | some d => if shown && last ≠ some (l.number - 1) then v.mark d ++ ['\n'] else []
      | none => []
    let (whole, broken) := (v.texts l).partition fun (_, text, _) => v.foreign = .text || !isBroken text
    let rows := whole.flatMap fun (n, text, colored) => v.lead t l n text ++ colored ++ [v.lineEnd]
    ((rule ++ rows) :: output, some l.number, true, left || !broken.isEmpty))
    (([] : List Octets), none, p.shown, false)
  (left, { p with state := p.state.print output.reverse.flatten, shown := p.shown || !lines.isEmpty })

/-- Searches a file that was read. -/
def searchText (v : Setting) (t : Title) (text : Octets) (p : Progress) : Progress :=
  let isForeign := text.contains '\x00' && v.lineEnd ≠ '\x00' && v.foreign ≠ .text
  let readable := if isForeign then text.map fun c => if c = '\x00' then '\n' else c else text
  let placed := placedLines v.lineEnd readable
  let lines := ((List.range placed.length).zip placed).map fun (n, offset, l) =>
    (⟨n + 1, offset, l, (v.needle.search l 0).isSome != v.inverted⟩ : Line)
  let lines := limited v.limit lines
  let hits := if isForeign && v.foreign = .skipped then 0 else lines.countP Line.isHit
  let p := { p with found := p.found || 0 < hits }
  let printed (text : Octets) : Progress := { p with state := p.state.print text }
  let note (p : Progress) : Progress :=
    { p with state := p.state.complain (v.invoked.name ++ ": " ++ Octets.text t.name ++ ": binary file matches") }
  match v.report with
  | .nothing => p
  | .names wanted =>
    if (0 < hits) = wanted then printed (v.paint "35" t.name ++ [if v.zeros then '\x00' else '\n']) else p
  | .count =>
    let title := if t.shown then v.paint "35" t.name ++ (if v.zeros then ['\x00'] else v.mark [':']) else []
    printed (title ++ decimal hits ++ ['\n'])
  | _ =>
    if isForeign then (if 0 < hits then note p else p)
    else
      let (left, p) := showLines v t (shownLines v.before v.after lines) p
      if left && v.foreign = .told then note p else p

/-- The octets of a text after the line of the last hit that is taken. -/
def unsearched (v : Setting) (text : Octets) : Nat :=
  match v.limit with
  | none => 0
  | some n =>
    let hits := (placedLines v.lineEnd text).filter fun (_, l) => (v.needle.search l 0).isSome != v.inverted
    match if n = 0 then none else hits[n - 1]? with
    | some (offset, l) => text.length - (offset + l.length + 1)
    | none => 0

/-- Searches a file; `titled` tells that its name is shown. -/
def searchFile (v : Setting) (titled : Bool) (p : Progress) (file : Octets) : Progress :=
  if p.found && v.report = .nothing then p
  else
    let name := if file = ['-'] then v.label else file
    let shows := v.report = .lines || v.report = .parts
    if shows && v.limit ≠ some 1 && isOutput file p.state then
      p.refuse v name "input file is also the output"
    else
      match content file p.state with
      | (.error .isADirectory, s) =>
        searchText v ⟨name, titled, 0⟩ [] ({ p with state := s }.refuse v name (faultText .isADirectory))
      | (.error fault, s) => { p with state := s }.refuse v name (faultText fault)
      | (.ok text, s) =>
        let width := numberWidth v file text s
        let p := searchText v ⟨name, titled, width⟩ text { p with state := s }
        if file = ['-'] then { p with state := p.state.giveBack 0 (unsearched v text) } else p

/-! ## Choosing files -/

/-- Whether files of a name are searched. -/
structure Choice where
  /-- The option: `include`, `exclude` or `exclude-dir`. -/
  option : Char
  /-- The pattern of names. -/
  pattern : Octets

/-- The letters of options that have none of their own. -/
def includeOption : Char := 'α'

/-- The letter of `exclude`. -/
def excludeOption : Char := 'β'

/-- The letter of `exclude-dir`. -/
def excludeDirectoryOption : Char := 'γ'

/-- The parts of a path that start after a slash, and the path. -/
def suffixes : Octets → List Octets
  | [] => []
  | '/' :: s => (if s.isEmpty || s.head? = some '/' then [] else [s]) ++ suffixes s
  | _ :: s => suffixes s

/-- The file or directory is left out; an operand can match by its last
parts, another path only by its name. -/
def isLeftOut (choices : List Choice) (isDirectory isOperand : Bool) (path : Octets) : Bool :=
  let names := if isOperand then path :: suffixes path else [lastSegment path]
  let relevant := choices.filter fun c => (c.option = excludeDirectoryOption) = isDirectory
  let trimmed (p : Octets) : Octets := if isDirectory && 1 < p.length then (p.reverse.dropWhile (· = '/')).reverse else p
  match relevant.reverse.find? fun c => names.any fun n => globAccepts false (trimmed c.pattern) (trimmed n) with
  | some c => c.option ≠ includeOption
  | none => relevant.head?.any fun c => c.option = includeOption

/-- The files below a directory that are searched. `through` tells that links
are followed. -/
def filesBelow (choices : List Choice) (through : Bool) (s : State) : Nat → Octets → List Place → Node → List Octets
  | 0, _, _, _ => []
  | fuel + 1, path, above, node =>
    node.entries.flatMap fun (name, entry) =>
      let path := below path (Octets.ofString name)
      let goal : Option (Place × Node) := match entry with
        | .link _ =>
          if through then
            match s.disk.find s.cwd (State.path path) with
            | .ok ⟨place, some node, _⟩ => some (place, node)
            | _ => none
          else none
        | n => some ([], n)
      match goal with
      | some (place, .directory es a) =>
        if isLeftOut choices true false path || (place ≠ [] && above.contains place) then []
        else filesBelow choices through s fuel path (if place = [] then above else place :: above) (.directory es a)
      | some (_, n) => if n.isFile && !isLeftOut choices false false path then [path] else []
      | none => []

/-- The depth to which directories are searched. -/
def depthLimit : Nat := 100

/-! ## Options -/

/-- The basic spelling. -/
def basicRules : Regex.Rules := { Regex.Rules.posixBasic with repeatsOnce := false, nestsKinds := true }

/-- The extended spelling. -/
def extendedRules : Regex.Rules :=
  { Regex.Rules.posixExtended with idle := .skipped, looseIntervals := true, nestsKinds := true }

/-- The options. -/
def options : Spec :=
  { flags := "EFGPivcnlLqsohHwxrRazyTUbIZuδεζ0123456789", valued := "efmABCdDXαβγθικ", optional := "λ"
    long := [("basic-regexp", 'G'), ("extended-regexp", 'E'), ("fixed-regexp", 'F'), ("fixed-strings", 'F'),
      ("perl-regexp", 'P'), ("after-context", 'A'), ("before-context", 'B'), ("binary-files", 'θ'),
      ("line-buffered", 'δ'), ("byte-offset", 'b'), ("context", 'C'), ("color", 'λ'), ("colour", 'λ'), ("count", 'c'),
      ("devices", 'D'), ("directories", 'd'), ("exclude", excludeOption), ("exclude-dir", excludeDirectoryOption),
      ("file", 'f'), ("files-with-matches", 'l'), ("files-without-match", 'L'), ("group-separator", 'ι'),
      ("include", includeOption), ("ignore-case", 'i'), ("no-ignore-case", 'ε'), ("initial-tab", 'T'), ("label", 'κ'),
      ("line-number", 'n'), ("line-regexp", 'x'), ("max-count", 'm'), ("no-filename", 'h'), ("no-group-separator", 'ζ'),
      ("no-messages", 's'), ("null", 'Z'), ("null-data", 'z'), ("only-matching", 'o'), ("quiet", 'q'), ("recursive", 'r'),
      ("dereference-recursive", 'R'), ("regexp", 'e'), ("invert-match", 'v'), ("silent", 'q'), ("text", 'a'),
      ("binary", 'U'), ("with-filename", 'H'), ("word-regexp", 'w')]
    ordered := false, status := 2 }

/-- Tells how the program is used. -/
def usage (i : Invoked) (s : State) : State :=
  ((s.complain ("Usage: " ++ i.name ++ " [OPTION]... PATTERNS [FILE]...")).complain
    ("Try '" ++ i.name ++ " --help' for more information.")).ended 2

/-- What is wrong with the argument of an option: the complaint, and whether
it is told how the program is used, and the status. -/
def wrongArgument? (o : Char × Octets) : Option (String × Bool × Nat) :=
  let stop (message : String) : Option (String × Bool × Nat) := some (message, false, 2)
  let isOneOf (words : List String) : Bool := words.any fun w => w.toList = o.2
  let isNumber := (Octets.int? o.2).isSome
  match o.1 with
  | 'A' | 'B' | 'C' =>
    if (Octets.nat? o.2).isSome then none else stop (Octets.text o.2 ++ ": invalid context length argument")
  | 'm' => if isNumber then none else stop "invalid max count"
  | 'd' =>
    if isOneOf ["read", "recurse", "skip"] then none
    else some ("invalid argument " ++ curly o.2 ++ " for ‘--directories’\nValid arguments are:\n"
      ++ "  - ‘read’\n  - ‘recurse’\n  - ‘skip’", true, 1)
  | 'D' => if isOneOf ["read", "skip"] then none else stop "unknown devices method"
  | 'X' =>
    if isOneOf ["grep", "egrep", "fgrep", "awk", "gawk", "posixawk", "perl"] then none
    else stop ("invalid matcher " ++ Octets.text o.2)
  | 'θ' => if isOneOf ["binary", "text", "without-match"] then none else stop "unknown binary-files type"
  | _ => none

/-- The letter of the spelling that an option asks for. -/
def spellingOf? (o : Char × Octets) : Option Char :=
  if "EFGP".toList.contains o.1 then some o.1
  else if o.1 = 'X' then
    match String.ofList o.2 with
    | "grep" => some 'G'
    | "fgrep" => some 'F'
    | "perl" => some 'P'
    | _ => some 'E'
  else none

/-- What is wrong with the first of the options that is not in order. There
is but one spelling. -/
def firstWrong? : Option Char → List (Char × Octets) → Option (String × Bool × Nat)
  | _, [] => none
  | letter, o :: rest =>
    match wrongArgument? o, letter, spellingOf? o with
    | some wrong, _, _ => some wrong
    | none, some a, some b => if a = b then firstWrong? letter rest else some ("conflicting matchers specified", false, 2)
    | none, a, b => firstWrong? (b.or a) rest

/-- The letter of the spelling that options ask for. -/
def spelling (options : List (Char × Octets)) : Char := (options.findSome? spellingOf?).getD 'G'

/-- The number of lines around those that are wanted, by the digits among
the options, or by an option. -/
def contextOf (options : List (Char × Octets)) : Option Nat :=
  let written := options.foldl (fun (acc : Option Octets × Bool) o =>
    if o.1.isDigit then (some ((if acc.2 then acc.1.getD [] else []) ++ [o.1]), true)
    else if o.1 = 'C' then (some o.2, false)
    else (acc.1, false)) (none, false)
  written.1.bind Octets.nat?

/-- A pattern with the classes that letters stand for written out. -/
def lettersWrittenOut : Octets → Octets
  | '\\' :: 'd' :: s => "[0-9]".toList ++ lettersWrittenOut s
  | '\\' :: 'D' :: s => "[^0-9]".toList ++ lettersWrittenOut s
  | '\\' :: 't' :: s => '\t' :: lettersWrittenOut s
  | '\\' :: c :: s => '\\' :: c :: lettersWrittenOut s
  | '(' :: '?' :: ':' :: s => '(' :: lettersWrittenOut s
  | c :: s => c :: lettersWrittenOut s
  | [] => []

/-- The spelling of patterns by its letter. -/
def read (letter : Char) (t : Octets) : Except Regex.Flaw Regex :=
  match letter with
  | 'F' => .ok (.ofLiteral (Octets.chars t))
  | 'E' => Regex.read extendedRules t
  | 'P' => Regex.read extendedRules (lettersWrittenOut t)
  | _ => Regex.read basicRules t

/-- What is odd about a pattern of the extended spelling: repetitions with
nothing to repeat. -/
def oddities : Nat → Bool → Octets → List String
  | 0, _, _ => []
  | _ + 1, _, [] => []
  | fuel + 1, _, '\\' :: s => oddities fuel false (s.drop 1)
  | fuel + 1, _, '[' :: s =>
    let inside := s.drop (if s.head? = some '^' then 2 else 1)
    oddities fuel false ((inside.dropWhile (· ≠ ']')).drop 1)
  | fuel + 1, atFront, c :: s =>
    if c = '(' || c = '|' || c = '^' then oddities fuel true s
    else
      let sign := if c = '*' || c = '+' || c = '?' then some (String.singleton c)
        else if c = '\x7b' && s.head?.any Char.isDigit then some "\x7b...\x7d" else none
      match sign, atFront with
      | some name, true =>
        let after := if c = '\x7b' then (s.dropWhile (· ≠ '\x7d')).drop 1 else s
        ("warning: " ++ name ++ " at start of expression") :: oddities fuel true after
      | _, _ => oddities fuel false s

/-- A pattern with the place that it comes from, if that is a file. -/
structure Source where
  /-- The text. -/
  text : Octets
  /-- The file and the number of the line. -/
  place : Option (Octets × Nat)

/-- The patterns that options give; a file that cannot be read is a
fault. -/
def sourcesOf (options : List (Char × Octets)) (s : State) : Except (Octets × Fault) (List Source) × State :=
  options.foldl (fun (acc, s) o =>
    match acc with
    | .error fault => (.error fault, s)
    | .ok sources =>
      if o.1 = 'e' then (.ok (sources ++ (Octets.splitOn '\n' o.2).map fun t => ⟨t, none⟩), s)
      else if o.1 = 'f' then
        match content o.2 s with
        | (.error fault, s) => (.error (o.2, fault), s)
        | (.ok text, s) =>
          let lines := Octets.lines text
          (.ok (sources ++ ((List.range lines.length).zip lines).map fun (n, t) => ⟨t, some (o.2, n + 1)⟩), s)
      else (acc, s)) (.ok [], s)

/-- What options ask to be told. -/
def reportOf (i : Invoked) : Report :=
  if i.has 'q' then .nothing
  else
    match i.last? "lL" with
    | some c => .names (c = 'l')
    | none => if i.has 'c' then .count else if i.has 'o' then .parts else .lines

/-- What options ask to be done with files that are no text. -/
def foreignOf (i : Invoked) : Foreign :=
  match (i.options.filter fun o => "aIθ".toList.contains o.1).getLast? with
  | some ('a', _) => .text
  | some ('I', _) => .skipped
  | some (_, v) => if v = "text".toList then .text else if v = "binary".toList then .told else .skipped
  | none => .told

/-- How files are searched by options. -/
def settingOf (i : Invoked) (needle : Needle) : Setting :=
  let report := reportOf i
  let context := contextOf i.options
  let number (c : Char) : Option Nat := ((i.value? c).bind Octets.nat?).or context
  let aroundLines := report = .lines
  let separator := match (i.options.filter fun o => "ιζ".toList.contains o.1).getLast? with
    | some ('ι', v) => some v
    | some _ => none
    | none => some ['-', '-']
  { invoked := i, needle, inverted := i.has 'v', report
    limit := ((i.value? 'm').bind Octets.int?).bind fun n => if n < 0 then none else some n.toNat
    before := if aroundLines then (number 'B').getD 0 else 0
    after := if aroundLines then (number 'A').getD 0 else 0
    divider := if (number 'A').isSome || (number 'B').isSome then separator else none
    numbered := i.has 'n', placed := i.has 'b', aligned := i.has 'T', zeros := i.has 'Z'
    colored := (i.value? 'λ').any fun v => v = "always".toList || v = "yes".toList || v = "force".toList
    lineEnd := if i.has 'z' then '\x00' else '\n'
    foreign := foreignOf i
    label := (i.value? 'κ').getD "(standard input)".toList
    silent := i.has 's' }

/-- The ways to treat a directory. -/
inductive Directories where
  /-- It is read like a file. -/
  | read
  /-- The files below it are searched. -/
  | searched
  /-- It is left out. -/
  | skipped
deriving Repr, DecidableEq

/-- How options ask for directories to be treated, and whether links are
followed. -/
def directoriesOf (i : Invoked) : Directories × Bool :=
  match (i.options.filter fun o => "rRd".toList.contains o.1).getLast? with
  | some ('d', v) => (if v = "recurse".toList then .searched else if v = "skip".toList then .skipped else .read, false)
  | some (c, _) => (.searched, c = 'R')
  | none => (.read, false)

/-- The files that operands name, each with the fact that it lies below one
of them. -/
def filesOf (i : Invoked) (operands : List Octets) (s : State) : List (Octets × Bool) :=
  let choices : List Choice := i.options.filterMap fun o =>
    if o.1 = includeOption || o.1 = excludeOption || o.1 = excludeDirectoryOption then some ⟨o.1, o.2⟩ else none
  let (directories, through) := directoriesOf i
  let isHere := operands.isEmpty && directories = .searched
  let operands := if !operands.isEmpty then operands else if isHere then [['.']] else [['-']]
  operands.flatMap fun o =>
    match if o = ['-'] then .error .notFound else s.lookup (State.path o) with
    | .ok (.directory es a) =>
      if directories = .skipped || (!isHere && isLeftOut choices true true o) then []
      else if directories = .searched then
        (filesBelow choices through s depthLimit o [] (.directory es a)).map fun f => (if isHere then f.drop 2 else f, true)
      else [(o, false)]
    | .ok _ => if isLeftOut choices false true o then [] else [(o, false)]
    | .error _ => [(o, false)]

/-- Reads the patterns; the first value has the complaints about those that
are none. -/
def readSources (letter : Char) (sources : List Source) : List String × List Regex :=
  sources.foldr (fun source (problems, patterns) =>
    match read letter source.text with
    | .ok r => (problems, r :: patterns)
    | .error flaw =>
      let place := match source.place with
        | some (file, n) => Octets.text file ++ ":" ++ toString n ++ ": "
        | none => ""
      ((place ++ flaw.message) :: problems, patterns)) ([], [])

/-- Searches the files that operands name. -/
def searchAll (i : Invoked) (sources : List Source) (operands : List Octets) (s : State) : State :=
  let letter := spelling i.options
  let folds := (i.last? "iyε").any (· ≠ 'ε')
  let (problems, patterns) := readSources letter sources
  let v := settingOf i ⟨patterns, ⟨folds, false, true⟩, i.has 'w', i.has 'x'⟩
  let isIdle := v.limit = some 0 || (sources.isEmpty && !v.inverted)
    || (v.inverted && !i.has 'w' && !i.has 'x' && sources.map Source.text = [[]])
  if isIdle && v.report ≠ .names false then s.ended 1
  else if !problems.isEmpty then (problems.foldl (fun s problem => i.complain problem s) s).ended 2
  else
    let warnings := if letter = 'E' then sources.flatMap fun t => oddities (t.text.length + 1) true t.text else []
    let s := warnings.foldl (fun s w => s.complain (i.name ++ ": " ++ w)) s
    let files := filesOf i operands s
    let titles : Octets × Bool → Bool := fun (_, isBelow) =>
      match i.last? "hH" with
      | some c => c = 'H'
      | none => 1 < operands.length || isBelow
    let p := files.foldl (fun p f => searchFile v (titles f) p f.1) ⟨false, false, false, s⟩
    p.state.ended (if p.failed && !(p.found && v.report = .nothing) then 2 else if p.found then 0 else 1)

end Grep

/-- Prints lines that match patterns. -/
def grep : Utility := fun _ argv s =>
  let i : Invoked := ⟨Octets.text (argv.head?.getD []), [], []⟩
  let (options, operands) := argumentsOf Grep.options argv
  match Grep.firstWrong? none options, operands with
  | some (message, isUsage, status), _ =>
    ((if isUsage then Grep.usage i else fun s => s) (i.complain message s)).ended status
  | none, .error problem => Grep.usage i (i.complain problem s)
  | none, .ok operands =>
    let i : Invoked := { i with options, operands }
    let isGiven := options.any fun o => o.1 = 'e' || o.1 = 'f'
    match isGiven, operands with
    | false, [] => Grep.usage i s
    | _, _ =>
      let pattern : List (Char × Octets) := if isGiven then [] else [('e', operands.head?.getD [])]
      match Grep.sourcesOf (options ++ pattern) s with
      | (.error (file, fault), s) => (i.complain (Octets.text file ++ ": " ++ faultText fault) s).ended 2
      | (.ok sources, s) => Grep.searchAll i sources (if isGiven then operands else operands.drop 1) s

/-- Prints lines that match patterns of a spelling, which is an option of
`grep`. -/
def grepBy (letter : Char) : Utility := fun call argv s =>
  grep call ("grep".toList :: ['-', letter] :: argv.drop 1) s

end Utility

end Shell

end Tangle
