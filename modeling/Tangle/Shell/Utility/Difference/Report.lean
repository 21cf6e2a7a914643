import Tangle.Shell.Regex.Matching
import Tangle.Shell.Utility.Basic
import Tangle.Shell.Utility.Difference.Script
/-!
# How differences are told

The styles in which the changes from one text to another are told: with the
commands that make them, with the lines around them, or with both texts side
by side (`report`).
-/

namespace Tangle

namespace Shell

namespace Utility

namespace Difference

/-- A style of telling changes. -/
inductive Style where
  /-- Commands and lines. -/
  | normal
  /-- Commands of a line editor, the last one first. -/
  | editor
  /-- Such commands from the first one on. -/
  | forward
  /-- Commands with numbers of lines. -/
  | counted
  /-- The lines of each text with those around them. -/
  | context
  /-- The lines of both texts with those around them. -/
  | unified
  /-- Both texts side by side. -/
  | beside
deriving Repr, DecidableEq

/-- How blanks count when lines are compared. -/
inductive Blanks where
  /-- As they are. -/
  | exact
  /-- Tabs like the blanks that they show as. -/
  | expanded
  /-- Not at the end of a line. -/
  | trailing
  /-- Any number as one, and none at the end of a line. -/
  | amount
  /-- Not at all. -/
  | none
deriving Repr, DecidableEq

/-- What differences are looked for, and how they are told. -/
structure Setting where
  /-- The style, if one is asked for. -/
  style : Option Style
  /-- The lines around changes. -/
  around : Option Nat
  /-- Letters count without regard to case. -/
  folds : Bool
  /-- How blanks count. -/
  blanks : Blanks
  /-- A carriage return at the end of a line does not count. -/
  dropsReturns : Bool
  /-- Changes of empty lines do not count. -/
  ignoresEmpty : Bool
  /-- Changes of lines that one of these matches do not count. -/
  ignored : List Regex
  /-- No shorter way is possible. -/
  minimal : Bool
  /-- Texts are taken for text in any case. -/
  asText : Bool
  /-- Only the fact that files differ is told. -/
  brief : Bool
  /-- The fact that files are identical is told. -/
  tellsIdentical : Bool
  /-- The names that files have in the report. -/
  labels : List Octets
  /-- A tab stands in front of lines. -/
  tabbed : Bool
  /-- Tabs are shown as blanks. -/
  expands : Bool
  /-- The places between two tabs. -/
  tab : Nat
  /-- Empty lines around changes have no blank in front. -/
  bareEmpty : Bool
  /-- The line before a change is told that one of these matches. -/
  headings : List Regex
  /-- The width of two texts side by side, if one is asked for. -/
  width : Option Nat
  /-- Lines that both texts have are shown once. -/
  leftOnly : Bool
  /-- Lines that both texts have are not shown. -/
  changesOnly : Bool
  /-- Directories are compared with all that is in them. -/
  recursive : Bool
  /-- A missing file counts as empty. -/
  newFiles : Bool
  /-- A file that is missing in the first place counts as empty. -/
  newFirst : Bool
  /-- The patterns of names that do not count. -/
  excluded : List Octets
  /-- The name from which directories are compared. -/
  startName : Octets

namespace Setting

/-- What counts without any option. -/
def standard : Setting :=
  ⟨.none, .none, false, .exact, false, false, [], false, false, false, false, [], false, false, 8, false, [], .none, false,
    false, false, false, false, [], []⟩

/-- The style of the report. -/
def chosen (v : Setting) : Style := v.style.getD .normal

/-- The number of lines around changes. -/
def margin (v : Setting) : Nat := if v.chosen = .context || v.chosen = .unified then v.around.getD 3 else 0

/-- A character that shows nothing. -/
def isSpace (c : Char) : Bool := Numeral.isBlank c

/-- A line with its tabs as blanks. -/
def untabbed (tab : Nat) (column : Nat) : Octets → Octets
  | [] => []
  | '\t' :: s =>
    let n := tab - column % tab
    List.replicate n ' ' ++ untabbed tab (column + n) s
  | c :: s => c :: untabbed tab (if c = '\n' then 0 else column + 1) s

/-- A line with each run of blanks as one. -/
def single : Octets → Octets
  | [] => []
  | c :: s =>
    if isSpace c then
      match single s with
      | ' ' :: rest => ' ' :: rest
      | rest => ' ' :: rest
    else c :: single s

/-- What counts of a line when it is compared. -/
def key (v : Setting) (line : Octets) : Octets :=
  let isComplete := line.getLast? = some '\n'
  let body := if isComplete then line.dropLast else line
  let body := if v.folds then body.map Char.toLower else body
  let trimmed (s : Octets) : Octets := (s.reverse.dropWhile isSpace).reverse
  let ending : Octets := if isComplete || v.chosen = .editor || v.chosen = .forward then ['\n'] else []
  match v.blanks with
  | .exact => body ++ ending
  | .expanded => untabbed v.tab 0 body ++ ending
  | .trailing => trimmed body ++ ['\n']
  | .amount => single (trimmed body) ++ ['\n']
  | .none => body.filter (fun c => !isSpace c) ++ ['\n']

/-- A change of a line counts. -/
def minds (v : Setting) (line : Octets) : Bool :=
  let body := if line.getLast? = some '\n' then line.dropLast else line
  let isEmpty := v.ignoresEmpty && match v.blanks with
    | .trailing | .amount | .none => body.all isSpace
    | _ => body.isEmpty
  let isIgnored := v.ignored.any fun r => (r.search? ⟨false, false, true⟩ body 0).isSome
  !isEmpty && !isIgnored

end Setting

/-- Two texts whose changes are told. -/
structure Pair where
  /-- The lines of the old text. -/
  old : Array Octets
  /-- The lines of the new text. -/
  new : Array Octets

/-- Lines from one on. -/
def some' (lines : Array Octets) (first count : Nat) : List Octets := (lines.extract first (first + count)).toList

/-- The change counts. -/
def counts (v : Setting) (p : Pair) (c : Change) : Bool :=
  let plain := !v.ignoresEmpty && v.ignored.isEmpty
  plain || (some' p.old c.first c.removed ++ some' p.new c.second c.added).any v.minds

/-! ## Lines -/

/-- A line of a text behind a sign. -/
def Setting.line (v : Setting) (sign : Octets) (gap : Bool) (line : Octets) : Octets :=
  let isComplete := line.getLast? = some '\n'
  let isBare := v.bareEmpty && line = ['\n']
  let sign := if isBare && sign = [' '] then [] else sign
  let gap : Octets := if isBare then [] else if sign.isEmpty || !gap then (if v.tabbed && !sign.isEmpty then ['\t'] else [])
    else if v.tabbed then ['\t'] else [' ']
  let shown := if v.expands then Setting.untabbed v.tab 0 line else line
  sign ++ gap ++ shown ++ if isComplete then [] else "\n\\ No newline at end of file\n".toList

/-- A range of lines: the first one and how many, in the form of two
numbers; an empty one is told by the line before. -/
def range (separator : Char) (first count : Nat) : Octets :=
  if count ≤ 1 then decimal (first + count) else decimal (first + 1) ++ [separator] ++ decimal (first + count)

/-- A range of lines: the first one and how many, in the form of a number and
a count. -/
def countedRange (first count : Nat) : Octets :=
  if count = 1 then decimal (first + 1)
  else decimal (if count = 0 then first else first + 1) ++ [','] ++ decimal count

/-- The letter for a change. -/
def letter (c : Change) : Char := if c.removed = 0 then 'a' else if c.added = 0 then 'd' else 'c'

/-! ## Commands -/

/-- A change in the usual style. -/
def normal (v : Setting) (p : Pair) (c : Change) : Octets :=
  range ',' c.first c.removed ++ [letter c] ++ range ',' c.second c.added ++ ['\n']
    ++ (some' p.old c.first c.removed).flatMap (v.line ['<'] true)
    ++ (if letter c = 'c' then "---\n".toList else [])
    ++ (some' p.new c.second c.added).flatMap (v.line ['>'] true)

/-- A line with an end. -/
def completed (line : Octets) : Octets := if line.getLast? = some '\n' then line else line ++ ['\n']

/-- The lines that a line editor takes, up to one that is a dot alone. -/
def inserted : Bool → List Octets → Octets
  | open', [] => if open' then ".\n".toList else []
  | open', l :: ls =>
    (if open' then [] else "a\n".toList)
      ++ if l = ".\n".toList then "..\n.\ns/.//\n".toList ++ inserted false ls else completed l ++ inserted true ls

/-- A change as a command of a line editor. -/
def editor (p : Pair) (c : Change) : Octets :=
  range ',' c.first c.removed ++ [letter c, '\n']
    ++ if c.added = 0 then [] else inserted true (some' p.new c.second c.added)

/-- A change as a command with the letter in front. -/
def forward (p : Pair) (c : Change) : Octets :=
  [letter c] ++ range ' ' c.first c.removed ++ ['\n']
    ++ if c.added = 0 then [] else (some' p.new c.second c.added).flatMap completed ++ ".\n".toList

/-- A change as commands with numbers of lines. -/
def counted (p : Pair) (c : Change) : Octets :=
  (if c.removed = 0 then [] else "d".toList ++ decimal (c.first + 1) ++ [' '] ++ decimal c.removed ++ ['\n'])
    ++ if c.added = 0 then []
      else "a".toList ++ decimal (c.first + c.removed) ++ [' '] ++ decimal c.added ++ ['\n']
        ++ (some' p.new c.second c.added).flatten

/-! ## Changes with the lines around them -/

/-- Changes in groups, where those with few lines in between are together. -/
def hunks (margin : Nat) : List Change → List (List Change)
  | [] => []
  | [c] => [[c]]
  | c :: d :: rest =>
    match hunks margin (d :: rest) with
    | group :: groups =>
      if d.first - (c.first + c.removed) ≤ 2 * margin then (c :: group) :: groups else [c] :: group :: groups
    | [] => [[c]]

/-- The lines of both texts that a group of changes tells: the first line
and how many, in the old text and in the new one. -/
def extent (margin : Nat) (p : Pair) (cs : List Change) : (Nat × Nat) × (Nat × Nat) :=
  match cs, cs.getLast? with
  | c :: _, some l =>
    let (i, j) := (c.first - margin, c.second - margin)
    let (i', j') := (min p.old.size (l.first + l.removed + margin), min p.new.size (l.second + l.added + margin))
    ((i, i' - i), (j, j' - j))
  | _, _ => ((0, 0), (0, 0))

/-- The heading of the part of the old text where a line stands. -/
def heading (v : Setting) (p : Pair) (first : Nat) : Octets :=
  let before := (some' p.old 0 first).reverse
  let body (l : Octets) : Octets := l.takeWhile (· ≠ '\n')
  match before.find? fun l => v.headings.any fun r => (r.search? ⟨false, false, true⟩ (body l) 0).isSome with
  | some l =>
    let shown := ((body l).dropWhile Setting.isSpace).take 40
    ' ' :: (shown.reverse.dropWhile Setting.isSpace).reverse
  | none => []

/-- A line around changes in the unified style. -/
def besideLine (v : Setting) (l : Octets) : Octets :=
  if v.bareEmpty && l = ['\n'] then l
  else v.line (if v.tabbed then [] else [' ']) false (if v.tabbed then '\t' :: l else l)

/-- A group of changes in the unified style: the lines from one of the old
text on, up to another one. -/
def unifiedLines (v : Setting) (p : Pair) (stop : Nat) : Nat → List Change → Octets
  | i, [] => (some' p.old i (stop - i)).flatMap (besideLine v)
  | i, c :: cs =>
    (some' p.old i (c.first - i)).flatMap (besideLine v)
      ++ (some' p.old c.first c.removed).flatMap (v.line ['-'] false)
      ++ (some' p.new c.second c.added).flatMap (v.line ['+'] false)
      ++ unifiedLines v p stop (c.first + c.removed) cs

/-- A group of changes in the unified style. -/
def unified (v : Setting) (p : Pair) (cs : List Change) : Octets :=
  let ((i, m), (j, n)) := extent v.margin p cs
  "@@ -".toList ++ countedRange i m ++ " +".toList ++ countedRange j n ++ " @@".toList ++ heading v p i ++ ['\n']
    ++ unifiedLines v p (i + m) i cs

/-- The lines of one text with signs for those that change. `places` has the
first line of each change, how many there are, and whether the other text
has some instead. -/
def signed (v : Setting) (lines : Array Octets) (sign : Char) (first count : Nat)
    (places : List (Nat × Nat × Bool)) : Octets :=
  ((List.range count).map (first + ·)).flatMap fun n =>
    let sign := match places.find? fun p => p.1 ≤ n && n < p.1 + p.2.1 with
      | some (_, _, true) => '!'
      | some (_, _, false) => sign
      | none => ' '
    v.line [sign] true (lines.getD n [])

/-- A group of changes with the lines of each text. -/
def context (v : Setting) (p : Pair) (cs : List Change) : Octets :=
  let ((i, m), (j, n)) := extent v.margin p cs
  let removes := cs.any fun c => 0 < c.removed
  let adds := cs.any fun c => 0 < c.added
  "***************".toList ++ heading v p i ++ "\n*** ".toList ++ range ',' i m ++ " ****\n".toList
    ++ (if removes then signed v p.old '-' i m (cs.map fun c => (c.first, c.removed, 0 < c.added)) else [])
    ++ "--- ".toList ++ range ',' j n ++ " ----\n".toList
    ++ if adds then signed v p.new '+' j n (cs.map fun c => (c.second, c.added, 0 < c.removed)) else []

/-! ## Side by side -/

/-- The width of each text, and the place where the second one starts. -/
def halves (v : Setting) : Nat × Nat :=
  let tab := if v.expands then 1 else v.tab
  let gutter := tab + 3
  let width := v.width.getD 130
  let middle := width / 2 + gutter / 2 + (if width % 2 = 1 && gutter % 2 = 1 then 1 else 0)
  let start := middle - middle % tab
  if start = 0 || width ≤ start then (0, width) else (min (start - 3) (width - start), start)

/-- Blanks from one place to another, with tabs where they fit. -/
def blanksTo (v : Setting) : Nat → Nat → Nat → Octets
  | 0, _, _ => []
  | fuel + 1, start, stop =>
    let next := start + v.tab - start % v.tab
    if stop ≤ start then []
    else if !v.expands && next ≤ stop then '\t' :: blanksTo v fuel next stop
    else ' ' :: blanksTo v fuel (start + 1) stop

/-- As much of a line as a half holds: its characters, and the place after
them. `column` is the place of the line and `place` that of what is
written. -/
def half (v : Setting) (width : Nat) : List Char → Nat → Nat → Octets × Nat
  | [], _, place => ([], place)
  | '\n' :: _, _, place => ([], place)
  | '\t' :: cs, column, place =>
    let step := v.tab - column % v.tab
    let stop := place + step
    if column ≠ place then half v width cs (column + step) place
    else if v.expands then
      let stop := min width stop
      let (rest, last) := half v width cs (column + step) (max place stop)
      (List.replicate (stop - place) ' ' ++ rest, last)
    else if stop < width then
      let (rest, last) := half v width cs (column + step) stop
      ('\t' :: rest, last)
    else half v width cs (column + step) place
  | c :: cs, column, place =>
    if isHidden c then
      let (rest, last) := half v width cs column place
      (Octets.ofChar c ++ rest, last)
    else if column + 1 ≤ width then
      let (rest, last) := half v width cs (column + 1) (column + 1)
      (Octets.ofChar c ++ rest, last)
    else half v width cs (column + 1) place

/-- Two lines side by side with a sign between them. -/
def sideLine (v : Setting) (left : Option Octets) (sign : Char) (right : Option Octets) : Octets :=
  let (width, start) := halves v
  let isEnded (l : Option Octets) : Bool := (l.bind List.getLast?) = some '\n'
  let (first, place) := match left with
    | some l => half v width (Octets.chars l) 0 0
    | none => ([], 0)
  let signPlace := (width + start - 1) / 2
  let sign := if sign = '|' && isEnded left ≠ isEnded right then (if isEnded left then '/' else '\\') else sign
  let (middle, place) : Octets × Nat := if sign = ' ' then ([], place)
    else (blanksTo v (start + 1) place signPlace ++ [sign], signPlace + 1)
  let last : Octets := match right with
    | some r => if r.head? = some '\n' then [] else blanksTo v (start + 1) place start ++ (half v width (Octets.chars r) 0 0).1
    | none => []
  first ++ middle ++ last ++ if isEnded left || isEnded right then ['\n'] else []

/-- Lines that both texts have, side by side. -/
def sideCommon (v : Setting) (p : Pair) (i count j count' : Nat) : Octets :=
  if v.changesOnly then []
  else
    let (ls, rs) := (some' p.old i count, some' p.new j count')
    if v.leftOnly then ls.flatMap fun l => sideLine v (some l) '(' none
    else
      (ls.zip rs).flatMap (fun (l, r) => sideLine v (some l) ' ' (some r))
        ++ (rs.drop ls.length).flatMap (fun r => sideLine v none ')' (some r))
        ++ (ls.drop rs.length).flatMap fun l => sideLine v (some l) '(' none

/-- Both texts side by side from places in them on. -/
def sides (v : Setting) (p : Pair) : Nat → Nat → List Change → Octets
  | i, j, [] => sideCommon v p i (p.old.size - i) j (p.new.size - j)
  | i, j, c :: cs =>
    let (ls, rs) := (some' p.old c.first c.removed, some' p.new c.second c.added)
    let both := min ls.length rs.length
    sideCommon v p i (c.first - i) j (c.second - j)
      ++ (ls.zip rs).flatMap (fun (l, r) => sideLine v (some l) '|' (some r))
      ++ (rs.drop both).flatMap (fun r => sideLine v none '>' (some r))
      ++ (ls.drop both).flatMap (fun l => sideLine v (some l) '<' none)
      ++ sides v p (c.first + c.removed) (c.second + c.added) cs

/-! ## All styles -/

/-- The changes from one text to another in the style that is asked for;
`titles` are the names of the texts. -/
def report (v : Setting) (titles : Octets × Octets) (p : Pair) (cs : List Change) : Octets :=
  let wanted := cs.filter (counts v p)
  let groups := (hunks v.margin cs).filter fun g => g.any (counts v p)
  let titled (first second : String) (body : Octets) : Octets :=
    first.toList ++ titles.1 ++ ['\n'] ++ second.toList ++ titles.2 ++ ['\n'] ++ body
  match v.chosen with
  | .normal => wanted.flatMap (normal v p)
  | .editor => wanted.reverse.flatMap (editor p)
  | .forward => wanted.flatMap (forward p)
  | .counted => wanted.flatMap (counted p)
  | .context => titled "*** " "--- " (groups.flatMap (context v p))
  | .unified => titled "--- " "+++ " (groups.flatMap (unified v p))
  | .beside => sides v p 0 0 wanted

end Difference

end Utility

end Shell

end Tangle
