import Tangle.Shell.Format
import Tangle.Shell.Utility.Amount
/-!
# Columns of lines

`cut` takes columns out of lines and `paste` puts lines side by side; `fold`
breaks lines at a width, and `expand` and `unexpand` exchange tabs and blanks.
-/

namespace Tangle

namespace Shell

namespace Utility

/-! ## Cutting columns out of lines -/

namespace Cut

/-- Columns that follow each other, counted from one. -/
structure Range where
  /-- The first one. -/
  first : Nat
  /-- The last one, if there is one. -/
  last : Option Nat
deriving Repr, DecidableEq

namespace Range

/-- The column is one of them. -/
def contains (r : Range) (n : Nat) : Bool := r.first ≤ n && r.last.all (n ≤ ·)

/-- Ranges in ascending order; those that have columns in common are put
together. -/
def merged (ranges : List Range) : List Range :=
  (ranges.mergeSort fun a b => a.first ≤ b.first).foldr insert []
where
  /-- A range in front of others. -/
  insert (r : Range) (ranges : List Range) : List Range :=
    let (near, far) := ranges.span fun q => r.last.all (q.first ≤ ·)
    let last := near.foldl (fun (last : Option Nat) q => last.bind fun n => q.last.map (max n)) r.last
    ⟨r.first, last⟩ :: far

/-- The columns outside of ranges that are in order, from one on. -/
def complement : Nat → List Range → List Range
  | next, [] => [⟨next, none⟩]
  | next, r :: rest =>
    let front := if next < r.first then [⟨next, some (r.first - 1)⟩] else []
    match r.last with
    | some n => front ++ complement (n + 1) rest
    | none => front

end Range

/-- What columns are made of. -/
inductive Unit where
  /-- Octets. -/
  | octet
  /-- Fields. -/
  | field
deriving Repr, DecidableEq

/-- The complaint about the column zero. -/
def Unit.fromOne : Unit → String
  | octet => "byte/character positions are numbered from 1"
  | field => "fields are numbered from 1"

/-- A part of a list of columns; `rest` is the list from there on. -/
def readRange (unit : Unit) (part rest : Octets) : Except String Range := do
  let number (ds : Octets) (rest : Octets) : Except String Nat :=
    if !ds.all Char.isDigit then
      .error ((if unit = .field then "invalid field value " else "invalid byte/character position ")
        ++ curly (rest.dropWhile Char.isDigit))
    else
      let n := (Octets.nat? ds).getD 0
      if Amount.greatest ≤ n then
        .error ((if unit = .field then "field number " else "byte/character offset ") ++ curly ds ++ " is too large")
      else .ok n
  let low := part.takeWhile (· ≠ '-')
  let first ← number low rest
  match part.drop low.length with
  | [] => if first = 0 then throw unit.fromOne else return ⟨first, some first⟩
  | _ :: more =>
    if !low.isEmpty && first = 0 then throw unit.fromOne
    else
      let high := more.takeWhile (· ≠ '-')
      let last ← number high (rest.drop (low.length + 1))
      if high.length < more.length then
        throw (if unit = .field then "invalid field range" else "invalid byte or character range")
      else if low.isEmpty && high.isEmpty then throw "invalid range with no endpoint: -"
      else
        let first := if low.isEmpty then 1 else first
        if high.isEmpty then return ⟨first, none⟩
        else if last < first then throw "invalid decreasing range"
        else return ⟨first, some last⟩

/-- The ranges that a list names. -/
def readRanges (unit : Unit) : Nat → Octets → Except String (List Range)
  | 0, _ => .ok []
  | fuel + 1, s => do
    let isSeparator (c : Char) : Bool := c = ',' || c = ' ' || c = '\t'
    let part := s.takeWhile (!isSeparator ·)
    let r ← readRange unit part s
    match s.drop part.length with
    | [] => return [r]
    | _ :: rest => return r :: (← readRanges unit fuel rest)

/-- How columns are cut. -/
structure Setting where
  /-- What they are made of. -/
  unit : Unit
  /-- Those that are wanted, in order. -/
  ranges : List Range
  /-- What separates fields. -/
  delimiter : Char
  /-- What is printed between fields, or between ranges of octets. -/
  joint : Option Octets
  /-- Lines without a separator are left out. -/
  onlyDelimited : Bool
  /-- What ends a line. -/
  lineEnd : Char

/-- The items with their numbers, as far as they are wanted. -/
def Setting.chosen {α : Type} (v : Setting) (items : List α) : List (Nat × α) :=
  (((List.range items.length).map (· + 1)).zip items).filter fun (n, _) => v.ranges.any fun r => r.contains n

/-- The wanted octets of a line. -/
def Setting.cutOctets (v : Setting) (l : Octets) : Octets :=
  match v.joint with
  | none => (v.chosen l).map Prod.snd
  | some joint =>
    (v.chosen l).zipIdx.flatMap fun ((n, c), k) =>
      if 0 < k && v.ranges.any (fun r => r.first = n) then joint ++ [c] else [c]

/-- The wanted fields. -/
def Setting.cutFields (v : Setting) (fields : List Octets) : Octets :=
  List.intercalate (v.joint.getD [v.delimiter]) ((v.chosen fields).map Prod.snd)

/-- The output for a text. Where lines end as fields do, the lines are the
fields. -/
def Setting.output (v : Setting) (text : Octets) : Octets :=
  let ended (l : Octets) : Octets := l ++ [v.lineEnd]
  let lines := (linesWithEnds v.lineEnd text).map Prod.fst
  match v.unit with
  | .octet => lines.flatMap fun l => ended (v.cutOctets l)
  | .field =>
    if v.delimiter = v.lineEnd then
      if text.isEmpty then []
      else if !text.contains v.lineEnd then (if v.onlyDelimited then [] else ended text)
      else ended (v.cutFields lines)
    else lines.flatMap fun l =>
      if l.contains v.delimiter then ended (v.cutFields (Octets.splitOn v.delimiter l))
      else if v.onlyDelimited then []
      else ended l

/-- The setting that options ask for. -/
def Setting.of (options : List (Char × Octets)) : Except Problem Setting := do
  let has (c : Char) : Bool := options.any fun o => o.1 = c
  let last? (c : Char) : Option Octets := ((options.filter fun o => o.1 = c).getLast?).map Prod.snd
  let lists := options.filter fun o => o.1 = 'b' || o.1 = 'c' || o.1 = 'f'
  -- What is wrong with the first option that is not in order.
  let _ ← options.foldlM (fun n o =>
    if (o.1 = 'b' || o.1 = 'c' || o.1 = 'f') && n = 1 then .error (.usage "only one list may be specified")
    else if o.1 = 'd' && 1 < o.2.length then .error (.usage "the delimiter must be a single character")
    else .ok (if o.1 = 'b' || o.1 = 'c' || o.1 = 'f' then n + 1 else n)) 0
  match lists with
  | [] => throw (.usage "you must specify a list of bytes, characters, or fields")
  | (kind, list) :: _ =>
    let unit : Unit := if kind = 'f' then .field else .octet
    if unit = .octet && has 'd' then
      throw (.usage "an input delimiter may be specified only when operating on fields")
    if unit = .octet && has 's' then
      throw (.usage "suppressing non-delimited lines makes sense\n\tonly when operating on fields")
    let ranges ← (readRanges unit (list.length + 1) list).mapError Problem.usage
    let ranges := Range.merged ranges
    return {
      unit, ranges := if has 'C' then Range.complement 1 ranges else ranges
      delimiter := match last? 'd' with
        | some d => d.head?.getD '\x00'
        | none => '\t'
      joint := (last? 'O').map fun d => if d.isEmpty then ['\x00'] else d
      onlyDelimited := has 's', lineEnd := if has 'z' then '\x00' else '\n' }

end Cut

/-- Prints columns of lines. -/
def cut : Utility := fun call argv s =>
  let spec : Spec := ⟨"nszC", "bcfdO", "", [("bytes", 'b'), ("characters", 'c'), ("fields", 'f'), ("delimiter", 'd'),
    ("only-delimited", 's'), ("output-delimiter", 'O'), ("complement", 'C'), ("zero-terminated", 'z')], false, 1⟩
  withOptions spec (fun i s =>
    match Cut.Setting.of i.options with
    | .error problem => i.reject problem s
    | .ok v => i.printing (fun () text => (v.output text, ())) () s) call argv s

/-! ## Lines side by side -/

namespace Paste

/-- The separators of a list, some of which are nothing. A backslash gives
the next character a meaning; there has to be one. -/
def separators? : Octets → Option (List (Option Char))
  | [] => some []
  | ['\\'] => none
  | '\\' :: '0' :: s => (separators? s).map (none :: ·)
  | '\\' :: c :: s =>
    let d := match c with
      | 'b' => '\x08'
      | 'f' => '\x0c'
      | 'n' => '\n'
      | 'r' => '\r'
      | 't' => '\t'
      | 'v' => '\x0b'
      | c => c
    (separators? s).map (some d :: ·)
  | c :: s => (separators? s).map (some c :: ·)

/-- Texts with separators between them, each in its turn. -/
def joined (separators : List (Option Char)) (texts : List Octets) : Octets :=
  texts.zipIdx.flatMap fun (t, n) =>
    (if n = 0 then [] else ((separators[(n - 1) % max 1 separators.length]?).join).toList) ++ t

/-- A column: its own lines, or the lines of standard input that are its turn. -/
inductive Column where
  /-- Lines of its own. -/
  | own (lines : List Octets)
  /-- Every line of standard input. -/
  | shared

/-- The rows of columns that take turns with the lines of standard input. -/
def rows (separators : List (Option Char)) : Nat → List Column → List Octets → List Octets
  | 0, _, _ => []
  | fuel + 1, columns, input =>
    let (cells, columns, input) := columns.foldl (fun (cells, columns, input) c =>
      match c, input with
      | .own [], _ => (none :: cells, c :: columns, input)
      | .own (l :: ls), _ => (some l :: cells, Column.own ls :: columns, input)
      | .shared, [] => (none :: cells, c :: columns, input)
      | .shared, l :: ls => (some l :: cells, c :: columns, ls)) (([] : List (Option Octets)), [], input)
    if cells.all Option.isNone then []
    else joined separators (cells.reverse.map fun c => c.getD []) :: rows separators fuel columns.reverse input

end Paste

/-- Prints lines that correspond side by side, or with `-s` the lines of
each file. -/
def paste : Utility :=
  withOptions ⟨"sz", "d", "", [("serial", 's'), ("delimiters", 'd'), ("zero-terminated", 'z')], false, 1⟩ fun i s =>
    let lineEnd := if i.has 'z' then '\x00' else '\n'
    let list := (i.value? 'd').getD ['\t']
    match if list.isEmpty then some [none] else Paste.separators? list with
    | none => i.complain ("delimiter list ends with an unescaped backslash: " ++ quoteBare list) s
    | some separators =>
      let lines (t : Octets) : List Octets := (linesWithEnds lineEnd t).map Prod.fst
      if i.has 's' then
        i.inputs.foldl (fun s o =>
          match content o s with
          | (.ok text, s) => s.print (Paste.joined separators (lines text) ++ [lineEnd])
          | (.error fault, s) => i.complainOf o fault (if fault = .isADirectory then s.print [lineEnd] else s)) s
      else
        -- All files are opened before anything is read.
        let missing := i.inputs.findSome? fun o =>
          if o = ['-'] then none
          else
            match s.lookup (State.path o) with
            | .error fault => some (o, fault)
            | .ok _ => none
        match missing with
        | some (o, fault) => i.complainOf o fault s
        | none =>
          let (columns, s) := i.inputs.foldl (fun (columns, s) o =>
            if o = ['-'] then (columns ++ [Paste.Column.shared], s)
            else
              match content o s with
              | (.ok text, s) => (columns ++ [.own (lines text)], s)
              | (.error fault, s) => (columns ++ [.own []], i.complainOf o fault s)) (([] : List Paste.Column), s)
          let (input, s) := if i.inputs.contains ['-'] then s.readAll 0 else (.ok [], s)
          let input := lines (input.toOption.getD [])
          let most := input.length + (columns.map fun c => match c with
            | .own ls => ls.length
            | .shared => 0).foldl (· + ·) 0
          s.print ((Paste.rows separators (most + 1) columns input).flatMap (· ++ [lineEnd]))
where
  /-- A text in quotes if it has a colon or cannot be seen. -/
  quoteBare (o : Octets) : String := if (Octets.chars o).any isHidden then quote o else Octets.text o

/-! ## Lines of limited width -/

namespace Fold

/-- How lines are broken. -/
structure Setting where
  /-- The greatest width. -/
  width : Nat
  /-- Octets count, not columns. -/
  octets : Bool
  /-- Lines break after blanks where there are some. -/
  atBlanks : Bool

/-- The column after an octet. -/
def Setting.advance (v : Setting) (column : Nat) (c : Char) : Nat :=
  if v.octets then column + 1
  else
    match c with
    | '\x08' => column - 1
    | '\r' => 0
    | '\t' => column + (8 - column % 8)
    | _ => column + 1

/-- A line that is being made: its octets in the opposite order, and the
column after them. -/
structure Line where
  /-- The octets. -/
  octets : Octets
  /-- The column. -/
  column : Nat

/-- The line of the octets, which come in the opposite order. -/
def Setting.lineOf (v : Setting) (octets : Octets) : Line :=
  ⟨octets, octets.reverse.foldl v.advance 0⟩

/-- One more octet: the lines that are complete, the last one first, and the
one that is being made. -/
def Setting.next (v : Setting) : Nat → List Octets × Line → Char → List Octets × Line
  | 0, p, _ => p
  | fuel + 1, (done, line), c =>
    let column := v.advance line.column c
    if c = '\n' then (('\n' :: line.octets) :: done, ⟨[], 0⟩)
    else if column ≤ v.width then (done, ⟨c :: line.octets, column⟩)
    else
      let isBlank (c : Char) : Bool := c = ' ' || c = '\t'
      let tail := line.octets.takeWhile (!isBlank ·)
      if v.atBlanks && tail.length < line.octets.length then
        v.next fuel (('\n' :: line.octets.drop tail.length) :: done, v.lineOf tail) c
      else if line.octets.isEmpty then (done, ⟨[c], column⟩)
      else v.next fuel (('\n' :: line.octets) :: done, ⟨[], 0⟩) c

/-- A text with its lines broken. -/
def Setting.broken (v : Setting) (text : Octets) : Octets :=
  let (done, line) := text.foldl (fun p c => v.next (p.2.octets.length + 2) p c) ([], ⟨[], 0⟩)
  (line.octets :: done).reverse.flatMap List.reverse

/-- The setting that options ask for; a digit may stand for the option that a
width has. -/
def Setting.of (options : List (Char × Octets)) : Except Problem Setting :=
  options.foldlM (fun (v : Setting) o =>
    let widened (text : Octets) : Except Problem Setting :=
      match Amount.within "" 1 (Nat.pow 2 64 - 10) text with
      | .ok width => .ok { v with width }
      | .error reason => .error (.value ("invalid number of columns: " ++ reason))
    if o.1.isDigit then widened (o.1 :: o.2)
    else
      match o.1 with
      | 'w' => widened o.2
      | 'b' => .ok { v with octets := true }
      | 's' => .ok { v with atBlanks := true }
      | _ => .ok v) ⟨80, false, false⟩

end Fold

/-- Breaks lines at a width. -/
def fold : Utility :=
  withSetting ⟨"bs", "w", "0123456789", [("bytes", 'b'), ("spaces", 's'), ("width", 'w')], false, 1⟩ Fold.Setting.of
    fun i v s => i.printing (fun () text => (v.broken text, ())) () s

/-! ## Tabs -/

/-- The places where tabs end. -/
structure TabStops where
  /-- Those that are listed, in ascending order. -/
  places : List Nat
  /-- After these, the distance from one to the next, counted from the start
  of the line or, if `fromLast` is set, from the last place. -/
  distance : Option Nat
  /-- The distance counts from the last place. -/
  fromLast : Bool

namespace TabStops

/-- The next place after a column. -/
def next? (t : TabStops) (column : Nat) : Option Nat :=
  match t.places.find? (column < ·), t.distance with
  | some n, _ => some n
  | none, some d =>
    let start := if t.fromLast then t.places.getLast?.getD 0 else 0
    some (column + (d - (column - start) % max 1 d))
  | none, none => none

/-- Places and distances as they are listed. -/
structure Listed where
  /-- The places. -/
  places : List Nat
  /-- The distance that counts from the start of the line. -/
  fromStart : Option Nat
  /-- The distance that counts from the last place. -/
  fromLast : Option Nat

/-- The list with an item added. -/
def Listed.add (t : Listed) (list item : Octets) : Except String Listed :=
  let (mark, ds) : Option Char × Octets := match item with
    | '/' :: ds => (some '/', ds)
    | '+' :: ds => (some '+', ds)
    | ds => (none, ds)
  let isKnown (c : Char) : Bool := c.isDigit || ", \t/+".toList.contains c
  let again (c : Char) : Except String Listed :=
    .error ("'" ++ String.singleton c ++ "' specifier only allowed with the last value")
  match Octets.nat? ds with
  | none => .error ("tab size contains invalid character(s): " ++ curly (list.dropWhile isKnown))
  | some n =>
    match mark with
    | some '/' => if t.fromStart.any (0 < ·) then again '/' else .ok { t with fromStart := some n }
    | some c => if t.fromLast.any (0 < ·) then again c else .ok { t with fromLast := some n }
    | none => .ok { t with places := t.places ++ [n] }

/-- The places, if they are in order. A single number is a distance. -/
def Listed.ordered (t : Listed) : Except String TabStops :=
  if t.places.contains 0 then .error "tab size cannot be 0"
  else if (t.places.zip (t.places.drop 1)).any fun (a, b) => b ≤ a then .error "tab sizes must be ascending"
  else
    let distance (d : Option Nat) : Option Nat := d.filter (0 < ·)
    match distance t.fromStart, distance t.fromLast, t.places with
    | some _, some _, _ => .error "'/' specifier is mutually exclusive with '+'"
    | some d, none, places => .ok ⟨places, some d, false⟩
    | none, some d, places => .ok ⟨places, some d, !places.isEmpty⟩
    | none, none, [] => .ok ⟨[], some 8, false⟩
    | none, none, [n] => .ok ⟨[], some n, false⟩
    | none, none, places => .ok ⟨places, none, false⟩

/-- The places that lists name. -/
def read? (lists : List Octets) : Except String TabStops := do
  let items := lists.flatMap fun l =>
    ((Octets.splitOn ',' (l.map fun c => if c = ' ' || c = '\t' then ',' else c)).filter (!·.isEmpty)).map (l, ·)
  (← items.foldlM (fun t (list, item) => Listed.add t list item) (⟨[], none, none⟩ : Listed)).ordered

/-- The lists among the options. A digit may stand for the option that a list
has. -/
def listsOf (options : List (Char × Octets)) : List Octets :=
  options.filterMap fun o => if o.1 = 't' then some o.2 else if o.1.isDigit then some (o.1 :: o.2) else none

/-- The lists among the options. A list may be spelled by its digits and
commas as options; the last number of these comes last. -/
def spelledLists (options : List (Char × Octets)) : List Octets :=
  let (lists, number) := options.foldl (fun ((lists : List Octets), (number : Octets)) o =>
    if o.1 = 't' then (lists ++ [o.2], number)
    else if o.1 = ',' then (lists ++ [number], [])
    else if o.1.isDigit then (lists, number ++ [o.1])
    else (lists, number)) ([], [])
  lists ++ [number]

end TabStops

namespace Tabs

/-- A place in a line where tabs are exchanged. -/
structure Cursor where
  /-- The column. -/
  column : Nat
  /-- Tabs are still exchanged in this line. -/
  converts : Bool

/-- A text with blanks in the place of tabs. The output is gathered in the
opposite order. -/
def expanded (stops : TabStops) (initial : Bool) (text : Octets) : Octets :=
  (text.foldl (fun ((output : Octets), (p : Cursor)) c =>
    if c = '\n' then (c :: output, ⟨0, true⟩)
    else if !p.converts then (c :: output, p)
    else
      let converts := !initial || c = ' ' || c = '\t'
      if c = '\t' then
        let goal := (stops.next? p.column).getD (p.column + 1)
        (List.replicate (goal - p.column) ' ' ++ output, ⟨goal, converts⟩)
      else if c = '\x08' then (c :: output, ⟨p.column - 1, converts⟩)
      else (c :: output, ⟨p.column + 1, converts⟩)) (([] : Octets), ⟨0, true⟩)).1.reverse

/-- A run of blanks and tabs between two columns, written with tabs. A single
blank stays in front of a tab stop, unless more blanks follow. -/
structure Pending where
  /-- The blanks that wait, in order. -/
  blanks : Octets
  /-- One blank came just before a tab stop. -/
  oneBefore : Bool
  /-- The last octet was a blank, or there was none in the line. -/
  afterBlank : Bool

/-- The blanks that wait, as they are printed. -/
def Pending.flushed (p : Pending) : Octets :=
  if 1 < p.blanks.length && p.oneBefore then '\t' :: p.blanks.drop 1 else p.blanks

/-- A text with tabs in the place of blanks. -/
def unexpanded (stops : TabStops) (all : Bool) (text : Octets) : Octets :=
  let finished := text.foldl (fun ((output : List Octets), (p : Cursor), (w : Pending)) c =>
    let start : Cursor × Pending := (⟨0, true⟩, ⟨[], false, true⟩)
    if !p.converts then ([c] :: output, if c = '\n' then start else (p, w))
    else
      let other (column : Nat) (w : Pending) : List Octets × Cursor × Pending :=
        let isBlank := c = ' ' || c = '\t'
        let printed := w.flushed ++ [c]
        (printed :: output,
          if c = '\n' then start else (⟨column, all || isBlank⟩, ⟨[], false, isBlank⟩))
      if c = ' ' || c = '\t' then
        match stops.next? p.column with
        | none => ((w.flushed ++ [c]) :: output, { p with converts := false }, ⟨[], false, true⟩)
        | some goal =>
          if c = '\t' then
            let kept := if w.oneBefore then (['\t'] : Octets) else []
            ((kept ++ ['\t']) :: output, ⟨goal, true⟩, ⟨[], false, true⟩)
          else
            let column := p.column + 1
            if w.afterBlank && column = goal then
              let kept := if w.oneBefore then (['\t'] : Octets) else []
              ((kept ++ ['\t']) :: output, ⟨column, true⟩, ⟨[], false, true⟩)
            else (output, ⟨column, true⟩, ⟨w.blanks ++ [c], w.oneBefore || column = goal, true⟩)
      else if c = '\x08' then other (p.column - 1) w
      else other (p.column + 1) w) (([] : List Octets), (⟨0, true⟩ : Cursor), (⟨[], false, true⟩ : Pending))
  (finished.2.2.flushed :: finished.1).reverse.flatten

end Tabs

/-- Prints files with blanks in the place of tabs. -/
def expand : Utility :=
  withOptions ⟨"i", "t", "0123456789", [("tabs", 't'), ("initial", 'i')], false, 1⟩ fun i s =>
    match TabStops.read? (TabStops.listsOf i.options) with
    | .error problem => i.complain problem s
    | .ok stops => i.printing (fun () text => (Tabs.expanded stops (i.has 'i') text, ())) () s

/-- Prints files with tabs in the place of blanks. -/
def unexpand : Utility :=
  withOptions ⟨"aι0123456789,", "t", "", [("tabs", 't'), ("all", 'a'), ("first-only", 'ι')], false, 1⟩ fun i s =>
    match TabStops.read? (TabStops.spelledLists i.options) with
    | .error problem => i.complain problem s
    | .ok stops =>
      let all := (i.has 'a' || i.has 't') && !i.has 'ι'
      i.printing (fun () text => (Tabs.unexpanded stops all text, ())) () s

end Utility

end Shell

end Tangle
