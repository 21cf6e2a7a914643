import Tangle.Shell.Utility.Collation
import Tangle.Shell.Utility.Inspection
import Tangle.Shell.Utility.Paths
/-!
# Listing directories

The program that lists files (`ls`): their names, quoted or not, with marks
that tell their kinds, one below the other, in columns, or with all that is
known of them. A listing is arranged by names, times, sizes or versions.
-/

namespace Tangle

namespace Shell

namespace Utility

namespace Listing

/-- How a listing is laid out. -/
inductive Shape where
  /-- A row for each file with all that is known of it. -/
  | long
  /-- One name on each line. -/
  | single
  /-- In columns, which are read one after the other. -/
  | vertical
  /-- In columns, which are read row by row. -/
  | across
  /-- With commas in between. -/
  | commas
deriving Repr, DecidableEq

/-- What a listing is arranged by. -/
inductive Order where
  /-- Nothing. -/
  | none
  /-- The names. -/
  | name
  /-- The times, the last one first. -/
  | time
  /-- The sizes, the greatest one first. -/
  | size
  /-- What stands behind the last point of the name. -/
  | ending
  /-- The names as versions. -/
  | version
  /-- The widths of the names. -/
  | width
deriving Repr, DecidableEq

/-- Which kinds have marks. -/
inductive Marks where
  /-- None. -/
  | none
  /-- Directories. -/
  | slash
  /-- All kinds. -/
  | kinds
  /-- All kinds, and what can be called. -/
  | classes
deriving Repr, DecidableEq

/-- How names are quoted. -/
inductive Quoting where
  /-- Not at all. -/
  | literal
  /-- As a command would take them, where they need it. -/
  | command
  /-- As a command would take them. -/
  | commandAlways
  /-- As a command would take them, where they need it, with escapes. -/
  | escapes
  /-- As a command would take them, with escapes. -/
  | escapesAlways
  /-- In double quotes with escapes. -/
  | double
  /-- With escapes. -/
  | bare
  /-- In curved quotes with escapes. -/
  | curved
deriving Repr, DecidableEq

/-- When links are followed. -/
inductive Following where
  /-- Never. -/
  | never
  /-- If they are operands. -/
  | operands
  /-- If they are operands that lead to directories. -/
  | directories
  /-- Always. -/
  | always
deriving Repr, DecidableEq

/-- How files are listed. -/
structure Setting where
  /-- The layout. -/
  shape : Shape
  /-- The order. -/
  order : Option Order
  /-- The other way round. -/
  reverse : Bool
  /-- Names that start with a point are listed. -/
  hidden : Bool
  /-- The directory itself and the one above are listed. -/
  dots : Bool
  /-- Directories are listed themselves, not what is in them. -/
  plain : Bool
  /-- Directories are listed with all that is below them. -/
  recursive : Bool
  /-- When links are followed; the standard depends on the rest. -/
  following : Option Following
  /-- The marks. -/
  marks : Marks
  /-- The numbers of the files are told. -/
  numbers : Bool
  /-- The room that files take up is told. -/
  room : Bool
  /-- The unit of the room. -/
  roomUnit : SizeUnit
  /-- The unit of sizes. -/
  sizeUnit : SizeUnit
  /-- Owners are told by their numbers. -/
  numeric : Bool
  /-- The owner is told. -/
  owner : Bool
  /-- The group is told. -/
  group : Bool
  /-- The author is told. -/
  author : Bool
  /-- The style of times. -/
  style : Octets
  /-- The format of times that are long ago, and of others. -/
  times : Octets × Octets
  /-- An option asks for another time than that of the last change. -/
  otherTime : Bool
  /-- The quoting. -/
  quoting : Quoting
  /-- Characters that cannot be seen are replaced. -/
  masks : Bool
  /-- The width of lines; zero stands for no limit. -/
  width : Nat
  /-- The width of tabs. -/
  tab : Nat
  /-- The patterns of names that are left out. -/
  ignored : List Octets
  /-- The patterns of names that are left out unless all are listed. -/
  concealed : List Octets
  /-- Directories come first. -/
  directoriesFirst : Bool
  /-- What ends lines. -/
  lineEnd : Char
  /-- The context of security is told. -/
  context : Bool

/-- The standard. -/
def Setting.standard : Setting :=
  ⟨.single, none, false, false, false, false, false, none, .none, false, false, .blocks 1024 [], .bytes, false, true, true,
    false, "locale".toList, ("%b %e  %Y".toList, "%b %e %H:%M".toList), false, .literal, false, 80, 8, [], [], false, '\n',
    false⟩

/-- The formats of a style of times. -/
def timesOf (v : Octets) : Except Problem (Octets × Octets) :=
  let both (f : String) : Octets × Octets := (f.toList, f.toList)
  let known : List (String × (Octets × Octets)) :=
    [("full-iso", both "%Y-%m-%d %H:%M:%S.%N %z"), ("long-iso", both "%Y-%m-%d %H:%M"),
     ("iso", ("%Y-%m-%d ".toList, "%m-%d %H:%M".toList)), ("locale", Setting.standard.times)]
  match v with
  | '+' :: format =>
    match Octets.splitOn '\n' format with
    | old :: new :: _ => .ok (old, new)
    | _ => .ok (format, format)
  | v =>
    let name := if "posix-".toList.isPrefixOf v then v.drop 6 else v
    match known.filter fun k => name.isPrefixOf k.1.toList with
    | [k] => .ok (if name.length < v.length then Setting.standard.times else k.2)
    | _ => .error (.usage ("invalid argument " ++ curly v ++ " for ‘time style’\nValid arguments are:\n  - [posix-]full-iso\n"
        ++ "  - [posix-]long-iso\n  - [posix-]iso\n  - [posix-]locale\n"
        ++ "  - +FORMAT (e.g., +%H:%M) for a 'date'-style format"))

/-- The setting with an option added. -/
def Setting.add (v : Setting) (o : Char × Octets) : Except Problem Setting :=
  let number (what : String) : Except Problem Nat :=
    (Amount.within "" 0 Amount.greatest o.2).mapError fun _ => .value (what ++ ": " ++ curly o.2)
  match o.1 with
  | '1' => .ok { v with shape := if v.shape = .long then .long else .single }
  | 'a' => .ok { v with hidden := true, dots := true }
  | 'A' => .ok { v with hidden := true, dots := false }
  | 'b' => .ok { v with quoting := .bare }
  | 'B' => .ok { v with ignored := ['*', '~'] :: ['.', '*', '~'] :: v.ignored }
  | 'c' | 'u' => .ok { v with otherTime := true }
  | 'C' => .ok { v with shape := .vertical }
  | 'd' => .ok { v with plain := true }
  | 'f' =>
    let shape := if v.shape = .long then .single else v.shape
    .ok { v with hidden := true, dots := true, order := some .none, room := false, shape }
  | 'F' =>
    if o.2.isEmpty then .ok { v with marks := .classes }
    else (chooseWord "--classify" [["always", "yes", "force"], ["never", "no", "none"], ["auto", "tty", "if-tty"]] o.2).map fun w =>
      if w = "always" then { v with marks := .classes } else v
  | 'g' => .ok { v with shape := .long, owner := false }
  | 'G' => .ok { v with group := false }
  | 'h' => .ok { v with roomUnit := .scaled 1024, sizeUnit := .scaled 1024 }
  | 'H' => .ok { v with following := some .operands }
  | 'i' => .ok { v with numbers := true }
  | 'I' => .ok { v with ignored := o.2 :: v.ignored }
  | 'k' => .ok { v with roomUnit := .blocks 1024 [] }
  | 'l' => .ok { v with shape := .long }
  | 'L' => .ok { v with following := some .always }
  | 'm' => .ok { v with shape := .commas }
  | 'n' => .ok { v with shape := .long, numeric := true }
  | 'N' => .ok { v with quoting := .literal }
  | 'o' => .ok { v with shape := .long, group := false }
  | 'p' => .ok { v with marks := .slash }
  | 'q' => .ok { v with masks := true }
  | 'Q' => .ok { v with quoting := .double }
  | 'r' => .ok { v with reverse := true }
  | 'R' => .ok { v with recursive := true }
  | 's' => .ok { v with room := true }
  | 'S' => .ok { v with order := some .size }
  | 't' => .ok { v with order := some .time }
  | 'T' => (number "invalid tab size").map fun n => { v with tab := n }
  | 'U' => .ok { v with order := some .none }
  | 'v' => .ok { v with order := some .version }
  | 'w' => (number "invalid line width").map fun n => { v with width := n }
  | 'x' => .ok { v with shape := .across }
  | 'X' => .ok { v with order := some .ending }
  | 'α' => .ok { v with author := true }
  | 'β' => (SizeUnit.read "--block-size" o.2).map fun u => { v with roomUnit := u, sizeUnit := u }
  | 'γ' => .ok { v with directoriesFirst := true }
  | 'δ' => .ok { v with following := some .directories }
  | 'η' => .ok { v with concealed := o.2 :: v.concealed }
  | 'ι' => (chooseWord "--indicator-style" [["none"], ["slash"], ["file-type"], ["classify"]] o.2).map fun w =>
      { v with marks := match w with
        | "none" => .none
        | "slash" => .slash
        | "file-type" => .kinds
        | _ => .classes }
  | 'κ' => .ok { v with marks := .kinds }
  | 'λ' => .ok { v with shape := .long, style := "full-iso".toList }
  | 'μ' => .ok { v with masks := false }
  | 'ζ' =>
    let shape := if v.shape = .long || v.shape = .commas then v.shape else .single
    .ok { v with lineEnd := '\x00', quoting := .literal, masks := false, shape }
  | 'σ' => .ok { v with roomUnit := .scaled 1000, sizeUnit := .scaled 1000 }
  | 'τ' => .ok { v with style := o.2 }
  | 'Z' => .ok { v with context := true }
  | 'φ' => (chooseWord "--format" [["verbose", "long"], ["commas"], ["horizontal", "across"], ["vertical"], ["single-column"]]
      o.2).map fun w => { v with shape := match w with
        | "verbose" => .long
        | "commas" => .commas
        | "horizontal" => .across
        | "vertical" => .vertical
        | _ => .single }
  | 'χ' => (chooseWord "--quoting-style" [["literal"], ["shell"], ["shell-always"], ["shell-escape"], ["shell-escape-always"],
      ["c"], ["c-maybe"], ["escape"], ["locale"], ["clocale"]] o.2).map fun w => { v with quoting := match w with
        | "literal" => .literal
        | "shell" => .command
        | "shell-always" => .commandAlways
        | "shell-escape" => .escapes
        | "shell-escape-always" => .escapesAlways
        | "escape" => .bare
        | "locale" | "clocale" => .curved
        | _ => .double }
  | 'ψ' => (chooseWord "--sort" [["none"], ["time"], ["size"], ["extension"], ["version"], ["width"]] o.2).map fun w =>
      { v with order := some (match w with
        | "none" => .none
        | "time" => .time
        | "size" => .size
        | "extension" => .ending
        | "version" => .version
        | _ => .width) }
  | 'ω' => (chooseWord "--time" [["atime", "access", "use"], ["ctime", "status"], ["mtime", "modification"],
      ["birth", "creation"]] o.2).map fun w => { v with otherTime := w ≠ "mtime" }
  | 'ξ' =>
    if o.2.isEmpty then .ok v
    else (chooseWord "--color" [["always", "yes", "force"], ["never", "no", "none"], ["auto", "tty", "if-tty"]] o.2).map fun _ => v
  | _ => .ok v

/-- The setting that options describe. The style of times matters in a long
listing only. -/
def Setting.of (options : List (Char × Octets)) : Except Problem Setting := do
  let v ← options.foldlM Setting.add standard
  if v.shape = .long then return { v with times := ← timesOf v.style }
  return v

/-- The order in which files are listed. -/
def Setting.orderInUse (v : Setting) : Order :=
  v.order.getD (if v.otherTime && v.shape ≠ .long then .time else .name)

/-- When links are followed. -/
def Setting.followed (v : Setting) : Following :=
  v.following.getD (if v.plain || v.marks = .classes || v.shape = .long then .never else .directories)

/-- A file that is listed. -/
structure Item where
  /-- The name under which it is listed. -/
  name : Octets
  /-- What is told of it. -/
  node : Node
  /-- Where it is. -/
  place : Place
  /-- What the link leads to that it is. -/
  goal : Option Node

/-! ## Names -/

/-- A name with escapes. -/
def escaped (special : List Char) (name : Octets) : Octets :=
  (Octets.chars name).flatMap fun c =>
    if isHidden c then (Octets.ofChar c).flatMap controlEscape
    else if c = '\\' || special.contains c then '\\' :: Octets.ofChar c
    else Octets.ofChar c

/-- A name in the quotes of commands, without escapes. -/
def commandQuoted (name : Octets) : Octets :=
  if name.contains '\'' && !name.any (fun c => "\"$\\\x60!".toList.contains c) then ['"'] ++ name ++ ['"']
  else ['\''] ++ name.flatMap (fun c => if c = '\'' then ['\'', '\\', '\'', '\''] else [c]) ++ ['\'']

/-- A name as it is shown. -/
def Setting.named (v : Setting) (name : Octets) : Octets :=
  let masked (s : Octets) : Octets :=
    if v.masks then (Octets.chars s).flatMap fun c => if isHidden c then ['?'] else Octets.ofChar c else s
  match v.quoting with
  | .literal => masked name
  | .command => if needsQuotes name then masked (commandQuoted name) else name
  | .commandAlways => masked (commandQuoted name)
  | .escapes => if needsQuotes name then quoteOctets name else name
  | .escapesAlways => quoteOctets name
  | .double => ['"'] ++ escaped ['"'] name ++ ['"']
  | .bare => escaped [' '] name
  | .curved => Octets.ofString (curly name)

/-- The mark of a file. -/
def Setting.mark (v : Setting) (node : Node) : Octets :=
  match v.marks, node with
  | .none, _ => []
  | _, .directory _ _ => ['/']
  | .slash, _ => []
  | _, .link _ => ['@']
  | .classes, n => if n.isExecutable then ['*'] else []
  | .kinds, _ => []

/-- The name of a file with its mark; in a long listing a link has what it
leads to behind it. -/
def Setting.shown (v : Setting) (x : Item) : Octets :=
  match v.shape, x.node with
  | .long, .link target =>
    let goal := match x.goal with
      | some node => v.mark node
      | none => []
    v.named x.name ++ " -> ".toList ++ v.named (Octets.ofString target) ++ goal
  | _, node => v.named x.name ++ v.mark node

/-- The number of a file and the room that it takes up, in front of its
name. -/
def Setting.fronts (v : Setting) (s : State) (x : Item) : List Octets :=
  (if v.numbers then [decimal (fileNumber x.place s)] else []) ++ (if v.room then [v.roomUnit.write (roomOf x.node)] else [])

/-- Columns of texts that are equally wide, filled at their left. -/
def alignLeft (rows : List (List Octets)) : List (List Octets) :=
  let width (n : Nat) : Nat := (rows.map fun r => ((r[n]?).getD []).length).foldl max 0
  rows.map fun r => (r.zip (List.range r.length)).map fun (c, n) => padLeft (width n) c

/-! ## Arrangement -/

/-- What stands behind the last point of a name, with the point. -/
def endingOf (name : Octets) : Octets :=
  if name.contains '.' then '.' :: (name.reverse.takeWhile (· ≠ '.')).reverse else []

/-- Compares files. -/
def Setting.compare (v : Setting) (a b : Item) : Ordering :=
  let byName := Collation.compareOctets a.name b.name
  let main : Ordering := match v.orderInUse with
    | .none => .eq
    | .name => byName
    | .time => (Ord.compare b.node.modified a.node.modified).then byName
    | .size => (Ord.compare (sizeOf b.node) (sizeOf a.node)).then byName
    | .ending => (Collation.compareOctets (endingOf a.name) (endingOf b.name)).then byName
    | .version => (Collation.compareVersions a.name b.name).then byName
    | .width => (Ord.compare (v.named a.name).length (v.named b.name).length).then byName
  if v.reverse then main.swap else main

/-- The file counts as a directory when these come first. -/
def isDirectoryLike (x : Item) : Bool := x.node.isDirectory || x.goal.any Node.isDirectory

/-- Files in their order. -/
def Setting.arranged (v : Setting) (items : List Item) : List Item :=
  if v.orderInUse = .none then items
  else
    let sorted := items.mergeSort fun a b => v.compare a b ≠ .gt
    if v.directoriesFirst then sorted.filter isDirectoryLike ++ sorted.filter (fun x => !isDirectoryLike x) else sorted

/-! ## Layouts -/

/-- The time of a file as it is shown. -/
def Setting.time (v : Setting) (now : Int) (node : Node) : Octets :=
  let t := node.modified
  let isRecent := now - 15778476 * 1000000000 < t && t ≤ now
  formatTime t (if isRecent then v.times.2 else v.times.1)

/-- The rows of a long listing. The files `beside` count for the widths of
columns. -/
def Setting.longRows (v : Setting) (s : State) (items beside : List Item) : List Octets :=
  let size (node : Node) : Octets := match node with
    | .device d =>
      let (major, minor) := deviceNumbers d
      decimal major ++ [',', ' '] ++ decimal minor
    | node => v.sizeUnit.write (sizeOf node)
  let person : Octets := if v.numeric then ['0'] else "root".toList
  let people := (if v.owner then [person] else []) ++ (if v.group then [person] else []) ++ (if v.author then [person] else [])
  let columns (x : Item) : List Octets :=
    v.fronts s x ++ [modeRow x.node, decimal (nameCountOf x.node s)] ++ people
      ++ (if v.context then [['?']] else []) ++ [size x.node]
  let aligned := alignLeft ((items ++ beside).map columns)
  (aligned.zip items).map fun (cs, x) =>
    List.intercalate [' '] (cs ++ [v.time s.now x.node, v.shown x])

/-- The names with what stands in front of them. -/
def Setting.cells (v : Setting) (s : State) (items beside : List Item) : List Octets :=
  let fronts := alignLeft ((items ++ beside).map fun x => v.fronts s x ++ if v.context then [['?']] else [])
  (fronts.zip items).map fun (f, x) => List.intercalate [' '] (f ++ [v.shown x])

/-- The width of a text on a screen. -/
def widthOf (s : Octets) : Nat := ((Octets.chars s).filter fun c => !isHidden c).length

/-- The blanks from one column to another, with tabs where they fit. -/
def indent (tab : Nat) : Nat → Nat → Nat → Octets
  | 0, _, _ => []
  | fuel + 1, start, stop =>
    if stop ≤ start then []
    else if tab ≠ 0 && (start + 1) / tab < stop / tab then '\t' :: indent tab fuel (start + tab - start % tab) stop
    else ' ' :: indent tab fuel (start + 1) stop

/-- The widths of columns, so many of them; each but the last has two blanks
behind. `place` tells the column of a cell. -/
def columnWidths (count : Nat) (place : Nat → Nat) (widths : List Nat) : List Nat :=
  let placed := (widths.zip (List.range widths.length)).map fun (w, n) => (place n, w)
  (List.range count).map fun c =>
    (placed.filter fun p => p.1 = c).foldl (fun m p => max m (p.2 + if c + 1 = count then 0 else 2)) 3

/-- The number of the column of a cell, if there are so many columns. -/
def columnOf (vertical : Bool) (cells count n : Nat) : Nat :=
  if vertical then n / ceilDiv cells count else n % count

/-- The widths of as many columns as fit. -/
def Setting.fitting (v : Setting) (vertical : Bool) (widths : List Nat) : List Nat :=
  let n := widths.length
  let most := if v.width = 0 then n else min n (max 1 (ceilDiv v.width 3))
  let layouts := (List.range most).reverse.map fun k => columnWidths (k + 1) (columnOf vertical n (k + 1)) widths
  (layouts.find? fun l => l.length = 1 || v.width = 0 || l.foldl (· + ·) 0 < v.width).getD [0]

/-- Cells in columns. -/
def Setting.columns (v : Setting) (vertical : Bool) (cells : List Octets) : List Octets :=
  let widths := cells.map widthOf
  let layout := v.fitting vertical widths
  let rows := ceilDiv cells.length (max layout.length 1)
  let tab := if v.width = 0 then 0 else v.tab
  (List.range rows).map fun r =>
    let numbers := if vertical then (List.range layout.length).map (fun c => r + c * rows)
      else (List.range layout.length).map (fun c => r * layout.length + c)
    let row := numbers.filterMap fun n => cells[n]?
    let (line, _) := ((row.zip layout).zip (List.range row.length)).foldl (fun (line, start) ((cell, width), c) =>
      let gap := if c + 1 = row.length then [] else indent tab width (start + widthOf cell) (start + width)
      (line ++ cell ++ gap, start + width)) (([] : Octets), 0)
    line

/-- Cells with commas in between, on lines that are not too long. -/
def Setting.commas (v : Setting) (cells : List Octets) : Octets :=
  let (text, _) := (cells.zip (List.range cells.length)).foldl (fun (text, column) (cell, n) =>
    let width := widthOf cell
    if n = 0 then (cell, width)
    else if v.width = 0 || column + width + 2 < v.width then (text ++ [',', ' '] ++ cell, column + 2 + width)
    else (text ++ [','] ++ [v.lineEnd] ++ cell, width)) (([] : Octets), 0)
  if cells.isEmpty then [] else text ++ [v.lineEnd]

/-- Files in their layout. -/
def Setting.laidOut (v : Setting) (s : State) (items beside : List Item) : Octets :=
  let ended (ls : List Octets) : Octets := ls.flatMap (· ++ [v.lineEnd])
  let cells := v.cells s items beside
  match v.shape with
  | .long => ended (v.longRows s items beside)
  | .single => ended cells
  | .vertical => if items.isEmpty then [] else ended (v.columns true cells)
  | .across => if items.isEmpty then [] else ended (v.columns false cells)
  | .commas => v.commas cells

/-! ## Directories -/

/-- What a link at a place leads to. -/
def goalOf (node : Node) (place : Place) (s : State) : Option Node :=
  if node.isLink then ((s.disk.find [] (State.path (State.placeOctets place))).toOption.bind Found.node) else none

/-- The entry of a directory. -/
def Setting.entry (v : Setting) (s : State) (name : Octets) (node : Node) (place : Place) : Item :=
  let goal := goalOf node place s
  match v.followed, goal with
  | .always, some g => ⟨name, g, place, none⟩
  | _, goal => ⟨name, node, place, goal⟩

/-- The name is listed. -/
def Setting.lists (v : Setting) (name : Octets) : Bool :=
  let covers (pattern : Octets) : Bool :=
    globAccepts false pattern name && (name.head? ≠ some '.' || pattern.head? = some '.')
  !v.ignored.any covers && (v.hidden || (name.head? ≠ some '.' && !v.concealed.any covers))

/-- The files in a directory that are listed. -/
def Setting.inside (v : Setting) (s : State) (place : Place) (node : Node) : List Item :=
  let dots : List Item := if v.dots then
      [⟨['.'], node, place, none⟩, ⟨['.', '.'], (s.disk.get? place.dropLast).getD node, place.dropLast, none⟩] else []
  let entries := (node.entries.map fun e => (Octets.ofString e.1, e)).filter fun e => v.lists e.1
  v.arranged (dots ++ entries.map fun (name, e) => v.entry s name e.2 (place ++ [e.1]))

/-- The line that tells the room that files take up. -/
def Setting.total (v : Setting) (items : List Item) : Octets :=
  if v.shape = .long || v.room then
    "total ".toList ++ v.roomUnit.write ((items.map fun x => roomOf x.node).foldl (· + ·) 0) ++ [v.lineEnd] else []

/-- The listings of a directory and, if that is wanted, of those below
it. -/
def Setting.listings (v : Setting) (s : State) (titled : Bool) : Nat → Octets → Place → Node → List Octets
  | 0, _, _, _ => []
  | fuel + 1, path, place, node =>
    let items := v.inside s place node
    let title := if titled then v.named path ++ [':', '\n'] else []
    let own := title ++ v.total items ++ v.laidOut s items []
    if v.recursive then
      own :: (items.filter fun x => x.node.isDirectory && x.name ≠ ['.'] && x.name ≠ ['.', '.']).flatMap fun x =>
        v.listings s titled fuel (below path x.name) (if v.followed = .always then
          ((s.disk.find [] (State.path (State.placeOctets x.place))).toOption.map Found.place).getD x.place else x.place) x.node
    else [own]

/-- What an operand names. -/
def Setting.operand (v : Setting) (s : State) (o : Octets) : Except Fault Item := do
  let path := State.path o
  let through : Except Fault (Found × Node) := do
    let found ← s.disk.find s.cwd path
    return (found, ← found.existing)
  let entry : Except Fault (Found × Node) := do
    let found ← s.entryAt path
    return (found, ← found.existing)
  let (found, node) ← match v.followed with
    | .never => entry
    | .always | .operands => through
    | .directories =>
      match through with
      | .ok (found, node) => if node.isDirectory then .ok (found, node) else entry
      | .error fault => if entry.toOption.isSome then entry else .error fault
  return ⟨o, node, found.place, goalOf node found.place s⟩

end Listing

/-- Lists the names in directories, or the operands that are files. -/
def ls : Utility :=
  withSetting ⟨"1aAbBcCdDfgGhHiklLmnNopqQrRsStuUvxXZαγδκλμσζ", "IwTβηιτφχψω", "Fξ",
      [("all", 'a'), ("almost-all", 'A'), ("author", 'α'), ("block-size", 'β'), ("classify", 'F'), ("color", 'ξ'),
       ("context", 'Z'), ("dereference", 'L'), ("dereference-command-line", 'H'),
       ("dereference-command-line-symlink-to-dir", 'δ'), ("directory", 'd'), ("escape", 'b'), ("file-type", 'κ'),
       ("format", 'φ'), ("full-time", 'λ'), ("group-directories-first", 'γ'), ("hide", 'η'), ("hide-control-chars", 'q'),
       ("human-readable", 'h'), ("ignore", 'I'), ("ignore-backups", 'B'), ("indicator-style", 'ι'), ("inode", 'i'),
       ("kibibytes", 'k'), ("literal", 'N'), ("no-group", 'G'), ("numeric-uid-gid", 'n'), ("quote-name", 'Q'),
       ("quoting-style", 'χ'), ("recursive", 'R'), ("reverse", 'r'), ("show-control-chars", 'μ'), ("si", 'σ'), ("size", 's'),
       ("sort", 'ψ'), ("tabsize", 'T'), ("time", 'ω'), ("time-style", 'τ'), ("width", 'w'), ("zero", 'ζ')], false, 2⟩
    Listing.Setting.of fun i v s =>
      let operands := if i.operands.isEmpty then [['.']] else i.operands
      let (items, s) := operands.foldl (fun (items, s) o =>
        match v.operand s o with
        | .ok item => (items ++ [item], s)
        | .error fault => (items, (i.complain ("cannot access " ++ quote o ++ ": " ++ faultText fault) s).ended 2))
        (([] : List Listing.Item), s)
      let files := v.arranged (items.filter fun x => !x.node.isDirectory || v.plain)
      let directories := v.arranged (items.filter fun x => x.node.isDirectory && !v.plain)
      let s := s.print (v.laidOut s files directories)
      let titled := v.recursive || !files.isEmpty || 1 < operands.length || 1 < directories.length
      let listings := directories.flatMap fun x => v.listings s titled 200 x.name x.place x.node
      s.print ((if files.isEmpty || listings.isEmpty then [] else ['\n']) ++ List.intercalate ['\n'] listings)

end Utility

end Shell

end Tangle
