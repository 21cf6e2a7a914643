import Tangle.Shell.Sed.Script
import Tangle.Shell.Utility.Basic
/-!
# Editing lines

An edit (`Sed.Edit`) holds the line under way, a text that is kept aside, the
lines that are still to come, and the state of the system, to which files and
commands belong. The commands of a script change it one after the other
(`Sed.Edit.run`), line by line (`Sed.Edit.runAll`).
-/

namespace Tangle

namespace Shell

namespace Sed

/-- How lines are edited. -/
structure Setting where
  /-- Lines are not printed unless a command asks for it. -/
  quiet : Bool
  /-- The character at the end of lines. -/
  lineEnd : Char
  /-- What is printed becomes a file. -/
  inPlace : Bool
  /-- Each file is edited by itself. -/
  separate : Bool
  /-- The lines after the last one are not asked for. -/
  strict : Bool
  /-- The width of rows that hide nothing. -/
  width : Nat
  /-- How programs are called. -/
  call : Caller
  /-- How the program was called. -/
  invoked : Utility.Invoked

/-- A line to be edited. -/
structure Line where
  /-- Its text. -/
  text : Octets
  /-- It has an end. -/
  ended : Bool
  /-- The file that it comes from. -/
  file : Octets

/-- What is printed after a line. -/
inductive Later where
  /-- A text. -/
  | text (s : Octets)
  /-- A file. -/
  | file (name : Octets)

/-- A file that commands write to. -/
structure Outlet where
  /-- The number of its stream. -/
  stream : Nat
  /-- The end of the last line is missing. -/
  unended : Bool

/-- A range of lines that has begun. -/
inductive Stretch where
  /-- It is under way, up to a line if that is known. -/
  | active (stop : Option Nat)
  /-- It is over and does not begin again. -/
  | closed
deriving Repr, DecidableEq

/-- An edit under way. -/
structure Edit where
  /-- The state of the system. -/
  state : State
  /-- The line under way. -/
  pattern : Octets
  /-- It has an end. -/
  ended : Bool
  /-- The text that is kept aside. -/
  hold : Octets
  /-- That text has an end. -/
  holdEnded : Bool
  /-- The lines that are still to come. -/
  coming : List Line
  /-- The files whose lines come after these. -/
  files : List Octets
  /-- The file that the line comes from. -/
  file : Octets
  /-- The number of the line. -/
  number : Nat
  /-- There was a replacement. -/
  replaced : Bool
  /-- The expression that was used last. -/
  lastSearch : Option Search
  /-- The ranges that have begun, by the places of their commands. -/
  ranges : List (Nat × Stretch)
  /-- What is printed after the line. -/
  later : List Later
  /-- What was printed, the last piece first. -/
  printed : List Octets
  /-- The end of the last line that was printed is missing. -/
  unended : Bool
  /-- The files that commands write to. -/
  outlets : List (Octets × Outlet)
  /-- The lines that are left of files that are read line by line. -/
  readers : List (Octets × List Octets)

/-- How the commands on a line ended. -/
inductive Course where
  /-- With the end of the script. -/
  | done
  /-- Without printing the line. -/
  | deleted
  /-- With the script to be run again on what is left. -/
  | again
  /-- With the edit. -/
  | quit (printing : Bool) (status : Nat)
  /-- With a complaint. -/
  | failed (message : String) (status : Nat)
  /-- With something wrong in the script that shows only now. -/
  | misread (message : String)

namespace Edit

/-! ## Printing -/

/-- Prints a text. -/
def emit (v : Setting) (text : Octets) (e : Edit) : Edit :=
  { e with printed := (if e.unended then v.lineEnd :: text else text) :: e.printed, unended := false }

/-- Prints a line. -/
def emitLine (v : Setting) (text : Octets) (ended : Bool) (e : Edit) : Edit :=
  { e.emit v (if ended then text ++ [v.lineEnd] else text) with unended := !ended }

/-- Prints the text of a command, which has the end of a line unless there is
none. -/
def emitText (v : Setting) (text : Octets) (e : Edit) : Edit :=
  if text.isEmpty then e else e.emit v (text.dropLast ++ [v.lineEnd])

/-- Writes what was printed, unless it becomes a file. -/
def settled (v : Setting) (e : Edit) : Edit :=
  if v.inPlace then e else { e with state := e.state.print e.printed.reverse.flatten, printed := [] }

/-- Writes a line to a file. -/
def writeLine (v : Setting) (name text : Octets) (ended : Bool) (e : Edit) : Edit :=
  match e.outlets.lookup name with
  | none => e
  | some o =>
    let line := (if o.unended then [v.lineEnd] else []) ++ text ++ (if ended then [v.lineEnd] else [])
    let e := { e with outlets := setKey name { o with unended := !ended } e.outlets }
    if name = "/dev/stdout".toList && !v.inPlace then { e with printed := line :: e.printed }
    else { e with state := e.state.writeStream o.stream line }

/-- Prints what was kept for the end of the line. -/
def flush (v : Setting) (e : Edit) : Edit :=
  e.later.foldl (fun e l =>
    match l with
    | .text t => e.emit v t
    | .file name =>
      match Utility.content name e.state with
      | (.ok text, state) => { e with state }.emit v text
      | (.error _, state) => { e with state }.emit v []) { e with later := [] }

/-! ## Lines -/

/-- Opens the next one of some files that has lines. A directory ends the
edit, unless it is only looked at. -/
def openNext (v : Setting) (looking : Bool) : List Octets → Edit → Except Course Edit
  | [], e => .ok { e with files := [] }
  | f :: files, e =>
    match Utility.content f e.state with
    | (.ok t, state) =>
      let coming := (Utility.linesWithEnds v.lineEnd t).map fun (l, ended) => (⟨l, ended, f⟩ : Line)
      if coming.isEmpty then openNext v looking files { e with state } else .ok { e with state, coming, files }
    | (.error .isADirectory, state) =>
      if looking then openNext v looking files { e with state }
      else .error (.failed ("read error on " ++ Octets.text f ++ ": " ++ faultText .isADirectory) 4)
    | (.error fault, state) =>
      let state := v.invoked.complain ("can't read " ++ Octets.text f ++ ": " ++ faultText fault) state
      openNext v looking files { e with state := state.ended 2 }

/-- No line comes after this one. -/
def atEnd (v : Setting) (e : Edit) : Bool × Edit :=
  if !e.coming.isEmpty then (false, e)
  else if v.separate then (true, e)
  else
    match e.openNext v true e.files with
    | .ok e => (e.coming.isEmpty, e)
    | .error _ => (true, e)

/-- Reads the next line into the place of the one under way, or after
it. The first value tells whether there is one. -/
def readNext (v : Setting) (adding : Bool) (e : Edit) : Except Course (Bool × Edit) :=
  let e := e.flush v
  match if e.coming.isEmpty then e.openNext v false e.files else .ok e with
  | .error course => .error course
  | .ok e =>
    match e.coming with
    | [] => .ok (false, e)
    | l :: coming =>
      .ok (true, { e with
        pattern := if adding then e.pattern ++ [v.lineEnd] ++ l.text else l.text
        ended := l.ended, file := l.file, coming, number := e.number + 1, replaced := false })

/-- Looks for an expression in the line. An empty one is the one that was
used last. -/
def searchFor (r : Option Search) (e : Edit) : Option (Search × Edit) :=
  (r.or e.lastSearch).map fun found => (found, { e with lastSearch := some found })

/-- The address is for the line. -/
def meets (v : Setting) (a : Address) (e : Edit) : Except Course (Bool × Edit) :=
  match a with
  | .all => .ok (true, e)
  | .line n => .ok (e.number = n, e)
  | .every first step => .ok (first ≤ e.number && (e.number - first) % step = 0, e)
  | .last => .ok (e.atEnd v)
  | .regex r =>
    match e.searchFor r with
    | none => .error (.misread "no previous regular expression")
    | some (found, e) => .ok ((found.regex.search? found.mode e.pattern 0).isSome, e)

/-- The line where a range ends that starts here, if that depends on the
line. -/
def stopOf (u : Until) (e : Edit) : Option Nat :=
  match u with
  | .more n => some (e.number + n)
  | .multiple n => some (if n = 0 then e.number else (e.number / n + 1) * n)
  | .address _ => none

/-- The range of the command at a place ends. One that starts at a line of a
number does not start again. -/
def endRange (place : Nat) (a : Address) (e : Edit) : Edit :=
  { e with ranges := match a with
      | .line _ => setKey place .closed e.ranges
      | _ => dropKey place e.ranges }

/-- The line belongs to a range that starts with it. -/
def beginRange (place : Nat) (a : Address) (u : Until) (e : Edit) : Bool × Edit :=
  let begun : Bool × Edit := (true, { e with ranges := setKey place (.active (e.stopOf u)) e.ranges })
  let single : Bool × Edit := (true, e.endRange place a)
  match u with
  | .address (.line n) =>
    if e.number < n then begun
    else match a with
      | .line m => (e.number ≤ n || e.number = m, e.endRange place a)
      | _ => single
  | .address (.every first step) => if first ≤ e.number && (e.number - first) % step = 0 then single else begun
  | .address _ => begun
  | _ => if e.stopOf u = some e.number then single else begun

/-- The line belongs to a range under way. -/
def continueRange (v : Setting) (place : Nat) (a : Address) (u : Until) (stop : Option Nat) (e : Edit) :
    Except Course (Bool × Edit) :=
  match u with
  | .address (.line n) => .ok (e.number ≤ n, if n ≤ e.number then e.endRange place a else e)
  | .address b => do
    let (stops, e) ← e.meets v b
    return (true, if stops then e.endRange place a else e)
  | _ => .ok (true, if stop.any (· ≤ e.number) then e.endRange place a else e)

/-- The line belongs to the range of the command at a place. -/
def inRange (v : Setting) (place : Nat) (a : Address) (u : Until) (e : Edit) : Except Course (Bool × Edit) := do
  match e.ranges.lookup place, a with
  | some .closed, _ => return (false, e)
  | some (.active stop), _ => e.continueRange v place a u stop
  | none, .line m => return if m ≤ e.number then e.beginRange place a u else (false, e)
  | none, _ =>
    let (starts, e) ← e.meets v a
    return if starts then e.beginRange place a u else (false, e)

/-- The command at a place is for the line. -/
def selects (v : Setting) (place : Nat) (step : Step) (e : Edit) : Except Course (Bool × Edit) := do
  let (chosen, e) : Bool × Edit ← match step.address, step.stop with
    | none, _ => pure (true, e)
    | some a, none => e.meets v a
    | some a, some u => e.inRange v place a u
  return (chosen != step.negated, e)

/-- The ranges that are under way before the first line: those that start
at line zero. -/
def openRanges (steps : Array Step) : List (Nat × Stretch) :=
  (List.range steps.size).filterMap fun n =>
    steps[n]?.bind fun step =>
      if step.address = some (.line 0) && step.stop.isSome then some (n, .active none) else none

/-! ## Replacements -/

/-- The case of letters in what is to come. -/
structure Casing where
  /-- The case of all letters. -/
  every : Option Char
  /-- The case of the next letter. -/
  once : Option Char

/-- Characters in a case that a letter tells. -/
def casedBy (letter : Option Char) (cs : List Char) : List Char :=
  let change (f : Char → Char) : List Char := cs.map fun c => if Octets.isStray c then c else f c
  match letter with
  | some 'U' | some 'u' => change Text.toUpper
  | some 'L' | some 'l' => change Text.toLower
  | _ => cs

/-- A text in a case. -/
def Casing.shown (k : Casing) (s : Octets) : Octets :=
  match k with
  | ⟨none, none⟩ => s
  | ⟨every, once⟩ =>
    let cs := Octets.chars s
    let all := casedBy every cs
    Octets.ofChars (if once.isSome then casedBy once (cs.take 1) ++ all.drop 1 else all)

/-- The pieces with what groups have matched, each in its case. -/
def filled (group : Nat → Octets) : List Piece → Casing → Octets
  | [], _ => []
  | p :: rest, k =>
    let put (s : Octets) : Octets :=
      k.shown s ++ filled group rest (if s.isEmpty then k else { k with once := none })
    match p with
    | .recase 'u' => filled group rest { k with once := some 'u' }
    | .recase 'l' => filled group rest { k with once := some 'l' }
    | .recase 'E' => filled group rest { k with every := none }
    | .recase c => filled group rest { k with every := some c }
    | .text s => put s
    | .group n => put (group n)

/-- Replaces matches from a place on, `seen` of which were passed; `stop` is
the end of the last one. The second value tells whether one was replaced. -/
def replaceFrom (f : Search) (r : Replacement) (text : Octets) : Nat → Nat → Nat → Option Nat → Octets × Bool
  | 0, offset, _, _ => (text.drop offset, false)
  | fuel + 1, offset, seen, stop =>
    match f.regex.search? f.mode text offset with
    | none => (text.drop offset, false)
    | some m =>
      let between := (text.drop offset).take (m.start - offset)
      -- Nothing right after a match is no match.
      let counts := m.start ≠ m.stop || stop ≠ some m.start
      let wanted := counts && max 1 r.number ≤ seen + 1
      let shown := if wanted then filled (m.group text) r.pieces ⟨none, none⟩ else m.text text
      let after := text.drop m.stop
      if wanted && !r.every then (between ++ shown ++ after, true)
      else
        let step := if m.start = m.stop then after.length - ((Octets.front? after).map fun c => c.2.length).getD 0 else 0
        if m.start = m.stop && after.isEmpty then (between ++ shown, wanted)
        else
          let (rest, found) := replaceFrom f r text fuel (m.stop + step) (if counts then seen + 1 else seen) (some m.stop)
          (between ++ shown ++ after.take step ++ rest, wanted || found)

/-! ## Other commands -/

/-- The line with nothing in it hidden, in rows of a width. -/
def displayed (lineEnd : Char) (width : Nat) (s : Octets) : Octets :=
  let shown := s.map fun c => if c = '\\' then ['\\', '\\'] else if 32 ≤ c.toNat && c.toNat < 127 then [c]
    else if c = '\x08' then ['\\', 'b'] else Utility.controlEscape c
  let rows := shown.foldl (fun (acc : List Octets) piece =>
    match acc with
    | row :: rows =>
      if 0 < width && width - 1 < row.length + piece.length then piece :: row :: rows else (row ++ piece) :: rows
    | [] => if 0 < width && width - 1 < piece.length then [piece, []] else [piece]) []
  List.intercalate ['\\', lineEnd] rows.reverse ++ ['$', lineEnd]

/-- Runs a command of the system; the first value is its output. -/
def runCommand (v : Setting) (command : Octets) (e : Edit) : Octets × Edit :=
  let e := e.settled v
  let index := e.state.streams.size
  let child := e.state.attach 1 Stream.pipe
  match v.call "/bin/sh".toList ["sh".toList, ['-', 'c'], command] child with
  | .ok after => (after.textOf index, { e with state := (e.state.afterIsolated after).ended e.state.status })
  | .error _ => ([], e)

/-- A text without the end of its last line. -/
def withoutEnd (v : Setting) (s : Octets) : Octets := if s.getLast? = some v.lineEnd then s.dropLast else s

/-- The line after its matches are replaced. -/
def replace (v : Setting) (r : Replacement) (e : Edit) : Except Course Edit :=
  match e.searchFor r.search with
  | none => .error (.misread "no previous regular expression")
  | some (f, e) =>
    let n := greatestGroup r.pieces
    if f.regex.groupCount < n && !v.strict && (f.regex.search? f.mode e.pattern 0).isSome then
      .error (.misread ("invalid reference \\" ++ toString n ++ " on \x60s' command's RHS"))
    else
    let (text, found) := replaceFrom f r e.pattern (2 * e.pattern.length + 3) 0 0 none
    if !found then .ok e
    else
      let e := { e with pattern := text, replaced := true }
      let e := if r.printsFirst then e.emitLine v e.pattern e.ended else e
      let e := if r.evaluates then
          let (output, e) := e.runCommand v e.pattern
          { e with pattern := withoutEnd v output }
        else e
      let e := if r.prints then e.emitLine v e.pattern e.ended else e
      .ok (match r.file with
        | some name => e.writeLine v name e.pattern e.ended
        | none => e)

/-- Takes the next line of a file that is read line by line. -/
def nextOf (v : Setting) (name : Octets) (e : Edit) : Option Octets × Edit :=
  let (lines, e) : List Octets × Edit := match e.readers.lookup name with
    | some lines => (lines, e)
    | none =>
      let (text, state) := Utility.content name e.state
      let lines := Utility.linesWithEnds v.lineEnd (text.toOption.getD [])
      (lines.map fun (l, ended) => if ended then l ++ [v.lineEnd] else l, { e with state })
  (lines.head?, { e with readers := setKey name (lines.drop 1) e.readers })

/-- The front of a text up to the end of its first line, and what follows if
there is one. -/
def firstLine (v : Setting) (s : Octets) : Octets × Option Octets :=
  let front := s.takeWhile (· ≠ v.lineEnd)
  (front, if s.length = front.length then none else some (s.drop (front.length + 1)))

/-- Does what a command of one letter asks for; the course is not given if
the next command follows. -/
def simple (v : Setting) (letter : Char) (e : Edit) : Option Course × Edit :=
  let goOn (e : Edit) : Option Course × Edit := (none, e)
  let advanced (adding : Bool) (e : Edit) : Option Course × Edit :=
    match e.readNext v adding with
    | .ok (true, e) => (none, e)
    | .ok (false, e) => (some .done, e)
    | .error course => (some course, e)
  match letter with
  | 'd' => (some .deleted, e)
  | 'D' =>
    match firstLine v e.pattern with
    | (_, some rest) => (some .again, { e with pattern := rest })
    | (_, none) => (some .deleted, e)
  | 'g' => goOn { e with pattern := e.hold, ended := e.holdEnded }
  | 'G' => goOn { e with pattern := e.pattern ++ [v.lineEnd] ++ e.hold, ended := e.holdEnded }
  | 'h' => goOn { e with hold := e.pattern, holdEnded := e.ended }
  | 'H' => goOn { e with hold := e.hold ++ [v.lineEnd] ++ e.pattern, holdEnded := e.ended }
  | 'x' => goOn { e with pattern := e.hold, ended := e.holdEnded, hold := e.pattern, holdEnded := e.ended }
  | 'z' => goOn { e with pattern := [] }
  | 'F' => goOn (e.emit v (e.file ++ [v.lineEnd]))
  | 'p' => goOn (e.emitLine v e.pattern e.ended)
  | 'P' =>
    match firstLine v e.pattern with
    | (front, some _) => goOn (e.emitLine v front true)
    | (front, none) => goOn (e.emitLine v front e.ended)
  | 'n' =>
    match e.atEnd v with
    | (true, e) => (some .done, e)
    | (false, e) => advanced false (if v.quiet then e else e.emitLine v e.pattern e.ended)
  | 'N' =>
    match e.atEnd v with
    | (true, e) => (some (if v.strict then .deleted else .done), e)
    | (false, e) => advanced true e
  | c => (some (.failed ("INTERNAL ERROR: Bad cmd " ++ Octets.text [c]) 4), e)

/-- Runs a script on the line, from a place on. -/
def run (v : Setting) (steps : Array Step) : Nat → Nat → Edit → Course × Edit
  | 0, _, e => (.done, e)
  | fuel + 1, place, e =>
    match steps[place]? with
    | none => (.done, e)
    | some step =>
      match e.selects v place step with
      | .error course => (course, e)
      | .ok (chosen, e) =>
        let goOn (e : Edit) : Course × Edit := run v steps fuel (place + 1) e
        let goTo (goal : Option Nat) (e : Edit) : Course × Edit := run v steps fuel (goal.getD steps.size) e
        if !chosen then
          match step.action with
          | .enter stop => run v steps fuel stop e
          | _ => goOn e
        else
          match step.action with
          | .enter _ | .leave | .label => goOn e
          | .number => goOn (e.emit v ((toString e.number).toList ++ [v.lineEnd]))
          | .append text => goOn { e with later := e.later ++ [.text text] }
          | .insert text => goOn (e.emitText v text)
          | .change text =>
            let goesOn := match e.ranges.lookup place with
              | some (.active _) => step.stop.isSome
              | _ => false
            (.deleted, if goesOn then e else e.emitText v text)
          | .evaluate [] =>
            let (output, e) := e.runCommand v e.pattern
            goOn { e with pattern := withoutEnd v output, ended := true }
          | .evaluate text =>
            let (output, e) := (e.emit v []).runCommand v text.dropLast
            goOn (e.emit v output)
          | .jump goal => goTo goal e
          | .jumpIf wanted goal =>
            if e.replaced = wanted then goTo goal { e with replaced := false }
            else goOn { e with replaced := false }
          | .quit printing status => (.quit printing status, e)
          | .readFile name => goOn { e with later := e.later ++ [.file name] }
          | .readLine name =>
            match e.nextOf v name with
            | (some text, e) => goOn { e with later := e.later ++ [.text text] }
            | (none, e) => goOn e
          | .writeFile front name =>
            match front, firstLine v e.pattern with
            | true, (text, some _) => goOn (e.writeLine v name text true)
            | _, _ => goOn (e.writeLine v name e.pattern e.ended)
          | .translate from' to' =>
            goOn { e with pattern := Octets.ofChars ((Octets.chars e.pattern).map fun c => ((from'.zip to').lookup c).getD c) }
          | .display width => goOn (e.emit v (displayed v.lineEnd (width.getD v.width) e.pattern))
          | .replace r =>
            match e.replace v r with
            | .error course => (course, e)
            | .ok e => goOn e
          | .simple letter =>
            match e.simple v letter with
            | (some course, e) => (course, e)
            | (none, e) => goOn e

/-- Prints the files that come before the first line. -/
def begin (v : Setting) (steps : Array Step) (e : Edit) : Edit :=
  let files := steps.toList.filterMap fun step =>
    match step with
    | ⟨some (.line 0), none, _, .readFile name⟩ => some (Later.file name)
    | _ => none
  { e with later := files }.flush v

/-- The commands that are run at most on a line. -/
def commandLimit : Nat := 100000

/-- Runs a script on all lines. The first value is how that ended, if not
with the last line. -/
def runAll (v : Setting) (steps : Array Step) : Nat → Bool → Edit → Option Course × Edit
  | 0, _, e => (none, e)
  | fuel + 1, fresh, e =>
    match if fresh then e.readNext v false else .ok (true, e) with
    | .error course => (some course, e)
    | .ok (false, e) => (none, e)
    | .ok (true, e) =>
      let e := if fresh && e.number = 1 then e.begin v steps else e
      let printed (e : Edit) : Edit := if v.quiet then e else e.emitLine v e.pattern e.ended
      match run v steps commandLimit 0 e with
      | (.done, e) => runAll v steps fuel true ((printed e).flush v)
      | (.deleted, e) => runAll v steps fuel true (e.flush v)
      | (.again, e) => runAll v steps fuel false e
      | (.quit printing status, e) =>
        (some (.quit printing status), if printing then ((printed e).flush v).emit v [] else e)
      | (course, e) => (some course, e)

end Edit

end Sed

end Shell

end Tangle
