import Tangle.Shell.Sed.Edit
import Tangle.Shell.Sed.Reading
import Tangle.Shell.Utility.Paths
/-!
# The program that edits lines

`sed` reads a script from its arguments or from files and runs it on the
lines of its operands, all in a row or each file by itself.
-/

namespace Tangle

namespace Shell

namespace Utility

namespace Sed

open Tangle.Shell.Sed

/-- The options of the program. -/
def options : Spec :=
  ⟨"nErsuzbπσδ", "efl", "i", [("quiet", 'n'), ("silent", 'n'), ("regexp-extended", 'E'), ("expression", 'e'),
    ("file", 'f'), ("in-place", 'i'), ("separate", 's'), ("null-data", 'z'), ("zero-terminated", 'z'),
    ("unbuffered", 'u'), ("binary", 'b'), ("posix", 'π'), ("sandbox", 'σ'), ("debug", 'δ'), ("line-length", 'l'),
    ("follow-symlinks", 'δ')], false, 1⟩

/-- Tells how the program is used. -/
def usage (i : Invoked) (s : State) : State :=
  (s.complain ("Usage: " ++ i.name ++ " [OPTION]... \x7bscript-only-if-no-other-script\x7d [input-file]...")).ended 1

/-- The complaint about a script that cannot be read. -/
def refuse (i : Invoked) (flaw : Flaw) (s : State) : State :=
  match flaw with
  | .at (.expression n) place _ message =>
    (i.complain ("-e expression #" ++ toString n ++ ", char " ++ toString place ++ ": " ++ message) s).ended 1
  | .at (.file name) _ line message =>
    (i.complain ("file " ++ Octets.text name ++ " line " ++ toString line ++ ": " ++ message) s).ended 1
  | .noLabel name => (i.complain ("can't find label for jump to \x60" ++ Octets.text name ++ "'") s).ended 4
  | .looseClass => (i.complain "character class syntax is [[:space:]], not [:space:]" s).ended 4

/-- Opens the files that commands write to, in order; the first that cannot
be opened ends the program. -/
def openOutlets (i : Invoked) : List Octets → State → List (Octets × Outlet) → Except State (State × List (Octets × Outlet))
  | [], s, outlets => .ok (s, outlets)
  | name :: names, s, outlets =>
    if (outlets.lookup name).isSome then openOutlets i names s outlets
    else
      let standard := if name = "/dev/stdout".toList then s.descriptors.lookup 1
        else if name = "/dev/stderr".toList then s.descriptors.lookup 2 else none
      match standard with
      | some stream => openOutlets i names s (outlets ++ [(name, ⟨stream, false⟩)])
      | none =>
        match s.openStream (State.path name) (.forWriting .truncate) with
        | (.ok stream, s) => openOutlets i names s (outlets ++ [(name, ⟨stream, false⟩)])
        | (.error fault, s) =>
          .error ((i.complain ("couldn't open file " ++ Octets.text name ++ ": " ++ faultText fault) s).ended 4)

/-- An edit of lines that has not begun. -/
def editOf (steps : Array Step) (outlets : List (Octets × Outlet)) (s : State) : Edit :=
  { state := s, pattern := [], ended := true, hold := [], holdEnded := true, coming := [], files := [], file := ['-'], number := 0
    replaced := false, lastSearch := none, ranges := Edit.openRanges steps, later := [], printed := []
    unended := false, outlets, readers := [] }

/-- The most rounds that the lines of files can take: each round uses up a
part of them. -/
def roundsOf (files : List Octets) (s : State) : Nat :=
  2 * (files.map fun f => ((content f s).1.toOption.getD []).length).foldl (· + ·) 0 + 2

/-- The state after an edit, with its status. `scan` is what was read of the
script. -/
def ending (i : Invoked) (scan : Scan) (course : Option Course) (s : State) : State :=
  match course with
  | some (.misread message) => refuse i (.at scan.origin 0 (scan.line + 1) message) s
  | some (.quit _ status) => s.ended (if s.status = 0 then status % 256 else s.status)
  | some (.failed message status) => (i.complain message s).ended status
  | _ => s

/-- Complains that what was printed cannot be written. -/
def reportOutput (i : Invoked) (s : State) : State :=
  match s.writeFault with
  | some fault =>
    { (i.complain ("couldn't flush stdout: " ++ faultText fault) s).ended 4 with writeFault := none }
  | none => s

/-- Edits the lines of all operands in a row, or of each by itself. -/
def editAll (i : Invoked) (scan : Scan) (v : Setting) (steps : Array Step) (outlets : List (Octets × Outlet))
    (files : List Octets) (s : State) : State :=
  let groups : List (List Octets) := if v.separate then files.map fun f => [f] else [files]
  let (course, e) := groups.foldl (fun (acc : Option Course × Edit) files =>
    match acc with
    | (none, e) =>
      Edit.runAll v steps (roundsOf files e.state) true { e with
        files, coming := [], number := 0, ranges := Edit.openRanges steps, hold := [], readers := [] }
    | done => done) (none, editOf steps outlets s)
  let e := e.settled v
  -- What was not read of standard input is left to others.
  let left := (e.coming.filter fun l => l.file = ['-']).map fun l => l.text.length + if l.ended then 1 else 0
  let s := if course.isSome then e.state.giveBack 0 (left.foldl (· + ·) 0) else e.state
  reportOutput i (ending i scan course s)

/-- The name of the file that keeps what was there before. -/
def backupName (suffix file : Octets) : Octets :=
  let base := lastSegment file
  let name := if suffix.contains '*' then suffix.flatMap fun c => if c = '*' then base else [c] else base ++ suffix
  if name.contains '/' then name
  else file.take (file.length - base.length) ++ name

/-- Edits each operand in its place. -/
def editInPlace (i : Invoked) (v : Setting) (steps : Array Step) (suffix : Octets) :
    List Octets → Edit → Option Course × Edit
  | [], e => (none, e)
  | o :: os, e =>
    let (read, s) := content (if o = ['-'] then "./-".toList else o) e.state
    match read, s.disk.findEntry false s.cwd (State.path o) with
    | .error .isADirectory, _ =>
      editInPlace i v steps suffix os { e with
        state := (i.complain ("couldn't edit " ++ Octets.text o ++ ": not a regular file") s).ended 4 }
    | .error fault, _ =>
      editInPlace i v steps suffix os { e with
        state := (i.complain ("can't read " ++ Octets.text o ++ ": " ++ faultText fault) s).ended 2 }
    | .ok _, .error _ => editInPlace i v steps suffix os { e with state := s }
    | .ok t, .ok found =>
      let lines := (linesWithEnds v.lineEnd t).map fun (l, ended) => (⟨l, ended, o⟩ : Line)
      let (course, e) := Edit.runAll v steps (2 * t.length + 2) true { e with
        state := s, coming := lines, files := [], number := 0, ranges := Edit.openRanges steps, printed := [], unended := false
        hold := [], readers := [] }
      let text := e.printed.reverse.flatten
      let mode := (s.lookup (State.path o)).toOption.map Node.mode
      let kept : Except Fault State := if suffix.isEmpty then .ok e.state
        else writeFile (backupName suffix o) t .truncate e.state
      let isFailed := match course with
        | some (.failed _ _) | some (.misread _) => true
        | _ => false
      if isFailed then (course, e)
      else
      match kept with
      | .error fault =>
        (some (.failed ("cannot rename " ++ Octets.text o ++ ": " ++ faultText fault) 4), { e with printed := [] })
      | .ok s =>
        let node : Node := .file (Octets.toBytes text) ⟨mode.getD s.newFileMode, s.now, none⟩
        let e := { e with state := { s with disk := s.disk.put node found.place }, printed := [] }
        if course.isSome then (course, e) else editInPlace i v steps suffix os e

/-- The parts of the script with where they come from, and the operands. A
file that cannot be read ends the program. -/
def partsOf (i : Invoked) (s : State) : Except State (List (Shell.Sed.Origin × Octets) × List Octets × State) :=
  let given := i.options.filter fun o => o.1 = 'e' || o.1 = 'f'
  if given.isEmpty then
    match i.operands with
    | [] => .error (usage i s)
    | script :: files => .ok ([(.expression 1, script)], files, s)
  else
    let read : Except State (List (Shell.Sed.Origin × Octets) × Nat × State) := given.foldlM (fun (parts, n, s) (letter, text) =>
      if letter = 'e' then .ok (parts ++ [(.expression n, text)], n + 1, s)
      else
        match content text s with
        | (.ok script, s) => .ok (parts ++ [(.file text, script)], n, s)
        | (.error .isADirectory, s) =>
          .error ((i.complain ("read error on " ++ Octets.text text ++ ": " ++ faultText .isADirectory) s).ended 4)
        | (.error fault, s) =>
          .error ((i.complain ("couldn't open file " ++ Octets.text text ++ ": " ++ faultText fault) s).ended 4))
      ([], 1, s)
    read.map fun (parts, _, s) => (parts, i.operands, s)

/-- Reads the parts of a script one after the other. -/
def readParts : Bool → List (Shell.Sed.Origin × Octets) → Reading (List Step)
  | _, [] => Shell.Sed.finish
  | isFirst, (origin, text) :: rest => do
    readPart origin isFirst text
    readParts false rest

end Sed

/-- Edits lines by a script. -/
def sed : Utility := fun call argv s =>
  let i : Invoked := ⟨Octets.text (argv.head?.getD []), [], []⟩
  match argumentsOf Sed.options argv with
  | (_, .error problem) => Sed.usage i (i.complain problem s)
  | (options, .ok operands) =>
    let i : Invoked := { i with options, operands }
    match Sed.partsOf i (s.ended 0) with
    | .error s => s
    | .ok (parts, files, s) =>
      let (read, scan) := (Sed.readParts true parts).run.run (.start (i.has 'E' || i.has 'r') (i.has 'σ') (i.has 'π'))
      match Sed.openOutlets i scan.outputs.reverse s [] with
      | .error s => s
      | .ok (s, outlets) =>
        match read with
        | .error flaw => Sed.refuse i flaw s
        | .ok steps =>
          let steps := steps.toArray
          let width := ((i.value? 'l').map fun t => (Octets.nat? (t.takeWhile Char.isDigit)).getD 0).getD 70
          let v : Shell.Sed.Setting :=
            ⟨i.has 'n' || scan.quiet, if i.has 'z' then '\x00' else '\n', i.has 'i', i.has 'i' || i.has 's', i.has 'π', width,
              call, i⟩
          if i.has 'i' then
            let (course, e) := Sed.editInPlace i v steps ((i.value? 'i').getD []) files (Sed.editOf steps outlets s)
            Sed.ending i scan course e.state
          else Sed.editAll i scan v steps outlets (if files.isEmpty then [['-']] else files) s

end Utility

end Shell

end Tangle
