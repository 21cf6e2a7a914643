import Tangle.Shell.Regex.Matching
import Tangle.Shell.Utility.Calling
import Tangle.Shell.Utility.Finding.Query
import Tangle.Shell.Utility.Target
/-!
# Walking files

A walk visits files below a place and asks a query about each one
(`visit`). Asking may print, remove files or call programs, so an answer
comes with what the walk has come to (`Walk`).
-/

namespace Tangle

namespace Shell

namespace Utility

namespace Finding

/-- A call that waits for the end of the walk. -/
structure Waiting where
  /-- The command. -/
  words : List Octets
  /-- The directory in which it is called, if it is that of the files. -/
  directory : Option Place
  /-- The path of a file. -/
  path : Octets

/-- What a walk has come to. -/
structure Walk where
  /-- The state. -/
  state : State
  /-- The directory under way is not entered. -/
  pruned : Bool
  /-- The walk is over. -/
  stopped : Bool
  /-- Something was not possible. -/
  failed : Bool
  /-- The calls for the end. -/
  waiting : List Waiting

/-- How a walk is made. -/
structure Tour where
  /-- The program that walks. -/
  invoked : Invoked
  /-- Calls a program. -/
  call : Caller
  /-- What is asked. -/
  query : Query
  /-- Which files are asked about. -/
  scope : Scope
  /-- All links are followed. -/
  follows : Bool
  /-- Links are followed that are operands. -/
  atStart : Bool

/-- Something is not possible. -/
def Walk.complain (i : Invoked) (message : String) (w : Walk) : Walk :=
  { w with failed := true, state := i.complain message w.state }

/-- Prints to a goal. -/
def Walk.print (goal : Goal) (text : Octets) (w : Walk) : Walk :=
  match goal with
  | none => { w with state := w.state.print text }
  | some file =>
    if file = "/dev/stdout".toList then { w with state := w.state.print text }
    else if file = "/dev/stderr".toList then { w with state := w.state.write 2 text }
    else { w with state := (writeFile file text .append w.state).toOption.getD w.state }

/-- The path of a file from the directory that it is in. -/
def Visited.nearby (v : Visited) : Octets := if v.path.all (· = '/') then ['/'] else ['.', '/'] ++ v.fullName

/-- The directory in which a file is. -/
def Visited.surroundings (v : Visited) (s : State) : Place :=
  match s.disk.find s.cwd (State.path v.directory) with
  | .ok found => found.place
  | .error _ => s.cwd

/-- The state in another directory. -/
def moved (directory : Place) (s : State) : State := { s with cwd := directory }

/-- Calls a program about a file, and tells whether it went well. -/
def Tour.perform (t : Tour) (argv : List Octets) (directory : Option Place) (s : State) : Bool × State :=
  let name := argv.head?.getD []
  let outcome := callApart t.call argv (directory.elim s fun d => moved d s)
  match outcome with
  | .ok (some signal, after) =>
    (false, t.invoked.complain (curly name ++ " terminated by signal " ++ toString signal) (moved s.cwd after))
  | .ok (none, after) => (after.status = 0, moved s.cwd after)
  | .error fault => (false, t.invoked.complain (curly name ++ ": " ++ faultText fault) s)

/-- Asks a query about a file. -/
def Query.ask (t : Tour) (v : Visited) : Query → Walk → Bool × Walk
  | .always answer, w => (answer, w)
  | .nameLike folds pattern, w => (globAccepts folds pattern v.name, w)
  | .pathLike folds pattern, w => (globAccepts folds pattern v.path, w)
  | .goalLike folds pattern, w =>
    (match v.node with
      | .link target => globAccepts folds pattern (Octets.ofString target)
      | _ => false, w)
  | .regex folds r, w =>
    ((Regex.ends ⟨folds, false, true⟩ v.path r ⟨0, none, v.path⟩ []).any fun f => f.1.rest.isEmpty, w)
  | .kind through letters, w =>
    -- Where links are followed, the other kind is that of the link.
    let followed := t.follows || (t.atStart && v.depth = 0)
    let other := if followed then w.state.entryAt (State.path v.path) else w.state.disk.find w.state.cwd (State.path v.path)
    let node := if through then (other.toOption.bind Found.node).getD v.node else v.node
    (letters.contains (kindLetter node), w)
  | .isVoid, w =>
    (match v.node with
      | .directory es _ => es.isEmpty
      | .file content _ => content.isEmpty
      | _ => false, w)
  | .size bound count unit, w => (bound.admits count (ceilDiv (sizeOf v.node) unit), w)
  | .links bound count, w => (bound.admits count (nameCountOf v.node w.state), w)
  | .number bound count, w => (bound.admits count (fileNumber v.place w.state), w)
  | .rights sign mode, w =>
    let own := v.node.mode &&& 0o7777
    (match sign with
      | none => own = mode
      | some '-' => own &&& mode = mode
      | some _ => mode = 0 || own &&& mode ≠ 0, w)
  | .access letter, w =>
    ((w.state.lookup (State.path v.path)).toOption.any fun n => letter ≠ 'x' || n.isDirectory || n.isExecutable, w)
  | .same place, w => (w.state.isSameFile v.place place, w)
  | .changed since upTo, w => (since.all (· < v.node.modified) && upTo.all (v.node.modified ≤ ·), w)
  | .print goal ending, w => (true, w.print goal (v.path ++ [ending]))
  | .format goal pieces, w => (true, w.print goal (v.fill w.state pieces))
  | .row goal, w => (true, w.print goal (v.row w.state))
  | .delete, w =>
    if v.path = ['.'] then (true, w)
    else
      let bare := (v.path.reverse.dropWhile (· = '/')).reverse
      let removed : Except Fault Place := match w.state.entryAt (State.path (if bare.isEmpty then v.path else bare)) with
        | .ok ⟨place, some (.directory (_ :: _) _), _⟩ => if place.isEmpty then .error .invalidArgument else .error .notEmpty
        | .ok ⟨place, some n, _⟩ => if v.node.isDirectory && !n.isDirectory then .error .notADirectory else .ok place
        | .ok _ => .error .notFound
        | .error fault => .error fault
      match removed with
      | .ok place => (true, { w with state := w.state.eraseNode place })
      | .error fault => (false, w.complain t.invoked ("cannot delete " ++ curly v.path ++ ": " ++ faultText fault))
  | .prune, w => (true, { w with pruned := true })
  | .quit, w => (true, { w with stopped := true })
  | .call words inPlace asks, w =>
    let shown := if inPlace then v.nearby else v.path
    let argv := words.map fun a => replaceAll ['\x7b', '\x7d'] shown (a.length + 1) a
    let (agreed, s) : Bool × State :=
      if asks then
        let question := "< " ++ Octets.text (words.head?.getD []) ++ " ... " ++ Octets.text v.path ++ " > ? "
        hears question w.state
      else (true, w.state)
    if agreed then
      let (well, s) := t.perform argv (if inPlace then some (v.surroundings s) else none) s
      (well, { w with state := s })
    else (false, { w with state := s })
  | .gather words inPlace, w =>
    let one : Waiting := if inPlace then ⟨words, some (v.surroundings w.state), v.nearby⟩ else ⟨words, none, v.path⟩
    (true, { w with waiting := w.waiting ++ [one] })
  | .negation q, w => (q.ask t v w).map (!·) fun w => w
  | .both p q, w =>
    match p.ask t v w with
    | (true, w) => if w.stopped then (true, w) else q.ask t v w
    | no => no
  | .either p q, w =>
    match p.ask t v w with
    | (false, w) => if w.stopped then (false, w) else q.ask t v w
    | yes => yes
  | .after p q, w =>
    let (answer, w) := p.ask t v w
    if w.stopped then (answer, w) else q.ask t v w

/-- Visits a file and what is below it, at most `fuel` directories deep; those
above it are at the places `above`, with their paths. -/
def visit (t : Tour) (start : Octets) : Nat → List (Place × Octets) → Octets → Walk → Walk
  | 0, _, _, w => w
  | fuel + 1, above, path, w =>
    if w.stopped then w
    else
      let depth := above.length
      let follows := t.follows || (t.atStart && depth = 0)
      let existing (found : Except Fault Found) : Except Fault (Found × Node) := do
        let found ← found
        return (found, ← found.existing)
      let entry := existing (w.state.entryAt (State.path path))
      let goal := if follows then existing (w.state.disk.find w.state.cwd (State.path path)) else entry
      let met : Except Fault (Found × Node) := match goal with
        | .error .tooManyLinks => goal
        -- A link that leads nowhere is a file of its own.
        | .error _ => entry
        | goal => goal
      match met with
      | .error fault => w.complain t.invoked (curly path ++ ": " ++ faultText fault)
      | .ok (found, node) =>
        match if node.isDirectory then above.find? fun a => a.1 = found.place else none with
        | some (_, former) =>
          w.complain t.invoked ("File system loop detected; " ++ curly path ++ " is part of the same file system loop as "
            ++ curly former ++ ".")
        | none =>
          let v : Visited := ⟨path, start, depth, node, found.place⟩
          let ask (w : Walk) : Walk := if depth < t.scope.least then w else (t.query.ask t v w).2
          let w := if t.scope.deepFirst then w else ask { w with pruned := false }
          let enters := node.isDirectory && (t.scope.deepFirst || !w.pruned) && t.scope.greatest.all (depth < ·)
          let w := if !enters || w.stopped then w
            else
              let names := ((w.state.disk.get? found.place).map fun n => n.entries.map Prod.fst).getD []
              names.foldl (fun w name =>
                visit t start fuel (above ++ [(found.place, path)]) (below path (Octets.ofString name)) w) w
          if t.scope.deepFirst && !w.stopped then ask w else w

/-- Makes the calls that wait. -/
def Tour.finish (t : Tour) (w : Walk) : Walk :=
  let commands := t.query.parts.filterMap Query.gathered?
  commands.eraseDups.foldl (fun w (words, inPlace) =>
    let mine := w.waiting.filter fun x => x.words = words && x.directory.isSome = inPlace
    (mine.map Waiting.directory).eraseDups.foldl (fun w directory =>
      let paths := (mine.filter fun x => x.directory = directory).map Waiting.path
      let (well, s) := t.perform (words ++ paths) directory w.state
      { w with state := s, failed := w.failed || !well }) w) w

end Finding

/-- The words in front of the operands that tell how links are followed, and
what is left; complaints are about words that mean nothing. -/
def findModes : List Octets → Option Char → List String → Option Char × List String × List Octets
  | ['-', '-'] :: rest, mode, complaints => (mode, complaints, rest)
  | ['-', c] :: rest, mode, complaints =>
    if c = 'H' || c = 'L' || c = 'P' then findModes rest (some c) complaints
    else if c = 'D' then
      match rest with
      | flag :: rest => findModes rest mode (complaints ++ ["Ignoring unrecognised debug flag " ++ curly flag])
      | [] => (mode, complaints, ['-', c] :: rest)
    else (mode, complaints, ['-', c] :: rest)
  | ('-' :: 'O' :: level) :: rest, mode, complaints =>
    if level.all Char.isDigit then findModes rest mode complaints
    else (mode, complaints, ('-' :: 'O' :: level) :: rest)
  | rest, mode, complaints => (mode, complaints, rest)

/-- Finds files. -/
def find : Utility := fun call argv s =>
  let i : Invoked := ⟨Octets.text (argv.head?.getD []), [], []⟩
  let (mode, complaints, args) := findModes (argv.drop 1) none []
  let s := complaints.foldl (fun s c => s.complain (i.name ++ ": " ++ c)) (s.ended 0)
  let startsExpression (a : Octets) : Bool := (a.head? = some '-' && 1 < a.length) || a = ['('] || a = ['!']
  let starts := args.takeWhile fun a => !startsExpression a
  let scope : Finding.Scope :=
    ⟨0, none, false, mode = some 'L', ((Finding.spellings.head?).map Prod.snd).getD .posixBasic,
      s.now - 86400000000000, []⟩
  let warned (scope : Finding.Scope) (s : State) : State :=
    scope.warnings.foldl (fun s w => s.complain (i.name ++ ": " ++ w)) s
  match (Finding.Query.read s (args.drop starts.length)).run scope with
  | .error problem scope => i.complain problem (warned scope s)
  | .ok q scope =>
    let goals := (q.parts.filterMap Finding.Query.goal?).eraseDups.filter fun g =>
      g ≠ "/dev/stdout".toList && g ≠ "/dev/stderr".toList
    let opened : Except String State := goals.foldlM (fun s g =>
      (writeFile g [] .truncate s).mapError fun fault => curly g ++ ": " ++ faultText fault) (warned scope s)
    match opened with
    | .error problem => i.complain problem (warned scope s)
    | .ok s =>
      let tour : Finding.Tour := ⟨i, call, q, scope, scope.follows, mode = some 'H'⟩
      let walked := (if starts.isEmpty then [['.']] else starts).foldl (fun w start =>
        Finding.visit tour start 300 [] start w) (⟨s, false, false, false, []⟩ : Finding.Walk)
      let after := tour.finish walked
      after.state.ended (if after.failed then 1 else 0)

end Utility

end Shell

end Tangle
