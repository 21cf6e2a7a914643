import Tangle.Shell.Files
import Tangle.Shell.Pattern
import Tangle.Shell.Utility.Basic
/-!
# Paths

The parts of paths, the places that they lead to, and the programs that
print these.
-/

namespace Tangle

namespace Shell

namespace Utility

/-- What becomes of a change; a fault is complained about. -/
def Invoked.changing (i : Invoked) (what : String) (result : Except Fault State) (s : State) : State :=
  match result with
  | .ok s => s
  | .error fault => i.complain (what ++ ": " ++ faultText fault) s

/-- The file that a stream leads to. -/
def placeOf (descriptor : Nat) (s : State) : Option Place :=
  (s.stream? descriptor).bind fun st =>
    match st.target with
    | .file place => some place
    | _ => none

/-- What an operand names is the file that standard output leads to. -/
def isOutput (operand : Octets) (s : State) : Bool :=
  let input := if operand = ['-'] then placeOf 0 s
    else match s.disk.find s.cwd (State.path operand) with
      | .ok found => some found.place
      | .error _ => none
  match input, placeOf 1 s with
  | some a, some b => s.isSameFile a b
  | _, _ => false

/-- The last segment of a path. -/
def lastSegment (o : Octets) : Octets :=
  let trimmed := (o.reverse.dropWhile (· = '/')).reverse
  if trimmed.isEmpty then (if o.isEmpty then [] else ['/'])
  else (trimmed.reverse.takeWhile (· ≠ '/')).reverse

/-- A path without its last segment. -/
def frontSegments (o : Octets) : Octets :=
  let trimmed := (o.reverse.dropWhile (· = '/')).dropWhile (· ≠ '/')
  let above := (trimmed.dropWhile (· = '/')).reverse
  if above.isEmpty then (if o.head? = some '/' then ['/'] else ['.']) else above

/-- A name below a directory. -/
def below (directory name : Octets) : Octets :=
  if directory.getLast? = some '/' then directory ++ name else directory ++ '/' :: name

/-! ## Patterns of names -/

/-- A text as a pattern, where a backslash protects the next character. -/
def globOf : Octets → List Marked
  | '\\' :: c :: s => (true, c) :: globOf s
  | c :: s => (false, c) :: globOf s
  | [] => []

/-- The text matches a pattern. -/
def globAccepts (folds : Bool) (pattern text : Octets) : Bool :=
  let low (s : Octets) : Octets := if folds then s.map Char.toLower else s
  (Matcher.ofMarked ⟨true, false, false⟩ (globOf (low pattern))).accepts (low text)

/-! ## Canonical paths -/

/-- What has to be there for a path to have a canonical form. -/
inductive Presence where
  /-- All of it. -/
  | whole
  /-- All but the last segment. -/
  | front
  /-- Nothing. -/
  | nothing
deriving Repr, DecidableEq

/-- A path without links, as far as it leads. -/
def furthest (s : State) (place : Place) : List (List Char) → Place
  | [] => place
  | [] :: rest => furthest s place rest
  | ['.'] :: rest => furthest s place rest
  | ['.', '.'] :: rest => furthest s place.dropLast rest
  | segment :: rest =>
    let entry := place ++ [String.ofList segment]
    let next : Place := match s.disk.get? entry with
      | some (.link _) => ((s.disk.find place ⟨String.ofList segment⟩).toOption.map Found.place).getD entry
      | _ => entry
    furthest s next rest

/-- Where a path starts. -/
def startOf (path : Path) (s : State) : Place := if path.isAbsolute then [] else s.cwd

/-- The place that a path leads to. -/
def canonical (presence : Presence) (o : Octets) (s : State) : Except Fault Place :=
  let path := State.path o
  if o.isEmpty then .error .notFound
  else if presence = .nothing then .ok (furthest s (startOf path s) (Path.segments path.text.toList))
  else do
    let found ← s.disk.find s.cwd path
    match found.node with
    | none => if presence = .whole then throw .notFound else return found.place
    | some node => if found.asDirectory && !node.isDirectory then throw .notADirectory else return found.place

/-- The place that a path names if links are like other entries. -/
def literalPlace (path : Path) (s : State) : Place :=
  (Path.segments path.text.toList).foldl (fun (place : Place) segment =>
    if segment.isEmpty || segment = ['.'] then place
    else if segment = ['.', '.'] then place.dropLast
    else place ++ [String.ofList segment]) (startOf path s)

/-- The path from one place to another. -/
def wayBetween (start place : Place) : Octets :=
  let common := ((start.zip place).takeWhile fun (a, b) => a = b).length
  let segments := List.replicate (start.length - common) ".." ++ place.drop common
  if segments.isEmpty then ['.'] else Octets.ofString (String.intercalate "/" segments)

/-! ## Printing paths -/

/-- A name without a suffix, unless it is nothing but that. -/
def dropSuffix (suffix name : Octets) : Octets :=
  if suffix.isSuffixOf name && name ≠ suffix then name.take (name.length - suffix.length) else name

/-- Prints the last segment of a path, without a suffix if one is given. -/
def basename : Utility :=
  withOptions ⟨"az", "s", "", [("multiple", 'a'), ("suffix", 's'), ("zero", 'z')], true, 1⟩ fun i s =>
    let ending := if i.has 'z' then ['\x00'] else ['\n']
    if i.has 'a' || i.has 's' then
      i.each "operand" (fun o s => s.print (dropSuffix ((i.value? 's').getD []) (lastSegment o) ++ ending)) s
    else
      match i.operands with
      | [] => i.refuse "missing operand" s
      | [o] => s.print (lastSegment o ++ ending)
      | [o, suffix] => s.print (dropSuffix suffix (lastSegment o) ++ ending)
      | _ :: _ :: extra :: _ => i.refuse ("extra operand " ++ curly extra) s

/-- Prints paths without their last segments. -/
def dirname : Utility := withOptions ⟨"z", "", "", [("zero", 'z')], false, 1⟩ fun i s =>
  let ending := if i.has 'z' then ['\x00'] else ['\n']
  i.each "operand" (fun o s => s.print (frontSegments o ++ ending)) s

/-- Prints the current directory. -/
def pwd : Utility := withOptions ⟨"LP", "", "", [("logical", 'L'), ("physical", 'P')], false, 1⟩ fun i s =>
  let s := if i.operands.isEmpty then s else s.complain (i.name ++ ": ignoring non-option arguments")
  let place := State.placeOctets s.cwd
  let told := (s.value? "PWD".toList).getD []
  let isTold := told.head? = some '/' && !(Octets.splitOn '/' told).any (fun x => x = ['.'] || x = ['.', '.'])
    && (s.disk.find [] (State.path told)).toOption.any fun found => found.place = s.cwd
  s.print ((if i.last? "LP" = some 'L' && isTold then told else place) ++ ['\n'])

/-- Prints what links stand for, or the places that paths lead to. -/
def readlink : Utility :=
  withOptions ⟨"femnqsvz", "", "", [("canonicalize", 'f'), ("canonicalize-existing", 'e'), ("canonicalize-missing", 'm'),
      ("no-newline", 'n'), ("quiet", 'q'), ("silent", 's'), ("verbose", 'v'), ("zero", 'z')], false, 1⟩ fun i s =>
    let isOne := i.operands.length = 1
    let s := if i.has 'n' && !isOne && !i.operands.isEmpty then
        s.complain (i.name ++ ": ignoring --no-newline with multiple arguments") else s
    let ending := if i.has 'n' && isOne then [] else if i.has 'z' then ['\x00'] else ['\n']
    let speaks := i.last? "qsv" = some 'v'
    let failed (o : Octets) (fault : Fault) (s : State) : State :=
      if speaks then i.complainOf o fault s else s.ended 1
    let placed (presence : Presence) (o : Octets) (s : State) : State :=
      match canonical presence o s with
      | .ok place => s.print (State.placeOctets place ++ ending)
      | .error fault => failed o fault s
    i.each "operand" (fun o s =>
      match i.last? "fem" with
      | some 'f' => placed .front o s
      | some 'e' => placed .whole o s
      | some _ => placed .nothing o s
      | none =>
        match s.lookupEntry (State.path o) with
        | .ok (.link target) => s.print (Octets.ofString target ++ ending)
        | .ok _ => failed o .invalidArgument s
        | .error fault => failed o fault s) s

/-- Prints the places that paths lead to. -/
def realpath : Utility :=
  withOptions ⟨"eLmPqsz", "ρβ", "", [("canonicalize-existing", 'e'), ("canonicalize-missing", 'm'), ("logical", 'L'),
      ("no-symlinks", 's'), ("physical", 'P'), ("quiet", 'q'), ("relative-base", 'β'), ("relative-to", 'ρ'), ("strip", 's'),
      ("zero", 'z')], false, 1⟩ fun i s =>
    let ending := if i.has 'z' then ['\x00'] else ['\n']
    let presence : Presence := match i.last? "em" with
      | some 'e' => .whole
      | some _ => .nothing
      | none => .front
    let way := i.last? "sLP"
    let placed (o : Octets) : Except Fault Place :=
      let literal := literalPlace (State.path o) s
      if o.isEmpty then .error .notFound
      else if way = some 's' then (canonical presence o s).map fun _ => literal
      else if way = some 'L' then
        canonical presence (State.placeOctets literal ++ if o.getLast? = some '/' then ['/'] else []) s
      else canonical presence o s
    let directory (o : Octets) : Except Fault Place := do
      let place ← placed o
      if presence = .whole && !((s.disk.get? place).any Node.isDirectory) then throw .notADirectory
      return place
    let base := if i.operands.isEmpty then none else (i.value? 'β').map directory
    let start := if i.operands.isEmpty then none else (i.value? 'ρ').map directory
    match start, base with
    | some (.error fault), _ => i.complainOf ((i.value? 'ρ').getD []) fault s
    | _, some (.error fault) => i.complainOf ((i.value? 'β').getD []) fault s
    | start, base =>
      let base := base.bind Except.toOption
      let start := (start.bind Except.toOption).or base
      -- The base counts only if the way starts below it.
      let isBound := match base, start with
        | some b, some a => b.isPrefixOf a
        | _, _ => true
      let shown (place : Place) : Octets :=
        match start, base with
        | some a, some b => if isBound && b.isPrefixOf place then wayBetween a place else State.placeOctets place
        | some a, none => wayBetween a place
        | none, _ => State.placeOctets place
      i.each "operand" (fun o s =>
        match placed o with
        | .ok place => s.print (shown place ++ ending)
        | .error fault => if i.has 'q' then s.ended 1 else i.complainOf o fault s) s

end Utility

end Shell

end Tangle
