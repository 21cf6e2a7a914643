import Tangle.Shell.Pattern
import Tangle.Shell.Arithmetic
import Tangle.Shell.Quoting
import Tangle.Shell.Format
/-!
# Expanding words

A word becomes fields in three steps: its parts become pieces that remember
where their characters come from (`wordPieces`), what unquoted expansions
contributed is split at the separators (`split`), and patterns among the
results give way to the files that match (`fields`). Output of commands is
obtained by a function that is given.
-/

namespace Tangle

namespace Shell

/-- Where a character of a word comes from. -/
inductive Origin where
  /-- From the word itself. -/
  | literal
  /-- From a protected part. -/
  | quoted
  /-- From an unquoted expansion. -/
  | expanded
deriving Repr, DecidableEq

/-- A piece of an expanded word. -/
inductive Piece where
  /-- Characters. -/
  | chars (origin : Origin) (s : Octets)
  /-- There is a field, even if it has no characters. -/
  | anchor
  /-- There is no field after all, if it has no characters. -/
  | vanish
  /-- The end of a field; the next one is there in any case if it is
  quoted. -/
  | boundary (quoted : Bool)
deriving Repr, DecidableEq

/-- The run of commands whose output is wanted. -/
abbrev Capture := Command → State → Octets × State

/-- The characters of a piece. -/
def Piece.octets : Piece → Octets
  | .chars _ s => s
  | .boundary _ => [' ']
  | _ => []

/-- The characters of pieces, as one field. -/
def joinPieces (ps : List Piece) : Octets := ps.flatMap Piece.octets

/-- The characters of pieces, with those marked that have no meaning in a
pattern. -/
def markPieces (ps : List Piece) : List Marked :=
  ps.flatMap fun p =>
    match p with
    | .chars origin s => s.map fun c => (origin = .quoted, c)
    | p => p.octets.map fun c => (true, c)

/-- The piece as a part of an unquoted expansion. -/
def Piece.spread : Piece → Piece
  | .chars .literal s => .chars .expanded s
  | p => p

/-- The pieces of an expanded text. -/
def expandedText (quoted : Bool) (s : Octets) : List Piece :=
  [.chars (if quoted then .quoted else .expanded) s]

/-- Texts as fields of their own. -/
def severalPieces (quoted : Bool) : List Octets → List Piece
  | [] => if quoted then [.vanish] else []
  | [a] => expandedText quoted a
  | a :: rest => expandedText quoted a ++ .boundary quoted :: severalPieces quoted rest

/-! ## Parameters -/

/-- What a parameter stands for. -/
inductive Subject where
  /-- One value, if any. -/
  | one (value : Option Octets)
  /-- Values in order; `joined` tells that they make one field between
  quotes. -/
  | several (joined : Bool) (values : List Octets)
deriving Repr, DecidableEq

/-- The order in which the letters of options are shown in the wide
dialect. -/
def wideLetters : Octets := "abefhikmnprtuvxBCEHPT".toList

/-- The letters of the options that are set. -/
def State.optionLetters (s : State) : Octets :=
  let letters := (Switch.all s.dialect).filterMap fun (o, _, letter) => if s.has o then letter else none
  if s.isWide then
    wideLetters.filter letters.contains
      ++ (if (s.bindings.lookup "BASH_EXECUTION_STRING".toList).isSome then ['c'] else [])
      ++ (if s.has .stdin then ['s'] else [])
  else letters.reverse

/-- The value of a parameter with one value. -/
def State.single? (s : State) (name : Octets) : Option Octets :=
  match name with
  | ['#'] => some (toString s.args.length).toList
  | ['?'] => some (toString s.status).toList
  | ['$'] => some (toString s.interpreter).toList
  | ['-'] => some s.optionLetters
  | ['!'] => s.lastJob.map fun n => (toString n).toList
  | name =>
    match Octets.nat? name with
    | some (n + 1) => s.args[n]?
    | some 0 => some s.name
    | none => s.value? name

/-- What a parameter stands for. -/
def State.subject (s : State) (name : Octets) : Subject :=
  match name with
  | ['@'] => .several false s.args
  | ['*'] => .several true s.args
  | name => .one (s.single? name)

/-- The text that joins values into one field. -/
def State.joint (s : State) : Octets :=
  match s.value? "IFS".toList with
  | some ifs => ifs.take 1
  | none => [' ']

/-- How an expansion is used. -/
structure Usage where
  /-- The expansion is between quotes. -/
  quoted : Bool
  /-- The word is split into fields. -/
  splits : Bool

namespace Usage

/-- Values are kept apart. -/
def keepsApart (u : Usage) (joined : Bool) : Bool := u.splits && (!u.quoted || !joined)

end Usage

/-- The values as one text; values that are kept apart have a NUL between
them. -/
def State.joinValues (s : State) (u : Usage) (joined : Bool) (values : List Octets) : Octets :=
  List.intercalate (if u.keepsApart joined then ['\x00'] else s.joint) values

/-- A text as pieces; at NULs there are fields of their own. -/
def textPieces (u : Usage) (isList : Bool) (text : Octets) : List Piece :=
  if !isList || !text.contains '\x00' then expandedText u.quoted text
  else severalPieces u.quoted (Octets.splitOn '\x00' text)

/-- The pieces of several values. -/
def State.listPieces (s : State) (u : Usage) (joined : Bool) (values : List Octets) : List Piece :=
  if u.keepsApart joined then severalPieces u.quoted values
  else if s.isWide && !joined && !u.splits then expandedText u.quoted (List.intercalate [' '] values)
  else expandedText u.quoted (s.joinValues u joined values)

/-- The pieces of what a parameter stands for. -/
def State.subjectPieces (s : State) (u : Usage) : Subject → List Piece
  | .one value => expandedText u.quoted (value.getD [])
  | .several joined values => s.listPieces u joined values

/-- The number of characters of a text. In the wide dialect bytes that go
on with a character do not count. -/
def State.lengthOf (s : State) (text : Octets) : Nat :=
  if s.isWide then (text.filter fun c => !Pattern.isContinuation c).length else text.length

/-- A part of a list. Numbers below zero count from the end. -/
def sliceOf {α : Type} (values : List α) (start : Int) (count : Option Int) : Option (List α) :=
  let length : Int := values.length
  let first := if start < 0 then length + start else start
  if first < 0 || length < first then some []
  else
    match count with
    | none => some (values.drop first.toNat)
    | some n =>
      if n < 0 then
        let stop := length + n
        if stop < first then none else some ((values.drop first.toNat).take (stop - first).toNat)
      else some ((values.drop first.toNat).take n.toNat)

/-- The characters of a text in the wide dialect. -/
def charactersOf : Octets → List Octets
  | [] => []
  | c :: s =>
    match charactersOf s with
    | t :: ts =>
      if t.head?.any Pattern.isContinuation && !Pattern.isContinuation c then (c :: t) :: ts else [c] :: t :: ts
    | [] => [[c]]

/-- The value in the shape that a letter asks for. -/
def transformed (letter : Char) (s : Octets) : Octets :=
  match letter with
  | 'Q' => Quoting.reusable s
  | 'U' => s.map Char.toUpper
  | 'L' => s.map Char.toLower
  | 'u' => (s.take 1).map Char.toUpper ++ s.drop 1
  | 'E' => (Format.unescape .wideFormat (s.length + 1) s).1
  | _ => s

/-- The value with its letters in the other case, all of them or the first,
where a pattern matches them. -/
def recase (upper : Option Bool) (every : Bool) (m : Option Matcher) (s : Octets) : Octets :=
  let change (c : Char) : Char :=
    if m.all fun m => m.accepts [c] then (if upper.getD c.isLower then c.toUpper else c.toLower) else c
  if every then s.map change else (s.take 1).map change ++ s.drop 1

/-- The interpreter ends, since a parameter has no value. -/
def State.refuseUnset (name : Octets) (s : State) : State :=
  if s.isWide then
    let sign := if name.all Char.isDigit then "$" else ""
    { s.abort (sign ++ Octets.text name ++ ": unbound variable") with status := 127, jump := some .exit }
  else s.abort (Octets.text name ++ ": parameter not set")

/-- An expansion of a parameter under way. -/
structure Expansion where
  /-- How it is used. -/
  usage : Usage
  /-- The name of the parameter. -/
  name : Octets
  /-- What it stands for. -/
  subject : Subject
  /-- Gives the parameter a value. -/
  assign : Octets → State → State

namespace Expansion

/-- The value as one text, if there is one. -/
def text? (e : Expansion) (s : State) : Option Octets :=
  match e.subject with
  | .one value => value
  | .several joined values =>
    if s.isWide && values.isEmpty then none else some (s.joinValues e.usage joined values)

/-- There is a value, and with `orEmpty` it is not empty. -/
def isPresent (e : Expansion) (orEmpty : Bool) (s : State) : Bool :=
  (e.text? s).any fun v => !orEmpty || !v.isEmpty

/-- Goes on with `k`, unless there is no value and that is refused. -/
def refusing (e : Expansion) (k : State → List Piece × State) (s : State) : List Piece × State :=
  match e.subject with
  | .one none => if s.has .nounset then ([], s.refuseUnset e.name) else k s
  | _ => k s

/-- What a function makes of the value, or of each of the values. -/
def map (e : Expansion) (f : Octets → Octets) (s : State) : List Piece × State :=
  match e.subject with
  | .several joined values =>
    if s.isWide then (s.listPieces e.usage joined (values.map f), s)
    else (textPieces e.usage true (f ((e.text? s).getD [])), s)
  | .one none => (expandedText e.usage.quoted (if s.isWide then [] else f []), s)
  | .one (some value) => (expandedText e.usage.quoted (f value), s)

/-- The value itself. -/
def plain (e : Expansion) (s : State) : List Piece × State := (s.subjectPieces e.usage e.subject, s)

/-- The pieces of a word that stands for the value. -/
def spread (e : Expansion) (ps : List Piece) : List Piece :=
  if e.usage.quoted then ps else ps.map Piece.spread

/-- The number of characters, or of values. -/
def length (e : Expansion) (s : State) : List Piece × State :=
  let n := match e.subject with
    | .several _ values => if s.isWide then values.length else ((e.text? s).getD []).length
    | .one value => s.lengthOf (value.getD [])
  (expandedText e.usage.quoted (toString n).toList, s)

/-- The value becomes that of the parameter. -/
def assigned (e : Expansion) (ps : List Piece) (s : State) : List Piece × State :=
  if s.jump.isSome then ([], s)
  else if !Script.isName e.name then
    ([], s.abort (if s.isWide then "$" ++ Octets.text e.name ++ ": cannot assign in this way"
      else Octets.text e.name ++ ": bad variable name"))
  else (expandedText e.usage.quoted (joinPieces ps), e.assign (joinPieces ps) s)

/-- The interpreter ends, since there is no value; `reason` is the text of
a word that was given, if one was. -/
def required (e : Expansion) (orEmpty : Bool) (reason : Option Octets) (s : State) : State :=
  if s.jump.isSome then s
  else
    let unset := if s.isWide then (if orEmpty then "parameter null or not set" else "parameter not set")
      else if orEmpty then "parameter not set or null" else "parameter not set"
    let s' := s.abort (Octets.text e.name ++ ": " ++ (reason.map Octets.text).getD unset)
    if s.isWide then { s' with status := 127, jump := some .exit } else s'

/-- A part of the value, or of the values. -/
def slice (e : Expansion) (first : Int) (count : Option Int) (s : State) : List Piece × State :=
  match e.subject with
  | .several joined values =>
    let values := if e.name = ['@'] || e.name = ['*'] then s.name :: values else values
    (s.listPieces e.usage joined ((sliceOf values first count).getD []), s)
  | .one none => (expandedText e.usage.quoted [], s)
  | .one (some value) =>
    match sliceOf (charactersOf value) first count with
    | some cs => (expandedText e.usage.quoted cs.flatten, s)
    | none => ([], s.abort (toString (count.getD 0) ++ ": substring expression < 0"))

/-- The value of the parameter that the value names. -/
def indirect (e : Expansion) (s : State) : List Piece × State :=
  match e.subject with
  | .one (some target) =>
    let array := target.takeWhile (· ≠ '[')
    let index := (target.drop (array.length + 1)).dropLast
    let subject := if !target.contains '[' then s.subject target
      else if index = ['@'] then .several false ((s.elements array).map Prod.snd)
      else .one ((s.elements array).lookup index)
    (s.subjectPieces e.usage subject, s)
  | _ => ([], s)

/-- The names of the variables that start with the name of the parameter. -/
def names (e : Expansion) (s : State) : List Piece × State :=
  let found := (s.bindings.map Prod.fst).filter fun n => e.name.isPrefixOf n
  (s.listPieces e.usage false (found.mergeSort fun a b => !decide (b < a)), s)

/-- The interpreter ends, since the expansion has no meaning. -/
def refused (braces : Octets) (s : State) : List Piece × State :=
  ([], s.abort (if s.isWide then "$\x7b" ++ Octets.text braces ++ "\x7d: bad substitution" else "Bad substitution"))

end Expansion

/-! ## Words -/

/-- The home of a user. -/
def homeOf? (s : State) (user : Octets) : Option Octets :=
  if user.isEmpty then s.value? "HOME".toList
  else if user = "root".toList then some "/root".toList
  else if user = ['+'] && s.isWide then s.value? "PWD".toList
  else none

/-- Where home directories are written out in a word. -/
inductive Homes where
  /-- Nowhere. -/
  | nowhere
  /-- At the front. -/
  | front
  /-- At the front and after colons. -/
  | assigned
  /-- After colons. -/
  | colons
deriving Repr, DecidableEq

/-- Where home directories are written out after the first part. -/
def Homes.rest : Homes → Homes
  | .assigned => .colons
  | .colons => .colons
  | _ => .nowhere

/-- The home that a text starts with, and what follows. `isLast` tells that
the word ends with the text. -/
def homeAtFront? (s : State) (assigned isLast : Bool) : Octets → Option (Octets × Octets)
  | '~' :: t =>
    let isEnd (c : Char) : Bool := c = '/' || (assigned && c = ':')
    let user := t.takeWhile fun c => !isEnd c
    let after := t.dropWhile fun c => !isEnd c
    if after.isEmpty && !isLast then none else (homeOf? s user).map (·, after)
  | _ => none

/-- An unquoted text with home directories written out. -/
def homePieces (s : State) (homes : Homes) (isLast : Bool) (text : Octets) : List Piece :=
  match homes with
  | .nowhere => [.chars .literal text]
  | .front =>
    match homeAtFront? s false isLast text with
    | some (home, rest) => [.chars .quoted home, .chars .literal rest]
    | none => [.chars .literal text]
  | .assigned => afterColons true (text.length + 1) text
  | .colons => afterColons false (text.length + 1) text
where
  /-- A text with homes written out after colons, and at its front if one
  may stand there. -/
  afterColons (front : Bool) : Nat → Octets → List Piece
    | 0, t => [.chars .literal t]
    | fuel + 1, t =>
      let (home, t) : List Piece × Octets := match if front then homeAtFront? s true isLast t else none with
        | some (home, rest) => ([.chars .quoted home], rest)
        | none => ([], t)
      match t.dropWhile (· ≠ ':') with
      | ':' :: more => home ++ .chars .literal (t.takeWhile (· ≠ ':') ++ [':']) :: afterColons true fuel more
      | _ => home ++ [.chars .literal t]

/-- The text of an index as it is, if nothing in it is expanded. -/
def plainIndex : List Part → Option Octets
  | [.text _ t] => some t
  | _ => none

mutual

/-- The pieces of a part of a word. -/
def partPieces (capture : Capture) (splits : Bool) : Part → State → List Piece × State
  | .text true [], s => ([.anchor], s)
  | .text quoted text, s => ([.chars (if quoted then .quoted else .literal) text], s)
  | .parameter quoted name index form, s =>
    let u : Usage := ⟨quoted, splits⟩
    let (subject, place, s) : Subject × Option Index × State := match index with
      | none => (s.subject name, none, s)
      | some w =>
        match plainIndex w with
        | some ['@'] => (.several false ((s.elements name).map Prod.snd), none, s)
        | some ['*'] => (.several true ((s.elements name).map Prod.snd), none, s)
        | _ =>
          let (ps, s) := wordPieces capture false .nowhere w s
          let text := joinPieces ps
          if s.isKeyed name then (.one (s.element? name (.key text)), some (.key text), s)
          else
            match s.calculate text with
            | (.ok n, s) =>
              let s := if (s.position? name n).isNone then s.complainHere (Octets.text name ++ ": bad array subscript") else s
              (.one (s.element? name (.number n)), some (.number n), s)
            | (.error (), s) => (.one none, none, s)
    let assign (text : Octets) (s : State) : State :=
      match place with
      | none => s.setVariable name text
      | some i => s.setElement name i [] text
    let e : Expansion := ⟨u, name, subject, assign⟩
    if s.jump.isSome then ([], s)
    else
      match form with
      | .plain => e.refusing e.plain s
      | .length => e.refusing e.length s
      | .fallback orEmpty w =>
        if e.isPresent orEmpty s then e.plain s
        else (wordPieces capture splits .front w s).map e.spread id
      | .assign orEmpty w =>
        if e.isPresent orEmpty s then e.plain s
        else
          let (ps, s) := wordPieces capture false .front w s
          e.assigned ps s
      | .alternative orEmpty w =>
        if e.isPresent orEmpty s then (wordPieces capture splits .front w s).map e.spread id
        else ([], s)
      | .require orEmpty w =>
        if e.isPresent orEmpty s then e.plain s
        else
          let (ps, s) := wordPieces capture false .front w s
          ([], e.required orEmpty (if w.isEmpty then none else some (joinPieces ps)) s)
      | .cutFront longest w =>
        e.refusing (fun s =>
          let (ps, s) := wordPieces capture false .front w s
          e.map ((Matcher.ofMarked s.patternStyle (markPieces ps)).cutFront longest) s) s
      | .cutBack longest w =>
        e.refusing (fun s =>
          let (ps, s) := wordPieces capture false .front w s
          e.map ((Matcher.ofMarked s.patternStyle (markPieces ps)).cutBack longest) s) s
      | .recase upper every w =>
        let (ps, s) := wordPieces capture false .nowhere w s
        let m := if w.isEmpty then none else some (Matcher.ofMarked s.patternStyle (markPieces ps))
        e.refusing (e.map (recase upper every m)) s
      | .replace anchor pattern replacement =>
        let (ps, s) := wordPieces capture false .nowhere pattern s
        let (text, s) := wordPieces capture false .nowhere replacement s
        e.refusing (e.map ((Matcher.ofMarked s.patternStyle (markPieces ps)).replace anchor (joinPieces text))) s
      | .slice start count =>
        let (ps, s) := wordPieces capture false .nowhere start s
        match s.calculate (joinPieces ps), count with
        | (.error (), s), _ => ([], s)
        | (.ok first, s), none => e.refusing (e.slice first none) s
        | (.ok first, s), some w =>
          let (ps, s) := wordPieces capture false .nowhere w s
          match s.calculate (joinPieces ps) with
          | (.error (), s) => ([], s)
          | (.ok n, s) => e.refusing (e.slice first (some n)) s
      | .transform letter => e.refusing (e.map (transformed letter)) s
      | .indirect => e.indirect s
      | .names => e.names s
      | .keys => (s.listPieces u false ((s.elements name).map Prod.fst), s)
      | .invalid braces => Expansion.refused braces s
  | .command quoted body, s =>
    let (output, s) := capture body s
    let output := (output.reverse.dropWhile (· = '\n')).reverse
    (expandedText quoted (output.filter (· ≠ '\x00')), s)
  | .arithmetic quoted expression, s =>
    let (ps, s) := wordPieces capture false .nowhere expression s
    if s.jump.isSome then ([], s)
    else
      match s.calculate (joinPieces ps) with
      | (.ok n, s) => (expandedText quoted (toString n).toList, s)
      | (.error (), s) => ([], s)
  | .outputFile body, s =>
    let (output, s) := capture body s
    let descriptor := 63 - (s.descriptors.filter fun e => 50 < e.1).length
    let s := s.attach descriptor (Stream.ofText output)
    (expandedText true ("/dev/fd/" ++ toString descriptor).toList, s)

/-- The pieces of a word. A jump ends the expansion. -/
def wordPieces (capture : Capture) (splits : Bool) : Homes → List Part → State → List Piece × State
  | _, [], s => ([], s)
  | homes, p :: rest, s =>
    let (first, s) := match p with
      | .text false t => (homePieces s homes rest.isEmpty t, s)
      | p => partPieces capture splits p s
    if s.jump.isSome then (first, s)
    else
      let (others, s) := wordPieces capture splits homes.rest rest s
      (first ++ others, s)

end

/-! ## Fields -/

/-- The progress of splitting. -/
structure Splitting where
  /-- The fields so far, the last one first. -/
  done : List (List Marked)
  /-- The characters of the field that has begun, the last one first. -/
  current : List Marked
  /-- A field has begun. -/
  begun : Bool
  /-- Blanks ended the last field, so that one separator may still follow. -/
  soft : Bool

namespace Splitting

/-- Ends the field that has begun, if any. -/
def finish (p : Splitting) : Splitting :=
  if p.begun then { p with done := p.current.reverse :: p.done, current := [], begun := false } else p

/-- Adds a character to the field. -/
def push (quoted : Bool) (c : Char) (p : Splitting) : Splitting :=
  { p with current := (quoted, c) :: p.current, begun := true, soft := false }

/-- Takes a character of an unquoted expansion. -/
def takeExpanded (separators : Octets) (p : Splitting) (c : Char) : Splitting :=
  if !separators.contains c then p.push false c
  else if c = ' ' || c = '\t' || c = '\n' then
    if p.begun then { p.finish with soft := true } else p
  else if p.begun then p.finish
  else if p.soft then { p with soft := false }
  else { p with done := [] :: p.done }

/-- Takes a piece. -/
def take (separators : Octets) (p : Splitting) : Piece → Splitting
  | .chars .literal s => s.foldl (fun p c => p.push false c) p
  | .chars .quoted s => s.foldl (fun p c => p.push true c) { p with begun := true }
  | .chars .expanded s => s.foldl (takeExpanded separators) p
  | .anchor => { p with begun := true }
  | .vanish => if p.current.isEmpty then { p with begun := false } else p
  | .boundary quoted => { p.finish with begun := quoted }

end Splitting

/-- The fields of pieces. -/
def split (separators : Octets) (ps : List Piece) : List (List Marked) :=
  (ps.foldl (Splitting.take separators) ⟨[], [], false, false⟩).finish.done.reverse

/-! ## Braces -/

/-- A character of a word outside quotes, or a part as it is. -/
inductive Atom where
  /-- A character. -/
  | char (c : Char)
  /-- A part. -/
  | part (p : Part)

/-- The atoms of a word. -/
def atomsOf (w : Word) : List Atom :=
  w.flatMap fun p =>
    match p with
    | .text false s => s.map .char
    | p => [.part p]

/-- The word that atoms make. -/
def wordOfAtoms (atoms : List Atom) : Word :=
  atoms.foldr (fun a w =>
    match a with
    | .char c => Word.cons (.text false [c]) w
    | .part p => Word.cons p w) []

/-- The alternatives between braces, after the opening one, and what
follows the closing one. -/
def alternatives : Nat → Nat → List Atom → List (List Atom) → List Atom → Option (List (List Atom) × List Atom)
  | 0, _, _, _, _ => none
  | _ + 1, _, _, _, [] => none
  | fuel + 1, depth, current, done, a :: rest =>
    match a with
    | .char '\x7b' => alternatives fuel (depth + 1) (a :: current) done rest
    | .char '\x7d' =>
      match depth with
      | 0 => some ((current.reverse :: done).reverse, rest)
      | depth + 1 => alternatives fuel depth (a :: current) done rest
    | .char ',' =>
      if depth = 0 then alternatives fuel 0 [] (current.reverse :: done) rest
      else alternatives fuel depth (a :: current) done rest
    | a => alternatives fuel depth (a :: current) done rest

/-- The characters of atoms that are all characters. -/
def charsOfAtoms : List Atom → Option Octets
  | [] => some []
  | .char c :: rest => (charsOfAtoms rest).map (c :: ·)
  | .part _ :: _ => none

/-- The texts between pairs of dots. -/
def dotted : Octets → List Octets
  | [] => [[]]
  | '.' :: '.' :: s => [] :: dotted s
  | c :: s =>
    match dotted s with
    | [] => [[c]]
    | t :: ts => (c :: t) :: ts

/-- The terms of a sequence such as `1..9` or `a..e`. -/
def sequenceTerms (s : Octets) : Option (List Octets) :=
  let terms (first last : Int) (step : Option Octets) (write : Int → Octets) : Option (List Octets) :=
    let step := match step with
      | none => some 1
      | some t => (Octets.int? t).map Int.natAbs
    step.map fun n =>
      let n := max n 1
      let count := (last - first).natAbs / n + 1
      (List.range count).map fun (i : Nat) => write (if first ≤ last then first + n * i else first - n * i)
  match dotted s with
  | a :: b :: more =>
    if 1 < more.length then none
    else
      match Octets.int? a, Octets.int? b with
      | some x, some y =>
        let isPadded (t : Octets) : Bool := 1 < (t.dropWhile (· = '-')).length && (t.dropWhile (· = '-')).head? = some '0'
        let width := if isPadded a || isPadded b then max a.length b.length else 0
        terms x y more.head? fun n =>
          let ds := (toString n.natAbs).toList
          let sign : Octets := if n < 0 then ['-'] else []
          sign ++ List.replicate (width - ds.length - sign.length) '0' ++ ds
      | _, _ =>
        match a, b with
        | [x], [y] =>
          if x.isAlpha && y.isAlpha then
            terms x.toNat y.toNat more.head? fun n => [Char.ofNat n.toNat]
          else none
        | _, _ => none
  | _ => none

/-- The words that atoms with braces stand for. -/
def expandBraces : Nat → List Atom → List (List Atom)
  | 0, atoms => [atoms]
  | _ + 1, [] => [[]]
  | fuel + 1, .char '\x7b' :: rest =>
    let asIs := (expandBraces fuel rest).map (Atom.char '\x7b' :: ·)
    match alternatives (rest.length + 1) 0 [] [] rest with
    | none => asIs
    | some ([only], after) =>
      match (charsOfAtoms only).bind sequenceTerms with
      | some terms =>
        let tails := expandBraces fuel after
        terms.flatMap fun t => tails.map (t.map Atom.char ++ ·)
      | none => asIs
    | some (choices, after) =>
      let tails := expandBraces fuel after
      (choices.flatMap (expandBraces fuel)).flatMap fun front => tails.map (front ++ ·)
  | fuel + 1, a :: rest => (expandBraces fuel rest).map (a :: ·)

/-- The words that a word with braces stands for. -/
def bracedWords (s : State) (w : Word) : List Word :=
  if !s.isWide then [w]
  else
    let hasBrace := w.any fun p =>
      match p with
      | .text false t => t.contains '\x7b'
      | _ => false
    if !hasBrace then [w] else (expandBraces ((atomsOf w).length * 4 + 16) (atomsOf w)).map wordOfAtoms

/-! ## Results -/

/-- The fields of a word. -/
def fields (capture : Capture) (w : Word) (s : State) : List Octets × State :=
  let (ps, s) := wordPieces capture true .front w s
  if s.jump.isSome then ([], s)
  else
    match (split s.separators ps).mapM (expandPaths s) with
    | .ok fields => (fields.flatten, s)
    | .error pattern => ([], s.abort ("no match: " ++ Octets.text pattern))

/-- The fields of words. A jump ends the expansion. -/
def allFields (capture : Capture) : List Word → State → List Octets × State
  | [], s => ([], s)
  | w :: ws, s =>
    let (first, s) := (bracedWords s w).foldl (fun (acc, s) w =>
      if s.jump.isSome then (acc, s)
      else
        let (fs, s) := fields capture w s
        (acc ++ fs, s)) (([] : List Octets), s)
    if s.jump.isSome then (first, s)
    else
      let (others, s) := allFields capture ws s
      (first ++ others, s)

/-- The text of a word that stays one field. -/
def expandText (capture : Capture) (w : Word) (s : State) : Octets × State :=
  let (ps, s) := wordPieces capture false .front w s
  (joinPieces ps, s)

/-- The text of a text in the script, where home directories are not
written out. -/
def expandHere (capture : Capture) (w : Word) (s : State) : Octets × State :=
  let (ps, s) := wordPieces capture false .nowhere w s
  (joinPieces ps, s)

/-- The text of a word that is assigned. -/
def expandAssigned (capture : Capture) (w : Word) (s : State) : Octets × State :=
  let (ps, s) := wordPieces capture false .assigned w s
  (joinPieces ps, s)

/-- The pattern that a word is. -/
def expandPattern (capture : Capture) (w : Word) (s : State) : List Marked × State :=
  let (ps, s) := wordPieces capture false .front w s
  (markPieces ps, s)

end Shell

end Tangle
