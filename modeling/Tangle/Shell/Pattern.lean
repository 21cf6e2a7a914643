import Tangle.Shell.State
/-!
# Patterns in commands

Patterns select among the names of files, the arms of a selection and the
parts of a value. A quoted character always stands for itself, and so does
one after a backslash. A name that starts with a dot is only matched by a
pattern that does so too.
-/

namespace Tangle

namespace Shell

/-- A character, and whether it is quoted. -/
abbrev Marked := Bool × Char

/-- The marked characters without their marks. -/
def unmark (s : List Marked) : Octets := s.map Prod.snd

namespace Pattern

/-- A member of a class. -/
inductive Member where
  /-- The characters from one to another. -/
  | range (a b : Char)
  /-- The characters of a kind. -/
  | kind (name : String)
deriving Repr, DecidableEq

/-- How often the alternatives of a group have to match. -/
inductive Repetition where
  /-- Once. -/
  | once
  /-- Once or not at all. -/
  | optional
  /-- Any number of times. -/
  | several
  /-- At least once. -/
  | some
  /-- Anything else has to stand there. -/
  | none
deriving Repr, DecidableEq

/-- The repetition that a character in front of a group asks for. -/
def Repetition.ofChar? (c : Char) : Option Repetition :=
  match c with
  | '@' => Option.some once
  | '?' => Option.some optional
  | '*' => Option.some several
  | '+' => Option.some Repetition.some
  | '!' => Option.some Repetition.none
  | _ => Option.none

/-- An item of a pattern. -/
inductive Item where
  /-- This character. -/
  | char (c : Char)
  /-- Any one character. -/
  | any
  /-- Any run of characters. -/
  | star
  /-- One character of a class, or one outside it. -/
  | oneOf (negated : Bool) (members : List Member)
  /-- A group of alternatives. -/
  | group (repetition : Repetition) (choices : List (List Item))

/-- How patterns are read and matched. -/
structure Style where
  /-- Characters may have several bytes, and a circumflex negates a class. -/
  wide : Bool
  /-- There are groups of alternatives. -/
  grouped : Bool
  /-- The case of letters does not count. -/
  folds : Bool
deriving Repr, DecidableEq

/-- The character is of a kind, if the name is one. -/
def ofKind? (name : String) : Option (Char → Bool) :=
  match name with
  | "alnum" => some Char.isAlphanum
  | "alpha" => some Char.isAlpha
  | "blank" => some fun c => c = ' ' || c = '\t'
  | "cntrl" => some fun c => c.toNat < 32 || c.toNat = 127
  | "digit" => some Char.isDigit
  | "graph" => some fun c => 32 < c.toNat && c.toNat < 127
  | "lower" => some Char.isLower
  | "print" => some fun c => 32 ≤ c.toNat && c.toNat < 127
  | "punct" => some fun c => 32 < c.toNat && c.toNat < 127 && !c.isAlphanum
  | "space" => some fun c => c = ' ' || ('\t' ≤ c && c ≤ '\r')
  | "upper" => some Char.isUpper
  | "xdigit" => some fun c => c.isDigit || ('a' ≤ c.toLower && c.toLower ≤ 'f')
  | _ => none

/-- The member matches a character. -/
def Member.admits (c : Char) : Member → Bool
  | .range a b => a ≤ c && c ≤ b
  | .kind name => (ofKind? name).any fun p => p c

/-- A character between brackets, after its backslash if any. -/
def bracketChar : List Marked → Option (Char × List Marked)
  | (false, '\\') :: (_, c) :: s => some (c, s)
  | (_, c) :: s => some (c, s)
  | [] => none

/-- The members of a class up to its closing bracket, and what follows. A
bracket right at the front is a member. -/
def members? : Nat → Bool → List Marked → Option (List Member × List Marked)
  | 0, _, _ => none
  | _ + 1, _, [] => none
  | fuel + 1, atFront, (false, ']') :: s =>
    if atFront then range fuel ']' s else some ([], s)
  | fuel + 1, atFront, (false, '[') :: (false, ':') :: s =>
    let name := String.ofList ((s.takeWhile fun m => m ≠ (false, ':')).map Prod.snd)
    match s.dropWhile fun m => m ≠ (false, ':'), ofKind? name with
    | _ :: (false, ']') :: rest, some _ =>
      (members? fuel false rest).map fun (ms, rest) => (.kind name :: ms, rest)
    | _, _ => if atFront then range fuel '[' ((false, ':') :: s) else range fuel '[' ((false, ':') :: s)
  | fuel + 1, _, s =>
    match bracketChar s with
    | some (c, rest) => range fuel c rest
    | none => none
where
  /-- The members from the character `a` on. -/
  range (fuel : Nat) (a : Char) (s : List Marked) : Option (List Member × List Marked) :=
    match s with
    | (false, '-') :: (false, ']') :: _ =>
      (members? fuel false s).map fun (ms, rest) => (.range a a :: ms, rest)
    | (false, '-') :: t =>
      match bracketChar t with
      | some (b, rest) => (members? fuel false rest).map fun (ms, rest) => (.range a b :: ms, rest)
      | none => none
    | s => (members? fuel false s).map fun (ms, rest) => (.range a a :: ms, rest)

/-- The alternatives of a group up to its closing parenthesis, and what
follows. -/
def alternatives? : Nat → Nat → List Marked → List Marked → Option (List (List Marked) × List Marked)
  | 0, _, _, _ => none
  | _ + 1, _, _, [] => none
  | fuel + 1, depth, current, m :: s =>
    if m = (false, ')') && depth = 0 then some ([current.reverse], s)
    else if m = (false, '|') && depth = 0 then
      (alternatives? fuel 0 [] s).map fun (others, rest) => (current.reverse :: others, rest)
    else
      let depth := if m = (false, '(') then depth + 1 else if m = (false, ')') then depth - 1 else depth
      alternatives? fuel depth (m :: current) s

/-- The items of a pattern. -/
def items (style : Style) : Nat → List Marked → List Item
  | 0, _ => []
  | _ + 1, [] => []
  | fuel + 1, (false, c) :: (false, '(') :: s =>
    match if style.grouped then Repetition.ofChar? c else none, alternatives? (s.length + 1) 0 [] s with
    | some r, some (choices, rest) => .group r (choices.map (items style fuel)) :: items style fuel rest
    | _, _ => single fuel c ((false, '(') :: s)
  | fuel + 1, (true, c) :: s => .char c :: items style fuel s
  | fuel + 1, (false, c) :: s => single fuel c s
where
  /-- The items from the unquoted character `c` on. -/
  single (fuel : Nat) (c : Char) (s : List Marked) : List Item :=
    match c, s with
    | '*', s => .star :: items style fuel s
    | '?', s => .any :: items style fuel s
    | '\\', (_, d) :: s => .char d :: items style fuel s
    | '[', s =>
      let (negated, body) := match s with
        | (false, '!') :: body => (true, body)
        | (false, '^') :: body => if style.wide then (true, body) else (false, s)
        | body => (false, body)
      match members? (body.length + 1) true body with
      | some (ms, rest) => .oneOf negated ms :: items style fuel rest
      | none => .char '[' :: items style fuel s
    | c, s => .char c :: items style fuel s

/-- Some end of a text is accepted. -/
def someEnd (accepts : Octets → Bool) : Octets → Bool
  | [] => accepts []
  | c :: s => accepts (c :: s) || someEnd accepts s

/-- The bytes that go on with a character. -/
def isContinuation (c : Char) : Bool := 0x80 ≤ c.toNat && c.toNat < 0xC0

/-- The ways of cutting a text in two, the shortest front first. -/
def cuts : Octets → List (Octets × Octets)
  | [] => [([], [])]
  | c :: s => ([], c :: s) :: (cuts s).map fun (front, back) => (c :: front, back)

/-- Two characters count as the same. -/
def Style.same (style : Style) (a b : Char) : Bool := a = b || (style.folds && a.toLower = b.toLower)

/-- The members match a character. -/
def Style.admits (style : Style) (ms : List Member) (c : Char) : Bool :=
  ms.any (Member.admits c)
    || (style.folds && (ms.any (Member.admits c.toLower) || ms.any (Member.admits c.toUpper)))

/-- The items match the whole of a text. In the wide dialect any one
character may have several bytes. -/
def matchItems (style : Style) : Nat → List Item → Octets → Bool
  | 0, _, _ => false
  | _ + 1, [], s => s.isEmpty
  | fuel + 1, .star :: is, s => someEnd (matchItems style fuel is) s
  | fuel + 1, .group r choices :: is, s =>
    let isChoice (t : Octets) : Bool := choices.any fun c => matchItems style fuel c t
    let again : List Item := .group .several choices :: is
    match r with
    | .once => (cuts s).any fun (a, b) => isChoice a && matchItems style fuel is b
    | .optional => matchItems style fuel is s || (cuts s).any fun (a, b) => isChoice a && matchItems style fuel is b
    | .several =>
      matchItems style fuel is s
        || (cuts s).any fun (a, b) => !a.isEmpty && isChoice a && matchItems style fuel again b
    | .some => (cuts s).any fun (a, b) => isChoice a && matchItems style fuel again b
    | .none => (cuts s).any fun (a, b) => !isChoice a && matchItems style fuel is b
  | _ + 1, _ :: _, [] => false
  | fuel + 1, .char d :: is, c :: s => style.same c d && matchItems style fuel is s
  | fuel + 1, .any :: is, c :: s =>
    matchItems style fuel is (if style.wide && 0xC0 ≤ c.toNat then s.dropWhile isContinuation else s)
  | fuel + 1, .oneOf negated ms :: is, c :: s => (style.admits ms c != negated) && matchItems style fuel is s

mutual

/-- The number of items in an item. -/
def Item.count : Item → Nat
  | .group _ choices => 2 + countChoices choices
  | _ => 1

/-- The number of items. -/
def countItems : List Item → Nat
  | [] => 0
  | i :: is => i.count + countItems is

/-- The number of items in alternatives. -/
def countChoices : List (List Item) → Nat
  | [] => 0
  | c :: cs => countItems c + countChoices cs

end

end Pattern

/-- An unquoted character with a meaning in patterns is among them. -/
def isWild (s : List Marked) : Bool :=
  s.any fun (quoted, c) => !quoted && (c = '*' || c = '?' || c = '[')

/-- How patterns are read and matched apart from those for files. -/
def State.patternStyle (s : State) : Pattern.Style := ⟨s.isWide, s.hasFeature .extglob, s.hasFeature .nocasematch⟩

/-- How patterns for files are read and matched. -/
def State.pathStyle (s : State) : Pattern.Style := ⟨s.isWide, s.hasFeature .extglob, s.hasFeature .nocaseglob⟩

/-- A pattern that is ready to be matched. -/
structure Matcher where
  /-- How it is matched. -/
  style : Pattern.Style
  /-- The items. -/
  items : List Pattern.Item

namespace Matcher

/-- The pattern that marked characters write. -/
def ofMarked (style : Pattern.Style) (pattern : List Marked) : Matcher :=
  ⟨style, Pattern.items style (pattern.length + 1) pattern⟩

/-- The pattern matches the whole of a text. -/
def accepts (m : Matcher) (s : Octets) : Bool :=
  Pattern.matchItems m.style (Pattern.countItems m.items + 2 * s.length + 1) m.items s

/-- The lengths at which the pattern matches the front of a text, the
shortest first. -/
def frontLengths (m : Matcher) (s : Octets) : List Nat :=
  (List.range (s.length + 1)).filter fun n => m.accepts (s.take n)

/-- The value without what the pattern matches at its front, the shortest
or the longest such part; the value itself if there is none. -/
def cutFront (m : Matcher) (longest : Bool) (value : Octets) : Octets :=
  let lengths := List.range (value.length + 1)
  match (if longest then lengths.reverse else lengths).find? fun n => m.accepts (value.take n) with
  | some n => value.drop n
  | none => value

/-- The value without what the pattern matches at its end. -/
def cutBack (m : Matcher) (longest : Bool) (value : Octets) : Octets :=
  let lengths := List.range (value.length + 1)
  match (if longest then lengths else lengths.reverse).find? fun n => m.accepts (value.drop n) with
  | some n => value.take n
  | none => value

/-- The value with what the pattern matches replaced; each match is the
longest at its place. -/
def replace (m : Matcher) (anchor : Anchor) (replacement value : Octets) : Octets :=
  match anchor with
  | .front =>
    match (List.range (value.length + 1)).reverse.find? fun n => m.accepts (value.take n) with
    | some n => replacement ++ value.drop n
    | none => value
  | .back =>
    match (List.range (value.length + 1)).find? fun n => m.accepts (value.drop n) with
    | some n => value.take n ++ replacement
    | none => value
  | .first => go false (value.length + 1) value
  | .every => go true (value.length + 1) value
where
  /-- Replaces matches from the front on. -/
  go (every : Bool) : Nat → Octets → Octets
    | 0, s => s
    | _ + 1, [] => []
    | fuel + 1, c :: s =>
      match (List.range ((c :: s).length + 1)).reverse.find? fun n =>
          n ≠ 0 && m.accepts ((c :: s).take n) with
      | some n =>
        let rest := (c :: s).drop n
        replacement ++ if every then go every fuel rest else rest
      | none => c :: go every fuel s

end Matcher

/-- The segments of marked characters between slashes. -/
def markedSegments : List Marked → List (List Marked)
  | [] => [[]]
  | m :: s =>
    if m.2 = '/' then [] :: markedSegments s
    else
      match markedSegments s with
      | [] => [[m]]
      | t :: ts => (m :: t) :: ts

/-- The text that a segment without wildcards stands for. -/
def plainSegment : List Marked → Octets
  | (false, '\\') :: (_, c) :: s => c :: plainSegment s
  | (_, c) :: s => c :: plainSegment s
  | [] => []

/-- The names in a directory in the state. -/
def entryNames (s : State) (directory : Octets) : List Octets :=
  match s.lookup (State.path (if directory.isEmpty then ['.'] else directory)) with
  | .ok (.directory es _) => es.map fun (name, _) => Octets.ofString name
  | _ => []

/-- The names in a directory that a segment matches. -/
def matchingNames (s : State) (directory : Octets) (segment : List Marked) : List Octets :=
  let entries := (if s.isWide then [] else [['.'], ['.', '.']]) ++ entryNames s directory
  let m := Matcher.ofMarked s.pathStyle segment
  entries.filter fun name =>
    (name.head? ≠ some '.' || segment.head?.map Prod.snd = some '.' || s.hasFeature .dotglob) && m.accepts name

/-- The depth to which directories are searched. -/
def treeDepth : Nat := 100

/-- The paths of what is below a directory at any depth, each directory
before what is in it. -/
def pathsBelow (s : State) : Nat → Octets → List Octets
  | 0, _ => []
  | depth + 1, front =>
    ((entryNames s front).filter fun n => n.head? ≠ some '.').flatMap fun name =>
      let p := front ++ name
      p :: match s.lookupEntry (State.path p) with
        | .ok (.directory _ _) => pathsBelow s depth (p ++ ['/'])
        | _ => []

/-- There is a group of alternatives. -/
def hasGroup : List Marked → Bool
  | (false, c) :: (false, '(') :: s => (Pattern.Repetition.ofChar? c).isSome || hasGroup ((false, '(') :: s)
  | _ :: s => hasGroup s
  | [] => false

/-- Marked characters may be a pattern for files. -/
def mayMatch (s : State) (field : List Marked) : Bool := isWild field || (s.hasFeature .extglob && hasGroup field)

/-- The paths that segments lead to after `front`, which is spelled so far. -/
def pathsFrom (s : State) : List (List Marked) → Octets → List Octets
  | [], front => [front]
  | segment :: rest, front =>
    if s.hasFeature .globstar && segment = [(false, '*'), (false, '*')] then
      let below := pathsBelow s treeDepth front
      if rest.isEmpty then (if front.isEmpty then below else front :: below)
      else
        let directories := below.filter fun p => (s.lookup (State.path p)).toOption.any Node.isDirectory
        (front :: directories.map (· ++ ['/'])).flatMap (pathsFrom s rest)
    else
      let found :=
        if mayMatch s segment then (matchingNames s front segment).map (front ++ ·)
        else [front ++ plainSegment segment]
      let there := found.filter fun p =>
        p.isEmpty || (s.lookup (State.path p)).toOption.isSome
          || (rest.isEmpty && (s.lookupEntry (State.path p)).toOption.isSome)
      there.flatMap fun p => pathsFrom s rest (if rest.isEmpty then p else p ++ ['/'])

/-- The paths that a field matches. -/
def matchingPaths (s : State) (field : List Marked) : List Octets :=
  (pathsFrom s (markedSegments field) []).mergeSort fun a b => !decide (b < a)

/-- The paths that a field matches, or its own text if there is none;
nothing if that is a fault. -/
def expandPaths (s : State) (field : List Marked) : Except Octets (List Octets) :=
  if s.has .noglob || !mayMatch s field then .ok [unmark field]
  else
    match matchingPaths s field with
    | [] => if s.hasFeature .failglob then .error (unmark field)
      else .ok (if s.hasFeature .nullglob then [] else [unmark field])
    | paths => .ok paths

end Shell

end Tangle
