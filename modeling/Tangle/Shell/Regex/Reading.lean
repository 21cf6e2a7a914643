import Tangle.Shell.Regex.Basic
/-!
# Reading regular expressions

`Regex.read` reads the expression that a text spells. In the basic spelling
most operators have a backslash, in the extended one they have none. A text is
read from its characters, so that one of several octets is one member of a
class.
-/

namespace Tangle

namespace Shell

namespace Regex

/-- The progress of reading. -/
structure Scan where
  /-- What is left. -/
  rest : List Char
  /-- The groups that have begun. -/
  groups : Nat
  /-- The groups that have ended. -/
  closed : List Nat

/-- A reader of a part of an expression. -/
abbrev Reading (α : Type) := StateT Scan (Except Flaw) α

/-- The characters of words. -/
def wordMembers : List Pattern.Member := [.kind "alnum", .range '_' '_']

/-! ## Classes -/

/-- An element of a class. -/
inductive Element where
  /-- A character. -/
  | char (c : Char)
  /-- The characters of a kind. -/
  | kind (name : String)

/-- The name between an opening mark of two characters and the closing one,
and what follows. -/
def markedName? (mark : Char) : List Char → Option (List Char × List Char)
  | c :: ']' :: s => if c = mark then some ([], s) else (markedName? mark (']' :: s)).map fun (n, r) => (c :: n, r)
  | c :: s => (markedName? mark s).map fun (n, r) => (c :: n, r)
  | [] => none

/-- The element at the front of what is left of a class, and what follows. -/
def element (s : List Char) : Except Flaw (Element × List Char) :=
  match s with
  | [] => .error .openClass
  | '[' :: mark :: rest =>
    if mark = ':' || mark = '.' || mark = '=' then
      match markedName? mark rest with
      | none => .error .openClass
      | some (name, rest) =>
        if mark = ':' then
          if (Pattern.ofKind? (String.ofList name)).isSome then .ok (.kind (String.ofList name), rest)
          else .error .kind
        else
          match name with
          | [c] => .ok (.char c, rest)
          | _ => .error .collation
    else .ok (.char '[', mark :: rest)
  | c :: rest => .ok (.char c, rest)

/-- The members of a class up to its closing bracket, and what follows. -/
def members (rules : Rules) : Nat → Bool → List Char → Except Flaw (List Pattern.Member × List Char)
  | 0, _, _ => .error .openClass
  | fuel + 1, atFront, s =>
    match s with
    | [] => .error .openClass
    | ']' :: rest => if atFront then item fuel atFront s else .ok ([], rest)
    | _ => item fuel atFront s
where
  /-- The members from an element on. -/
  item (fuel : Nat) (atFront : Bool) (s : List Char) : Except Flaw (List Pattern.Member × List Char) :=
    let isHyphen := s.head? = some '-' && !atFront && (s.drop 1).head? ≠ some ']'
    if isHyphen then .error .range
    else
      match element s with
      | .error flaw => .error flaw
      | .ok (.kind name, rest) =>
        match rest with
        | '-' :: [] => .error .openClass
        | '-' :: ']' :: _ => next fuel (.kind name) rest
        | '-' :: _ => .error .range
        | _ => next fuel (.kind name) rest
      | .ok (.char a, rest) =>
        match rest with
        | '-' :: [] => .error .openClass
        | '-' :: ']' :: _ => next fuel (.range a a) rest
        | '-' :: rest =>
          match element rest with
          | .error flaw => .error flaw
          | .ok (.kind _, _) => .error .range
          | .ok (.char b, rest) =>
            if b < a && !rules.emptyRanges then .error .range else next fuel (.range a b) rest
        | _ => next fuel (.range a a) rest
  /-- The members from one on that is known. -/
  next (fuel : Nat) (m : Pattern.Member) (rest : List Char) : Except Flaw (List Pattern.Member × List Char) :=
    match members rules fuel false rest with
    | .error flaw => .error flaw
    | .ok (ms, rest) => .ok (m :: ms, rest)

/-- Reads a class after its opening bracket. -/
def bracket (rules : Rules) : Reading Regex := do
  let s ← get
  let (negated, body) : Bool × List Char := match s.rest with
    | '^' :: r => (true, r)
    | r => (false, r)
  if body.isEmpty then throw .pattern
  let (ms, rest) ← members rules (body.length + 1) true body
  set { s with rest }
  return .oneOf negated ms

/-! ## Repetitions -/

/-- An expression so many times. -/
def power (r : Regex) : Nat → Regex
  | 0 => .empty
  | 1 => r
  | n + 1 => .seq r (power r n)

/-- An expression at most so many times. -/
def upTo (r : Regex) : Nat → Regex
  | 0 => .empty
  | n + 1 => .alt (.seq r (upTo r n)) .empty

/-- An expression at least `low` and at most `high` times. -/
def repeated (r : Regex) (low : Nat) (high : Option Nat) : Regex :=
  match high with
  | none => if low = 0 then .star r else .seq (power r low) (.star r)
  | some n => if low = n then power r n else if low = 0 then upTo r n else .seq (power r low) (upTo r (n - low))

/-- The greatest number of repetitions. -/
def repetitionLimit : Nat := 32767

/-- What ends an interval. -/
def Rules.closing (rules : Rules) : List Char := if rules.extended then ['\x7d'] else ['\\', '\x7d']

/-- A number of an interval: its digits, the way that it ends, and what
follows. It ends at a comma, at the end of the interval or, if that is
missing, not at all. -/
def bound (rules : Rules) : List Char → List Char × Option Char × List Char
  | [] => ([], none, [])
  | ',' :: s => ([], some ',', s)
  | c :: s =>
    if rules.closing.isPrefixOf (c :: s) then ([], some '\x7d', (c :: s).drop rules.closing.length)
    else
      let (digits, stop, rest) := bound rules s
      (c :: digits, stop, rest)

/-- The number that digits write, if there are no other characters. -/
def digitsValue? (s : List Char) : Option Nat := Octets.nat? s

/-- Why what follows an opening brace is no interval. -/
structure Misfit where
  /-- What is wrong with it. -/
  flaw : Flaw
  /-- It does not look like an interval at all. -/
  isForeign : Bool

/-- What an interval after its opening brace asks for, and what follows. -/
def interval (rules : Rules) (s : List Char) : Except Misfit (Nat × Option Nat × List Char) :=
  let (low, stop, rest) := bound rules s
  match stop with
  | none => .error ⟨.openInterval, true⟩
  | some c =>
    if low.isEmpty && c ≠ ',' then .error ⟨.interval, false⟩
    else
      match if low.isEmpty then some 0 else digitsValue? low with
      | none => .error ⟨.interval, true⟩
      | some n =>
        if c ≠ ',' then .ok (n, some n, rest)
        else
          let (high, stop, rest) := bound rules rest
          if stop.isNone then .error ⟨.openInterval, true⟩
          else if high.isEmpty then (if stop = some ',' then .error ⟨.interval, false⟩ else .ok (n, none, rest))
          else
            match digitsValue? high with
            | none => .error ⟨.interval, true⟩
            | some h => if h < n || stop = some ',' then .error ⟨.interval, false⟩ else .ok (n, some h, rest)

/-- The text after a brace is no interval and the brace stands for itself, or
the flaw. -/
def Misfit.excused (rules : Rules) (m : Misfit) : Except Flaw Unit :=
  if rules.looseIntervals && m.isForeign then .ok () else .error m.flaw

/-- A repetition. -/
inductive Repeat where
  /-- Any number of times. -/
  | star
  /-- At least once. -/
  | plus
  /-- At most once. -/
  | optional
  /-- As often as an interval says. -/
  | interval
deriving Repr, DecidableEq

/-- The repetition at the front, its text, and what follows. -/
def repeat? (rules : Rules) (s : List Char) : Option (Repeat × List Char × List Char) :=
  let ofChar (c : Char) : Option Repeat := match c with
    | '+' => some .plus
    | '?' => some .optional
    | '\x7b' => some .interval
    | _ => none
  match s with
  | '*' :: rest => some (.star, ['*'], rest)
  | '\\' :: c :: rest =>
    if rules.extended || rules.suffixes || (!rules.extras && c ≠ '\x7b') then none
    else (ofChar c).map fun r => (r, [c], rest)
  | c :: rest =>
    if rules.extended || (rules.suffixes && c ≠ '\x7b') then (ofChar c).map fun r => (r, [c], rest) else none
  | [] => none

/-- Reads the repetitions after an expression; `isSecond` tells that there was
one before. -/
def repetitions (rules : Rules) : Nat → Bool → Regex → Reading Regex
  | 0, _, r => return r
  | fuel + 1, isSecond, r => do
    let s ← get
    let goOn (r : Regex) (rest : List Char) : Reading Regex := do
      set { s with rest }
      repetitions rules fuel true r
    match repeat? rules s.rest with
    | none => return r
    | some (kind, _, rest) =>
      if isSecond && rules.repeatsOnce && (kind = .star || kind = .interval) then throw .nothingRepeated
      match kind with
      | .star => goOn (.star r) rest
      | .plus => goOn (.seq r (.star r)) rest
      | .optional => goOn (.alt r .empty) rest
      | .interval =>
        match interval rules rest with
        | .error misfit =>
          misfit.excused rules
          return r
        | .ok (low, high, rest) =>
          if repetitionLimit < high.getD low then throw .size
          goOn (repeated r low high) rest

/-! ## Expressions -/

/-- The bar between alternatives comes next. -/
def Rules.startsBar (rules : Rules) (s : List Char) : Bool :=
  if rules.extended then s.head? = some '|' else rules.extras && ['\\', '|'].isPrefixOf s

mutual

/-- Reads expressions of which one has to match. -/
def choice (rules : Rules) : Nat → Nat → Reading Regex
  | 0, _ => throw .size
  | fuel + 1, depth => do
    let first ← branch rules fuel depth true
    let rest := (← get).rest
    if rules.startsBar rest then
      modify fun s => { s with rest := rest.drop (if rules.extended then 1 else 2) }
      return .alt first (← choice rules fuel depth)
    else return first

/-- Reads expressions one after the other. -/
def branch (rules : Rules) : Nat → Nat → Bool → Reading Regex
  | 0, _, _ => throw .size
  | fuel + 1, depth, atFront => do
    let rest := (← get).rest
    let close := if rules.extended then [')'] else ['\\', ')']
    if rest.isEmpty || rules.startsBar rest || (close.isPrefixOf rest && 0 < depth) then return .empty
    if close.isPrefixOf rest && !rules.looseClosing then throw .closedGroup
    let first ← atom rules fuel depth atFront
    if first.isAnchor then return .seq first (← branch rules fuel depth true)
    else
      let first ← repetitions rules (rest.length + 1) false first
      return .seq first (← branch rules fuel depth false)

/-- Reads one character, class or group. -/
def atom (rules : Rules) : Nat → Nat → Bool → Reading Regex
  | 0, _, _ => throw .size
  | fuel + 1, depth, atFront => do
    let s ← get
    let goOn (r : Regex) (rest : List Char) : Reading Regex := do
      set { s with rest }
      return r
    let group (rest : List Char) : Reading Regex := do
      let n := s.groups + 1
      set { s with rest, groups := n }
      let inner ← choice rules fuel (depth + 1)
      let after := (← get).rest
      let closing := if rules.extended then [')'] else ['\\', ')']
      if closing.isPrefixOf after then
        modify fun t => { t with rest := after.drop closing.length, closed := n :: t.closed }
        return .group n inner
      else throw .openGroup
    match repeat? rules s.rest with
    | some (kind, text, rest) =>
      if rules.idle = .flaw || (kind = .interval && rules.repeatsOnce) then throw .nothingRepeated
      else if rules.idle = .literal then
        set { s with rest }
        return ofLiteral text
      else if kind = .interval then
        match interval rules rest with
        | .ok (_, _, rest) => goOn .empty rest
        | .error misfit =>
          misfit.excused rules
          goOn (.char '\x7b') rest
      else goOn .empty rest
    | none =>
      match s.rest with
      | [] => return .empty
      | '[' :: rest =>
        set { s with rest }
        bracket rules
      | '.' :: rest => goOn .any rest
      | '\\' :: [] => throw .backslash
      | '\\' :: c :: rest =>
        if !rules.extended && c = '(' then group rest
        else if '1' ≤ c && c ≤ '9' then
          if s.closed.contains (c.toNat - 48) then goOn (.again (c.toNat - 48)) rest else throw .reference
        else if !rules.extras then goOn (.char c) rest
        else
          match c with
          | 'w' => goOn (.oneOf false wordMembers) rest
          | 'W' => goOn (.oneOf true wordMembers) rest
          | 's' => goOn (.oneOf false [.kind "space"]) rest
          | 'S' => goOn (.oneOf true [.kind "space"]) rest
          | 'b' => goOn (.wordEdge false) rest
          | 'B' => goOn (.wordEdge true) rest
          | '<' => goOn .wordStart rest
          | '>' => goOn .wordEnd rest
          | '\x60' => goOn .textStart rest
          | '\'' => goOn .textEnd rest
          | c => goOn (.char c) rest
      | '^' :: rest => if rules.extended || atFront then goOn .lineStart rest else goOn (.char '^') rest
      | '$' :: rest =>
        let atEnd := rules.extended || rest.isEmpty || ['\\', ')'].isPrefixOf rest || ['\\', '|'].isPrefixOf rest
        if atEnd then goOn .lineEnd rest else goOn (.char '$') rest
      | '(' :: rest => if rules.extended then group rest else goOn (.char '(') rest
      | c :: rest => goOn (.char c) rest

end

/-- The expression that characters spell. -/
def readChars (rules : Rules) (s : List Char) : Except Flaw Regex :=
  match (choice rules (4 * (s.length + 2)) 0).run ⟨s, 0, []⟩ with
  | .error flaw => .error flaw
  | .ok (r, _) => if rules.nestsKinds && r.hasLooseKind then .error .looseKind else .ok r

/-- The expression that a text spells. -/
def read (rules : Rules) (s : Octets) : Except Flaw Regex :=
  readChars rules (if rules.wide then Octets.chars s else s)

end Regex

end Shell

end Tangle
