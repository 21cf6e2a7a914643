import Tangle.Shell.Regex.Reading
/-!
# Matching regular expressions

A match starts as far left as possible and is then as long as possible
(`Regex.search?`). The places where a match can end (`Regex.ends`) come with
what the groups have matched, better ones first.
-/

namespace Tangle

namespace Shell

namespace Regex

/-- A place in a text. -/
structure Spot where
  /-- The number of octets before it. -/
  position : Nat
  /-- The character before it. -/
  before : Option Char
  /-- The text from there on. -/
  rest : Octets

/-- What groups have matched: where it starts and ends. -/
abbrev Groups := List (Nat × Nat × Nat)

/-- How characters are compared. -/
structure Mode where
  /-- Letters match those of the other case. -/
  folds : Bool
  /-- Lines start and end inside the text too. -/
  lines : Bool
  /-- Characters may have several octets. -/
  wide : Bool
deriving Repr, DecidableEq

namespace Mode

/-- Characters as they are. -/
def plain : Mode := ⟨false, false, true⟩

/-- Octets as they are. -/
def octets : Mode := ⟨false, false, false⟩

/-- The character at the front of a text, and what follows. -/
def front? (m : Mode) (s : Octets) : Option (Char × Octets) :=
  if m.wide then Octets.front? s
  else
    match s with
    | c :: s => some (c, s)
    | [] => none

/-- The two characters count as the same. -/
def same (m : Mode) (c d : Char) : Bool := c = d || (m.folds && Text.toLower c = Text.toLower d)

/-- A character of a word. -/
def isWord (m : Mode) (c : Char) : Bool := (if m.wide then Text.isLetter c else c.isAlphanum) || c = '_'

/-- The character is of a kind. -/
def isKind (m : Mode) (name : String) (c : Char) : Bool :=
  if c.toNat < 0x80 then (Pattern.ofKind? name).any fun p => p c
  else if !m.wide || Octets.isStray c then false
  else
    match name with
    | "alnum" | "alpha" => Text.isLetter c
    | "lower" => Text.isLower c
    | "upper" => Text.isUpper c
    | "space" | "blank" => Text.isSpace c
    | "cntrl" => Text.isControl c
    | "print" => !Text.isControl c
    | "graph" => !Text.isControl c && !Text.isSpace c
    | "punct" => !Text.isControl c && !Text.isSpace c && !Text.isLetter c
    | _ => false

/-- The member of a class is the character, or has it. -/
def isMember (m : Mode) (c : Char) : Pattern.Member → Bool
  | .range a b => a ≤ c && c ≤ b
  | .kind name => m.isKind name c

/-- The class has the character. -/
def admits (m : Mode) (ms : List Pattern.Member) (c : Char) : Bool :=
  ms.any (m.isMember c)
    || (m.folds && (ms.any (m.isMember (Text.toLower c)) || ms.any (m.isMember (Text.toUpper c))))

/-- The place after the next character. -/
def next (m : Mode) (s : Spot) : Spot :=
  match m.front? s.rest with
  | some (c, rest) => ⟨s.position + (s.rest.length - rest.length), some c, rest⟩
  | none => s

/-- The character after a place. -/
def after (m : Mode) (s : Spot) : Option Char := (m.front? s.rest).map Prod.fst

/-- The character counts as any character. -/
def isAny (m : Mode) (c : Char) : Bool := !(m.wide && Octets.isStray c) && !(m.lines && c = '\n')

end Mode

/-- The place after so many octets. -/
def Spot.skip (n : Nat) (s : Spot) : Spot :=
  if n = 0 then s else ⟨s.position + n, (s.rest.drop (n - 1)).head?, s.rest.drop n⟩

/-- The place after so many octets of a text. -/
def Spot.ofText (m : Mode) (text : Octets) (offset : Nat) : Spot :=
  let start := (List.range (min 4 offset)).find? fun k =>
    match (text.drop (offset - k - 1)).head? with
    | some c => !Pattern.isContinuation c
    | none => true
  let before := if offset = 0 then none
    else if m.wide then (Octets.front? (text.drop (offset - start.getD 0 - 1))).map Prod.fst
    else (text.drop (offset - 1)).head?
  ⟨offset, before, text.drop offset⟩

/-- Places without those that were there before. -/
def distinct (found : List (Spot × Groups)) : List (Spot × Groups) :=
  match found with
  | [] => []
  | [f] => [f]
  | found =>
    (found.foldl (fun (acc : List (Spot × Groups)) f =>
      if acc.any fun g => g.1.position = f.1.position then acc else f :: acc) []).reverse

/-- The places that repetitions of a step lead to, those after more
repetitions first, without the places that were there before. -/
def closure (step : Spot → Groups → List (Spot × Groups)) :
    Nat → Spot × Groups → List (Spot × Groups) → List (Spot × Groups)
  | 0, start, found => start :: found
  | fuel + 1, start, found =>
    -- The places found so far come last, those behind them first.
    let nexts := (step start.1 start.2).filter fun f => f.1.position ≠ start.1.position
    let found := nexts.foldl (fun found f =>
      if found.any fun g => g.1.position = f.1.position then found else closure step fuel f found) found
    if found.any fun g => g.1.position = start.1.position then found else start :: found

/-- The place after a text that counts as the same as this one, if it
stands there. -/
def follow? (m : Mode) : List Char → Spot → Option Spot
  | [], s => some s
  | c :: cs, s =>
    match m.front? s.rest with
    | some (d, _) => if m.same c d then follow? m cs (m.next s) else none
    | none => none

/-- The places where a match from a place of a text can end, better ones
first. -/
def ends (m : Mode) (text : Octets) : Regex → Spot → Groups → List (Spot × Groups)
  | .empty, s, g => [(s, g)]
  | .char c, s, g =>
    match m.front? s.rest with
    | some (d, rest) => if m.same c d then [(⟨s.position + (s.rest.length - rest.length), some d, rest⟩, g)] else []
    | none => []
  | .any, s, g =>
    match m.after s with
    | some c => if m.isAny c then [(m.next s, g)] else []
    | none => []
  | .oneOf negated ms, s, g =>
    match m.after s with
    | some c => if m.admits ms c != negated && (!negated || m.isAny c) then [(m.next s, g)] else []
    | none => []
  | .seq a b, s, g => distinct ((ends m text a s g).flatMap fun f => ends m text b f.1 f.2)
  | .alt a b, s, g => distinct (ends m text a s g ++ ends m text b s g)
  | .star r, s, g => (closure (fun s g => ends m text r s g) (s.rest.length + 1) (s, g) []).reverse
  | .group n r, s, g =>
    (ends m text r s g).map fun f => (f.1, (n, s.position, f.1.position) :: f.2.filter fun e => e.1 ≠ n)
  | .again n, s, g =>
    match g.lookup n with
    | some (a, b) =>
      let t := (text.drop a).take (b - a)
      ((follow? m (if m.wide then Octets.chars t else t) s).map fun s => (s, g)).toList
    | none => []
  | .lineStart, s, g => if s.position = 0 || (m.lines && s.before = some '\n') then [(s, g)] else []
  | .lineEnd, s, g => if s.rest.isEmpty || (m.lines && s.rest.head? = some '\n') then [(s, g)] else []
  | .textStart, s, g => if s.position = 0 then [(s, g)] else []
  | .textEnd, s, g => if s.rest.isEmpty then [(s, g)] else []
  | .wordEdge inside, s, g =>
    let edge := (s.before.any m.isWord) != ((m.after s).any m.isWord)
    if edge != inside then [(s, g)] else []
  | .wordStart, s, g => if !s.before.any m.isWord && (m.after s).any m.isWord then [(s, g)] else []
  | .wordEnd, s, g => if s.before.any m.isWord && !(m.after s).any m.isWord then [(s, g)] else []

/-- A match: where it starts and ends, and what its groups have matched. -/
structure Match where
  /-- The start. -/
  start : Nat
  /-- The end. -/
  stop : Nat
  /-- The groups. -/
  groups : Groups

/-- The longest match from a place. -/
def matchAt (m : Mode) (text : Octets) (r : Regex) (s : Spot) : Option Match :=
  ((ends m text r s []).foldl (fun (best : Option (Spot × Groups)) f =>
    match best with
    | some b => if b.1.position < f.1.position then some f else best
    | none => some f) none).map fun f => ⟨s.position, f.1.position, f.2⟩

/-- The first match at or after a place, at most so many characters on. -/
def searchFrom (m : Mode) (text : Octets) (r : Regex) : Nat → Spot → Option Match
  | 0, s => matchAt m text r s
  | fuel + 1, s =>
    match matchAt m text r s with
    | some found => some found
    | none => if s.rest.isEmpty then none else searchFrom m text r fuel (m.next s)

/-- The first match in a text that starts after `offset` octets or later. -/
def search? (m : Mode) (r : Regex) (text : Octets) (offset : Nat) : Option Match :=
  if text.length < offset then none
  else
    let s := Spot.ofText m text offset
    searchFrom m text r s.rest.length s

/-- The text of a match. -/
def Match.text (m : Match) (text : Octets) : Octets := (text.drop m.start).take (m.stop - m.start)

/-- The text of a group of a match. -/
def Match.group (m : Match) (text : Octets) (n : Nat) : Octets :=
  if n = 0 then m.text text
  else
    match m.groups.lookup n with
    | some (a, b) => (text.drop a).take (b - a)
    | none => []

end Regex

end Shell

end Tangle
