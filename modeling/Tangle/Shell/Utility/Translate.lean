import Tangle.Shell.Format
import Tangle.Shell.Pattern
import Tangle.Shell.Utility.Amount
/-!
# Replacing characters

`tr` replaces, deletes or squeezes characters. Its operands spell sequences of
characters (`Sequence.read`): ranges, kinds and repetitions. Of two sequences
each character of the first one becomes the one at its place in the second
(`Translation.pairs`).
-/

namespace Tangle

namespace Shell

namespace Utility

/-- A part of a sequence of characters. -/
inductive Span where
  /-- The characters between two. -/
  | range (first last : Char)
  /-- The characters of a kind, in ascending order. -/
  | kind (name : String)
  /-- The characters that count as the same as one. -/
  | same (c : Char)
  /-- A character so often, or as often as needed. -/
  | many (c : Char) (count : Option Nat)
deriving Repr, DecidableEq

namespace Span

/-- All octets. -/
def everything : Octets := (List.range 256).map Char.ofNat

/-- The characters of a part. -/
def members : Span → Octets
  | range a b => (List.range (b.toNat + 1 - a.toNat)).map fun n => Char.ofNat (a.toNat + n)
  | kind name =>
    match Pattern.ofKind? name with
    | some p => everything.filter p
    | none => []
  | same c => [c]
  | many c count => List.replicate (count.getD 0) c

/-- The part is as long as needed. -/
def isOpen : Span → Bool
  | many _ none => true
  | _ => false

/-- The part is a kind. -/
def isKind : Span → Bool
  | kind _ => true
  | _ => false

/-- The part is a kind for which there is no counterpart. -/
def isOtherKind : Span → Bool
  | kind name => name ≠ "upper" && name ≠ "lower"
  | _ => false

/-- The part is made of characters that count as the same. -/
def isSame : Span → Bool
  | same _ => true
  | _ => false

end Span

namespace Sequence

/-! ## Reading -/

/-- A character of an operand, and whether it is protected. -/
structure Letter where
  /-- The character. -/
  char : Char
  /-- It stands for itself. -/
  isProtected : Bool

/-- The letter is an unprotected character. -/
def Letter.is (l : Letter) (c : Char) : Bool := l.char = c && !l.isProtected

/-- The letters of an operand, after warnings about backslashes of uncertain
meaning. -/
def letters : Nat → Octets → List String × List Letter
  | 0, _ => ([], [])
  | _ + 1, [] => ([], [])
  | _ + 1, ['\\'] => (["warning: an unescaped backslash at end of string is not portable"], [⟨'\\', false⟩])
  | fuel + 1, '\\' :: c :: s =>
    let isOctal (c : Char) : Bool := '0' ≤ c && c ≤ '7'
    let (warnings, d, rest) : List String × Char × Octets :=
      if isOctal c then
        let ds := (c :: s).take 3 |>.takeWhile isOctal
        let value := (Octets.inBase? 8 ds).getD 0
        if value < 256 then ([], Char.ofNat value, (c :: s).drop ds.length)
        else
          let text := Octets.text
          ([ "warning: the ambiguous octal escape \\" ++ text ds ++ " is being\n\tinterpreted as the 2-byte sequence \\0"
              ++ text (ds.take 2) ++ ", " ++ text (ds.drop 2) ],
            Char.ofNat ((Octets.inBase? 8 (ds.take 2)).getD 0), (c :: s).drop 2)
      else
        match c with
        | 'a' => ([], '\x07', s)
        | 'b' => ([], '\x08', s)
        | 'f' => ([], '\x0c', s)
        | 'n' => ([], '\n', s)
        | 'r' => ([], '\r', s)
        | 't' => ([], '\t', s)
        | 'v' => ([], '\x0b', s)
        | c => ([], c, s)
    let (more, ls) := letters fuel rest
    (warnings ++ more, ⟨d, true⟩ :: ls)
  | fuel + 1, c :: s =>
    let (warnings, ls) := letters fuel s
    (warnings, ⟨c, false⟩ :: ls)

/-- The characters up to a mark with a bracket behind it, and what follows. -/
def marked? (mark : Char) : List Letter → Option (Octets × List Letter)
  | l :: b :: rest =>
    if l.is mark && b.is ']' then some ([], rest) else (marked? mark (b :: rest)).map fun (cs, r) => (l.char :: cs, r)
  | _ => none

/-- A repetition after its opening bracket: none if it does not look like one. -/
def repetition? (ls : List Letter) : Except String (Option (Span × List Letter)) :=
  match ls with
  | c :: star :: rest =>
    if !star.is '*' then .ok none
    else
      let inside := rest.takeWhile fun l => !l.is ']' && !l.isProtected
      match rest.drop inside.length with
      | close :: after =>
        if !close.is ']' then .ok none
        else
          let ds := inside.map Letter.char
          let count := if ds.head? = some '0' then Octets.inBase? 8 ds else Octets.nat? ds
          if ds.isEmpty then .ok (some (.many c.char none, after))
          else
            match count with
            | some 0 => .ok (some (.many c.char none, after))
            | some n => .ok (some (.many c.char (some n), after))
            | none => .error ("invalid repeat count " ++ curly (ds.flatMap shown) ++ " in [c*n] construct")
      | [] => .ok none
  | _ => .ok none
where
  /-- A character as a complaint shows it. -/
  shown (c : Char) : Octets := if 32 ≤ c.toNat && c.toNat < 127 then [c] else controlEscape c

/-- A text as a complaint shows it. -/
def shown (s : Octets) : Octets := s.flatMap repetition?.shown

/-- What follows looks like the end of a repetition. -/
def endsRepetition (ls : List Letter) : Bool :=
  match ls with
  | star :: rest => star.is '*' && ((rest.dropWhile fun l => l.char.isDigit).head?.any fun l => l.is ']')
  | [] => false

/-- The part that a bracket opens, if there is one. -/
def bracketed? (ls : List Letter) : Except String (Option (Span × List Letter)) :=
  match ls with
  | mark :: rest =>
    if mark.is ':' || mark.is '=' then
      match marked? mark.char rest with
      | none => repetition? ls
      | some ([], _) =>
        .error (if mark.char = ':' then "missing character class name '[::]'"
          else "missing equivalence class character '[==]'")
      | some (name, after) =>
        if mark.char = ':' && (Pattern.ofKind? (String.ofList name)).isSome then
          .ok (some (.kind (String.ofList name), after))
        else
          match mark.char, name with
          | '=', [c] => .ok (some (.same c, after))
          | _, _ =>
            if endsRepetition rest then repetition? ls
            else if mark.char = ':' then .error ("invalid character class " ++ curly (shown name))
            else .error (Octets.text (shown name) ++ ": equivalence class operand must be a single character")
    else repetition? ls
  | [] => .ok none

/-- The parts of a sequence. The last two letters stand for themselves. -/
def spans : Nat → List Letter → Except String (List Span)
  | 0, _ => .ok []
  | fuel + 1, ls => do
    match ls with
    | a :: b :: c :: rest =>
      match ← if a.is '[' then bracketed? (b :: c :: rest) else .ok none with
      | some (span, rest) => return span :: (← spans fuel rest)
      | none =>
        if b.is '-' then
          if c.char < a.char then
            throw ("range-endpoints of '" ++ Octets.text (shown [a.char]) ++ "-" ++ Octets.text (shown [c.char])
              ++ "' are in reverse collating sequence order")
          else return .range a.char c.char :: (← spans fuel rest)
        else return .range a.char a.char :: (← spans fuel (b :: c :: rest))
    | short => return short.map fun l => .range l.char l.char

/-- The parts of the sequence that an operand spells, and warnings. -/
def read (s : Octets) : List String × Except String (List Span) :=
  let (warnings, ls) := letters (s.length + 1) s
  (warnings, spans (ls.length + 1) ls)

end Sequence

namespace Translation

/-! ## From one sequence to another -/

/-- A character at its place in a sequence. -/
structure Step where
  /-- The character. -/
  char : Char
  /-- It belongs to the capital letters, or to the small ones. -/
  upper : Option Bool
  /-- A part of the sequence starts with it. -/
  isFirst : Bool
  /-- So many characters of the part follow. -/
  left : Nat

/-- The characters of parts at their places. -/
def steps (spans : List Span) : List Step :=
  spans.flatMap fun span =>
    let upper := match span with
      | .kind "upper" => some true
      | .kind "lower" => some false
      | _ => none
    let cs := span.members
    cs.zipIdx.map fun (c, n) => ⟨c, upper, n = 0, cs.length - n - 1⟩

/-- Small and capital letters at the same places stand for all of them, so
that the two sequences have to be aligned there. The first value tells that
they are; the others are the lengths that count. -/
def aligned : Nat → List Step → List Step → Bool × Nat × Nat
  | 0, _, _ => (true, 0, 0)
  | _ + 1, x, [] => (true, x.length, 0)
  | _ + 1, [], y :: ys => (!(y.isFirst && y.upper.isSome), 0, ys.length + 1)
  | fuel + 1, x :: xs, y :: ys =>
    if y.upper.isSome then
      if y.isFirst && !(x.isFirst && x.upper.isSome) then (false, 0, 0)
      else
        let (ok, a, b) := aligned fuel (xs.drop x.left) (ys.drop y.left)
        (ok, a + 1, b + 1)
    else
      let (ok, a, b) := aligned fuel xs ys
      (ok, a + 1, b + 1)

/-- What becomes of characters, the last word first. -/
def pairs : Nat → List Step → List Step → List (Char × Char) → List (Char × Char)
  | 0, _, _, found => found
  | fuel + 1, x :: xs, y :: ys, found =>
    match x.upper, y.upper with
    | some false, some true =>
      pairs fuel (xs.drop x.left) (ys.drop y.left) ((Span.kind "lower").members.map (fun c => (c, c.toUpper)) ++ found)
    | some true, some false =>
      pairs fuel (xs.drop x.left) (ys.drop y.left) ((Span.kind "upper").members.map (fun c => (c, c.toLower)) ++ found)
    | _, some _ => pairs fuel (xs.drop x.left) (ys.drop y.left) ((x.char, y.char) :: found)
    | _, none => pairs fuel xs ys ((x.char, y.char) :: found)
  | _ + 1, _, _, found => found

/-- How characters are replaced. -/
structure Setting where
  /-- The characters that are not in the first sequence count. -/
  complement : Bool
  /-- What has no place in the second sequence stays. -/
  truncates : Bool

/-- The second sequence where a part that is as long as needed has its
length. -/
def filled (length : Nat) (second : List Span) : List Span :=
  let known := (second.map fun s => s.members.length).foldl (· + ·) 0
  second.map fun
    | .many c none => .many c (some (length - known))
    | span => span

/-- What becomes of characters, or the complaint about the sequences. -/
def table (v : Setting) (first second : List Span) : Except String (List (Char × Char)) := do
  let members := first.flatMap Span.members
  let outside := Span.everything.filter (!members.contains ·)
  let firstLength := if v.complement then outside.length else members.length
  let second := filled firstLength second
  if second.any Span.isSame then throw "[=c=] expressions may not appear in string2 when translating"
  if second.any Span.isOtherKind then
    throw "when translating, the only character classes that may appear in\nstring2 are 'upper' and 'lower'"
  let (x, y) := (steps first, steps second)
  let (isAligned, a, b) := if v.complement || !second.any Span.isKind then (true, firstLength, y.length)
    else aligned (x.length + y.length + 1) x y
  if !isAligned then throw "misaligned [:upper:] and/or [:lower:] construct"
  let extended : List Step ←
    if b < a && !v.truncates then
      match second.getLast?, y.getLast? with
      | _, none => throw "when not truncating set1, string2 must be non-empty"
      | some (.kind _), _ =>
        throw "when translating with string1 longer than string2,\nthe latter string must not end with a character class"
      | _, some last => pure (y ++ List.replicate (a - b) ⟨last.char, none, true, 0⟩)
    else pure y
  if v.complement && first.any Span.isKind
      && !((if b < a && v.truncates then b else max a b) = firstLength
        && extended.all fun s => some s.char = extended.head?.map Step.char) then
    throw "when translating with complemented character classes,\nstring2 must map all characters in the domain to one"
  if v.complement then return outside.zip (extended.map Step.char)
  else return pairs (x.length + extended.length + 1) x extended []

end Translation

/-- Text without the repetitions of the characters that are squeezed. -/
def squeeze (squeezed : Char → Bool) (s : Octets) : Octets :=
  (s.foldl (fun (acc : Option Char × Octets) c =>
    if acc.1 = some c && squeezed c then acc else (some c, c :: acc.2)) (none, [])).2.reverse

/-- What is done with characters, or the complaint about the sequences. -/
def translation (i : Invoked) (first : List Span) (second : Option (List Span)) : Except String (Octets → Octets) := do
  let complement := i.has 'c' || i.has 'C'
  let members := first.flatMap Span.members
  let inFirst (c : Char) : Bool := members.contains c != complement
  let openParts := (second.getD []).countP Span.isOpen
  if first.any Span.isOpen then throw "the [c*] repeat construct may not appear in string1"
  if 1 < openParts then throw "only one [c*] repeat construct may appear in string2"
  match second with
  | none =>
    if i.has 'd' then return fun t => t.filter fun c => !inFirst c
    else return squeeze inFirst
  | some second =>
    if i.has 'd' then
      if 0 < openParts then throw "the [c*] construct may appear in string2 only when translating"
      let squeezed := second.flatMap Span.members
      return fun t => squeeze squeezed.contains (t.filter fun c => !inFirst c)
    else
      let table ← Translation.table ⟨complement, i.has 't'⟩ first second
      let firstLength := if complement then 256 - members.eraseDups.length else members.length
      let squeezed := (Translation.filled firstLength second).flatMap Span.members
      let replaced (c : Char) : Char := (table.lookup c).getD c
      if i.has 's' then return fun t => squeeze squeezed.contains (t.map replaced) else return fun t => t.map replaced

/-- Replaces, deletes or squeezes characters. -/
def tr : Utility :=
  withOptions ⟨"AcCdst", "", "", [("complement", 'c'), ("delete", 'd'), ("squeeze-repeats", 's'),
      ("truncate-set1", 't')], true, 1⟩
    fun i s =>
      let deletes := i.has 'd'
      let squeezes := i.has 's'
      let needed := if deletes = squeezes then 2 else 1
      let most := if deletes && !squeezes then 1 else 2
      match i.operands with
      | [] => i.refuse "missing operand" s
      | first :: more =>
        if more.length + 1 < needed then
          i.refuse ("missing operand after " ++ curly first ++ "\n"
            ++ (if squeezes then "Two strings must be given when both deleting and squeezing repeats."
              else "Two strings must be given when translating.")) s
        else if most < more.length + 1 then
          i.refuse ("extra operand " ++ curly ((i.operands[most]?).getD [])
            ++ (if more.length = 1 then "\nOnly one string may be given when deleting without squeezing repeats."
              else "")) s
        else
          let (warnings, first) := Sequence.read first
          let s := warnings.foldl (fun s w => s.complain (i.name ++ ": " ++ w)) s
          match first with
          | .error problem => i.complain problem s
          | .ok first =>
            let (warnings, second) : List String × Except String (Option (List Span)) := match more with
              | [] => ([], .ok none)
              | m :: _ => (Sequence.read m).map (fun warnings => warnings) fun r => r.map some
            let s := warnings.foldl (fun s w => s.complain (i.name ++ ": " ++ w)) s
            match second.bind fun second => translation i first second with
            | .error problem => i.complain problem s
            | .ok change =>
              match s.readAll 0 with
              | (.ok t, s) => s.print (change t)
              | (.error fault, s) => i.complain ("read error: " ++ faultText fault) s

end Utility

end Shell

end Tangle
