import Tangle.Shell.Number
import Tangle.Shell.Real
/-!
# Orders of texts

The orders in which texts can be sorted, besides that of their bytes: by a
number in front (`Collation.Sense.number`), which may have a unit behind or
an exponent, by the name of a month, or by the numbers within the text as
in versions of a program. A `Collation` says what of a text counts, and in
which order.
-/

namespace Tangle

namespace Shell

namespace Collation

/-- A blank between fields. -/
def isBlank (c : Char) : Bool := c = ' ' || c = '\t' || c = '\n'

/-- Compares texts by bytes. -/
def compareOctets : Octets → Octets → Ordering
  | [], [] => .eq
  | [], _ :: _ => .lt
  | _ :: _, [] => .gt
  | a :: s, b :: t => if a.toNat < b.toNat then .lt else if b.toNat < a.toNat then .gt else compareOctets s t

/-! ## Numbers -/

/-- A decimal number: its value in units of its last place, and its
places. -/
structure Decimal where
  /-- The value. -/
  units : Int
  /-- The places after the point. -/
  places : Nat

/-- The value in units of so many places. -/
def Decimal.scaled (x : Decimal) (places : Nat) : Int := x.units * (Nat.pow 10 (places - x.places) : Nat)

/-- Compares numbers. -/
def Decimal.compare (a b : Decimal) : Ordering :=
  let places := max a.places b.places
  Ord.compare (a.scaled places) (b.scaled places)

/-- The number in front of a text, and what follows. -/
def leadingNumber (s : Octets) : Decimal × Octets :=
  let (negative, body) : Bool × Octets := match s.dropWhile isBlank with
    | '-' :: r => (true, r)
    | r => (false, r)
  let whole := body.takeWhile Char.isDigit
  let (fraction, rest) : Octets × Octets := match body.drop whole.length with
    | '.' :: r => (r.takeWhile Char.isDigit, r.dropWhile Char.isDigit)
    | r => ([], r)
  let n : Int := ((Octets.nat? (whole ++ fraction)).getD 0 : Nat)
  (⟨if negative then -n else n, fraction.length⟩, rest)

/-- The rank of the unit behind a number; it is below zero where the number
is, and zero has none. -/
def unitRank (s : Octets) : Int :=
  let (x, rest) := leadingNumber s
  let rank : Int := match rest.head? with
    | some 'k' => 1
    | some c => ((("KMGTPEZY".toList.idxOf? c).map (· + 1)).getD 0 : Nat)
    | none => 0
  if x.units < 0 then -rank else if x.units = 0 then 0 else rank

/-- Compares numbers that may have an exponent or be infinite. What is no
numeral comes first, then what is no number. -/
def compareReal (a b : Octets) : Ordering :=
  match Real.read? 64 a, Real.read? 64 b with
  | none, none => .eq
  | none, _ => .lt
  | _, none => .gt
  | some (x, _), some (y, _) =>
    if x.isBelow y then .lt
    else if y.isBelow x then .gt
    else
      match x, y with
      | .undefined m, .undefined n => if m = n then .eq else if m then .lt else .gt
      | .undefined _, _ => .lt
      | _, .undefined _ => .gt
      | _, _ => .eq

/-- The number of the month that a text starts with. -/
def month (s : Octets) : Nat :=
  let word := ((s.dropWhile isBlank).take 3).map Char.toUpper
  ((["JAN", "FEB", "MAR", "APR", "MAY", "JUN", "JUL", "AUG", "SEP", "OCT", "NOV", "DEC"].findIdx? fun m =>
    m.toList = word).map (· + 1)).getD 0

/-! ## Versions -/

/-- The rank of a character that is no digit: a tilde is even before the end
of the text, and letters are before the others. -/
def versionRank (c : Char) : Int := if c.isAlpha then c.toNat else if c = '~' then -2 else c.toNat + 256

/-- The rank of what stands at the front of a text. -/
def frontRank (s : Octets) : Int :=
  match s with
  | [] => -1
  | c :: _ => if c.isDigit then 0 else versionRank c

/-- Compares texts up to their digits. -/
def compareRanks : Octets → Octets → Ordering
  | [], [] => .eq
  | a :: s, b :: t =>
    if a.isDigit && b.isDigit then .eq
    else
      match compare (frontRank (a :: s)) (frontRank (b :: t)) with
      | .eq => compareRanks s t
      | o => o
  | [], t => if t.head?.any Char.isDigit then .eq else compare (-1) (frontRank t)
  | s, [] => if s.head?.any Char.isDigit then .eq else compare (frontRank s) (-1)

/-- Compares texts run by run: what is between digits by the ranks of the
characters, and digits as numbers. -/
def compareRuns : Nat → Octets → Octets → Ordering
  | 0, _, _ => .eq
  | fuel + 1, a, b =>
    if a.isEmpty && b.isEmpty then .eq
    else
      match compareRanks a b with
      | .eq =>
        let digits (s : Octets) : Octets :=
          ((s.dropWhile fun c => !c.isDigit).takeWhile Char.isDigit).dropWhile (· = '0')
        let rest (s : Octets) : Octets := (s.dropWhile fun c => !c.isDigit).dropWhile Char.isDigit
        match (compare (digits a).length (digits b).length).then (compareOctets (digits a) (digits b)) with
        | .eq => compareRuns fuel (rest a) (rest b)
        | o => o
      | o => o

/-- The text consists of suffixes such as those of files. -/
def areSuffixes : Nat → Octets → Bool
  | 0, _ => false
  | _ + 1, [] => true
  | fuel + 1, s =>
    match s with
    | '.' :: c :: rest =>
      (c.isAlpha || c = '~') && areSuffixes fuel (rest.dropWhile fun c => c.isAlphanum || c = '~')
    | _ => false

/-- The text without the suffixes of a file, but with its first
character. -/
def dropSuffixes (s : Octets) : Octets :=
  let cut := (List.range s.length).find? fun n => 0 < n && areSuffixes (s.length + 1) (s.drop n)
  s.take (cut.getD s.length)

/-- Compares the names of versions: without their suffixes, and with them
if they are equal. -/
def compareVersions (a b : Octets) : Ordering :=
  let rank (s : Octets) : Nat :=
    if s.isEmpty then 0 else if s = ['.'] then 1 else if s = ['.', '.'] then 2 else if s.head? = some '.' then 3 else 4
  let runs (a b : Octets) : Ordering := compareRuns (a.length + b.length + 1) a b
  match compare (rank a) (rank b) with
  | .eq => (runs (dropSuffixes a) (dropSuffixes b)).then (runs a b)
  | o => o

/-! ## Orders -/

/-- What a text is compared by. -/
inductive Sense where
  /-- A number with an exponent. -/
  | general
  /-- A number with a unit. -/
  | human
  /-- A month. -/
  | month
  /-- A number. -/
  | number
  /-- Nothing that can be told. -/
  | shuffled
  /-- The numbers within it. -/
  | version
deriving Repr, DecidableEq

/-- The letter of a sense. -/
def Sense.letter : Sense → Char
  | general => 'g'
  | human => 'h'
  | month => 'M'
  | number => 'n'
  | shuffled => 'R'
  | version => 'V'

/-- Compares texts by a sense. -/
def Sense.compare (sense : Sense) (a b : Octets) : Ordering :=
  match sense with
  | general => compareReal a b
  | human => (Ord.compare (unitRank a) (unitRank b)).then ((leadingNumber a).1.compare (leadingNumber b).1)
  | month => Ord.compare (Collation.month a) (Collation.month b)
  | number => (leadingNumber a).1.compare (leadingNumber b).1
  | shuffled => .eq
  | version => compareVersions a b

/-- The characters that do not count. -/
inductive Ignored where
  /-- All but blanks, letters and digits. -/
  | punctuation
  /-- Those that cannot be seen. -/
  | hidden
deriving Repr, DecidableEq

end Collation

/-- How texts are compared. -/
structure Collation where
  /-- What they are compared by, if not by their bytes. -/
  senses : List Collation.Sense
  /-- What does not count. -/
  ignored : Option Collation.Ignored
  /-- Letters count as capital ones. -/
  folds : Bool
  /-- The other way round. -/
  reverse : Bool
deriving Repr, DecidableEq

namespace Collation

/-- Comparison by bytes. -/
def bytes : Collation := ⟨[], none, false, false⟩

/-- The order with the meaning of a letter added. -/
def add? (o : Collation) (c : Char) : Option Collation :=
  match [Sense.general, .human, .month, .number, .shuffled, .version].find? fun k => k.letter = c with
  | some sense => some (if o.senses.contains sense then o else { o with senses := sense :: o.senses })
  | none =>
    match c with
    | 'd' => some { o with ignored := some .punctuation }
    | 'f' => some { o with folds := true }
    | 'i' => some { o with ignored := o.ignored.or (some .hidden) }
    | 'r' => some { o with reverse := true }
    | _ => none

/-- The order is that of bytes, forwards or backwards. -/
def isPlain (o : Collation) : Bool := { o with reverse := false } = bytes

/-- The letters of the order, in their own order, if they contradict each
other. -/
def conflict? (o : Collation) : Option String :=
  let has (k : Sense) : Bool := o.senses.contains k
  let others := has .version || has .shuffled || o.ignored.isSome
  let numbers := [Sense.number, .general, .human, .month].filter has
  if numbers.length + others.toNat ≤ 1 then none
  else
    let letters := (if o.ignored = some .punctuation then ['d'] else []) ++ (if o.folds then ['f'] else [])
      ++ (if has .general then ['g'] else []) ++ (if has .human then ['h'] else [])
      ++ (if o.ignored = some .hidden then ['i'] else []) ++ (if has .month then ['M'] else [])
      ++ (if has .number then ['n'] else []) ++ (if has .shuffled then ['R'] else [])
      ++ (if has .version then ['V'] else [])
    some (String.ofList letters)

/-- What of a text counts. -/
def counted (o : Collation) (s : Octets) : Octets :=
  let s := match o.ignored with
    | some .punctuation => s.filter fun c => isBlank c || c.isAlphanum
    | some .hidden => s.filter fun c => 32 ≤ c.toNat && c.toNat < 127
    | none => s
  if o.folds then s.map Char.toUpper else s

/-- Compares texts of which only what counts is left. -/
def compareCounted (o : Collation) (a b : Octets) : Ordering :=
  let result := match o.senses with
    | sense :: _ => sense.compare a b
    | [] => compareOctets a b
  if o.reverse then result.swap else result

/-- Compares texts. -/
def compare (o : Collation) (a b : Octets) : Ordering := o.compareCounted (o.counted a) (o.counted b)

end Collation

end Shell

end Tangle
