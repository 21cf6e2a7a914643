import Tangle.Shell.Octets
/-!
# What turns one text into another

The lines of two texts that have no partner in the other one are found by
splitting the texts where a shortest way from one to the other has its
middle (`pairOff`). Runs of such lines are then moved as far down as equal
lines let them, or next to a run in the other text (`settle`), and become the
changes that turn the first text into the second (`script`).
-/

namespace Tangle

namespace Shell

namespace Utility

namespace Difference

/-- A change: so many lines from one on in the old text give way to so many
in the new one. Lines are counted from zero. -/
structure Change where
  /-- The first line in the old text. -/
  first : Nat
  /-- The number of lines that vanish. -/
  removed : Nat
  /-- The first line in the new text. -/
  second : Nat
  /-- The number of lines that are new. -/
  added : Nat
deriving Repr, DecidableEq

/-- The flag at a place; there are none outside of the text. -/
def isOn (flags : Array Bool) (n : Nat) : Bool := flags.getD n false

/-! ## The middle of a shortest way -/

/-- The lines at the places of two texts are equal. -/
def meets (a b : Array Octets) (x y : Nat) : Bool :=
  match a[x]?, b[y]? with
  | some l, some m => l == m
  | _, _ => false

/-- The place in the first text where equal lines end that start at `x`. -/
def slideDown (a b : Array Octets) : Nat → Nat → Nat → Nat
  | 0, x, _ => x
  | fuel + 1, x, y => if meets a b x y then slideDown a b fuel (x + 1) (y + 1) else x

/-- The place in the first text where equal lines start that end before
`x`. -/
def slideUp (a b : Array Octets) : Nat → Nat → Nat → Nat
  | 0, x, _ => x
  | fuel + 1, x, y =>
    if 0 < x && 0 < y && meets a b (x - 1) (y - 1) then slideUp a b fuel (x - 1) (y - 1) else x

/-- How far a search has come on diagonals, on which the place in the first
text less that in the second is the same: the diagonals that it has reached,
and the place in the first text on each of them. -/
structure Front where
  /-- The least diagonal. -/
  least : Int
  /-- The greatest diagonal. -/
  greatest : Int
  /-- The places, counted from the least diagonal that there can be. -/
  places : Array Int

namespace Front

/-- The place on a diagonal; `size` is the number of lines of the second
text. -/
def get (f : Front) (size : Nat) (d : Int) : Int := f.places.getD (d + size + 1).toNat 0

/-- A place on a diagonal noted. -/
def set (f : Front) (size : Nat) (d x : Int) : Front := { f with places := f.places.setIfInBounds (d + size + 1).toNat x }

/-- The front with one more diagonal at each side, where there is one; `none'`
is what counts as no place. -/
def widened (f : Front) (lines size : Nat) (none' : Int) : Front :=
  let f : Front := if -(size : Int) < f.least then { f.set size (f.least - 2) none' with least := f.least - 1 }
    else { f with least := f.least + 1 }
  if f.greatest < (lines : Int) then { f.set size (f.greatest + 2) none' with greatest := f.greatest + 1 }
  else { f with greatest := f.greatest - 1 }

/-- The front holds a diagonal. -/
def covers (f : Front) (d : Int) : Bool := f.least ≤ d && d ≤ f.greatest

end Front

/-- Goes one step further from the start on every second diagonal from `d`
down. The first value is the place where the search from the end is met. -/
def stepDown (a b : Array Octets) (meeting : Front → Int → Int → Bool) : Nat → Int → Front → Option (Int × Int) × Front
  | 0, _, f => (none, f)
  | fuel + 1, d, f =>
    if d < f.least then (none, f)
    else
      let low := f.get b.size (d - 1)
      let high := f.get b.size (d + 1)
      let start := if low < high then high else low + 1
      let x : Int := slideDown a b (a.size + 1) start.toNat (start - d).toNat
      let f := f.set b.size d x
      if meeting f d x then (some (x, x - d), f) else stepDown a b meeting fuel (d - 2) f

/-- Goes one step further from the end on every second diagonal from `d`
down. The first value is the place where the search from the start is met. -/
def stepUp (a b : Array Octets) (meeting : Front → Int → Int → Bool) : Nat → Int → Front → Option (Int × Int) × Front
  | 0, _, f => (none, f)
  | fuel + 1, d, f =>
    if d < f.least then (none, f)
    else
      let low := f.get b.size (d - 1)
      let high := f.get b.size (d + 1)
      let start := if low < high then low else high - 1
      let x : Int := slideUp a b (a.size + 1) start.toNat (start - d).toNat
      let f := f.set b.size d x
      if meeting f d x then (some (x, x - d), f) else stepUp a b meeting fuel (d - 2) f

/-- Searches from both ends in turns until they meet. -/
def searchMiddle (a b : Array Octets) : Nat → Front → Front → Int × Int
  | 0, _, _ => (a.size, b.size)
  | fuel + 1, down, up =>
    let beyond : Int := a.size + b.size + 2
    let isOdd := (a.size + b.size) % 2 = 1
    let steps := a.size + b.size + 2
    let wide := down.widened a.size b.size (-1)
    match stepDown a b (fun _ d x => isOdd && up.covers d && up.get b.size d ≤ x) steps wide.greatest wide with
    | (some place, _) => place
    | (none, down) =>
      let wide := up.widened a.size b.size beyond
      match stepUp a b (fun _ d x => !isOdd && down.covers d && x ≤ down.get b.size d) steps wide.greatest wide with
      | (some place, _) => place
      | (none, up) => searchMiddle a b fuel down up

/-- A place in two texts on a shortest way from one to the other, in the
middle of it. -/
def middle (a b : Array Octets) : Nat × Nat :=
  let places := Array.replicate (a.size + b.size + 4) (0 : Int)
  let end' : Int := (a.size : Int) - b.size
  let down := (Front.mk 0 0 places).set b.size 0 0
  let up := (Front.mk end' end' places).set b.size end' a.size
  let (x, y) := searchMiddle a b (a.size + b.size + 1) down up
  (x.toNat, y.toNat)

/-! ## Lines without a partner -/

/-- Which lines of two texts have no partner in the other one. -/
def pairOff : Nat → Array Octets → Array Octets → List Bool × List Bool
  | 0, a, b => (List.replicate a.size true, List.replicate b.size true)
  | fuel + 1, a, b =>
    let front := slideDown a b (a.size + 1) 0 0
    let a' := a.extract front a.size
    let b' := b.extract front b.size
    let back := a'.size - slideUp a' b' (a'.size + 1) a'.size b'.size
    let a'' := a'.extract 0 (a'.size - back)
    let b'' := b'.extract 0 (b'.size - back)
    let inner : List Bool × List Bool :=
      if a''.isEmpty || b''.isEmpty then (List.replicate a''.size true, List.replicate b''.size true)
      else
        let (x, y) := middle a'' b''
        let (p, q) := pairOff fuel (a''.extract 0 x) (b''.extract 0 y)
        let (r, t) := pairOff fuel (a''.extract x a''.size) (b''.extract y b''.size)
        (p ++ r, q ++ t)
    let around (flags : List Bool) : List Bool := List.replicate front false ++ flags ++ List.replicate back false
    (around inner.1, around inner.2)

/-- Flags for the lines of a text, from those of its lines that are
`kept`. -/
def spread : List Bool → List Bool → List Bool
  | [], _ => []
  | false :: kept, flags => true :: spread kept flags
  | true :: kept, flags => flags.head?.getD true :: spread kept (flags.drop 1)

/-- Which lines have no partner, where those that do not occur in the other
text at all are left out before. -/
def unpaired (minimal : Bool) (a b : Array Octets) : Array Bool × Array Bool :=
  let keptIn (x y : Array Octets) : List Bool := x.toList.map fun l => minimal || y.contains l
  let kept := (keptIn a b, keptIn b a)
  let remaining (x : Array Octets) (kept : List Bool) : Array Octets :=
    (((x.toList.zip kept).filter Prod.snd).map Prod.fst).toArray
  let (x, y) := (remaining a kept.1, remaining b kept.2)
  let (p, q) := pairOff (x.size + y.size + 1) x y
  ((spread kept.1 p).toArray, (spread kept.2 q).toArray)

/-! ## Moving runs -/

/-- A run of flagged lines that is moved: the flags of its text, where it
starts and ends, and the place in the other text. -/
structure Run where
  /-- The flags. -/
  flags : Array Bool
  /-- The first line of the run. -/
  start : Nat
  /-- The line after it. -/
  stop : Nat
  /-- The place in the other text. -/
  other : Nat
  /-- The last line after the run where there was a run in the other text
  too. -/
  beside : Option Nat

/-- The place of the line without a flag before a place. -/
def lineBefore (flags : Array Bool) : Nat → Nat
  | 0 => 0
  | n + 1 => if isOn flags n then lineBefore flags n else n

/-- The first place from `n` on without a flag. -/
def lineFrom (flags : Array Bool) : Nat → Nat → Nat
  | 0, n => n
  | fuel + 1, n => if isOn flags n then lineFrom flags fuel (n + 1) else n

/-- The start of the run of flags that ends before a place. -/
def runStart (flags : Array Bool) : Nat → Nat
  | 0 => 0
  | n + 1 => if isOn flags n then runStart flags n else n + 1

namespace Run

/-- The run with its first line one before and its last line one less. -/
def oneUp (other : Array Bool) (r : Run) : Run :=
  let flags := (r.flags.setIfInBounds (r.start - 1) true).setIfInBounds (r.stop - 1) false
  { r with flags, start := r.start - 1, stop := r.stop - 1, other := lineBefore other r.other }

/-- The run as far up as equal lines let it, together with the runs that it
meets. -/
def upward (lines : Array Octets) (other : Array Bool) : Nat → Run → Run
  | 0, r => r
  | fuel + 1, r =>
    if 0 < r.start && lines[r.start - 1]? == lines[r.stop - 1]? then
      let r := r.oneUp other
      upward lines other fuel { r with start := runStart r.flags r.start }
    else r

/-- The run as far down as equal lines let it, together with the runs that it
meets. -/
def downward (lines : Array Octets) (other : Array Bool) : Nat → Run → Run
  | 0, r => r
  | fuel + 1, r =>
    if r.stop < lines.size && lines[r.start]? == lines[r.stop]? then
      let flags := (r.flags.setIfInBounds r.start false).setIfInBounds r.stop true
      let stop := lineFrom flags lines.size (r.stop + 1)
      let next := lineFrom other other.size (r.other + 1)
      let beside := if r.other + 1 < next then some stop else r.beside
      downward lines other fuel { r with flags, start := r.start + 1, stop, other := next, beside }
    else r

/-- The run moved up and down until it grows no more. -/
def moved (lines : Array Octets) (other : Array Bool) : Nat → Run → Run
  | 0, r => r
  | fuel + 1, r =>
    let up := r.upward lines other (lines.size + 1)
    let beside := if 0 < up.other && isOn other (up.other - 1) then some up.stop else none
    let down := { up with beside }.downward lines other (lines.size + 1)
    if down.stop - down.start = r.stop - r.start then down else moved lines other fuel down

/-- The run moved up to the last run in the other text that it has met. -/
def aligned (other : Array Bool) : Nat → Run → Run
  | 0, r => r
  | fuel + 1, r =>
    match r.beside with
    | some n => if n < r.stop then aligned other fuel (r.oneUp other) else r
    | none => r

end Run

/-- The flags of a text with its runs moved, from the places in both texts
on. -/
def settleFrom (lines : Array Octets) (other : Array Bool) : Nat → Nat → Nat → Array Bool → Array Bool
  | 0, _, _, flags => flags
  | fuel + 1, i, j, flags =>
    if lines.size ≤ i then flags
    else if !isOn flags i then settleFrom lines other fuel (i + 1) (lineFrom other other.size j + 1) flags
    else
      let run : Run := ⟨flags, i, lineFrom flags lines.size i, lineFrom other other.size j, none⟩
      let r := (run.moved lines other (lines.size + 1)).aligned other (lines.size + 1)
      settleFrom lines other fuel r.stop r.other r.flags

/-- The flags of a text with its runs moved. -/
def settle (lines : Array Octets) (other flags : Array Bool) : Array Bool :=
  settleFrom lines other (2 * lines.size + 1) 0 0 flags

/-! ## Changes -/

/-- The changes that flags tell, from the places in both texts on. -/
def changesFrom (p q : Array Bool) : Nat → Nat → Nat → List Change
  | 0, _, _ => []
  | fuel + 1, i, j =>
    if isOn p i || isOn q j then
      let i' := lineFrom p p.size i
      let j' := lineFrom q q.size j
      ⟨i, i' - i, j, j' - j⟩ :: changesFrom p q fuel (i' + 1) (j' + 1)
    else if p.size ≤ i && q.size ≤ j then []
    else changesFrom p q fuel (i + 1) (j + 1)

/-- The number of lines at the start of two texts that are equal. -/
def commonFront : List Octets → List Octets → Nat
  | l :: ls, m :: ms => if l = m then commonFront ls ms + 1 else 0
  | _, _ => 0

/-- The changes that turn one text into another. Lines are compared by their
keys; equal lines at both ends but for `margin` of them are left out before.
The ends are not compared if `endsDiffer` is set. -/
def script (minimal endsDiffer : Bool) (margin : Nat) (key : Octets → Octets) (a b : List Octets) : List Change :=
  let front := commonFront a b - margin
  let (a, b) := (a.drop front, b.drop front)
  let common := if endsDiffer then 0 else commonFront a.reverse b.reverse
  let back := common - margin
  let keys (ls : List Octets) : Array Octets := ((ls.take (ls.length - back)).map key).toArray
  let (x, y) := (keys a, keys b)
  let (p, q) := unpaired minimal x y
  let p := settle x q p
  let q := settle y p q
  (changesFrom p q (x.size + y.size + 2) 0 0).map fun c => { c with first := c.first + front, second := c.second + front }

end Difference

end Utility

end Shell

end Tangle
