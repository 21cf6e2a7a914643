import Tangle.Shell.Decimal
import Tangle.Shell.Utility.Amount
import Tangle.Shell.Utility.Paths
/-!
# Showing octets

`od` shows the octets of files as characters or as numbers, in blocks that
have their place in front (`Dump.block`). Blocks that repeat the one before
are left out.
-/

namespace Tangle

namespace Shell

namespace Utility

namespace Dump

/-- How octets are shown. -/
inductive Kind where
  /-- Characters by their names. -/
  | named
  /-- Characters, or octal numbers. -/
  | character
  /-- Numbers with a sign. -/
  | signed
  /-- Numbers without a sign. -/
  | unsigned
  /-- Octal numbers. -/
  | octal
  /-- Hexadecimal numbers. -/
  | hexadecimal
  /-- Fractions. -/
  | fraction
deriving Repr, DecidableEq

/-- A way to show a block. -/
structure Format where
  /-- How octets are shown. -/
  kind : Kind
  /-- So many octets at a time. -/
  size : Nat
  /-- The characters follow at the end. -/
  trailed : Bool

/-- The names of characters that cannot be seen. -/
def names : List String :=
  ["nul", "soh", "stx", "etx", "eot", "enq", "ack", "bel", "bs", "ht", "nl", "vt", "ff", "cr", "so", "si", "dle", "dc1",
   "dc2", "dc3", "dc4", "nak", "syn", "etb", "can", "em", "sub", "esc", "fs", "gs", "rs", "us", "sp"]

/-- A number in a base with zeros in front. -/
def inDigits (base width n : Nat) : Octets :=
  let ds := Nat.toDigits base n
  List.replicate (width - ds.length) '0' ++ ds

/-- An octet as a character or an escape. -/
def asCharacter (c : Char) : Octets :=
  match c with
  | '\x07' => ['\\', 'a']
  | '\x08' => ['\\', 'b']
  | '\x0c' => ['\\', 'f']
  | '\n' => ['\\', 'n']
  | '\r' => ['\\', 'r']
  | '\t' => ['\\', 't']
  | '\x0b' => ['\\', 'v']
  | '\x00' => ['\\', '0']
  | c => if 32 ≤ c.toNat && c.toNat < 127 then [c] else inDigits 8 3 c.toNat

/-- The width of the octal digits of so many octets. -/
def octalWidth (size : Nat) : Nat := (size * 8 + 2) / 3

/-- The width of the decimal digits of so many octets. -/
def decimalWidth (size : Nat) : Nat := (toString (Nat.pow 256 size - 1)).length

/-- The width of what is shown at a time. -/
def Format.width (f : Format) : Nat :=
  match f.kind with
  | .named | .character => 3
  | .signed => if f.size = 8 then 20 else decimalWidth f.size + 1
  | .unsigned => decimalWidth f.size
  | .octal => octalWidth f.size
  | .hexadecimal => 2 * f.size
  | .fraction => if f.size = 4 then 15 else 24

/-- The number that octets stand for, the least part first. -/
def number (octets : Octets) : Nat := octets.reverse.foldl (fun n c => n * 256 + c.toNat) 0

/-- The shortest digits that a fraction `m · 2 ^ e` can be read back from, of
`least` digits or more. -/
def shortest (least m : Nat) (e : Int) : Octets :=
  let x : Binary := ⟨m, e⟩
  let readsBack (digits : Nat) : Bool :=
    let (power, n) := x.decimalForm (digits - 1)
    let power := power - (digits - 1 : Nat)
    let (a, b) : Nat × Nat := if 0 ≤ power then (n * Nat.pow 10 power.toNat, 1) else (n, Nat.pow 10 (-power).toNat)
    let (a, b) : Nat × Nat := if 0 ≤ e then (a, b * Nat.pow 2 e.toNat) else (a * Nat.pow 2 (-e).toNat, b)
    roundRatio a b = m
  let digits := ((List.range 18).find? fun n => least ≤ n && readsBack n).getD 17
  x.general digits false 'e'

/-- The fraction that octets stand for. -/
def fraction (octets : Octets) : Octets :=
  let n := number octets
  let (places, exponents) : Nat × Nat := if octets.length = 4 then (23, 8) else (52, 11)
  let sign := if n / Nat.pow 2 (places + exponents) = 1 then ['-'] else []
  let e := n / Nat.pow 2 places % Nat.pow 2 exponents
  let m := n % Nat.pow 2 places
  let bias : Int := Int.pow 2 (exponents - 1) - 1 + places
  let least := if octets.length = 4 then 6 else 15
  sign ++
    (if e = Nat.pow 2 exponents - 1 then (if m = 0 then "inf" else "nan").toList
    else if e = 0 then (if m = 0 then ['0'] else shortest 1 m (1 - bias))
    else shortest least (Nat.pow 2 places + m) (e - bias))

/-- What is shown for the octets of one number or character. -/
def Format.item (f : Format) (octets : Octets) : Octets :=
  let n := number octets
  match f.kind with
  | .named =>
    let n := n % 128
    if n = 127 then "del".toList else ((names[n]?).map String.toList).getD [Char.ofNat n]
  | .character => asCharacter (octets.head?.getD '\x00')
  | .signed => if 2 * n < Nat.pow 256 f.size then decimal n else '-' :: decimal (Nat.pow 256 f.size - n)
  | .unsigned => decimal n
  | .octal => inDigits 8 (octalWidth f.size) n
  | .hexadecimal => inDigits 16 (2 * f.size) n
  | .fraction => fraction octets

/-! ## Blocks -/

/-- How files are shown. -/
structure Setting where
  /-- The ways to show a block. -/
  formats : List Format
  /-- The base of places, if they are shown, and their width. -/
  place : Option (Nat × Nat)
  /-- The octets of a block. -/
  width : Nat
  /-- Blocks that repeat the one before are shown. -/
  showsAll : Bool
  /-- The octets that are passed over. -/
  skipped : Nat
  /-- The greatest number of octets that are shown. -/
  limit : Option Nat

/-- A place in the files. -/
def Setting.placeText (v : Setting) (n : Nat) : Octets :=
  match v.place with
  | some (base, width) => inDigits base width n
  | none => []

/-- The columns that a block takes at most. -/
def Setting.columns (v : Setting) : Nat :=
  (v.formats.map fun f => (f.width + 1) * (v.width / f.size)).foldl max 0

/-- The items of a row in their columns; `count` items would fill it. -/
def inColumns (width pad count : Nat) (items : List Octets) : Octets :=
  items.zipIdx.flatMap fun (item, k) =>
    -- The pad is spread over the items as evenly as possible.
    padLeft (pad * (count - k) / count - pad * (count - k - 1) / count + width) item

/-- Parts of a length. -/
def parts (size : Nat) : Nat → Octets → List Octets
  | 0, _ => []
  | fuel + 1, s => if s.isEmpty then [] else s.take size :: parts size fuel (s.drop size)

/-- The characters at the end of a row. -/
def trailer (octets : Octets) : Octets :=
  "  >".toList ++ octets.map (fun c => if 32 ≤ c.toNat && c.toNat < 127 then c else '.') ++ ['<']

/-- The rows of a block that lies at a place. -/
def Setting.block (v : Setting) (place : Nat) (octets : Octets) : Octets :=
  v.formats.zipIdx.flatMap fun (f, k) =>
    let count := v.width / f.size
    let pad := v.columns - f.width * count
    let items := (parts f.size (octets.length + 1) octets).map fun p =>
      f.item (p ++ List.replicate (f.size - p.length) '\x00')
    let missing := (v.width - octets.length) / f.size
    let start := v.placeText place
    (if k = 0 then start else start.map fun _ => ' ') ++ inColumns f.width pad count items
      ++ (if f.trailed then List.replicate (missing * f.width + pad * missing / count) ' ' ++ trailer octets else [])
      ++ ['\n']

/-- All blocks from a place on, and the place behind them. -/
def Setting.blocks (v : Setting) : Nat → Nat → Option Octets → Bool → Octets → List Octets
  | 0, _, _, _, _ => []
  | fuel + 1, place, last, repeats, text =>
    if text.isEmpty then [if v.place.isNone then [] else v.placeText place ++ ['\n']]
    else
      let octets := text.take v.width
      let rest := text.drop v.width
      let next := place + octets.length
      if !v.showsAll && octets.length = v.width && last = some octets then
        (if repeats then [] else ['*', '\n']) :: v.blocks fuel next last true rest
      else v.block place octets :: v.blocks fuel next (some octets) false rest

/-! ## Options -/

/-- The format at the front of a list of types, and what follows. -/
def readFormat (list : Octets) : Octets → Except String (Format × Octets)
  | [] => .error ""
  | c :: s =>
    let kind? : Option Kind := match c with
      | 'a' => some .named
      | 'c' => some .character
      | 'd' => some .signed
      | 'u' => some .unsigned
      | 'o' => some .octal
      | 'x' => some .hexadecimal
      | 'f' => some .fraction
      | _ => none
    let ended (kind : Kind) (size : Nat) (s : Octets) : Except String (Format × Octets) :=
      match s with
      | 'z' :: s => .ok (⟨kind, size, true⟩, s)
      | s => .ok (⟨kind, size, false⟩, s)
    match kind? with
    | none =>
      .error ("invalid character '" ++ Octets.text [c] ++ "' in type string " ++ curly list)
    | some kind =>
      if kind = .named || kind = .character then ended kind 1 s
      else
        let isFraction := kind = .fraction
        let digits := s.takeWhile Char.isDigit
        let named : Option (Nat × Octets) := match s with
          | 'C' :: s => if isFraction then none else some (1, s)
          | 'S' :: s => if isFraction then none else some (2, s)
          | 'I' :: s => if isFraction then none else some (4, s)
          | 'L' :: s => if isFraction then none else some (8, s)
          | 'F' :: s => if isFraction then some (4, s) else none
          | 'D' :: s => if isFraction then some (8, s) else none
          | _ => none
        match named with
        | some (size, s) => ended kind size s
        | none =>
          if digits.isEmpty then ended kind (if isFraction then 8 else 4) s
          else
            let size := (Octets.nat? digits).getD 0
            if (if isFraction then [4, 8] else [1, 2, 4, 8]).contains size then ended kind size (s.drop digits.length)
            else if Nat.pow 2 31 ≤ size then .error ("invalid type string " ++ curly list)
            else .error ("invalid type string " ++ curly list ++ ";\nthis system doesn't provide a " ++ toString size
              ++ "-byte " ++ (if isFraction then "floating point" else "integral") ++ " type")

/-- The formats that a list of types names. -/
def readFormats (list : Octets) : Nat → Octets → Except String (List Format)
  | 0, _ => .ok []
  | fuel + 1, s =>
    if s.isEmpty then .ok []
    else do
      let (f, rest) ← readFormat list s
      return f :: (← readFormats list fuel rest)

/-- The list of types that a letter stands for. -/
def typesOf? (letter : Char) : Option String :=
  match letter with
  | 'a' => some "a"
  | 'b' => some "o1"
  | 'c' => some "c"
  | 'D' => some "u4"
  | 'd' => some "u2"
  | 'e' | 'F' => some "f8"
  | 'f' => some "f4"
  | 'H' | 'X' => some "x4"
  | 'h' | 'x' => some "x2"
  | 'I' | 'L' | 'l' => some "d8"
  | 'i' => some "d4"
  | 'O' => some "o4"
  | 'o' | 'B' => some "o2"
  | 's' => some "d2"
  | _ => none

/-- The units of the numbers of options. -/
def units : String := "bEGKkMmPTYZ0"

/-- The number of an option, whose digits may be octal or hexadecimal. -/
def count? (letter : Char) (s : Octets) : Except Problem Nat :=
  let n := match Numeral.natural? none s with
    | some (n, unit) => (Amount.factor? units unit).map (n * ·)
    | none => none
  match n with
  | some n => .ok n
  | none => .error (.value ("invalid -" ++ String.singleton letter ++ " argument '" ++ Octets.text s ++ "'"))

/-- The octets that are passed over, by an operand as in `+10` or `+0x1f`. A
`b` at the end counts blocks. -/
def offset? (s : Octets) : Option Nat :=
  let body := if s.head? = some '+' then s.drop 1 else s
  if s.head? ≠ some '+' && !s.head?.any Char.isDigit then none
  else
    let (digits, factor) : Octets × Nat := if body.getLast? = some 'b' then (body.dropLast, 512) else (body, 1)
    let n := match digits with
      | '0' :: 'x' :: ds => Octets.inBase? 16 ds
      | ds => if ds.all fun c => '0' ≤ c && c ≤ '7' then Octets.inBase? 8 ds else none
    n.map (· * factor)

/-- The file is a device, of which any number of octets can be passed over. -/
def isDevice (file : Octets) (s : State) : Bool :=
  if file = ['-'] then
    match (s.stream? 0).map Stream.target with
    | some (.device _) => true
    | _ => false
  else
    match s.lookup (State.path file) with
    | .ok (.device _) => true
    | _ => false

/-- The setting without options. -/
def Setting.standard : Setting := ⟨[], some (8, 7), 16, false, 0, none⟩

/-- What an option adds to the setting. -/
def Setting.with? (v : Setting) (o : Char × Octets) : Except Problem Setting :=
  match typesOf? o.1, o.1 with
  | some types, _ => ((readFormats types.toList (types.length + 1) types.toList).mapError Problem.value).map fun fs =>
      { v with formats := v.formats ++ fs }
  | none, 't' => ((readFormats o.2 (o.2.length + 1) o.2).mapError Problem.value).map fun fs =>
      { v with formats := v.formats ++ fs }
  | none, 'A' =>
    match o.2.head? with
    | some 'o' => .ok { v with place := some (8, 7) }
    | some 'd' => .ok { v with place := some (10, 7) }
    | some 'x' => .ok { v with place := some (16, 6) }
    | some 'n' => .ok { v with place := none }
    | c => .error (.value ("invalid output address radix '" ++ Octets.text c.toList
        ++ "'; it must be one character from [doxn]"))
  | none, 'j' => (count? 'j' o.2).map fun skipped => { v with skipped }
  | none, 'N' => (count? 'N' o.2).map fun n => { v with limit := some n }
  | none, 'v' => .ok { v with showsAll := true }
  | none, 'w' => if o.2.isEmpty then .ok { v with width := 32 } else (count? 'w' o.2).map fun width => { v with width }
  | none, _ => .ok v

/-- The setting that options ask for. -/
def Setting.of (options : List (Char × Octets)) : Except Problem Setting :=
  (options.foldlM (fun v o => Setting.with? v o) standard).map fun v =>
    { v with formats := if v.formats.isEmpty then [⟨.octal, 2, false⟩] else v.formats }

/-- The setting with a width that fits all formats. The first value is the
warning about one that does not. -/
def Setting.fitted (v : Setting) : Option String × Setting :=
  let unit := (v.formats.map Format.size).foldl max 1
  if v.width % unit = 0 && 0 < v.width then (none, v)
  else
    (some ("warning: invalid width " ++ toString v.width ++ "; using " ++ toString unit ++ " instead"),
      { v with width := unit })

end Dump

/-- Shows octets as characters or numbers. -/
def od : Utility :=
  withSetting ⟨"aBbcDdeFfHhIiLlOosvXx", "AjNStε", "w", [("skip-bytes", 'j'), ("address-radix", 'A'), ("read-bytes", 'N'),
      ("format", 't'), ("output-duplicates", 'v'), ("strings", 'S'), ("width", 'w')], false, 1⟩ Dump.Setting.of
    fun i v s =>
      let isModern := i.options.any fun o => "AjNStvw".toList.contains o.1
      let (files, skipped) : List Octets × Nat :=
        match if isModern then [] else i.operands with
        | [o] => if o.head? = some '+' then
            (match Dump.offset? o with
              | some n => ([], n)
              | none => ([o], v.skipped))
          else ([o], v.skipped)
        | [o, p] =>
          match Dump.offset? p with
          | some n => ([o], n)
          | none => ([o, p], v.skipped)
        | _ => (i.operands, v.skipped)
      let (warning, v) := { v with skipped }.fitted
      let files := if files.isEmpty then [['-']] else files
      let wanted := v.limit.map (v.skipped + ·)
      -- No more is read than is shown.
      let (texts, isRead, s) := files.foldl (fun ((texts : List Octets), isRead, s) o =>
        let known := (texts.map List.length).foldl (· + ·) 0
        if wanted.any (· ≤ known) then (texts, isRead, s)
        else
          match content o s with
          | (.ok text, s) =>
            let part := match wanted with
              | some n => text.take (n - known)
              | none => text
            let left := text.drop part.length
            (texts ++ [part], true,
              if o ≠ ['-'] then s else if s.readsFile then s.giveBack 0 left.length else s.putBack 0 left)
          | (.error fault, s) => (texts, isRead || fault = .isADirectory, i.complainOf o fault s)) ([], false, s)
      let text := texts.flatten
      if text.length < v.skipped && !files.any (Dump.isDevice · s) then
        if isRead then i.complain "cannot skip past end of combined input" s else s
      else if !isRead && s.status ≠ 0 then s
      else
        let s := match warning with
          | some w => s.complain (i.name ++ ": " ++ w)
          | none => s
        s.print (v.blocks (text.length + 2) v.skipped none false (text.drop v.skipped)).flatten

end Utility

end Shell

end Tangle
