import Tangle.Shell.Calendar
import Tangle.Shell.Real
/-!
# Formatted printing

What `echo` and `printf` print. Both know the usual escapes after a
backslash; `printf` fills the directives of a format from its arguments and
uses the format again while arguments are left.
-/

namespace Tangle

namespace Shell

namespace Format

/-- A digit of octal numbers. -/
def isOctal (c : Char) : Bool := '0' ≤ c && c ≤ '7'

/-- The character that octal digits write. -/
def octal (digits : Octets) : Char :=
  Char.ofNat (digits.foldl (fun n c => n * 8 + (c.toNat - 48)) 0 % 256)

/-- The character that an escape letter stands for. -/
def escaped? (c : Char) : Option Char :=
  match c with
  | 'a' => some '\x07'
  | 'b' => some '\x08'
  | 'e' => some '\x1b'
  | 'f' => some '\x0c'
  | 'n' => some '\n'
  | 'r' => some '\r'
  | 't' => some '\t'
  | 'v' => some '\x0b'
  | '\\' => some '\\'
  | _ => none

/-- An octal escape after the backslash: up to three digits, which a zero
may precede if `zero` is set. -/
def octalEscape? (zero : Bool) (s : Octets) : Option (Char × Octets) :=
  let body := if zero && s.head? = some '0' then s.drop 1 else s
  let digits := (body.take 3).takeWhile isOctal
  if digits.isEmpty && body.length = s.length then none else some (octal digits, body.drop digits.length)

/-- A hexadecimal escape after the backslash: `x` with up to two digits, or
with `scalars` also `u` with up to four and `U` with up to eight, which name
a character. -/
def hexEscape? (scalars : Bool) (s : Octets) : Option (Octets × Octets) :=
  let read (count : Nat) (r : Octets) : Option (Nat × Octets) :=
    let ds := (r.take count).takeWhile fun c => c.isDigit || ('a' ≤ c.toLower && c.toLower ≤ 'f')
    (Octets.inBase? 16 ds).map fun n => (n, r.drop ds.length)
  match s with
  | 'x' :: r => (read 2 r).map fun (n, r) => ([Char.ofNat n], r)
  | 'u' :: r => if scalars then (read 4 r).map fun (n, r) => (Octets.ofString (Char.ofNat n).toString, r) else none
  | 'U' :: r => if scalars then (read 8 r).map fun (n, r) => (Octets.ofString (Char.ofNat n).toString, r) else none
  | _ => none

/-- Which escapes there are. -/
structure Escapes where
  /-- Octal numbers may have a zero in front. -/
  zero : Bool
  /-- Octal numbers need a zero in front. -/
  needsZero : Bool
  /-- There are hexadecimal numbers. -/
  hex : Bool
  /-- There are numbers of characters. -/
  scalars : Bool
  /-- A capital letter stands for the escape character too. -/
  capital : Bool
  /-- The characters that only lose their backslash. -/
  bare : String
deriving Repr, DecidableEq

namespace Escapes

/-- The escapes of the plain `echo` and of texts in `printf`. -/
def plain : Escapes := ⟨true, false, false, false, false, ""⟩

/-- The escapes of the plain `printf`. -/
def plainFormat : Escapes := ⟨false, false, false, false, false, ""⟩

/-- The escapes of the further `echo`. -/
def wide : Escapes := ⟨true, true, true, true, true, ""⟩

/-- The escapes of texts in the further `printf`. -/
def wideText : Escapes := ⟨true, false, true, true, true, ""⟩

/-- The escapes of the further `printf`. -/
def wideFormat : Escapes := ⟨false, false, true, true, true, "\"'?"⟩

/-- The escapes of the program `echo`. -/
def program : Escapes := ⟨true, false, true, false, false, ""⟩

/-- The escapes of texts in the program `printf`. -/
def programText : Escapes := ⟨true, false, true, true, false, "\""⟩

/-- The escapes of the program `printf`. -/
def programFormat : Escapes := ⟨false, false, true, true, false, "\""⟩

end Escapes

/-- What an escape after its backslash stands for, and the rest; nothing if
it is none. -/
def escape? (e : Escapes) (s : Octets) : Option (Octets × Octets) :=
  match if e.needsZero && s.head? ≠ some '0' then none else octalEscape? e.zero s with
  | some (c, rest) => some ([c], rest)
  | none =>
    match if e.hex then hexEscape? e.scalars s else none with
    | some found => some found
    | none =>
      match s with
      | c :: rest =>
        match escaped? c with
        | some d => some ([d], rest)
        | none =>
          if c = 'E' && e.capital then some (['\x1b'], rest)
          else if e.bare.toList.contains c then some ([c], rest)
          else none
      | [] => none

/-- The text with its escapes replaced. The second value tells that the
text ends all output, by the escape `\c`. -/
def unescape (e : Escapes) : Nat → Octets → Octets × Bool
  | 0, _ => ([], false)
  | _ + 1, [] => ([], false)
  | fuel + 1, '\\' :: s =>
    match s with
    | 'c' :: _ => ([], true)
    | s =>
      match escape? e s with
      | some (shown, rest) => (unescape e fuel rest).map (shown ++ ·) id
      | none =>
        match s with
        | [] => (['\\'], false)
        | c :: rest => (unescape e fuel rest).map ('\\' :: c :: ·) id
  | fuel + 1, c :: s => (unescape e fuel s).map (c :: ·) id

/-- What `echo` prints: the arguments with blanks between them and a line
end, which the option `-n` or an escape suppresses. -/
def echo (args : List Octets) : Octets :=
  let (noEnd, args) := match args with
    | ['-', 'n'] :: rest => (true, rest)
    | args => (false, args)
  let text := List.intercalate [' '] args
  let (shown, stopped) := unescape .plain (text.length + 1) text
  if noEnd || stopped then shown else shown ++ ['\n']

/-- What `echo` prints where backslashes only have a meaning after the
option `-e`. -/
def wideEcho (e : Escapes) (args : List Octets) : Octets :=
  let isOption (a : Octets) : Bool :=
    a.head? = some '-' && 1 < a.length && (a.drop 1).all fun c => c = 'n' || c = 'e' || c = 'E'
  let letters := (args.takeWhile isOption).flatten
  let text := List.intercalate [' '] (args.dropWhile isOption)
  let escapes := (letters.filter fun c => c = 'e' || c = 'E').getLast? = some 'e'
  let (shown, stopped) := if escapes then unescape e (text.length + 1) text else (text, false)
  if stopped || letters.contains 'n' then shown else shown ++ ['\n']

/-- How a directive places its text. -/
structure Layout where
  /-- The text stands at the left. -/
  left : Bool
  /-- Numbers are filled with zeros. -/
  zeros : Bool
  /-- Numbers that are not negative have a plus. -/
  plus : Bool
  /-- Numbers that are not negative have a blank in front. -/
  blank : Bool
  /-- Numbers show their base, and always a point. -/
  alternate : Bool
  /-- The least width. -/
  width : Nat
  /-- The precision, if given. -/
  precision : Option Nat
deriving Repr, DecidableEq

/-- A text filled up to the width of its directive. -/
def Layout.pad (l : Layout) (s : Octets) : Octets :=
  let missing := l.width - s.length
  if l.left then s ++ List.replicate missing ' ' else List.replicate missing ' ' ++ s

/-- A number with what stands before its digits, filled up to the width. -/
def Layout.padNumber (l : Layout) (zeros : Bool) (front digits : Octets) : Octets :=
  if zeros && l.zeros && !l.left then
    front ++ List.replicate (l.width - front.length - digits.length) '0' ++ digits
  else l.pad (front ++ digits)

/-- What stands before the digits of a number. -/
def Layout.sign (l : Layout) (negative : Bool) : Octets :=
  if negative then ['-'] else if l.plus then ['+'] else if l.blank then [' '] else []

/-- The digits of a whole number, at least as many as the precision. -/
def Layout.digits (l : Layout) (ds : Octets) : Octets :=
  match l.precision with
  | some 0 => if ds = ['0'] then [] else ds
  | some n => Binary.padZeros n ds
  | none => ds

/-- A whole number with its sign. -/
def Layout.signed (l : Layout) (n : Int) : Octets :=
  l.padNumber l.precision.isNone (l.sign (n < 0)) (l.digits (toString n.natAbs).toList)

/-- A natural number in the base of a letter. -/
def Layout.unsigned (l : Layout) (letter : Char) (n : Nat) : Octets :=
  let ds : Octets := match letter with
    | 'o' => Nat.toDigits 8 n
    | 'x' => Nat.toDigits 16 n
    | 'X' => (Nat.toDigits 16 n).map Char.toUpper
    | _ => (toString n).toList
  let ds := l.digits ds
  let ds := if l.alternate && letter = 'o' && ds.head? ≠ some '0' then '0' :: ds else ds
  let front : Octets := if l.alternate && n ≠ 0 && (letter = 'x' || letter = 'X') then ['0', letter] else []
  l.padNumber l.precision.isNone front ds

/-- The bits before the point of a number of so many bits, if it is written
in hexadecimal digits. -/
def leadingBits (bits : Nat) : Nat := if bits = 64 then 4 else 1

/-- A number with a fraction, as its letter says, out of those that have so
many bits. -/
def Layout.real (l : Layout) (bits : Nat) (letter : Char) (x : Real) : Octets :=
  let upper (s : String) : Octets := if letter.isUpper then s.toList.map Char.toUpper else s.toList
  match x with
  | .infinite n => l.padNumber false (l.sign n) (upper "inf")
  | .undefined n => l.padNumber false (l.sign n) (upper "nan")
  | .finite n x =>
    let places := l.precision.getD 6
    let ds := match letter with
      | 'f' | 'F' => x.fixed places l.alternate
      | 'e' | 'E' => x.scientific places l.alternate letter
      | 'a' | 'A' => (x.hexadecimal bits (leadingBits bits) l.precision l.alternate).drop 2
      | 'g' => x.general places l.alternate 'e'
      | _ => x.general places l.alternate 'E'
    match letter with
    | 'a' => l.padNumber true (l.sign n ++ ['0', 'x']) ds
    | 'A' => l.padNumber true (l.sign n ++ ['0', 'X']) (ds.map Char.toUpper)
    | _ => l.padNumber true (l.sign n) ds

/-- What a directive tells of a number that stands elsewhere. -/
inductive Measure where
  /-- The number is given here, or not at all. -/
  | given (n : Option Nat)
  /-- The number is the next argument. -/
  | argument
deriving Repr, DecidableEq

/-- A directive of a format. -/
structure Directive where
  /-- The text of the directive. -/
  text : Octets
  /-- The flags. -/
  flags : Octets
  /-- The least width. -/
  width : Measure
  /-- The precision. -/
  precision : Measure
  /-- What kind of text it is. -/
  letter : Option Char

/-- A directive after its percent sign, and what follows it. The letters
`modifiers` may stand before the last one, without a meaning. -/
def directive (modifiers : Octets) (s : Octets) : Directive × Octets :=
  let isFlag (c : Char) := "-0+ #".toList.contains c
  let measure (s : Octets) : Measure × Octets :=
    match s with
    | '*' :: r => (.argument, r)
    | s => (.given (Octets.nat? (s.takeWhile Char.isDigit)), s.dropWhile Char.isDigit)
  let flags := s.takeWhile isFlag
  let (width, rest) := measure (s.dropWhile isFlag)
  let (precision, rest) : Measure × Octets := match rest with
    | '.' :: r =>
      match measure r with
      | (.given n, r) => (.given (some (n.getD 0)), r)
      | m => m
    | r => (.given none, r)
  let rest := rest.dropWhile modifiers.contains
  let rest' := rest.drop 1
  (⟨'%' :: s.take (s.length - rest'.length), flags, width, precision, rest.head?⟩, rest')

/-- A complaint about an argument. -/
inductive Doubt where
  /-- It is no number. -/
  | notNumber (arg : Octets)
  /-- Only its front is a number. -/
  | trailing (arg : Octets)
  /-- It is beyond all numbers. -/
  | beyond (arg : Octets)
  /-- This stands where the letter of a time has to. -/
  | notTime (letter : Option Char)
deriving Repr, DecidableEq

/-- Why printing ends before its time. -/
inductive Stop where
  /-- An escape says so. -/
  | wanted
  /-- The directive has no meaning. -/
  | invalid (directive : Octets)
  /-- The format ends within a directive. -/
  | missing (directive : Octets)
deriving Repr, DecidableEq

/-- What filling a format has come to. -/
structure Progress where
  /-- The pieces of text so far, the last one first. -/
  text : List Octets
  /-- The arguments that are left. -/
  args : List Octets
  /-- Why nothing more is printed. -/
  stop : Option Stop
  /-- The complaints, the last one first. -/
  doubts : List Doubt
  /-- A directive has taken an argument. -/
  taken : Bool

namespace Progress

/-- Adds text. -/
def add (s : Octets) (p : Progress) : Progress := { p with text := s :: p.text }

/-- Takes the next argument. -/
def takeArg (p : Progress) : Octets × Progress :=
  (p.args.head?.getD [], { p with args := p.args.drop 1, taken := true })

/-- Adds a complaint. -/
def doubt (d : Doubt) (p : Progress) : Progress := { p with doubts := d :: p.doubts }

/-- What is wrong with the rest after the number of an argument. -/
def checkRest (arg rest : Octets) (isNumber beyond : Bool) (p : Progress) : Progress :=
  if !isNumber then (if arg.isEmpty then p else p.doubt (.notNumber arg))
  else if !rest.isEmpty then p.doubt (.trailing arg)
  else if beyond then p.doubt (.beyond arg)
  else p

/-- Takes a whole number; a quote stands before a character that is meant
by its number. -/
def takeInt (signed : Bool) (p : Progress) : Int × Progress :=
  let (arg, p) := p.takeArg
  match arg with
  | '\'' :: rest | '"' :: rest => ((rest.head?.map fun c => (c.toNat : Int)).getD 0, p)
  | arg =>
    match Numeral.read? none arg with
    | none => (0, p.checkRest arg arg false false)
    | some n =>
      let limit : Int := if signed then Numeral.greatest else Int.pow 2 64 - 1
      let low : Int := if signed then Numeral.least else -(Int.pow 2 64 - 1)
      let beyond := n.value < low || limit < n.value
      let value := if !signed && beyond then limit else max low (min limit n.value)
      (value, p.checkRest arg n.rest true beyond)

/-- Takes a number with a fraction. -/
def takeReal (bits : Nat) (p : Progress) : Real × Progress :=
  let (arg, p) := p.takeArg
  match arg with
  | '\'' :: rest | '"' :: rest => (.finite false (.ofNat ((rest.head?.map Char.toNat).getD 0)), p)
  | arg =>
    match Real.read? bits arg with
    | none => (.finite false .zero, p.checkRest arg arg false false)
    | some (x, rest) => (x, p.checkRest arg rest true false)

/-- The number of a measure. -/
def takeMeasure (m : Measure) (p : Progress) : Option Int × Progress :=
  match m with
  | .given n => (n.map fun n => (n : Int), p)
  | .argument =>
    let (n, p) := p.takeInt true
    (some n, p)

end Progress

/-- How `printf` differs between the dialects. -/
structure Manner where
  /-- The escapes of formats. -/
  escapes : Escapes
  /-- The escapes of texts. -/
  textEscapes : Escapes
  /-- The bits of numbers with a fraction. -/
  bits : Nat
  /-- The directive `%q` quotes an argument. -/
  quote : Option (Octets → Octets)
  /-- The letters without a meaning before the last one of a directive. -/
  modifiers : Octets
  /-- There are directives for times. -/
  hasTimes : Bool
  /-- The escape `\c` in a format ends all output. -/
  canEnd : Bool

/-- The plain `printf`. -/
def Manner.plain : Manner := ⟨.plainFormat, .plain, 53, none, [], false, true⟩

/-- The format of a time up to its closing parenthesis, and what follows. -/
def timeFormat : Nat → Octets → Octets × Octets
  | _, [] => ([], [])
  | depth, c :: s =>
    if c = ')' && depth = 0 then ([], s)
    else
      let depth := if c = '(' then depth + 1 else if c = ')' then depth - 1 else depth
      (timeFormat depth s).map (c :: ·) id

/-- Takes the measures of a directive. -/
def takeLayout (d : Directive) (p : Progress) : Layout × Progress :=
  let (width, p) := p.takeMeasure d.width
  let (precision, p) := p.takeMeasure d.precision
  let left := d.flags.contains '-' || width.any (· < 0)
  (⟨left, d.flags.contains '0', d.flags.contains '+', d.flags.contains ' ', d.flags.contains '#',
    (width.getD 0).natAbs, (precision.filter (0 ≤ ·)).map Int.toNat⟩, p)

/-- Fills a directive for a time. -/
def fillTime (d : Directive) (format : Octets) (p : Progress) : Progress :=
  let (l, p) := takeLayout d p
  let (seconds, p) := p.takeInt true
  let format := if format.isEmpty then ['%', 'X'] else format
  let text := Calendar.write none seconds (format.length + 3) format
  p.add (l.pad (match l.precision with
    | some n => text.take n
    | none => text))

/-- Fills a directive. -/
def fillDirective (m : Manner) (d : Directive) (p : Progress) : Progress :=
  let (l, p) := takeLayout d p
  match d.letter with
  | none => { p with stop := some (.missing d.text) }
  | some 's' =>
    let (arg, p) := p.takeArg
    p.add (l.pad (match l.precision with
      | some n => arg.take n
      | none => arg))
  | some 'b' =>
    let (arg, p) := p.takeArg
    let (text, stopped) := unescape m.textEscapes (arg.length + 1) arg
    let text := match l.precision with
      | some n => text.take n
      | none => text
    let p := p.add (l.pad text)
    if stopped then { p with stop := some .wanted } else p
  | some 'c' =>
    let (arg, p) := p.takeArg
    p.add (l.pad (if arg.isEmpty then ['\x00'] else arg.take 1))
  | some letter =>
    if letter = 'd' || letter = 'i' then
      let (n, p) := p.takeInt true
      p.add (l.signed n)
    else if "ouxX".toList.contains letter then
      let (n, p) := p.takeInt false
      p.add (l.unsigned letter (n.emod (Int.pow 2 64)).toNat)
    else if "aAeEfFgG".toList.contains letter then
      let (x, p) := p.takeReal m.bits
      p.add (l.real m.bits letter x)
    else
      match letter, m.quote with
      | 'q', some quote =>
        let (arg, p) := p.takeArg
        p.add (l.pad (quote arg))
      | _, _ => { p with stop := some (.invalid d.text) }

/-- Fills a format once. -/
def fillOnce (m : Manner) : Nat → Octets → Progress → Progress
  | 0, _, p => p
  | _ + 1, [], p => p
  | fuel + 1, '%' :: '%' :: s, p => fillOnce m fuel s (p.add ['%'])
  | fuel + 1, '%' :: s, p =>
    let (d, rest) := directive m.modifiers s
    if m.hasTimes && d.letter = some '(' then
      match timeFormat 0 rest with
      | (format, 'T' :: rest) => fillOnce m fuel rest (fillTime d format p)
      | (_, rest) => fillOnce m fuel s ((p.doubt (.notTime rest.head?)).add ['%'])
    else
      let p := fillDirective m d p
      if p.stop.isSome then p else fillOnce m fuel rest p
  | fuel + 1, '\\' :: s, p =>
    match escape? m.escapes s with
    | some (shown, rest) => fillOnce m fuel rest (p.add shown)
    | none =>
      match s with
      | 'c' :: rest => if m.canEnd then { p with stop := some .wanted } else fillOnce m fuel rest (p.add ['\\', 'c'])
      | c :: rest => fillOnce m fuel rest (p.add ['\\', c])
      | [] => p.add ['\\']
  | fuel + 1, c :: s, p => fillOnce m fuel s (p.add [c])

/-- Fills a format, again while arguments are left and taken. -/
def fillAll (m : Manner) (format : Octets) : Nat → Progress → Progress
  | 0, p => p
  | fuel + 1, p =>
    let p := fillOnce m (format.length + 1) format { p with taken := false }
    if p.stop.isSome || p.args.isEmpty || !p.taken then p else fillAll m format fuel p

/-- What `printf` makes of a format and its arguments. -/
def printf (m : Manner) (format : Octets) (args : List Octets) : Progress :=
  fillAll m format (args.length + 1) ⟨[], args, none, [], false⟩

/-- The text that was printed. -/
def Progress.output (p : Progress) : Octets := p.text.reverse.flatten

end Format

end Shell

end Tangle
