import Tangle.Text.Utf8
/-!
# Octets

Commands are strings of bytes, not of characters: a run block reaches its
interpreter byte for byte. The command language only gives a meaning to
bytes of the ASCII range, so it is read from characters U+0000 to U+00FF,
each of which stands for one byte.
-/

namespace Tangle

/-- Characters up to U+00FF, each standing for one byte. -/
abbrev Octets := List Char

namespace Octets

/-- The characters that stand for bytes. -/
def ofBytes (bytes : Bytes) : Octets :=
  bytes.map fun b => Char.ofNat b.toNat

/-- The bytes that characters stand for. -/
def toBytes (s : Octets) : Bytes :=
  s.map fun c => UInt8.ofNat c.toNat

/-- The octets of a text. -/
def ofString (s : String) : Octets :=
  ofBytes (Utf8.ofString s)

/-- The text of octets. -/
def text (s : Octets) : String :=
  Utf8.text (toBytes s)

/-! ## Characters of several octets -/

/-- The character that stands for an octet which is no part of a character. -/
def stray (c : Char) : Char := Char.ofNat (0x10FF00 + c.toNat)

/-- The character stands for an octet which is no part of a character. -/
def isStray (c : Char) : Bool := 0x10FF00 ≤ c.toNat

/-- The number of octets of a character that starts with this one, if one
does. -/
def charLength (c : Char) : Nat :=
  let n := c.toNat
  if n < 0x80 then 1
  else if n < 0xC2 then 0
  else if n < 0xE0 then 2
  else if n < 0xF0 then 3
  else if n < 0xF5 then 4
  else 0

/-- The character at the front, and what follows. -/
def front? : Octets → Option (Char × Octets)
  | [] => none
  | c :: s =>
    if c.toNat < 0x80 then some (c, s)
    else
      let n := charLength c
      let bytes := toBytes ((c :: s).take n)
      match Utf8.decode bytes with
      | [d] => some (if Utf8.encode [d] = bytes then (d, (c :: s).drop n) else (stray c, s))
      | _ => some (stray c, s)

/-- The characters, at most so many. -/
def charsUpTo : Nat → Octets → List Char
  | 0, _ => []
  | fuel + 1, s =>
    match front? s with
    | some (c, rest) => c :: charsUpTo fuel rest
    | none => []

/-- The characters. -/
def chars (s : Octets) : List Char := charsUpTo s.length s

/-- The octets of a character. -/
def ofChar (c : Char) : Octets :=
  if isStray c then [Char.ofNat (c.toNat - 0x10FF00)]
  else if c.toNat < 0x80 then [c]
  else ofBytes (Utf8.encode [c])

/-- The octets of characters. -/
def ofChars (cs : List Char) : Octets := cs.flatMap ofChar

/-- The text with its characters changed. -/
def mapChars (f : Char → Char) (s : Octets) : Octets :=
  ofChars ((chars s).map fun c => if isStray c then c else f c)

/-- The natural number that decimal digits write. -/
def nat? (s : Octets) : Option Nat :=
  if s.isEmpty || !s.all Char.isDigit then none
  else some (s.foldl (fun n c => n * 10 + (c.toNat - 48)) 0)

/-- The value of a digit. -/
def digitValue (c : Char) : Nat :=
  if c.isDigit then c.toNat - 48 else c.toLower.toNat - 87

/-- The natural number that digits write in a base. -/
def inBase? (base : Nat) (s : Octets) : Option Nat :=
  if s.isEmpty || s.any (fun c => base ≤ digitValue c) then none
  else some (s.foldl (fun n c => n * base + digitValue c) 0)

/-- The natural number that a numeral writes: sixteen is the base after
`0x`, eight after another zero. -/
def numeral? : Octets → Option Nat
  | '0' :: 'x' :: s => inBase? 16 s
  | '0' :: 'X' :: s => inBase? 16 s
  | '0' :: c :: s => inBase? 8 (c :: s)
  | s => inBase? 10 s

/-- The whole number that a natural number with an optional sign writes. -/
def signed? (natural? : Octets → Option Nat) : Octets → Option Int
  | '-' :: s => (natural? s).map fun n => -(n : Int)
  | '+' :: s => (natural? s).map fun n => (n : Int)
  | s => (natural? s).map fun n => (n : Int)

/-- The whole number that decimal digits with an optional sign write. -/
def int? : Octets → Option Int := signed? nat?

/-- The texts between the occurrences of a character. -/
def splitOn (separator : Char) : Octets → List Octets
  | [] => [[]]
  | c :: s =>
    if c = separator then [] :: splitOn separator s
    else
      match splitOn separator s with
      | [] => [[c]]
      | t :: ts => (c :: t) :: ts

/-- The lines of octets, without their ends. -/
def lines : Octets → List Octets
  | [] => []
  | '\n' :: s => [] :: lines s
  | c :: s =>
    match lines s with
    | l :: ls => if s.head? = some '\n' then [c] :: ls else (c :: l) :: ls
    | [] => [[c]]

end Octets

end Tangle
