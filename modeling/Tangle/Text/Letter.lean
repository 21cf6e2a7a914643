import Tangle.Text.Blank
/-!
# Letters

What characters beyond the ASCII range are: letters, with their other case
where the two are apart by a rule, blanks, characters that take two columns,
and characters that take none. The ranges are those of the scripts in use;
each rule of case is a range with the way from a small letter to its capital.
-/

namespace Tangle

namespace Text

/-- A number lies in one of some closed ranges. -/
def inRanges (ranges : List (Nat × Nat)) (n : Nat) : Bool :=
  ranges.any fun r => r.1 ≤ n && n ≤ r.2

/-- The letters and digits beyond the ASCII range. -/
def letterRanges : List (Nat × Nat) :=
  [(0xAA, 0xAA), (0xB5, 0xB5), (0xBA, 0xBA), (0xC0, 0xD6), (0xD8, 0xF6), (0xF8, 0x2C1), (0x2C6, 0x2D1),
   (0x2E0, 0x2E4), (0x345, 0x345), (0x370, 0x373), (0x376, 0x37D), (0x37F, 0x37F), (0x386, 0x386),
   (0x388, 0x3F5), (0x3F7, 0x481), (0x48A, 0x559), (0x561, 0x587), (0x5D0, 0x5EA), (0x620, 0x669),
   (0x66E, 0x6D3), (0x6E5, 0x6E6), (0x6EE, 0x6FC), (0x904, 0x939), (0x958, 0x961), (0x966, 0x96F),
   (0xE01, 0xE30), (0xE40, 0xE46), (0xE50, 0xE59), (0x10A0, 0x10FA), (0x1100, 0x11FF), (0x1D00, 0x1DBF),
   (0x1E00, 0x1FBC), (0x1FC2, 0x1FCC), (0x1FD0, 0x1FDB), (0x1FE0, 0x1FEC), (0x1FF2, 0x1FFC), (0x2071, 0x2071),
   (0x207F, 0x207F), (0x2090, 0x209C), (0x2102, 0x2102), (0x210A, 0x2113), (0x2119, 0x211D), (0x2124, 0x2124),
   (0x212A, 0x2139), (0x2160, 0x2188), (0x24B6, 0x24E9), (0x2C00, 0x2CE4), (0x2D00, 0x2D67), (0x3005, 0x3007),
   (0x3031, 0x3035), (0x3041, 0x3096), (0x309D, 0x309F), (0x30A1, 0x30FA), (0x30FC, 0x30FF), (0x3105, 0x318E),
   (0x31A0, 0x31BF), (0x31F0, 0x31FF), (0x3400, 0x4DBF), (0x4E00, 0x9FFF), (0xA000, 0xA48C), (0xA640, 0xA66E),
   (0xA680, 0xA69D), (0xA722, 0xA788), (0xA78B, 0xA7CA), (0xAC00, 0xD7A3), (0xF900, 0xFAD9), (0xFB00, 0xFB17),
   (0xFB1F, 0xFBB1), (0xFF10, 0xFF19), (0xFF21, 0xFF3A), (0xFF41, 0xFF5A), (0xFF66, 0xFFDC), (0x10400, 0x1049D),
   (0x1D400, 0x1D7FF), (0x20000, 0x323AF)]

/-- The small letters whose capital lies a fixed way before them. -/
def distantCases : List (Nat × Nat × Nat) :=
  [(0xE0, 0xF6, 32), (0xF8, 0xFE, 32), (0x3AC, 0x3AC, 38), (0x3AD, 0x3AF, 37), (0x3B1, 0x3C1, 32),
   (0x3C3, 0x3CB, 32), (0x3CC, 0x3CC, 64), (0x3CD, 0x3CE, 63), (0x430, 0x44F, 32), (0x450, 0x45F, 80),
   (0x561, 0x586, 48), (0x24D0, 0x24E9, 26), (0x2C30, 0x2C5F, 48), (0xFF41, 0xFF5A, 32), (0x10428, 0x1044F, 40)]

/-- The ranges where a capital and its small letter follow each other. -/
def pairedCases : List (Nat × Nat) :=
  [(0x100, 0x12F), (0x132, 0x137), (0x139, 0x148), (0x14A, 0x177), (0x179, 0x17E), (0x1CD, 0x1DC),
   (0x1DE, 0x1EF), (0x1F8, 0x21F), (0x222, 0x233), (0x370, 0x373), (0x3D8, 0x3EF), (0x460, 0x481),
   (0x48A, 0x4BF), (0x4C1, 0x4CE), (0x4D0, 0x52F), (0x1E00, 0x1E95), (0x1EA0, 0x1EFF)]

/-- The character is a letter or a digit. -/
def isLetter (c : Char) : Bool :=
  if c.toNat < 0x80 then c.isAlphanum else inRanges letterRanges c.toNat

/-- The capital of a small letter. -/
def toUpper (c : Char) : Char :=
  let n := c.toNat
  if n < 0x80 then c.toUpper
  else if n = 0xFF then Char.ofNat 0x178
  else if n = 0xB5 then Char.ofNat 0x39C
  else if n = 0x3C2 then Char.ofNat 0x3A3
  else
    match distantCases.find? fun r => r.1 ≤ n && n ≤ r.2.1, pairedCases.find? fun r => r.1 ≤ n && n ≤ r.2 with
    | some r, _ => Char.ofNat (n - r.2.2)
    | none, some r => if (n - r.1) % 2 = 1 then Char.ofNat (n - 1) else c
    | none, none => c

/-- The small letter of a capital. -/
def toLower (c : Char) : Char :=
  let n := c.toNat
  if n < 0x80 then c.toLower
  else if n = 0x178 then Char.ofNat 0xFF
  else
    match distantCases.find? fun r => r.1 ≤ n + r.2.2 && n + r.2.2 ≤ r.2.1,
        pairedCases.find? fun r => r.1 ≤ n && n ≤ r.2 with
    | some r, _ => Char.ofNat (n + r.2.2)
    | none, some r => if (n - r.1) % 2 = 0 then Char.ofNat (n + 1) else c
    | none, none => c

/-- The character is a capital. -/
def isUpper (c : Char) : Bool := if c.toNat < 0x80 then c.isUpper else toLower c ≠ c

/-- The character is a small letter. -/
def isLower (c : Char) : Bool := if c.toNat < 0x80 then c.isLower else toUpper c ≠ c || c = 'ß'

/-- The characters that separate words where a line may break. -/
def isSpace (c : Char) : Bool :=
  isBlank c && !inRanges [(0x85, 0x85), (0xA0, 0xA0), (0x2007, 0x2007), (0x202F, 0x202F)] c.toNat

/-- The character cannot be seen. -/
def isControl (c : Char) : Bool :=
  c.toNat < 32 || (0x7F ≤ c.toNat && c.toNat < 0xA0) || inRanges [(0x2028, 0x2029)] c.toNat

/-- The characters that stand on the one before them. -/
def combiningRanges : List (Nat × Nat) :=
  [(0x300, 0x36F), (0x483, 0x489), (0x591, 0x5BD), (0x64B, 0x65F), (0x200B, 0x200F), (0x202A, 0x202E),
   (0x2060, 0x2064), (0x20D0, 0x20F0), (0xFE00, 0xFE0F), (0xFE20, 0xFE2F), (0xFEFF, 0xFEFF)]

/-- The characters that take two columns. -/
def broadRanges : List (Nat × Nat) :=
  [(0x1100, 0x115F), (0x231A, 0x231B), (0x2329, 0x232A), (0x23E9, 0x23EC), (0x23F0, 0x23F0), (0x23F3, 0x23F3),
   (0x25FD, 0x25FE), (0x2614, 0x2615), (0x2648, 0x2653), (0x267F, 0x267F), (0x2693, 0x2693), (0x26A1, 0x26A1),
   (0x26AA, 0x26AB), (0x26BD, 0x26BE), (0x26C4, 0x26C5), (0x26CE, 0x26CE), (0x26D4, 0x26D4), (0x26EA, 0x26EA),
   (0x26F2, 0x26F3), (0x26F5, 0x26F5), (0x26FA, 0x26FA), (0x26FD, 0x26FD), (0x2705, 0x2705), (0x270A, 0x270B),
   (0x2728, 0x2728), (0x274C, 0x274C), (0x274E, 0x274E), (0x2753, 0x2755), (0x2757, 0x2757), (0x2795, 0x2797),
   (0x27B0, 0x27B0), (0x27BF, 0x27BF), (0x2B1B, 0x2B1C), (0x2B50, 0x2B50), (0x2B55, 0x2B55), (0x2E80, 0x303E),
   (0x3041, 0x33FF), (0x3400, 0x4DBF), (0x4E00, 0x9FFF), (0xA000, 0xA4CF), (0xA960, 0xA97F), (0xAC00, 0xD7A3),
   (0xF900, 0xFAFF), (0xFE30, 0xFE6F), (0xFF01, 0xFF60), (0xFFE0, 0xFFE6), (0x1F004, 0x1F004), (0x1F0CF, 0x1F0CF),
   (0x1F18E, 0x1F18E), (0x1F191, 0x1F19A), (0x1F200, 0x1F320), (0x1F32D, 0x1F335), (0x1F337, 0x1F37C),
   (0x1F37E, 0x1F393), (0x1F3A0, 0x1F3CA), (0x1F3CF, 0x1F3D3), (0x1F3E0, 0x1F3F0), (0x1F3F4, 0x1F3F4),
   (0x1F3F8, 0x1F43E), (0x1F440, 0x1F440), (0x1F442, 0x1F4FC), (0x1F4FF, 0x1F53D), (0x1F54B, 0x1F54E),
   (0x1F550, 0x1F567), (0x1F57A, 0x1F57A), (0x1F595, 0x1F596), (0x1F5A4, 0x1F5A4), (0x1F5FB, 0x1F64F),
   (0x1F680, 0x1F6C5), (0x1F6CC, 0x1F6CC), (0x1F6D0, 0x1F6D2), (0x1F6D5, 0x1F6D7), (0x1F6DC, 0x1F6DF),
   (0x1F6EB, 0x1F6EC), (0x1F6F4, 0x1F6FC), (0x1F7E0, 0x1F7EB), (0x1F90C, 0x1F93A), (0x1F93C, 0x1F945),
   (0x1F947, 0x1F9FF), (0x1FA70, 0x1FAF8), (0x20000, 0x3FFFD)]

/-- The number of columns that a character takes. -/
def columns (c : Char) : Nat :=
  if isControl c || inRanges combiningRanges c.toNat then 0 else if inRanges broadRanges c.toNat then 2 else 1

end Text

end Tangle
