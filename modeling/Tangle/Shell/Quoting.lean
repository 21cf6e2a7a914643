import Tangle.Shell.Octets
/-!
# Quoting in the wide dialect

The ways in which the wide dialect shows a text so that it reads back:
between single quotes (`single`), between double ones (`double`), with a
backslash before each character that has a meaning (`backslashed`), and with
escapes where there are characters that cannot be shown (`escaped`).
-/

namespace Tangle

namespace Shell

namespace Quoting

/-- The text has characters that cannot be shown. -/
def hasHidden (s : Octets) : Bool :=
  (s.any fun c => c.toNat < 32 || c.toNat = 127) || Octets.ofString (Octets.text s) ≠ s

/-- The escape of a character after `$'`, if it has one. -/
def escape? (c : Char) : Option Char :=
  match c with
  | '\x07' => some 'a'
  | '\x08' => some 'b'
  | '\x1b' => some 'E'
  | '\x0c' => some 'f'
  | '\n' => some 'n'
  | '\r' => some 'r'
  | '\t' => some 't'
  | '\x0b' => some 'v'
  | '\\' => some '\\'
  | '\'' => some '\''
  | _ => none

/-- The text with escapes. -/
def escaped (s : Octets) : Octets :=
  let isText := Octets.ofString (Octets.text s) = s
  "$'".toList ++ (s.flatMap fun c =>
    match escape? c with
    | some e => ['\\', e]
    | none =>
      if c.toNat < 32 || c.toNat = 127 || (128 ≤ c.toNat && !isText) then
        let digit (n : Nat) : Char := Char.ofNat (48 + n % 8)
        ['\\', digit (c.toNat / 64), digit (c.toNat / 8), digit c.toNat]
      else [c]) ++ ['\'']

/-- The text between single quotes. -/
def single (s : Octets) : Octets :=
  if s = ['\''] then ['\\', '\'']
  else ['\''] ++ s.flatMap (fun c => if c = '\'' then ['\'', '\\', '\'', '\''] else [c]) ++ ['\'']

/-- The text between double quotes. -/
def double (s : Octets) : Octets :=
  ['"'] ++ s.flatMap (fun c => if c = '"' || c = '\\' || c = '$' || c = '\x60' then ['\\', c] else [c]) ++ ['"']

/-- The character has a meaning wherever it stands. -/
def isSpecial (c : Char) : Bool := " \t\n'\"\\|&;()<>!\x7b\x7d*[]?^$\x60".toList.contains c

/-- The text needs quotes to read back. -/
def needsQuotes (s : Octets) : Bool :=
  s.isEmpty || s.any isSpecial || s.head? = some '~' || s.head? = some '#'

/-- The text with backslashes. -/
def backslashed (s : Octets) : Octets :=
  match s with
  | [] => ['\'', '\'']
  | s =>
    if hasHidden s then escaped s
    else
      match s with
      | c :: rest =>
        let front := if c = '~' || c = '#' then ['\\', c] else protect c
        front ++ rest.flatMap protect
      | [] => []
where
  /-- A character with a backslash, if it needs one. -/
  protect (c : Char) : Octets := if isSpecial c || c = ',' then ['\\', c] else [c]

/-- The text between single quotes, or with escapes. -/
def reusable (s : Octets) : Octets := if hasHidden s then escaped s else single s

/-- The text as the value of a variable in a declaration. -/
def declared (s : Octets) : Octets := if hasHidden s then escaped s else double s

/-- The text as it is listed: with quotes only where it needs them. -/
def listed (s : Octets) : Octets :=
  if hasHidden s then escaped s else if !s.isEmpty && needsQuotes s then single s else s

/-- The text as it is shown when commands are traced. -/
def traced (s : Octets) : Octets :=
  if needsQuotes s then single s else if hasHidden s then escaped s else s

end Quoting

end Shell

end Tangle
