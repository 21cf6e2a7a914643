import Tangle.Toml.Numeral
/-!
# TOML texts

A text is quoted in one of four ways: in double quotes, where a backslash
escapes, or in single quotes, where every character stands for itself, and
each of these on one line or between triple quotes on several. This file
reads all four, and writes a text in the one that shows it best
(`Style.ofText`): the simplest that needs no escape, if there is one.
-/

namespace Tangle

namespace Toml

/-! ## Reading -/

/-- The character that hexadecimal digits name. -/
def scalar? (ds : List Char) : Option Char :=
  let n := ofDigits 16 ds
  if ds.all (isDigitOf 16) && (n < 0xD800 || (0xE000 ≤ n && n < 0x110000)) then some (Char.ofNat n)
  else none

/-- The character that a letter after a backslash stands for. -/
def escaped? : Char → Option Char
  | 'b' => some '\x08'
  | 't' => some '\t'
  | 'n' => some '\n'
  | 'f' => some '\x0c'
  | 'r' => some '\r'
  | '"' => some '"'
  | '\\' => some '\\'
  | _ => none

/-- Reads what follows a backslash. -/
def escape : Reader Char
  | 'u' :: s => (scalar? (s.take 4)).bind fun c => if s.length < 4 then none else some (c, s.drop 4)
  | 'U' :: s => (scalar? (s.take 8)).bind fun c => if s.length < 8 then none else some (c, s.drop 8)
  | c :: s => (escaped? c).map (·, s)
  | [] => none

/-- The text after blanks and line ends that start with the end of a line,
as they may follow a backslash. -/
def afterBreak? (s : List Char) : Option (List Char) :=
  (lineEnd? (skipSpaces s)).map skipBreaks
where
  /-- The text after blanks and line ends. -/
  skipBreaks : List Char → List Char
    | [] => []
    | c :: s =>
      if isSpace c || c = '\n' || (c = '\r' && s.head? = some '\n') then skipBreaks s else c :: s

/-- Reads a text up to its closing double quote, at most `fuel`
characters and escapes long. -/
def basicBody : Nat → Reader (List Char)
  | 0, _ => none
  | _ + 1, [] => none
  | _ + 1, '"' :: s => some ([], s)
  | fuel + 1, '\\' :: s => do
    let (c, s) ← escape s
    let (text, s) ← basicBody fuel s
    some (c :: text, s)
  | fuel + 1, c :: s => do
    guard (isPlain c)
    let (text, s) ← basicBody fuel s
    some (c :: text, s)

/-- Reads a text of several lines up to its closing double quotes. One or
two quotes may stand in it, and also right before the closing ones. -/
def basicLines : Nat → Reader (List Char)
  | 0, _ => none
  | _ + 1, [] => none
  | _ + 1, '"' :: '"' :: '"' :: '"' :: '"' :: s => some (['"', '"'], s)
  | _ + 1, '"' :: '"' :: '"' :: '"' :: s => some (['"'], s)
  | _ + 1, '"' :: '"' :: '"' :: s => some ([], s)
  | fuel + 1, '\\' :: s =>
    match afterBreak? s with
    | some s => basicLines fuel s
    | none => do
      let (c, s) ← escape s
      let (text, s) ← basicLines fuel s
      some (c :: text, s)
  | fuel + 1, '\r' :: '\n' :: s => basicLines fuel ('\n' :: s)
  | fuel + 1, c :: s => do
    guard (c = '\n' || isPlain c)
    let (text, s) ← basicLines fuel s
    some (c :: text, s)

/-- Reads a text up to its closing single quote. -/
def literalBody : Reader (List Char)
  | [] => none
  | '\'' :: s => some ([], s)
  | c :: s => do
    guard (isPlain c)
    let (text, s) ← literalBody s
    some (c :: text, s)

/-- Reads a text of several lines up to its closing single quotes. One or
two quotes may stand in it, and also right before the closing ones. -/
def literalLines : Reader (List Char)
  | [] => none
  | '\'' :: '\'' :: '\'' :: '\'' :: '\'' :: s => some (['\'', '\''], s)
  | '\'' :: '\'' :: '\'' :: '\'' :: s => some (['\''], s)
  | '\'' :: '\'' :: '\'' :: s => some ([], s)
  | c :: s => do
    guard (c = '\n' || isPlain c || (c = '\r' && s.head? = some '\n'))
    let (text, s) ← literalLines s
    some (if c = '\r' then text else c :: text, s)

/-- The text after a line end, if it starts with one. -/
def skipLineEnd (s : List Char) : List Char := (lineEnd? s).getD s

/-- Reads a text on one line. -/
def lineString : Reader (List Char)
  | '"' :: s => basicBody (s.length + 1) s
  | '\'' :: s => literalBody s
  | _ => none

/-- Reads a text. -/
def string : Reader (List Char)
  | '"' :: '"' :: '"' :: s => basicLines (s.length + 1) (skipLineEnd s)
  | '\'' :: '\'' :: '\'' :: s => literalLines (skipLineEnd s)
  | s => lineString s

/-! ## Writing -/

/-- A way of quoting a text. -/
structure Style where
  /-- The quote. -/
  quote : Char
  /-- The quotes stand three in a row. -/
  tripled : Bool
deriving Repr, DecidableEq

namespace Style

/-- Single quotes. -/
def literal : Style := ⟨'\'', false⟩

/-- Triple single quotes. -/
def tripleLiteral : Style := ⟨'\'', true⟩

/-- Double quotes. -/
def basic : Style := ⟨'"', false⟩

/-- Triple double quotes. -/
def tripleBasic : Style := ⟨'"', true⟩

/-- The style gives a backslash a meaning. -/
def escapes (style : Style) : Bool := style.quote = '"'

/-- How many of its quotes may stand in a row in the text. -/
def room (style : Style) : Nat := if style.tripled then 2 else 0

end Style

/-- The longest run of a character in a text, of which `run` have just been
seen. -/
def longestRun (quote : Char) (run : Nat) : List Char → Nat
  | [] => run
  | c :: s => if c = quote then longestRun quote (run + 1) s else max run (longestRun quote 0 s)

/-- The character can only be written with an escape. -/
def needsEscape (c : Char) : Bool := c ≠ '\n' && !isPlain c

/-- The text reads the same in a style with no escape in it. -/
def Style.shows (style : Style) (s : List Char) : Bool :=
  !s.any needsEscape && longestRun style.quote 0 s ≤ style.room
    && !(style.escapes && s.contains '\\') && (style.tripled || !s.contains '\n')

/-- The way of quoting that shows a text best: the first style that needs
no escape, else double quotes. -/
def Style.ofText (s : List Char) : Style :=
  (([basic, literal, tripleBasic, tripleLiteral].find? fun style => style.shows s)).getD
    ⟨'"', s.contains '\n'⟩

/-- An uppercase hexadecimal digit. -/
def hexDigit (n : Nat) : Char :=
  if n < 10 then Char.ofNat (0x30 + n) else Char.ofNat (0x37 + n)

/-- The escape of a character. -/
def escapeChar (c : Char) : List Char :=
  if c = '\x08' then ['\\', 'b']
  else if c = '\t' then ['\\', 't']
  else if c = '\n' then ['\\', 'n']
  else if c = '\x0c' then ['\\', 'f']
  else if c = '\r' then ['\\', 'r']
  else if c = '"' || c = '\\' then ['\\', c]
  else ['\\', 'u', '0', '0', hexDigit (c.toNat / 16), hexDigit (c.toNat % 16)]

/-- The text between double quotes that may stand `room` in a row, after
`run` of them. Line feeds stand for themselves where there is such room. -/
def basicText (room run : Nat) : List Char → List Char
  | [] => []
  | c :: s =>
    if c = '"' then
      if run < room then c :: basicText room (run + 1) s else escapeChar c ++ basicText room 0 s
    else if c = '\\' || c = '\t' || (needsEscape c) || (c = '\n' && room = 0) then
      escapeChar c ++ basicText room 0 s
    else c :: basicText room 0 s

/-- A text quoted in a style. Between triple quotes a text with line feeds
starts on a line of its own. -/
def quoteAs (s : List Char) (style : Style) : List Char :=
  let quotes := List.replicate (if style.tripled then 3 else 1) style.quote
  let gap := if style.tripled && s.contains '\n' then ['\n'] else []
  quotes ++ gap ++ (if style.escapes then basicText style.room 0 s else s) ++ quotes

/-- A text quoted in the way that shows it best. -/
def quote (s : String) : List Char :=
  quoteAs s.toList (.ofText s.toList)

end Toml

end Tangle
