/-!
# The TOML format: values and blanks

What a TOML document holds (`Value`), what it means to read a part of it
(`Reader`), and the parts without a value: blanks, comments and line ends.
Numbers with a fraction and moments in time are read and checked, and only
the fact that they stand there is kept.
-/

namespace Tangle

namespace Toml

/-- A TOML value. -/
inductive Value where
  /-- A text. -/
  | string (s : String)
  /-- A whole number. -/
  | integer (n : Int)
  /-- A number with a fraction or an exponent, or none at all. -/
  | float
  /-- A truth value. -/
  | boolean (b : Bool)
  /-- A date, a time, or both. -/
  | moment
  /-- Values in order. -/
  | array (values : List Value)
  /-- Values under keys, in order of arrival. -/
  | table (entries : List (String × Value))

instance : Inhabited Value := ⟨.float⟩

/-- Reads something at the front of a text and leaves the rest. -/
abbrev Reader (α : Type) := List Char → Option (α × List Char)

/-- A blank inside a line. -/
def isSpace (c : Char) : Bool := c = ' ' || c = '\t'

/-- A character that can stand in comments and quoted texts. Among the
control characters only the tab can. -/
def isPlain (c : Char) : Bool := c = '\t' || (0x20 ≤ c.toNat && c.toNat ≠ 0x7F)

/-- The text after blanks. -/
def skipSpaces (s : List Char) : List Char := s.dropWhile isSpace

/-- The text after a comment, if there is one. -/
def skipComment : List Char → List Char
  | '#' :: s => s.dropWhile isPlain
  | s => s

/-- The text after the end of a line. -/
def lineEnd? : List Char → Option (List Char)
  | '\n' :: s => some s
  | '\r' :: '\n' :: s => some s
  | _ => none

/-- The text after the rest of a line that says nothing more: blanks, a
comment, and the end of the line or of the text. -/
def restOfLine? (s : List Char) : Option (List Char) :=
  match skipComment (skipSpaces s) with
  | [] => some []
  | s => lineEnd? s

/-- The text after blanks, line ends and comments; `comment` tells that a
comment has begun. -/
def skipGap (comment : Bool) : List Char → List Char
  | [] => []
  | c :: s =>
    if c = '\n' then skipGap false s
    else if c = '\r' && s.head? = some '\n' then skipGap comment s
    else if comment then (if isPlain c then skipGap true s else c :: s)
    else if isSpace c then skipGap false s
    else if c = '#' then skipGap true s
    else c :: s

/-- What follows `word` at the front of a text. -/
def afterWord? (word s : List Char) : Option (List Char) :=
  if word.isPrefixOf s then some (s.drop word.length) else none

end Toml

end Tangle
