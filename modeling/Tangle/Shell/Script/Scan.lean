import Tangle.Shell.Syntax
/-!
# Scripts while they are read

A script is read character by character (`Reading`). A backslash before a
line end joins the lines, so readers of operators and names look past it
(`peek`). Texts that a redirection takes from the script are awaited until
the line ends, and an alias puts its text in front of what is left to read.
-/

namespace Tangle

namespace Shell

namespace Script

/-- A text that is to be taken from the lines after this one. -/
structure Awaited where
  /-- The line that ends it. -/
  delimiter : Octets
  /-- Nothing in it is expanded. -/
  literal : Bool
  /-- Leading tabs are dropped. -/
  stripsTabs : Bool
  /-- Its number. -/
  index : Nat
  /-- The line where it starts. -/
  line : Nat

/-- A text without the line that ends it: the delimiter, and the lines
where the text starts and where the script ends. -/
structure Endless where
  /-- The line that was to end the text. -/
  delimiter : Octets
  /-- The line where it starts. -/
  start : Nat
  /-- The line where the script ends. -/
  stop : Nat

/-- A token of the command language. -/
inductive Token where
  /-- The end of the script. -/
  | endOfText
  /-- The end of a line. -/
  | lineEnd
  /-- An operator. -/
  | operator (spelling : String)
  /-- A redirection without its target. -/
  | redirection (descriptor : Descriptor) (direction : Direction) (stripsTabs : Bool)
  /-- A word. -/
  | word (w : Word)
  /-- A reserved word. -/
  | reserved (w : String)

/-- What is wrong with a script. -/
inductive Problem where
  /-- A token stands where another one has to. -/
  | unexpected (token : Token) (expected : Option String)
  /-- A quotation or expansion has no end; its opening character, and the
  line where it starts if that one counts. -/
  | unclosed (opening : Octets) (start : Option Nat)
  /-- The commands in a word have no end. -/
  | unclosedCommands
  /-- A condition is malformed near a text. -/
  | condition (message : Option String)
  /-- Something else. -/
  | other (message : String)

/-- A problem and the line where it shows. -/
structure Misfit where
  /-- The problem. -/
  problem : Problem
  /-- The line. -/
  line : Nat
  /-- The texts without an end before it. -/
  endless : List Endless

/-- The progress of reading a script. -/
structure Scan where
  /-- What is left to read. -/
  rest : Octets
  /-- The number of the line that is read. -/
  line : Nat
  /-- The dialect. -/
  dialect : Dialect
  /-- The aliases. -/
  aliases : List (Octets × Octets)
  /-- The aliases whose texts are being read, with what is left after
  them. -/
  expanding : List (Octets × Nat)
  /-- What is left after an alias that lets the next word be one too. -/
  chained : Option Nat
  /-- The texts to be taken at the end of the line. -/
  awaited : List Awaited
  /-- The number of the next text. -/
  nextText : Nat
  /-- The texts taken so far. -/
  texts : List (Nat × Word)
  /-- The texts among them without an end. -/
  endless : List Endless
  /-- A token that was read and is to be read again. -/
  pushed : Option Token
  /-- Words may have groups of alternatives in parentheses. -/
  groups : Bool
  /-- Words are kept as they are written, as texts without quotes. -/
  verbatim : Bool

/-- A script at its beginning. -/
def Scan.ofScript (dialect : Dialect) (aliases : List (Octets × Octets)) (script : Octets) : Scan where
  rest := script
  line := 1
  dialect := dialect
  aliases := aliases
  expanding := []
  chained := none
  awaited := []
  nextText := 0
  texts := []
  endless := []
  pushed := none
  groups := false
  verbatim := false

/-- A script that is read from one of its lines on. -/
def Scan.ofLine (dialect : Dialect) (line : Nat) (script : Octets) : Scan :=
  { ofScript dialect [] (List.intercalate ['\n'] ((Octets.splitOn '\n' script).drop (line - 1))) with line }

/-- A reader of a part of a script. -/
abbrev Reading (α : Type) := StateT Scan (Except Misfit) α

/-- The script cannot be read on. -/
def fail {α : Type} (problem : Problem) : Reading α := do
  throw ⟨problem, (← get).line, (← get).endless⟩

/-- What is read from a line on; what has no end there is at fault at the
line. -/
def fromLine {α : Type} (line : Nat) (reader : Reading α) : Reading α := fun s =>
  match reader.run s with
  | .error ⟨.unclosed opening none, at', endless⟩ => .error ⟨.unclosed opening (some line), at', endless⟩
  | result => result

/-- The text after joined lines, and how many there were. -/
def joinLines : Octets → Nat → Octets × Nat
  | '\\' :: '\n' :: s, n => joinLines s (n + 1)
  | s, n => (s, n)

/-- The next character. -/
def peekRaw : Reading (Option Char) := return (← get).rest.head?

/-- The next character after joined lines. -/
def peek : Reading (Option Char) :=
  modifyGet fun s =>
    match s.rest with
    | '\\' :: '\n' :: _ =>
      let (rest, n) := joinLines s.rest 0
      (rest.head?, { s with rest, line := s.line + n })
    | rest => (rest.head?, s)

/-- Goes past a character. -/
def skip : Reading Unit :=
  modify fun s =>
    match s.rest with
    | '\n' :: rest => { s with rest, line := s.line + 1 }
    | _ :: rest => { s with rest }
    | [] => s

/-- What `reader` goes past, as it is written, where words are kept so; else
what it reads. -/
def spelled (reader : Reading Word) : Reading Word := do
  let before := (← get).rest
  let w ← reader
  let after ← get
  if after.verbatim then return [.text false (before.take (before.length - after.rest.length))] else return w

/-- Goes past a character, if it comes next. -/
def accept (c : Char) : Reading Bool := do
  if (← peek) = some c then
    skip
    return true
  else return false

/-- The characters in front that have a property, joined lines apart, what
follows, and the number of joined lines. -/
def takeJoined (p : Char → Bool) : Octets → Octets × Octets × Nat
  | '\\' :: '\n' :: s =>
    let (taken, rest, n) := takeJoined p s
    (taken, rest, n + 1)
  | c :: s =>
    if p c then
      let (taken, rest, n) := takeJoined p s
      (c :: taken, rest, n)
    else ([], c :: s, 0)
  | [] => ([], [], 0)

/-- Goes past the characters that have a property. -/
def take (p : Char → Bool) : Reading Octets :=
  modifyGet fun s =>
    let (taken, rest, n) := takeJoined p s.rest
    (taken, { s with rest, line := s.line + n + taken.count '\n' })

/-- More steps than reading any script takes. -/
def stepLimit : Nat := Nat.pow 2 40

/-- The script is read in the wide dialect. -/
def isWide : Reading Bool := return (← get).dialect = .wide

/-- Gives a token back, to be read again. -/
def push (t : Token) : Reading Unit := modify fun s => { s with pushed := some t }

/-- A character that ends a word. -/
def isMeta (c : Char) : Bool := " \t\n;&|<>()".toList.contains c

/-- A character that can start a name. -/
def isNameStart (c : Char) : Bool := c.isAlpha || c = '_'

/-- A character of a name. -/
def isNameChar (c : Char) : Bool := c.isAlphanum || c = '_'

/-- The text is a name. -/
def isName (s : Octets) : Bool := s.head?.any isNameStart && s.all isNameChar

/-- A parameter that is named by one special character. -/
def isSpecial (c : Char) : Bool := "@*#?-$!".toList.contains c

/-- The name in front of an equals sign, and the text after it. -/
def splitAssignment? (s : Octets) : Option (Octets × Octets) :=
  let name := s.takeWhile isNameChar
  match s.dropWhile isNameChar with
  | '=' :: rest => if isName name then some (name, rest) else none
  | _ => none

end Script

end Shell

end Tangle
