import Tangle.Shell.Awk.Syntax
import Tangle.Shell.Real
/-!
# Words of the language of records

A program is read into words (`Token`), each with its line. A slash starts a
regular expression where no operand comes before it, and divides elsewhere.
-/

namespace Tangle

namespace Shell

namespace Awk

/-- A word of a program. -/
inductive Token where
  /-- The end of a line. -/
  | newline
  /-- A number, as it is written. -/
  | number (s : Octets)
  /-- A text. -/
  | text (s : Octets)
  /-- A regular expression, as it is written. -/
  | regex (s : Octets)
  /-- A name; `called` tells that a parenthesis follows at once. -/
  | name (s : Octets) (called : Bool)
  /-- A word of the language. -/
  | keyword (s : String)
  /-- A function of the language. -/
  | builtin (s : String)
  /-- A sign. -/
  | sign (s : String)
deriving Repr, DecidableEq

/-- The words of the language. -/
def keywords : List String :=
  ["BEGIN", "END", "function", "func", "if", "else", "while", "for", "do", "break", "continue", "next", "nextfile",
   "exit", "return", "delete", "in", "getline", "print", "printf"]

/-- The functions of the language. -/
def builtins : List String :=
  ["length", "substr", "index", "split", "sub", "gsub", "match", "sprintf", "sin", "cos", "atan2", "exp", "log",
   "sqrt", "int", "rand", "srand", "tolower", "toupper", "system", "close", "fflush", "systime",
   "strftime", "mktime"]

/-- The signs, longer ones first. -/
def signs : List String :=
  ["&&", "||", "++", "--", "+=", "-=", "*=", "/=", "%=", "^=", "==", "!=", "<=", ">=", "!~", ">>",
   "\x7b", "\x7d", "(", ")", "[", "]", ";", ",", "+", "-", "*", "/", "%", "^", "!", ">", "<", "|", "?", ":", "~", "$", "="]

/-- The character that an escape in a text stands for, and what follows. -/
def escape? (s : Octets) : Option (Char × Octets) :=
  match s with
  | '"' :: rest => some ('"', rest)
  | '\\' :: rest => some ('\\', rest)
  | 'n' :: rest => some ('\n', rest)
  | 't' :: rest => some ('\t', rest)
  | 'r' :: rest => some ('\r', rest)
  | 'f' :: rest => some ('\x0c', rest)
  | 'v' :: rest => some ('\x0b', rest)
  | 'a' :: rest => some ('\x07', rest)
  | 'b' :: rest => some ('\x08', rest)
  | 'x' :: rest =>
    let ds := (rest.take 2).takeWhile fun c => (Numeral.digit? c).any (· < 16)
    if ds.isEmpty then none else some (Char.ofNat ((Octets.inBase? 16 ds).getD 0), rest.drop ds.length)
  | s =>
    let ds := (s.take 3).takeWhile fun c => '0' ≤ c && c ≤ '7'
    if ds.isEmpty then none else some (Char.ofNat ((Octets.inBase? 8 ds).getD 0 % 256), s.drop ds.length)

/-- A text with its escapes replaced. -/
def unescape : Nat → Octets → Octets
  | 0, s => s
  | _ + 1, [] => []
  | fuel + 1, '\\' :: s =>
    match escape? s with
    | some (c, rest) => c :: unescape fuel rest
    | none => '\\' :: unescape fuel s
  | fuel + 1, c :: s => c :: unescape fuel s

/-- The inside of a text or expression up to its delimiter, as it is
written, and what follows the delimiter. -/
def enclosed (delimiter : Char) : Nat → Octets → Octets → Option (Octets × Octets)
  | 0, _, _ => none
  | _ + 1, _, [] => none
  | _ + 1, _, '\n' :: _ => none
  | fuel + 1, done, '\\' :: '\n' :: s => enclosed delimiter fuel done s
  | fuel + 1, done, '\\' :: c :: s => enclosed delimiter fuel (c :: '\\' :: done) s
  | fuel + 1, done, c :: s =>
    if c = delimiter then some (done.reverse, s)
    else if c = '[' && delimiter = '/' then
      -- A slash in a class is a member of it.
      let front : Octets := match s with
        | '^' :: ']' :: _ => ['^', ']']
        | ']' :: _ => [']']
        | _ => []
      let inside := front ++ (s.drop front.length).takeWhile fun d => d ≠ ']' && d ≠ '\n'
      if (s.drop inside.length).head? = some ']' then
        enclosed delimiter fuel (inside.reverse ++ c :: done) (s.drop inside.length)
      else none
    else enclosed delimiter fuel (c :: done) s

/-- The word before a slash is an operand, so the slash divides. -/
def isOperand : Option Token → Bool
  | some (.number _) | some (.text _) | some (.regex _) | some (.name _ _) | some (.builtin _) => true
  | some (.sign s) => s = ")" || s = "]" || s = "++" || s = "--" || s = "$"
  | _ => false

/-- A character of a name. -/
def isNameChar (c : Char) : Bool := c.isAlphanum || c = '_'

/-- The words of a program with their lines, or a complaint with its line,
which is zero where the complaint tells it. -/
def tokens : Nat → Nat → Option Token → Octets → Except (Nat × String) (List (Nat × Token))
  | 0, line, _, _ => .error (line, "program too long")
  | _ + 1, _, _, [] => .ok []
  | fuel + 1, line, last, c :: s =>
    let add (t : Token) (rest : Octets) : Except (Nat × String) (List (Nat × Token)) :=
      (tokens fuel line (some t) rest).map ((line, t) :: ·)
    if c = '\n' then (tokens fuel (line + 1) none s).map ((line, .newline) :: ·)
    else if c = ' ' || c = '\t' || c = '\r' || c = '\x0c' then tokens fuel line last s
    else if c = '#' then tokens fuel line last (s.dropWhile (· ≠ '\n'))
    else if c = '\\' && s.head? = some '\n' then tokens fuel (line + 1) last (s.drop 1)
    else if c = '\\' && s.take 2 = ['\r', '\n'] then tokens fuel (line + 1) last (s.drop 2)
    else if c = '"' then
      match enclosed '"' (s.length + 1) [] s with
      | some (text, rest) => add (.text (unescape (text.length + 1) text)) rest
      | none => .error (line, "runaway string constant \"" ++ Octets.text ((s.takeWhile (· ≠ '\n')).take 10) ++ " ...")
    else if c = '/' && !isOperand last then
      match enclosed '/' (s.length + 1) [] s with
      | some (text, rest) => add (.regex text) rest
      | none => .error (line, "runaway regular expression /" ++ Octets.text ((s.takeWhile (· ≠ '\n')).take 10) ++ " ...")
    else if c.isDigit || (c = '.' && s.head?.any Char.isDigit) then
      match Real.decimal? (c :: s) with
      | some (_, _, rest) => add (.number ((c :: s).take ((c :: s).length - rest.length))) rest
      | none => .error (line, "unexpected character")
    else if c.isAlpha || c = '_' then
      let name := c :: s.takeWhile isNameChar
      let rest := s.dropWhile isNameChar
      let word := String.ofList name
      if keywords.contains word then add (.keyword word) rest
      else if builtins.contains word then add (.builtin word) rest
      else add (.name name (rest.head? = some '(')) rest
    else
      match signs.find? fun g => g.toList.isPrefixOf (c :: s) with
      | some g => add (.sign g) ((c :: s).drop g.length)
      | none => .error (0, toString line ++ ": unexpected character '" ++ Octets.text [c] ++ "'")

/-- A word as complaints name it. -/
def Token.spelling : Token → String
  | .newline => "end of line"
  | .number s | .name s _ => Octets.text s
  | .text s => "\"" ++ Octets.text s ++ "\""
  | .regex s => "/" ++ Octets.text s ++ "/"
  | .keyword s | .builtin s | .sign s => s

end Awk

end Shell

end Tangle
