import Tangle.Shell.Octets
/-!
# The command language

The structure of commands as run blocks write them: words with their
expansions, redirections, and commands put together from others. There are
two dialects of the language; the wider one has all forms here, the plain
one those that every interpreter knows.
-/

namespace Tangle

namespace Shell

/-- A dialect of the command language. -/
inductive Dialect where
  /-- The common language. -/
  | plain
  /-- The common language with arrays, further expansions and conditions. -/
  | wide
deriving Repr, DecidableEq

/-- Where a pattern has to match in a replacement. -/
inductive Anchor where
  /-- Anywhere, once. -/
  | first
  /-- Anywhere, as often as it does. -/
  | every
  /-- At the front. -/
  | front
  /-- At the end. -/
  | back
deriving Repr, DecidableEq

/-- The descriptor that a redirection changes. -/
inductive Descriptor where
  /-- The one of a number. -/
  | number (n : Nat)
  /-- A new one, whose number becomes the value of a variable; or the one
  whose number is its value, if that is closed. -/
  | named (variableName : Octets)
deriving Repr, DecidableEq

/-- What a redirection does. -/
inductive Direction where
  /-- Reads a file. -/
  | read
  /-- Writes a file from its beginning. -/
  | write
  /-- Writes a file from its beginning, even if it must not be replaced. -/
  | replace
  /-- Extends a file. -/
  | extend
  /-- Reads and writes a file. -/
  | update
  /-- Reads where another descriptor reads. -/
  | duplicateInput
  /-- Writes where another descriptor writes. -/
  | duplicateOutput
  /-- Reads the text that follows in the script. -/
  | here
  /-- Reads the text of a word. -/
  | hereWord
  /-- Writes a file from its beginning, with both outputs. -/
  | writeBoth
  /-- Extends a file, with both outputs. -/
  | extendBoth
deriving Repr, DecidableEq

/-- How an arm of a selection ends. -/
inductive ArmEnd where
  /-- The selection ends. -/
  | stop
  /-- The commands of the next arm run too. -/
  | through
  /-- The patterns of the next arms are tried. -/
  | again
deriving Repr, DecidableEq

mutual

/-- A part of a word. -/
inductive Part where
  /-- Characters. -/
  | text (quoted : Bool) (s : Octets)
  /-- The value of a parameter, or of an element of an array. -/
  | parameter (quoted : Bool) (name : Octets) (index : Option (List Part)) (form : Form)
  /-- The output of commands. -/
  | command (quoted : Bool) (body : Command)
  /-- The value of an expression. -/
  | arithmetic (quoted : Bool) (expression : List Part)
  /-- The name of a file with the output of commands. -/
  | outputFile (body : Command)

/-- What an expansion does with the value of a parameter. In the four with a
word that come first, `orEmpty` tells that an empty value counts as none. -/
inductive Form where
  /-- The value. -/
  | plain
  /-- The number of characters of the value. -/
  | length
  /-- The value, or else the word. -/
  | fallback (orEmpty : Bool) (word : List Part)
  /-- The value, or else the word, which becomes the value. -/
  | assign (orEmpty : Bool) (word : List Part)
  /-- The word, if there is a value. -/
  | alternative (orEmpty : Bool) (word : List Part)
  /-- The value, or else a failure. -/
  | require (orEmpty : Bool) (word : List Part)
  /-- The value without what the pattern matches at its front. -/
  | cutFront (longest : Bool) (pattern : List Part)
  /-- The value without what the pattern matches at its end. -/
  | cutBack (longest : Bool) (pattern : List Part)
  /-- A part of the value. -/
  | slice (start : List Part) (count : Option (List Part))
  /-- The value with what the pattern matches replaced. -/
  | replace (anchor : Anchor) (pattern replacement : List Part)
  /-- The value with its letters in upper or lower case, or else each in the
  other case. -/
  | recase (upper : Option Bool) (every : Bool) (pattern : List Part)
  /-- The value of the parameter that the value names. -/
  | indirect
  /-- The names of the variables that start so. -/
  | names
  /-- The indices of an array. -/
  | keys
  /-- The value in another shape, by a letter. -/
  | transform (letter : Char)
  /-- Nothing that has a meaning; what is written in the braces. -/
  | invalid (text : Octets)

/-- A redirection. -/
inductive Redirection where
  /-- What is done with which descriptor; `text` is the number of a text
  that follows in the script. -/
  | mk (descriptor : Descriptor) (direction : Direction) (target : List Part) (text : Nat)

/-- An assignment in front of a command. -/
inductive Assignment where
  /-- A value for a variable or an element of an array. -/
  | value (name : Octets) (index : Option (List Part)) (appends : Bool) (word : List Part)
  /-- The elements of an array, some with an index; `operand` tells that it
  stands among the operands of the command. -/
  | array (operand : Bool) (name : Octets) (appends : Bool) (elements : List (Option (List Part) × List Part))

/-- A condition between doubled brackets. -/
inductive Test where
  /-- The word is not empty. -/
  | filled (word : List Part)
  /-- A condition on one operand. -/
  | unary (operator : Octets) (operand : List Part)
  /-- A condition on two operands. -/
  | binary (operator : Octets) (a b : List Part)
  /-- The condition does not hold. -/
  | negation (t : Test)
  /-- Both conditions hold. -/
  | both (a b : Test)
  /-- One of the conditions holds. -/
  | either (a b : Test)

/-- A command. -/
inductive Command where
  /-- A program or built-in command with its arguments. -/
  | simple (line : Nat) (assignments : List Assignment) (words : List (List Part))
      (redirections : List Redirection)
  /-- Commands, the output of each being the input of the next. -/
  | pipeline (commands : List Command)
  /-- A command with its success inverted. -/
  | negate (c : Command)
  /-- The second command if the first one succeeds. -/
  | both (first second : Command)
  /-- The second command if the first one fails. -/
  | either (first second : Command)
  /-- Commands in order. -/
  | sequence (commands : List Command)
  /-- A command beside those that follow. -/
  | background (line : Nat) (c : Command)
  /-- One of two commands. -/
  | conditional (test yes : Command) (no : Option Command)
  /-- A command repeated while the test succeeds, or until it does. -/
  | loop (untilSuccess : Bool) (test body : Command)
  /-- A command repeated for each word. -/
  | each (line : Nat) (name : Octets) (words : List (List Part)) (body : Command)
  /-- A command repeated for each word that is chosen from a menu. -/
  | choose (line : Nat) (name : Octets) (words : List (List Part)) (body : Command)
  /-- A command repeated while an expression is not zero. -/
  | count (line : Nat) (start test next : List Part) (body : Command)
  /-- The command whose pattern matches a word. -/
  | select (line : Nat) (word : List Part) (arms : List (List (List Part) × Command × ArmEnd))
  /-- Commands that leave no trace in the state. -/
  | isolated (line : Nat) (body : Command)
  /-- The definition of a function, with its text after the name. -/
  | define (line : Nat) (name : Octets) (body : Command) (text : Octets)
  /-- A command with redirections. -/
  | redirected (line : Nat) (c : Command) (redirections : List Redirection)
  /-- The expression is not zero. -/
  | calculate (line : Nat) (expression : List Part)
  /-- The condition holds. -/
  | test (line : Nat) (t : Test)
  /-- A command whose time is told afterwards, in the brief form or the long
  one. -/
  | timed (brief : Bool) (c : Command)

end

/-- A word. -/
abbrev Word := List Part

instance : Inhabited Command := ⟨.sequence []⟩

/-- A word without expansions. -/
def Word.literal (s : Octets) : Word := [.text false s]

/-- The part as it is between quotes. -/
def Part.protect : Part → Part
  | .text _ s => .text true s
  | .parameter _ name index form => .parameter true name index form
  | .command _ body => .command true body
  | .arithmetic _ e => .arithmetic true e
  | p => p

/-- The text of a word without its quotes, and whether it had any. -/
def Word.unquote (w : Word) : Octets × Bool :=
  w.foldl (fun acc p =>
    match p with
    | .text q s => (acc.1 ++ s, acc.2 || q)
    | _ => (acc.1, true)) ([], false)

/-- Parts in order, with texts of one kind put together. -/
def Word.cons (p : Part) (w : Word) : Word :=
  match p, w with
  | .text q (c :: s), .text q' (d :: t) :: rest =>
    if q = q' then .text q (c :: s ++ d :: t) :: rest else p :: w
  | _, _ => p :: w

end Shell

end Tangle
