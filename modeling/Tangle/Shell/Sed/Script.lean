import Tangle.Shell.Regex.Matching
/-!
# Scripts that edit lines

A script is a list of commands (`Sed.Step`), each with the lines that it is
for and what it does. A jump leads to a place in the list.
-/

namespace Tangle

namespace Shell

namespace Sed

/-- An expression with the way in which it is looked for. -/
structure Search where
  /-- The expression. -/
  regex : Regex
  /-- How characters are compared. -/
  mode : Regex.Mode
deriving Repr, DecidableEq

/-- What lines a command is for. -/
inductive Address where
  /-- All lines. -/
  | all
  /-- The line of a number. -/
  | line (n : Nat)
  /-- Every so many lines from one on. -/
  | every (first step : Nat)
  /-- The last line. -/
  | last
  /-- The lines that match; nothing stands for the expression that was
  used last. -/
  | regex (r : Option Search)
deriving Repr, DecidableEq

/-- Where a range of lines ends. -/
inductive Until where
  /-- At an address. -/
  | address (a : Address)
  /-- After so many more lines. -/
  | more (n : Nat)
  /-- At a line whose number is a multiple. -/
  | multiple (n : Nat)
deriving Repr, DecidableEq

/-- A piece of the text that replaces a match. -/
inductive Piece where
  /-- Characters. -/
  | text (s : Octets)
  /-- What a group matched. -/
  | group (n : Nat)
  /-- The case of letters changes: capital, small, as it is, or for one
  letter. -/
  | recase (letter : Char)
deriving Repr, DecidableEq

/-- The greatest number of a group in pieces. -/
def greatestGroup (pieces : List Piece) : Nat :=
  pieces.foldl (fun n p =>
    match p with
    | .group k => max n k
    | _ => n) 0

/-- How matches are replaced. -/
structure Replacement where
  /-- What is replaced; nothing stands for the expression that was used
  last. -/
  search : Option Search
  /-- What takes its place. -/
  pieces : List Piece
  /-- All matches are replaced. -/
  every : Bool
  /-- The first match that is replaced. -/
  number : Nat
  /-- The line is printed before it is run as a command. -/
  printsFirst : Bool
  /-- The line is printed. -/
  prints : Bool
  /-- The line is run as a command, whose output takes its place. -/
  evaluates : Bool
  /-- The line is written to a file. -/
  file : Option Octets
deriving Repr, DecidableEq

/-- What a command does. -/
inductive Action where
  /-- Starts commands that belong together; the place after them. -/
  | enter (stop : Nat)
  /-- Ends them. -/
  | leave
  /-- A place to jump to. -/
  | label
  /-- Prints the number of the line. -/
  | number
  /-- Prints a text after the line. -/
  | append (text : Octets)
  /-- Prints a text before the line. -/
  | insert (text : Octets)
  /-- Prints a text in the place of the line. -/
  | change (text : Octets)
  /-- Runs a command and prints its output before the line; without one, the
  line is the command, and its output takes the place of the line. -/
  | evaluate (command : Octets)
  /-- Jumps to a place, or to the end. -/
  | jump (goal : Option Nat)
  /-- Jumps if there was a replacement since the last such jump, or since
  the line was read, or if there was none. -/
  | jumpIf (replaced : Bool) (goal : Option Nat)
  /-- A command that its letter tells. -/
  | simple (letter : Char)
  /-- Ends the edit with a status. -/
  | quit (printing : Bool) (status : Nat)
  /-- Prints a file after the line. -/
  | readFile (name : Octets)
  /-- Prints the next line of a file after the line. -/
  | readLine (name : Octets)
  /-- Writes the line to a file, or the front of it. -/
  | writeFile (front : Bool) (name : Octets)
  /-- Replaces matches. -/
  | replace (r : Replacement)
  /-- Replaces characters. -/
  | translate (from' to' : List Char)
  /-- Prints the line so that nothing in it is hidden, in rows of a
  width. -/
  | display (width : Option Nat)
deriving Repr, DecidableEq

/-- The action with another text. -/
def Action.withText (text : Octets) : Action → Action
  | append _ => append text
  | insert _ => insert text
  | change _ => change text
  | evaluate _ => evaluate text
  | a => a

/-- A command. -/
structure Step where
  /-- The lines that it is for. -/
  address : Option Address
  /-- Where the range of lines ends that starts there. -/
  stop : Option Until
  /-- It is for the other lines. -/
  negated : Bool
  /-- What it does. -/
  action : Action
deriving Repr, DecidableEq

/-- Where a part of a script comes from. -/
inductive Origin where
  /-- The argument of a number. -/
  | expression (n : Nat)
  /-- A file. -/
  | file (name : Octets)
deriving Repr, DecidableEq

end Sed

end Shell

end Tangle
