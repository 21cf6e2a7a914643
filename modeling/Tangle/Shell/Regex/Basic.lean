import Tangle.Shell.Pattern
import Tangle.Text.Letter
/-!
# Regular expressions

A regular expression (`Regex`) is read from its text by rules that differ
between programs (`Rules`), and what is wrong with a text that is none is a
`Flaw`. The characters of an expression are those of the text, or octets where
a program does not know characters of several octets.
-/

namespace Tangle

namespace Shell

/-- A regular expression. -/
inductive Regex where
  /-- Nothing. -/
  | empty
  /-- A character. -/
  | char (c : Char)
  /-- Any character. -/
  | any
  /-- A character of a class, or one outside it. -/
  | oneOf (negated : Bool) (members : List Pattern.Member)
  /-- One expression after the other. -/
  | seq (a b : Regex)
  /-- One of two expressions. -/
  | alt (a b : Regex)
  /-- An expression any number of times. -/
  | star (r : Regex)
  /-- A group by its number. -/
  | group (n : Nat) (r : Regex)
  /-- The text that a group matched. -/
  | again (n : Nat)
  /-- The start of a line. -/
  | lineStart
  /-- The end of a line. -/
  | lineEnd
  /-- The start of the text. -/
  | textStart
  /-- The end of the text. -/
  | textEnd
  /-- The start or the end of a word, or neither if `inside` is set. -/
  | wordEdge (inside : Bool)
  /-- The start of a word. -/
  | wordStart
  /-- The end of a word. -/
  | wordEnd
deriving Repr, DecidableEq

namespace Regex

/-- The expression matches a place and no characters. -/
def isAnchor : Regex → Bool
  | lineStart | lineEnd | textStart | textEnd | wordEdge _ | wordStart | wordEnd => true
  | _ => false

/-- The number of groups of an expression. -/
def groupCount : Regex → Nat
  | group n r => max n (groupCount r)
  | seq a b | alt a b => max (groupCount a) (groupCount b)
  | star r => groupCount r
  | _ => 0

/-- The expression refers to the text of a group. -/
def refersBack : Regex → Bool
  | again _ => true
  | seq a b | alt a b => refersBack a || refersBack b
  | star r | group _ r => refersBack r
  | _ => false

/-- There is a class that starts and ends with a colon, with single
characters between: it is meant to be a kind of characters. -/
def hasLooseKind : Regex → Bool
  | oneOf _ ms =>
    let colon : Pattern.Member := .range ':' ':'
    ms.head? = some colon && ms.getLast? = some colon && ms.any (· ≠ colon) && ms.all fun
      | .range a b => a = b
      | _ => false
  | seq a b | alt a b => hasLooseKind a || hasLooseKind b
  | star r | group _ r => hasLooseKind r
  | _ => false

/-- A text as an expression that matches nothing else. -/
def ofLiteral : List Char → Regex
  | [] => empty
  | c :: s => seq (char c) (ofLiteral s)

/-- What a repetition is that has nothing to repeat. -/
inductive Idle where
  /-- Its character stands for itself. -/
  | literal
  /-- It has no effect. -/
  | skipped
  /-- A flaw. -/
  | flaw
deriving Repr, DecidableEq

/-- How expressions are spelled. -/
structure Rules where
  /-- Operators have no backslash. -/
  extended : Bool
  /-- What a repetition is that has nothing to repeat. -/
  idle : Idle
  /-- What is repeated cannot be repeated again by a star or an interval. -/
  repeatsOnce : Bool
  /-- An interval that is not in order stands for itself. -/
  looseIntervals : Bool
  /-- A closing parenthesis without an opening one stands for itself. -/
  looseClosing : Bool
  /-- Ranges of characters may be empty. -/
  emptyRanges : Bool
  /-- Characters may have several octets. -/
  wide : Bool
  /-- There are operators beyond those of the standard, such as `\w`, and
  `\+` where operators have a backslash. -/
  extras : Bool
  /-- A class like `[:digit:]`, without outer brackets, is a flaw. -/
  nestsKinds : Bool
  /-- Where other operators have a backslash, `+` and `?` have none, and there
  are no intervals. -/
  suffixes : Bool
deriving Repr, DecidableEq

namespace Rules

/-- The basic spelling of the standard. -/
def posixBasic : Rules := ⟨false, .literal, true, false, false, false, true, true, false, false⟩

/-- The extended spelling of the standard. -/
def posixExtended : Rules := ⟨true, .flaw, false, false, true, false, true, true, false, false⟩

end Rules

/-- Why a text is no expression. -/
inductive Flaw where
  /-- A class has nothing in it. -/
  | pattern
  /-- There is no such character between points. -/
  | collation
  /-- There is no such kind of characters. -/
  | kind
  /-- A backslash is the last character. -/
  | backslash
  /-- There is no such group. -/
  | reference
  /-- A class has no end. -/
  | openClass
  /-- A group has no end. -/
  | openGroup
  /-- An interval has no end. -/
  | openInterval
  /-- An interval is not in order. -/
  | interval
  /-- A range ends before it starts. -/
  | range
  /-- There is nothing to repeat. -/
  | nothingRepeated
  /-- An expression is too long. -/
  | size
  /-- A group has no start. -/
  | closedGroup
  /-- A kind of characters lacks its outer brackets. -/
  | looseKind
deriving Repr, DecidableEq

/-- What is said of a flaw. -/
def Flaw.message : Flaw → String
  | pattern => "Invalid regular expression"
  | collation => "Invalid collation character"
  | kind => "Invalid character class name"
  | backslash => "Trailing backslash"
  | reference => "Invalid back reference"
  | openClass => "Unmatched [, [^, [:, [., or [="
  | openGroup => "Unmatched ( or \\("
  | openInterval => "Unmatched \\\x7b"
  | interval => "Invalid content of \\\x7b\\\x7d"
  | range => "Invalid range end"
  | nothingRepeated => "Invalid preceding regular expression"
  | size => "Regular expression too big"
  | closedGroup => "Unmatched ) or \\)"
  | looseKind => "character class syntax is [[:space:]], not [:space:]"

end Regex

end Shell

end Tangle
