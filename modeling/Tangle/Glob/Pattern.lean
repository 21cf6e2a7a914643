import Tangle.Path
/-!
# Patterns of file names

A pattern matches names with `?` for one character, `*` for any run of
characters, and `[...]` for one character of a class. As a whole component
of a path, `**` stands for any number of directories; a run of more stars,
or `**` beside other characters, is refused, and so is a class without its
end (`Glob.tokens`).
-/

namespace Tangle

namespace Glob

/-- A part of a pattern. -/
inductive Token where
  /-- This character. -/
  | char (c : Char)
  /-- Any one character. -/
  | any
  /-- Any run of characters. -/
  | star
  /-- Any run of directories. -/
  | deep
  /-- One character of a class of ranges, or one outside it. -/
  | oneOf (negated : Bool) (ranges : List (Char × Char))
deriving Repr, DecidableEq

/-- The ranges that the members of a class name. -/
def ranges : List Char → List (Char × Char)
  | a :: '-' :: b :: s => (a, b) :: ranges s
  | a :: s => (a, a) :: ranges s
  | [] => []

/-- Why a pattern is refused. -/
inductive Flaw where
  /-- Three stars or more in a row. -/
  | manyStars
  /-- Two stars that are no component of their own. -/
  | innerStars
  /-- A class that has no member or no end. -/
  | openClass
deriving Repr, DecidableEq

/-- The text of a flaw. -/
def Flaw.message : Flaw → String
  | .manyStars => "wildcards are either regular `*` or recursive `**`"
  | .innerStars => "recursive wildcards must form a single path component"
  | .openClass => "invalid range pattern"

/-- The members of a class that starts with `first`, and what follows the
class. -/
def classBody? (first : Char) (s : List Char) : Option (List Char × List Char) :=
  match s.dropWhile (· ≠ ']') with
  | _ :: rest => some (first :: s.takeWhile (· ≠ ']'), rest)
  | [] => none

/-- The parts of a pattern, read at most `fuel` at a time; `atStart` tells
that a component starts here. -/
def tokensUpTo : Nat → Bool → List Char → Except Flaw (List Token)
  | 0, _, _ => .ok []
  | _ + 1, _, [] => .ok []
  | _ + 1, _, '*' :: '*' :: '*' :: _ => .error .manyStars
  | fuel + 1, atStart, '*' :: '*' :: s =>
    if !atStart then .error .innerStars
    else
      match s with
      | [] => .ok [.deep]
      | '/' :: s => (tokensUpTo fuel true s).map (.deep :: ·)
      | _ => .error .innerStars
  | fuel + 1, _, '*' :: s => (tokensUpTo fuel false s).map (.star :: ·)
  | fuel + 1, _, '?' :: s => (tokensUpTo fuel false s).map (.any :: ·)
  | fuel + 1, _, '[' :: '!' :: c :: s =>
    match classBody? c s with
    | some (members, rest) => (tokensUpTo fuel false rest).map (.oneOf true (ranges members) :: ·)
    | none => .error .openClass
  | fuel + 1, _, '[' :: c :: s =>
    match if c = '!' then none else classBody? c s with
    | some (members, rest) => (tokensUpTo fuel false rest).map (.oneOf false (ranges members) :: ·)
    | none => .error .openClass
  | _ + 1, _, '[' :: _ => .error .openClass
  | fuel + 1, _, c :: s => (tokensUpTo fuel (c = '/') s).map (.char c :: ·)

/-- The parts of a pattern. -/
def tokens (s : List Char) : Except Flaw (List Token) :=
  tokensUpTo s.length true s

/-- The token matches one character. -/
def Token.admits (c : Char) : Token → Bool
  | .char d => c = d
  | .oneOf negated rs => (rs.any fun r => r.1 ≤ c && c ≤ r.2) != negated
  | _ => true

/-- Some end of a text is accepted. -/
def someEnd (accepts : List Char → Bool) : List Char → Bool
  | [] => accepts []
  | c :: s => accepts (c :: s) || someEnd accepts s

/-- The tokens match the whole of a name. -/
def matchTokens : List Token → List Char → Bool
  | [], s => s.isEmpty
  | .star :: ts, s => someEnd (matchTokens ts) s
  | .deep :: ts, s => someEnd (matchTokens ts) s
  | _ :: _, [] => false
  | t :: ts, c :: s => t.admits c && matchTokens ts s

/-- A component of a pattern. -/
inductive Component where
  /-- A name without wildcards. -/
  | literal (name : String)
  /-- A name with wildcards. -/
  | wild (tokens : List Token)
  /-- Any number of directories. -/
  | deep
deriving Repr, DecidableEq

/-- The text of tokens that are all characters. -/
def literal? : List Token → Option (List Char)
  | [] => some []
  | .char c :: ts => (literal? ts).map (c :: ·)
  | _ => none

/-- The component that tokens make. -/
def Component.ofTokens (ts : List Token) : Component :=
  match literal? ts with
  | some s => .literal (String.ofList s)
  | none => if ts.contains .deep then .deep else .wild ts

/-- The component matches a name. -/
def Component.accepts (name : String) : Component → Bool
  | .literal s => s = name
  | .wild ts => matchTokens ts name.toList
  | .deep => true

/-- A compiled pattern. -/
structure Compiled where
  /-- The pattern starts at the root. -/
  absolute : Bool
  /-- The pattern asks for directories, by a slash at its end. -/
  directories : Bool
  /-- The components. -/
  components : List Component
deriving Repr, DecidableEq

/-- Segments without an empty last one. -/
def dropLastEmpty (ss : List (List Char)) : List (List Char) :=
  if ss.getLast? = some [] then ss.dropLast else ss

/-- Compiles a pattern. It is checked as a whole first, so a class that
spans a slash is refused as an open one. -/
def compile (pattern : String) : Except Flaw Compiled := do
  let s := pattern.toList
  let _ ← tokens s
  let (absolute, body) := match s with
    | '/' :: body => (true, body)
    | body => (false, body)
  let parts ← (dropLastEmpty (Path.segments body)).mapM tokens
  let components := parts.map Component.ofTokens
  return ⟨absolute, s.getLast? = some '/', if body.isEmpty then components ++ [.literal ""] else components⟩

end Glob

end Tangle
