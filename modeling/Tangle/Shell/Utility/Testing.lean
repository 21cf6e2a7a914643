import Tangle.Shell.Condition
import Tangle.Shell.Utility.Basic
/-!
# Conditions as programs

The programs that tell whether a condition holds (`test` and `[`). Up to four
words are read by their number (`Testing.byCount`); more of them are joined
by `-a` and `-o`, with parentheses and negations in between.
-/

namespace Tangle

namespace Shell

namespace Utility

namespace Testing

/-- A reading gives the value and the words behind those that it used. -/
abbrev Reading := Except String (Bool × List Octets)

/-- A word is missing at the end of all words. -/
def missing (last : Octets) : String := "missing argument after " ++ curly last

/-- The number that an operand writes. -/
def number (s : Octets) : Except String Int :=
  match Numeral.read? (some 10) s with
  | some p => if p.rest.all Numeral.isBlank then .ok p.value else .error ("invalid integer " ++ curly s)
  | none => .error ("invalid integer " ++ curly s)

/-- The operator stands between two operands. -/
def isBetween (s : State) (operator : Octets) : Bool :=
  operator ≠ ['<'] && operator ≠ ['>'] && (Condition.isBinary s operator || operator = ['=', '='])

/-- A word that can only be an operator on one operand. -/
def isDashed (w : Octets) : Bool := w.length = 2 && w.head? = some '-'

/-- What an operator tells about one operand. -/
def unary (s : State) (last operator : Octets) (rest : List Octets) : Reading :=
  if !Condition.isUnary operator && operator ≠ ['-', 'N'] then .error (curly operator ++ ": unary operator expected")
  else
    match rest with
    | [] => .error (missing last)
    | operand :: rest =>
      if operator = ['-', 't'] then (number operand).map fun _ => (false, rest)
      else (Condition.unary s operator operand).map (·, rest)

/-- What an operator tells about two operands. An operand with `-l` in front
stands for its length. -/
def binary (s : State) (longLeft : Bool) (a operator : Octets) (rest : List Octets) : Reading :=
  let (longRight, b, rest) : Bool × Octets × List Octets := match rest with
    | ['-', 'l'] :: b :: rest => (true, b, rest)
    | b :: rest => (false, b, rest)
    | [] => (false, [], [])
  let value (long : Bool) (o : Octets) : Except String Int := if long then .ok o.length else number o
  match Condition.numeric? operator with
  | some holds => do return (holds (← value longLeft a) (← value longRight b), rest)
  | none =>
    match Condition.fileComparison? s true operator with
    | some holds =>
      if longLeft || longRight then .error (Octets.text operator ++ " does not accept -l") else .ok (holds a b, rest)
    | none => .ok (if operator = ['!', '='] then a ≠ b else a = b, rest)

mutual

/-- The value of so many words, of those that are left. -/
def byCount (s : State) (last : Octets) : Nat → Nat → List Octets → Reading
  | 0, _, _ => .error "too many conditions"
  | fuel + 1, count, words =>
    let one : List Octets → Reading
      | a :: rest => .ok (!a.isEmpty, rest)
      | [] => .error (missing last)
    let two : List Octets → Reading
      | ['!'] :: rest => (one rest).map fun (value, rest) => (!value, rest)
      | a :: rest => if isDashed a then unary s last a rest else .error (missing last)
      | [] => .error (missing last)
    let three (words : List Octets) : Reading := match words with
      | a :: b :: rest =>
        if isBetween s b then binary s false a b rest
        else if a = ['!'] then (two (b :: rest)).map fun (value, rest) => (!value, rest)
        else if a = ['('] && rest.head? = some [')'] then .ok (!b.isEmpty, rest.drop 1)
        else if b = ['-', 'a'] || b = ['-', 'o'] then either s last fuel words
        else .error (curly b ++ ": binary operator expected")
      | _ => .error (missing last)
    match count, words with
    | 1, words => one words
    | 2, words => two words
    | 3, words => three words
    | 4, ['!'] :: rest => (three rest).map fun (value, rest) => (!value, rest)
    | 4, ['('] :: a :: b :: [')'] :: rest => (two [a, b]).map fun (value, _) => (value, rest)
    | _, words => either s last fuel words

/-- One condition, with negations in front. -/
def term (s : State) (last : Octets) : Nat → List Octets → Reading
  | 0, _ => .error "too many conditions"
  | fuel + 1, words =>
    match words with
    | [] => .error (missing last)
    | ['!'] :: rest => (term s last fuel rest).map fun (value, rest) => (!value, rest)
    | ['('] :: rest =>
      if rest.isEmpty then .error (missing last)
      else
        let inside := (rest.drop 1).findIdx? (· = [')'])
        let count := match inside with
          | some n => if n < 4 then n + 1 else rest.length
          | none => rest.length
        match byCount s last fuel count rest with
        | .error problem => .error problem
        | .ok (value, [')'] :: rest) => .ok (value, rest)
        | .ok (_, w :: _) => .error ("‘)’ expected, found " ++ curly w)
        | .ok (_, []) => .error "‘)’ expected"
    | ['-', 'l'] :: a :: operator :: b :: rest =>
      if isBetween s operator then binary s true a operator (b :: rest) else single ['-', 'l'] (a :: operator :: b :: rest)
    | a :: rest => single a rest
where
  /-- A condition that starts with a word of no meaning for the others. -/
  single (a : Octets) (rest : List Octets) : Reading :=
    match rest with
    | operator :: b :: rest' =>
      if isBetween s operator then binary s false a operator (b :: rest')
      else if isDashed a then unary s last a rest else .ok (!a.isEmpty, rest)
    | _ => if isDashed a then unary s last a rest else .ok (!a.isEmpty, rest)

/-- Conditions joined by `-a`. -/
def both (s : State) (last : Octets) : Nat → List Octets → Reading
  | 0, _ => .error "too many conditions"
  | fuel + 1, words =>
    match term s last fuel words with
    | .ok (value, ['-', 'a'] :: rest) => (both s last fuel rest).map fun (other, rest) => (value && other, rest)
    | result => result

/-- Conditions joined by `-o`. -/
def either (s : State) (last : Octets) : Nat → List Octets → Reading
  | 0, _ => .error "too many conditions"
  | fuel + 1, words =>
    match both s last fuel words with
    | .ok (value, ['-', 'o'] :: rest) => (either s last fuel rest).map fun (other, rest) => (value || other, rest)
    | result => result

end

/-- The value of words. -/
def value (s : State) (words : List Octets) : Except String Bool :=
  if words.isEmpty then .ok false
  else
    match byCount s (words.getLast?.getD []) (8 * (words.length + 2)) words.length words with
    | .error problem => .error problem
    | .ok (value, []) => .ok value
    | .ok (_, extra :: _) => .error ("extra argument " ++ curly extra)

/-- Tells by its status whether words hold. -/
def judge (name : String) (words : List Octets) (s : State) : State :=
  match value s words with
  | .ok holds => s.ended (if holds then 0 else 1)
  | .error problem => ((Invoked.mk name [] []).complain problem s).ended 2

end Testing

/-- Tells whether a condition holds. -/
def test : Utility := simple fun argv s => Testing.judge (Octets.text (argv.head?.getD [])) (argv.drop 1) s

/-- Tells whether a condition in brackets holds. -/
def bracket : Utility := simple fun argv s =>
  let name := Octets.text (argv.head?.getD [])
  if 1 < argv.length && argv.getLast? = some [']'] then Testing.judge name (argv.drop 1).dropLast s
  else ((Invoked.mk name [] []).complain "missing ‘]’" s).ended 2

end Utility

end Shell

end Tangle
