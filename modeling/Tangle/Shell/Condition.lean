import Tangle.Shell.Elements
import Tangle.Shell.Files
import Tangle.Shell.Number
/-!
# Conditions

What `test` and `[` tell about files, texts and numbers. The plain reading
(`Condition.value`) goes from left to right and decides by what follows
whether a word is an operator; the counting one (`Condition.counted`) goes
by the number of operands where there are few. They differ in their
complaints (`Wording`).
-/

namespace Tangle

namespace Shell

namespace Condition

/-! ## Operators -/

/-- An operator on one operand. -/
def isUnary (s : Octets) : Bool :=
  match s with
  | ['-', c] => "rwxefdcbpugkstznhLOGS".toList.contains c
  | _ => false

/-- An operator between two operands that compares numbers. -/
def numeric? (s : Octets) : Option (Int → Int → Bool) :=
  match String.ofList s with
  | "-eq" => some fun x y => x = y
  | "-ne" => some fun x y => x ≠ y
  | "-lt" => some fun x y => x < y
  | "-le" => some fun x y => x ≤ y
  | "-gt" => some fun x y => x > y
  | "-ge" => some fun x y => x ≥ y
  | _ => none

/-- An operator between two operands that compares texts. -/
def textual? (s : Octets) : Option (Octets → Octets → Bool) :=
  match String.ofList s with
  | "=" => some fun a b => a = b
  | "!=" => some fun a b => a ≠ b
  | "<" => some fun a b => decide (a < b)
  | ">" => some fun a b => decide (b < a)
  | _ => none

/-- An operator between two operands that compares files. With `missingIsOld`
a file that is not there is older than others. -/
def fileComparison? (s : State) (missingIsOld : Bool) (operator : Octets) : Option (Octets → Octets → Bool) :=
  let place (o : Octets) : Option Place :=
    match s.disk.find s.cwd (State.path o) with
    | .ok found => if found.node.isSome then some found.place else none
    | .error _ => none
  let time (o : Octets) : Option Int := ((s.lookup (State.path o)).toOption).map Node.modified
  let isNewer (a b : Octets) : Bool := match time a, time b with
    | some x, some y => y < x
    | some _, none => missingIsOld
    | none, _ => false
  match String.ofList operator with
  | "-nt" => some isNewer
  | "-ot" => some fun a b => isNewer b a
  | "-ef" => some fun a b => match place a, place b with
    | some x, some y => s.isSameFile x y
    | _, _ => false
  | _ => none

/-- An operator between two operands. -/
def isBinary (s : State) (operator : Octets) : Bool :=
  (numeric? operator).isSome || (textual? operator).isSome || (fileComparison? s false operator).isSome

/-- What an operator tells about a file. -/
def ofFile (s : State) (letter : Char) (operand : Octets) : Bool :=
  let node := (s.lookup (State.path operand)).toOption
  match letter with
  | 'e' => node.isSome
  | 'f' => node.any Node.isFile
  | 'd' => node.any Node.isDirectory
  | 'c' => node.any fun n => !n.isFile && !n.isDirectory
  | 'r' | 'w' | 'O' | 'G' => node.isSome
  | 'x' => node.any fun n => n.isDirectory || n.isExecutable
  | 's' => node.any fun n => n.isDirectory || n.content?.any fun c => !c.isEmpty
  | 'u' => node.any fun n => n.mode &&& 0o4000 ≠ 0
  | 'g' => node.any fun n => n.mode &&& 0o2000 ≠ 0
  | 'k' => node.any fun n => n.mode &&& 0o1000 ≠ 0
  | 'h' | 'L' => ((s.lookupEntry (State.path operand)).toOption).any Node.isLink
  | _ => false

/-- The number that an operand writes. -/
def number (s : Octets) : Except String Int :=
  match Numeral.whole? (some 10) s with
  | some n => .ok n
  | none => .error ("Illegal number: " ++ Octets.text s)

/-- What an operator tells about one operand. -/
def unary (s : State) (operator operand : Octets) : Except String Bool :=
  match operator with
  | ['-', 'z'] => .ok operand.isEmpty
  | ['-', 'n'] => .ok !operand.isEmpty
  | ['-', 't'] => (number operand).map fun _ => false
  | ['-', letter] => .ok (ofFile s letter operand)
  | _ => .ok false

/-! ## The plain reading -/

/-- What a word is where it stands. -/
inductive Token where
  /-- There is none. -/
  | finish
  /-- An operand. -/
  | operand
  /-- An operator on one operand. -/
  | unary
  /-- An operator between two operands. -/
  | binary
  /-- A negation. -/
  | negation
  /-- A conjunction. -/
  | both
  /-- A disjunction. -/
  | either
  /-- An opening parenthesis. -/
  | opening
  /-- A closing parenthesis. -/
  | closing
deriving Repr, DecidableEq

/-- What a word is by itself. -/
def tokenOf (s : State) (w : Octets) : Token :=
  match w with
  | ['!'] => .negation
  | ['-', 'a'] => .both
  | ['-', 'o'] => .either
  | ['('] => .opening
  | [')'] => .closing
  | w => if isUnary w then .unary else if isBinary s w then .binary else .operand

/-- What the first of some words is, given those that follow. -/
def token (s : State) : List Octets → Token
  | [] => .finish
  | w :: rest =>
    match tokenOf s w, rest with
    | .unary, [] => .operand
    | .unary, [_] => .unary
    | .unary, next :: _ :: _ => if isBinary s next then .operand else .unary
    | .opening, [] => .operand
    | t, _ => t

/-- A reading gives the value and the words from the last one that it used
on. -/
abbrev Reading := Except String (Bool × List Octets)

mutual

/-- A condition without negation that starts with a token. -/
def primary (s : State) : Nat → Token → List Octets → Reading
  | 0, _, _ => .error "too many conditions"
  | fuel + 1, t, words =>
    match t with
    | .finish => .ok (false, words)
    | .opening =>
      let inside := words.drop 1
      match token s inside with
      | .closing => .ok (false, inside)
      | n =>
        match disjunction s fuel n inside with
        | .error problem => .error problem
        | .ok (value, words) =>
          match token s (words.drop 1) with
          | .closing => .ok (value, words.drop 1)
          | _ => .error "closing paren expected"
    | .unary =>
      match words with
      | operator :: operand :: rest => (unary s operator operand).map fun value => (value, operand :: rest)
      | operator :: [] => .error (Octets.text operator ++ ": argument expected")
      | [] => .ok (false, [])
    | _ =>
      match words with
      | a :: operator :: rest =>
        if token s (operator :: rest) = .binary then
          match rest with
          | [] => .error (Octets.text operator ++ ": argument expected")
          | b :: rest => (compare operator a b).map fun value => (value, b :: rest)
        else .ok (!a.isEmpty, words)
      | a :: [] => .ok (!a.isEmpty, words)
      | [] => .ok (false, [])
where
  /-- What an operator tells about two operands. -/
  compare (operator a b : Octets) : Except String Bool :=
    match numeric? operator with
    | some holds => do return holds (← number a) (← number b)
    | none =>
      match (textual? operator).or (fileComparison? s false operator) with
      | some holds => .ok (holds a b)
      | none => .ok false

/-- A condition that may be negated. -/
def negation (s : State) : Nat → Token → List Octets → Reading
  | 0, _, _ => .error "too many conditions"
  | fuel + 1, t, words =>
    if t ≠ .negation then primary s fuel t words
    else
      let n := token s (words.drop 1)
      let words := if n = .finish then words else words.drop 1
      (negation s fuel n words).map fun (value, words) => (!value, words)

/-- Conditions joined by `-a`. -/
def conjunction (s : State) : Nat → Token → List Octets → Reading
  | 0, _, _ => .error "too many conditions"
  | fuel + 1, t, words =>
    match negation s fuel t words with
    | .error problem => .error problem
    | .ok (value, words) =>
      if token s (words.drop 1) = .both then
        (conjunction s fuel (token s (words.drop 2)) (words.drop 2)).map fun (other, words) => (value && other, words)
      else .ok (value, words)

/-- Conditions joined by `-o`. -/
def disjunction (s : State) : Nat → Token → List Octets → Reading
  | 0, _, _ => .error "too many conditions"
  | fuel + 1, t, words =>
    match conjunction s fuel t words with
    | .error problem => .error problem
    | .ok (value, words) =>
      if token s (words.drop 1) = .either then
        (disjunction s fuel (token s (words.drop 2)) (words.drop 2)).map fun (other, words) => (value || other, words)
      else .ok (value, words)

end

/-- The value of the words as a whole, starting with a token. -/
def whole (s : State) (t : Token) (words : List Octets) : Except String Bool :=
  match disjunction s (8 * (words.length + 2)) t words with
  | .error problem => .error problem
  | .ok (_, last :: _ :: _) =>
    .error (if last.isEmpty then "unexpected operator" else Octets.text last ++ ": unexpected operator")
  | .ok (value, _) => .ok value

/-- The value of a condition. Three or four words may be negated or in
parentheses as a whole. -/
def value (s : State) : Nat → List Octets → Except String Bool
  | 0, words => whole s (token s words) words
  | _ + 1, [] => .ok false
  | fuel + 1, words =>
    let among := words.length = 3 || words.length = 4
    if words.length = 3 && (words[1]?).any (isBinary s) then whole s .operand words
    else if among && words.head? = some ['('] && words.getLast? = some [')'] then
      value s fuel (words.drop 1).dropLast
    else if among && words.head? = some ['!'] then (value s fuel (words.drop 1)).map (!·)
    else whole s (token s words) words

/-! ## The counting reading -/

/-- What complaints of the counting reading say. -/
structure Wording where
  /-- An operand is no number. -/
  notNumber : Octets → String
  /-- An operator on one operand was expected. -/
  unaryExpected : Octets → String
  /-- An operator between two operands was expected. -/
  binaryExpected : Octets → String
  /-- A word is missing after another one. -/
  missingAfter : Octets → String
  /-- There is a word too many. -/
  tooMany : Octets → String
  /-- A parenthesis is not closed; what stands there instead. -/
  notClosed : Option Octets → String

/-- A reading gives the value and the words after those that it used. -/
abbrev Counting := Except String (Bool × List Octets)

/-- The operators that the counting reading knows on one operand. -/
def isUnaryCounted (s : Octets) : Bool :=
  isUnary s || s = ['-', 'a'] || s = ['-', 'N'] || s = ['-', 'v'] || s = ['-', 'o'] || s = ['-', 'R']

/-- The number that an operand writes. -/
def countedNumber (w : Wording) (s : Octets) : Except String Int :=
  match Numeral.read? (some 10) s with
  | some p => if p.rest.all Numeral.isBlank then .ok p.value else .error (w.notNumber s)
  | none => .error (w.notNumber s)

/-- The variable that a word names has a value, or the element of an array
with an index in brackets. -/
def hasValue (s : State) (operand : Octets) : Bool :=
  let name := operand.takeWhile (· ≠ '[')
  if name.length = operand.length then (s.value? operand).isSome
  else
    let index := (operand.drop (name.length + 1)).dropLast
    if index = ['@'] || index = ['*'] then !(s.elements name).isEmpty
    else if s.isKeyed name then (s.element? name (.key index)).isSome
    else (Octets.int? index).any fun n => (s.element? name (.number n)).isSome

/-- What an operator tells about one operand. -/
def countedUnary (s : State) (w : Wording) (operator operand : Octets) : Except String Bool :=
  match operator with
  | ['-', 't'] => (countedNumber w operand).map fun _ => false
  | ['-', 'v'] => .ok (hasValue s operand)
  | ['-', 'a'] => .ok (ofFile s 'e' operand)
  | ['-', 'o'] => .ok (((Switch.ofName? s.dialect (Octets.text operand)).map fun o => s.has o).getD false)
  | operator => unary s operator operand

/-- The operator stands between two operands there. -/
def isBinaryCounted (s : State) (operator : Octets) : Bool :=
  isBinary s operator || operator = ['=', '=']

/-- What an operator tells about two operands. -/
def countedBinary (s : State) (w : Wording) (operator a b : Octets) : Except String Bool :=
  let operator := if operator = ['=', '='] then ['='] else operator
  match numeric? operator with
  | some holds => do return holds (← countedNumber w a) (← countedNumber w b)
  | none =>
    match (textual? operator).or (fileComparison? s true operator) with
    | some holds => .ok (holds a b)
    | none => .ok false

mutual

/-- A condition of the general form. -/
def countedPrimary (s : State) (w : Wording) : Nat → List Octets → List Octets → Counting
  | 0, _, _ => .error "too many conditions"
  | fuel + 1, before, words =>
    match words with
    | [] => .error (w.missingAfter (before.getLast?.getD []))
    | ['!'] :: rest =>
      (countedPrimary s w fuel (before ++ [['!']]) rest).map fun (value, rest) => (!value, rest)
    | ['('] :: rest =>
      match countedEither s w fuel (before ++ [['(']]) rest with
      | .error problem => .error problem
      | .ok (value, [')'] :: rest) => .ok (value, rest)
      | .ok (_, rest) => .error (w.notClosed rest.head?)
    | a :: operator :: b :: rest =>
      if isBinaryCounted s operator then (countedBinary s w operator a b).map (·, rest)
      else single a (operator :: b :: rest)
    | a :: rest => single a rest
where
  /-- A condition on one operand. -/
  single (a : Octets) (rest : List Octets) : Counting :=
    if isUnaryCounted a then
      match rest with
      | operand :: rest => (countedUnary s w a operand).map (·, rest)
      | [] => .error (w.missingAfter a)
    else .ok (!a.isEmpty, rest)

/-- Conditions joined by `-a`. -/
def countedBoth (s : State) (w : Wording) : Nat → List Octets → List Octets → Counting
  | 0, _, _ => .error "too many conditions"
  | fuel + 1, before, words =>
    match countedPrimary s w fuel before words with
    | .ok (value, ['-', 'a'] :: rest) =>
      (countedBoth s w fuel [['-', 'a']] rest).map fun (other, rest) => (value && other, rest)
    | result => result

/-- Conditions joined by `-o`. -/
def countedEither (s : State) (w : Wording) : Nat → List Octets → List Octets → Counting
  | 0, _, _ => .error "too many conditions"
  | fuel + 1, before, words =>
    match countedBoth s w fuel before words with
    | .ok (value, ['-', 'o'] :: rest) =>
      (countedEither s w fuel [['-', 'o']] rest).map fun (other, rest) => (value || other, rest)
    | result => result

end

/-- The value of words of any number. -/
def countedWhole (s : State) (w : Wording) (words : List Octets) : Except String Bool :=
  match countedEither s w (8 * (words.length + 2)) [] words with
  | .error problem => .error problem
  | .ok (value, []) => .ok value
  | .ok (_, extra :: _) => .error (w.tooMany extra)

/-- The value of two words. -/
def ofTwo (s : State) (w : Wording) (a b : Octets) : Except String Bool :=
  if a = ['!'] then .ok b.isEmpty
  else if isUnaryCounted a then countedUnary s w a b
  else .error (w.unaryExpected a)

/-- The value of three words. -/
def ofThree (s : State) (w : Wording) (a b c : Octets) : Except String Bool :=
  if isBinaryCounted s b then countedBinary s w b a c
  else if b = ['-', 'a'] then .ok (!a.isEmpty && !c.isEmpty)
  else if b = ['-', 'o'] then .ok (!a.isEmpty || !c.isEmpty)
  else if a = ['!'] then (ofTwo s w b c).map (!·)
  else if a = ['('] && c = [')'] then .ok !b.isEmpty
  else .error (w.binaryExpected b)

/-- The value of a condition by the number of its words. -/
def counted (s : State) (w : Wording) : List Octets → Except String Bool
  | [] => .ok false
  | [a] => .ok !a.isEmpty
  | [a, b] => ofTwo s w a b
  | [a, b, c] => ofThree s w a b c
  | [a, b, c, d] =>
    if a = ['!'] then (ofThree s w b c d).map (!·)
    else if a = ['('] && d = [')'] then ofTwo s w b c
    else countedWhole s w [a, b, c, d]
  | words => countedWhole s w words

end Condition

end Shell

end Tangle
