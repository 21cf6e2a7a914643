import Tangle.Shell.Utility.Basic
import Tangle.Shell.Regex.Matching
/-!
# Expressions of arguments

`expr` evaluates the expression that its arguments write, one word each:
operators on numbers, comparisons, and what a text matches of a regular
expression.
-/

namespace Tangle

namespace Shell

namespace Utility

/-- Why an expression has no value. -/
inductive ExprFault where
  /-- An argument is missing after another one. -/
  | missingAfter (arg : Octets)
  /-- An argument stands where none can. -/
  | unexpected (arg : Octets)
  /-- A parenthesis is not closed; what stands there. -/
  | notClosed (arg : Option Octets)
  /-- An argument is no number. -/
  | notNumber
  /-- Something is divided by zero. -/
  | divisionByZero
  /-- A regular expression is not in order. -/
  | pattern (problem : String)

/-- A value and the arguments after it. -/
abbrev ExprReading := Except ExprFault (Octets × List Octets)

/-- The number that a value writes. -/
def exprInt (s : Octets) : Except ExprFault Int :=
  match s with
  | '+' :: _ => .error .notNumber
  | s =>
    match Octets.int? s with
    | some n => .ok n
    | none => .error .notNumber

/-- A truth value as a number. -/
def exprTruth (b : Bool) : Octets := if b then ['1'] else ['0']

/-- The value is nothing or zero. -/
def isExprNull (s : Octets) : Bool :=
  s.isEmpty || (let body := if s.head? = some '-' then s.drop 1 else s
    !body.isEmpty && body.all (· = '0'))

/-- What a text matches of an expression at its front: the text of the
first group, or the length. -/
def exprMatch (text pattern : Octets) : Except ExprFault Octets :=
  match Regex.read { Regex.Rules.posixBasic with repeatsOnce := false, emptyRanges := true } pattern with
  | .error flaw => .error (.pattern flaw.message)
  | .ok r =>
    let found := Regex.matchAt .plain text r ⟨0, none, text⟩
    if 0 < r.groupCount then .ok ((found.map fun m => m.group text 1).getD [])
    else .ok (decimal ((found.map fun m => m.stop).getD 0))

/-- The operators, those that bind least first. -/
def exprOperators : List (List String) :=
  [["|"], ["&"], ["<", "<=", "=", "==", "!=", ">=", ">"], ["+", "-"], ["*", "/", "%"], [":"]]

/-- What an operator makes of two values. -/
def exprApply (operator : String) (a b : Octets) : ExprReading :=
  let number (f : Int → Int → Except ExprFault Int) : ExprReading := do
    let n ← f (← exprInt a) (← exprInt b)
    return ((toString n).toList, [])
  let compare (holds : Ordering → Bool) : ExprReading :=
    let o : Ordering := match Octets.int? a, Octets.int? b with
      | some m, some n => Ord.compare m n
      | _, _ => if a < b then .lt else if a = b then .eq else .gt
    .ok (exprTruth (holds o), [])
  match operator with
  | "|" => .ok (if !isExprNull a then a else if !isExprNull b then b else ['0'], [])
  | "&" => .ok (if isExprNull a || isExprNull b then ['0'] else a, [])
  | "<" => compare (· = .lt)
  | "<=" => compare (· ≠ .gt)
  | "=" | "==" => compare (· = .eq)
  | "!=" => compare (· ≠ .eq)
  | ">=" => compare (· ≠ .lt)
  | ">" => compare (· = .gt)
  | "+" => number fun m n => .ok (m + n)
  | "-" => number fun m n => .ok (m - n)
  | "*" => number fun m n => .ok (m * n)
  | "/" => number fun m n => if n = 0 then .error .divisionByZero else .ok (m.tdiv n)
  | "%" => number fun m n => if n = 0 then .error .divisionByZero else .ok (m.tmod n)
  | _ => (exprMatch a b).map (·, [])

mutual

/-- The value of operators of a level and those that bind tighter. -/
def exprLevel : Nat → List (List String) → Octets → List Octets → ExprReading
  | 0, _, before, _ => .error (.missingAfter before)
  | fuel + 1, [], before, args => exprPrimary fuel before args
  | fuel + 1, level :: tighter, before, args =>
    match exprLevel fuel tighter before args with
    | .error fault => .error fault
    | .ok (a, rest) => exprChain fuel level tighter a rest

/-- The value of a chain of operators of one level. -/
def exprChain : Nat → List String → List (List String) → Octets → List Octets → ExprReading
  | 0, _, _, a, rest => .ok (a, rest)
  | fuel + 1, level, tighter, a, rest =>
    match rest with
    | operator :: more =>
      if level.any fun o => o.toList = operator then
        match exprLevel fuel tighter operator more with
        | .error fault => .error fault
        | .ok (b, rest) =>
          match exprApply (String.ofList operator) a b with
          | .error fault => .error fault
          | .ok (value, _) => exprChain fuel level tighter value rest
      else .ok (a, rest)
    | [] => .ok (a, [])

/-- The value of an argument, a function or parentheses. -/
def exprPrimary : Nat → Octets → List Octets → ExprReading
  | 0, before, _ => .error (.missingAfter before)
  | fuel + 1, before, args =>
    match args with
    | [] => .error (.missingAfter before)
    | a :: rest =>
      let operand (before : Octets) (args : List Octets) : ExprReading := exprPrimary fuel before args
      match String.ofList a with
      | "(" =>
        match exprLevel fuel exprOperators a rest with
        | .error fault => .error fault
        | .ok (value, [')'] :: rest) => .ok (value, rest)
        | .ok (_, []) => .error (.notClosed (rest.getLast?))
        | .ok (_, other :: _) => .error (.notClosed (some other))
      | ")" => .error (.unexpected a)
      | "+" => match rest with
        | [] => .error (.missingAfter a)
        | b :: rest => .ok (b, rest)
      | "length" => do
        let (text, rest) ← operand a rest
        return (decimal ((Octets.chars text).length), rest)
      | "match" => do
        let (text, rest) ← operand a rest
        let (pattern, rest) ← operand text rest
        return (← exprMatch text pattern, rest)
      | "index" => do
        let (text, rest) ← operand a rest
        let (chars, rest) ← operand text rest
        return (decimal ((text.findIdx? chars.contains).map (· + 1) |>.getD 0), rest)
      | "substr" => do
        let (text, rest) ← operand a rest
        let (start, rest) ← operand text rest
        let (count, rest) ← operand start rest
        match Octets.int? start, Octets.int? count with
        | some (.ofNat (m + 1)), some (.ofNat n) => return ((text.drop m).take n, rest)
        | _, _ => return ([], rest)
      | _ => .ok (a, rest)

end

/-- Evaluates an expression of its arguments. -/
def expr : Utility := simple fun argv s =>
  let i : Invoked := ⟨Octets.text (argv.head?.getD []), [], []⟩
  let args := argv.drop 1
  let args := if args.head? = some ['-', '-'] then args.drop 1 else args
  let refused (message : String) : State := (i.complain message s).ended 2
  if args.isEmpty then (i.refuse "missing operand" s).ended 2
  else
    match exprLevel (16 * (args.length + 1)) exprOperators [] args with
    | .ok (value, []) => (s.print (value ++ ['\n'])).ended (if isExprNull value then 1 else 0)
    | .ok (_, extra :: _) => refused ("syntax error: unexpected argument " ++ curly extra)
    | .error (.missingAfter a) => refused ("syntax error: missing argument after " ++ curly a)
    | .error (.unexpected a) => refused ("syntax error: unexpected " ++ quote a)
    | .error (.notClosed (some a)) => refused ("syntax error: expecting ')' after " ++ curly a)
    | .error (.notClosed none) => refused "syntax error: expecting ')'"
    | .error .notNumber => refused "non-integer argument"
    | .error .divisionByZero => refused "division by zero"
    | .error (.pattern problem) => refused problem

end Utility

end Shell

end Tangle
