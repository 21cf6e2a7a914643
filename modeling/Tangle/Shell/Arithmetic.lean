import Tangle.Shell.Elements
import Tangle.Shell.Number
/-!
# Arithmetic of commands

The expressions between doubled parentheses: 64-bit whole numbers that wrap
around, the variables by their names, and the operators with their usual
precedence. An expression is evaluated while it is read, from left to right,
so a division by zero counts before a fault that comes after it; of `&&`,
`||` and `?` the operands that do not count are only read. The wide dialect
has further operators, and values of variables are expressions themselves.
-/

namespace Tangle

namespace Shell

namespace Arithmetic

/-- An operator between two operands. -/
inductive Operator where
  | add | sub | mul | div | rem | power | shiftLeft | shiftRight | bitAnd | bitOr | bitXor
  | less | lessEq | greater | greaterEq | equal | notEqual
deriving Repr, DecidableEq

/-- A token of an expression. -/
inductive Token where
  /-- The end. -/
  | finish
  /-- A number. -/
  | number (n : Int)
  /-- A name. -/
  | name (s : Octets)
  /-- An operator between operands. -/
  | binary (op : Operator)
  /-- An assignment, after an operator if any. -/
  | assign (op : Option Operator)
  /-- Another sign. -/
  | sign (s : String)
  /-- A number that is none. -/
  | flawed (problem : String)
  /-- A character without a meaning. -/
  | unknown
deriving Repr, DecidableEq

/-- The spellings of operators and signs, longer ones first. -/
def spellings : List (String × Token) :=
  [("<<=", .assign (some .shiftLeft)), (">>=", .assign (some .shiftRight)),
   ("<<", .binary .shiftLeft), (">>", .binary .shiftRight), ("<=", .binary .lessEq),
   (">=", .binary .greaterEq), ("==", .binary .equal), ("!=", .binary .notEqual), ("&&", .sign "&&"),
   ("||", .sign "||"), ("+=", .assign (some .add)), ("-=", .assign (some .sub)),
   ("*=", .assign (some .mul)), ("/=", .assign (some .div)), ("%=", .assign (some .rem)),
   ("&=", .assign (some .bitAnd)), ("|=", .assign (some .bitOr)), ("^=", .assign (some .bitXor)),
   ("<", .binary .less), (">", .binary .greater), ("=", .assign none), ("+", .binary .add),
   ("-", .binary .sub), ("*", .binary .mul), ("/", .binary .div), ("%", .binary .rem),
   ("&", .binary .bitAnd), ("|", .binary .bitOr), ("^", .binary .bitXor), ("(", .sign "("),
   (")", .sign ")"), ("!", .sign "!"), ("~", .sign "~"), ("?", .sign "?"), (":", .sign ":")]

/-- The further spellings of the wide dialect. -/
def wideSpellings : List (String × Token) :=
  [("**", .binary .power), ("++", .sign "++"), ("--", .sign "--"), (",", .sign ","), ("[", .sign "["),
   ("]", .sign "]")]

/-- How tight an operator binds its operands. -/
def Operator.tightness : Operator → Nat
  | .power => 9
  | .mul | .div | .rem => 8
  | .add | .sub => 7
  | .shiftLeft | .shiftRight => 6
  | .less | .lessEq | .greater | .greaterEq => 5
  | .equal | .notEqual => 4
  | .bitAnd => 3
  | .bitXor => 2
  | .bitOr => 1

/-- The number within 64 bits that differs by a multiple of their range. -/
def wrap (n : Int) : Int := n.bmod (Nat.pow 2 64)

/-- One for truth, else zero. -/
def truth (b : Bool) : Int := if b then 1 else 0

/-- A bitwise operation on 64-bit numbers. -/
def bitwise (f : BitVec 64 → BitVec 64 → BitVec 64) (a b : Int) : Int :=
  (f (BitVec.ofInt 64 a) (BitVec.ofInt 64 b)).toInt

/-- What is wrong with an expression. -/
inductive Flaw where
  /-- The expression is at fault. -/
  | expression (problem : String)
  /-- The value of a variable is no number. -/
  | number (text : Octets)
  /-- A variable cannot be changed. -/
  | constant (name : Octets)

/-- The evaluation of an expression under way. -/
structure Progress where
  /-- The expression. -/
  text : Octets
  /-- What is left from the last token on. -/
  last : Octets
  /-- What is left to read. -/
  rest : Octets
  /-- The token that was read last and not used, with what was left before
  it. -/
  current : Token × Octets
  /-- The state. -/
  state : State

/-- A step of an evaluation. -/
abbrev Evaluation (α : Type) := StateT Progress (Except Flaw) α

/-- The expression is at fault where `token` starts. In the wide dialect
that is said with the expression. -/
def failAt {α : Type} (problem : String) (token : Octets) : Evaluation α := do
  let p ← get
  if p.state.isWide then
    throw (.expression (Octets.text (p.text.dropWhile Numeral.isBlank) ++ ": " ++ problem
      ++ " (error token is \"" ++ Octets.text token ++ "\")"))
  else throw (.expression problem)

/-- The evaluation cannot go on. -/
def fail {α : Type} (problem : String) : Evaluation α := do failAt problem (← get).last

/-- The value of a digit of bases up to 64. -/
def digitOf (base : Nat) (c : Char) : Nat :=
  if c.isDigit then c.toNat - 48
  else if c.isLower then c.toNat - 87
  else if c.isUpper then (if base ≤ 36 then c.toNat - 55 else c.toNat - 29)
  else if c = '@' then 62 else 63

/-- The token of a number in the wide dialect, which may tell its base
before a number sign. -/
def numeral (s : Octets) : Token :=
  let inBase (base : Nat) (ds : Octets) : Token :=
    if ds.all fun c => c ≠ '#' && digitOf base c < base then
      .number (wrap (ds.foldl (fun (m : Int) c => m * base + digitOf base c) 0))
    else .flawed "value too great for base"
  match s.dropWhile (· ≠ '#'), s with
  | _ :: ds, s =>
    let base := (Octets.nat? (s.takeWhile (· ≠ '#'))).getD 0
    if base < 2 || 64 < base then .flawed "invalid arithmetic base"
    else if ds.isEmpty then .flawed "invalid integer constant"
    else inBase base ds
  | [], '0' :: x :: ds => if x = 'x' || x = 'X' then inBase 16 ds else inBase 8 (x :: ds)
  | [], s => inBase 10 s

/-- The token in front, and the rest. -/
def scan (wide : Bool) (s : Octets) : Token × Octets :=
  match s with
  | [] => (.finish, [])
  | c :: _ =>
    if c.isDigit && wide then
      let isDigit (c : Char) : Bool := c.isAlphanum || c = '#' || c = '@' || c = '_'
      (numeral (s.takeWhile isDigit), s.dropWhile isDigit)
    else if c.isDigit then
      match Numeral.natural? none s with
      | some (n, rest) => (.number (Numeral.clamp n), rest)
      | none => (.unknown, s.drop 1)
    else if Script.isNameStart c then (.name (s.takeWhile Script.isNameChar), s.dropWhile Script.isNameChar)
    else
      match ((if wide then wideSpellings else []) ++ spellings).find? fun e => e.1.toList.isPrefixOf s with
      | some (spelling, token) => (token, s.drop spelling.length)
      | none => (.unknown, s.drop 1)

/-- Reads the next token. Doubled signs that stand beside no name are two
signs. -/
def advance : Evaluation Unit := do
  let p ← get
  let s := p.rest.dropWhile fun c => c = ' ' || c = '\t' || c = '\n'
  let (token, rest) := scan p.state.isWide s
  let follows := match p.current.1 with
    | .name _ | .sign "]" => true
    | _ => (rest.dropWhile Numeral.isBlank).head?.any Script.isNameStart
  let (token, rest) := match token with
    | .sign "++" => if follows then (token, rest) else (.binary .add, s.drop 1)
    | .sign "--" => if follows then (token, rest) else (.binary .sub, s.drop 1)
    | _ => (token, rest)
  set { p with rest, current := (token, s), last := if token = Token.finish then p.last else s }
  match token with
  | .flawed problem => failAt problem (s.take (s.length - rest.length))
  | _ => return

/-- The token that was read last. -/
def current : Evaluation Token := return (← get).current.1

/-- The value of two operands; `token` is where the second one starts. -/
def operate (op : Operator) (a b : Int) (token : Octets) : Evaluation Int := do
  let zero : Evaluation Int := do
    if (← get).state.isWide then failAt "division by 0" token else fail "division by zero"
  match op with
  | .add => return wrap (a + b)
  | .sub => return wrap (a - b)
  | .mul => return wrap (a * b)
  | .div => if b = 0 then zero else return wrap (a.tdiv b)
  | .rem => if b = 0 then zero else return a.tmod b
  | .power => if b < 0 then fail "exponent less than 0" else return wrap (powerOf a b.toNat)
  | .shiftLeft => return wrap (a * Int.pow 2 (b.emod 64).toNat)
  | .shiftRight => return a.fdiv (Int.pow 2 (b.emod 64).toNat)
  | .bitAnd => return bitwise (· &&& ·) a b
  | .bitOr => return bitwise (· ||| ·) a b
  | .bitXor => return bitwise (· ^^^ ·) a b
  | .less => return truth (a < b)
  | .lessEq => return truth (a ≤ b)
  | .greater => return truth (b < a)
  | .greaterEq => return truth (b ≤ a)
  | .equal => return truth (a = b)
  | .notEqual => return truth (a ≠ b)
where
  /-- A power of a number, within 64 bits. -/
  powerOf (a : Int) (n : Nat) : Int :=
    (BitVec.ofInt 64 a ^ (n % Nat.pow 2 64)).toInt

/-- What is evaluated in the wide dialect when the value of a variable is an
expression. -/
abbrev Inner := Octets → Evaluation Int

/-- The number that a variable or element stands for. -/
def valueOf (inner : Inner) (text : Option Octets) : Evaluation Int := do
  match text with
  | none | some [] => return 0
  | some text =>
    if (← get).state.isWide then inner text
    else
      match Numeral.whole? none text with
      | some n => return n
      | none => if text.all Numeral.isBlank then return 0 else throw (.number text)

/-- The text of an element of an array, or of a variable. -/
def textOf (name : Octets) (index : Option Index) : Evaluation (Option Octets) := do
  let s := (← get).state
  match index with
  | none => return s.value? name
  | some i => return s.element? name i

/-- Gives a variable, or an element of an array, a number. -/
def assignNumber (name : Octets) (index : Option Index) (n : Int) : Evaluation Unit := do
  let p ← get
  let text := (toString n).toList
  if (p.state.lookupVariable name).constant then throw (.constant name)
  else
    let state := match index with
      | none => p.state.setVariable name text
      | some i => p.state.setElement name i [] text
    set { p with state }

/-- The text up to a bracket that closes, and what follows it. -/
def upToBracket : Nat → Octets → Octets × Octets
  | _, [] => ([], [])
  | depth, c :: s =>
    if c = ']' && depth = 0 then ([], s)
    else
      let depth := if c = '[' then depth + 1 else if c = ']' then depth - 1 else depth
      (upToBracket depth s).map (c :: ·) id

/-- What is wrong where an operand should be. -/
def noOperand {α : Type} : Evaluation α := do
  if (← get).state.isWide then fail "syntax error: operand expected" else fail "expecting primary"

/-- Something stands behind the end of an expression. -/
def expect {α : Type} (plain wide : String) : Evaluation α := do
  if (← get).state.isWide then fail wide else fail plain

mutual

/-- Evaluates expressions that are separated by commas. `skips` tells that
nothing is to be computed. -/
def list (inner : Inner) : Nat → Bool → Evaluation Int
  | 0, _ => noOperand
  | fuel + 1, skips => do
    let n ← assignment inner fuel skips
    if (← current) = .sign "," then
      advance
      list inner fuel skips
    else return n

/-- Evaluates an assignment, or another expression. -/
def assignment (inner : Inner) : Nat → Bool → Evaluation Int
  | 0, _ => noOperand
  | fuel + 1, skips => do
    let before ← get
    match before.current.1 with
    | .name name =>
      advance
      let index ← index? inner name fuel skips
      match ← current with
      | .assign op =>
        advance
        let place := (← get).current.2
        let y ← assignment inner fuel skips
        if skips then return y
        let n ← match op with
          | none => pure y
          | some op => do operate op (← valueOf inner (← textOf name index)) y place
        assignNumber name index n
        return n
      | _ =>
        set before
        choice inner fuel skips
    | _ => choice inner fuel skips

/-- Evaluates the index of an element of a variable, if one comes next. -/
def index? (inner : Inner) (name : Octets) : Nat → Bool → Evaluation (Option Index)
  | 0, _ => noOperand
  | fuel + 1, skips => do
    if (← current) ≠ .sign "[" then return none
    let p ← get
    if p.state.isKeyed name then
      let (key, rest) := upToBracket 0 (p.current.2.drop 1)
      set { p with rest, current := (.sign "]", p.current.2) }
      advance
      return some (.key key)
    else
      advance
      let i ← list inner fuel skips
      if (← current) = .sign "]" then advance
      return some (.number i)

/-- Evaluates a choice between two expressions. -/
def choice (inner : Inner) : Nat → Bool → Evaluation Int
  | 0, _ => noOperand
  | fuel + 1, skips => do
    let test ← either inner fuel skips
    if (← current) ≠ .sign "?" then return test
    advance
    let yes ← assignment inner fuel (skips || test = 0)
    if (← current) ≠ .sign ":" then expect "expecting ':'" "\x60:' expected for conditional expression"
    advance
    let no ← choice inner fuel (skips || test ≠ 0)
    return if test = 0 then no else yes

/-- Evaluates operands joined by `||`. -/
def either (inner : Inner) : Nat → Bool → Evaluation Int
  | 0, _ => noOperand
  | fuel + 1, skips => do
    let a ← both inner fuel skips
    if (← current) ≠ .sign "||" then return a
    advance
    let b ← either inner fuel (skips || a ≠ 0)
    return truth (a ≠ 0 || b ≠ 0)

/-- Evaluates operands joined by `&&`. -/
def both (inner : Inner) : Nat → Bool → Evaluation Int
  | 0, _ => noOperand
  | fuel + 1, skips => do
    let a ← operation inner fuel 0 skips
    if (← current) ≠ .sign "&&" then return a
    advance
    let b ← both inner fuel (skips || a = 0)
    return truth (a ≠ 0 && b ≠ 0)

/-- Evaluates operands joined by operators that bind tighter than
`tightness`. -/
def operation (inner : Inner) : Nat → Nat → Bool → Evaluation Int
  | 0, _, _ => noOperand
  | fuel + 1, tightness, skips => do
    let a ← operand inner fuel skips
    chain inner fuel tightness skips a

/-- Goes on with further operators after the operand `a`. -/
def chain (inner : Inner) : Nat → Nat → Bool → Int → Evaluation Int
  | 0, _, _, a => return a
  | fuel + 1, tightness, skips, a => do
    match ← current with
    | .binary op =>
      if op.tightness ≤ tightness then return a
      advance
      let place := (← get).current.2
      -- Powers are evaluated from the right.
      let b ← operation inner fuel (if op = .power then op.tightness - 1 else op.tightness) skips
      let n ← if skips then pure b else operate op a b place
      chain inner fuel tightness skips n
    | _ => return a

/-- Evaluates an operand. -/
def operand (inner : Inner) : Nat → Bool → Evaluation Int
  | 0, _ => noOperand
  | fuel + 1, skips => do
    match ← current with
    | .number n =>
      advance
      return n
    | .name name =>
      advance
      let index ← index? inner name fuel skips
      let step (by' : Int) : Evaluation Int := do
        advance
        if skips then return 0
        let n ← valueOf inner (← textOf name index)
        assignNumber name index (wrap (n + by'))
        return n
      match ← current with
      | .sign "++" => step 1
      | .sign "--" => step (-1)
      | _ => if skips then return 0 else valueOf inner (← textOf name index)
    | .binary .add =>
      advance
      operand inner fuel skips
    | .binary .sub =>
      advance
      return wrap (-(← operand inner fuel skips))
    | .sign "!" =>
      advance
      return truth ((← operand inner fuel skips) = 0)
    | .sign "~" =>
      advance
      return -(← operand inner fuel skips) - 1
    | .sign "++" => stepped fuel skips 1
    | .sign "--" => stepped fuel skips (-1)
    | .sign "(" =>
      advance
      let n ← list inner fuel skips
      if (← current) ≠ .sign ")" then expect "expecting ')'" "missing \x60)'"
      advance
      return n
    | _ => noOperand
where
  /-- Changes a variable before its value is taken; before other operands
  the signs count one by one. -/
  stepped (fuel : Nat) (skips : Bool) (by' : Int) : Evaluation Int := do
    advance
    match ← current with
    | .name name =>
      advance
      let index ← index? inner name fuel skips
      if skips then return 0
      let n := wrap ((← valueOf inner (← textOf name index)) + by')
      assignNumber name index n
      return n
    | _ => operand inner fuel skips

end

/-- Evaluates the whole of a text, with values of variables that nest less
than `depth` deep. -/
def evaluate : Nat → Octets → Evaluation Int
  | 0, _ => fail "expression recursion level exceeded"
  | depth + 1, text => do
    let before ← get
    set { before with rest := text, text, last := [], current := (.finish, []) }
    advance
    let n ← if before.state.isWide && (← current) = .finish then pure 0
      else list (evaluate depth) (16 * (text.length + 1)) false
    match ← current with
    | .finish => pure ()
    | .assign _ => expect "expecting EOF" "attempted assignment to non-variable"
    | _ => expect "expecting EOF" "syntax error in expression"
    modify fun p => { p with rest := before.rest, current := before.current, text := before.text, last := before.last }
    return n

/-- The depth to which values of variables may nest. -/
def depthLimit : Nat := 64

end Arithmetic

/-- Evaluates an expression; a fault ends the interpreter. -/
def State.calculate (expression : Octets) (s : State) : Except Unit Int × State :=
  match (Arithmetic.evaluate Arithmetic.depthLimit expression).run ⟨[], [], [], (.finish, []), s⟩ with
  | .ok (n, p) => (.ok n, p.state)
  | .error (.expression problem) =>
    (.error (), s.abort (if s.isWide then problem
      else "arithmetic expression: " ++ problem ++ ": \"" ++ Octets.text expression ++ "\""))
  | .error (.number text) => (.error (), s.abort ("Illegal number: " ++ Octets.text text))
  | .error (.constant name) => (.error (), s.refuseChange name)

end Shell

end Tangle
