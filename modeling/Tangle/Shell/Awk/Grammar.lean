import Tangle.Shell.Awk.Token
/-!
# Grammar of the language of records

Programs are read by recursive descent (`Program.read`). Readers take words
from a list and leave the rest; what binds tighter is read by the next level
of expressions.
-/

namespace Tangle

namespace Shell

namespace Awk

/-- What a name stands for. -/
inductive Kind where
  | scalar | array | function
deriving Repr, DecidableEq

/-- What complaints call it. -/
def Kind.called : Kind → String
  | scalar => "variable"
  | array => "array"
  | function => "function"

/-- A call of a function of the program. -/
structure Called where
  /-- The line. -/
  line : Nat
  /-- The function. -/
  name : Octets
  /-- What the arguments are, where that is known. -/
  arguments : List (Option Kind)

/-- The progress of reading. -/
structure Scan where
  /-- The words that are left. -/
  rest : List (Nat × Token)
  /-- The line of the last word. -/
  line : Nat
  /-- The parentheses that are open. -/
  parens : Nat
  /-- The braces that are open. -/
  braces : Nat
  /-- What is read belongs to a function. -/
  inFunction : Bool
  /-- What is read runs before or after all records. -/
  outside : Bool
  /-- The functions that were called, the last one first. -/
  called : List Called
  /-- What the parameters of the function that is read are. -/
  locals : List (Octets × Option Kind)
  /-- What the other names are. -/
  globals : List (Octets × Kind)
  /-- What is wrong with the program although it can be read on, the last
  flaw first. -/
  flaws : List (Nat × String)

/-- A complaint about a program, with its line. -/
abbrev Flaw := Nat × String

/-- A reader of a part of a program. -/
abbrev Reading (α : Type) := StateT Scan (Except (List Flaw)) α

/-- The next word. -/
def peek : Reading (Option Token) := return ((← get).rest.head?).map Prod.snd

/-- Goes past a word. -/
def skip : Reading Unit := modify fun s =>
  match s.rest with
  | (line, t) :: rest =>
    let parens := if t = .sign "(" then s.parens + 1 else if t = .sign ")" then s.parens - 1 else s.parens
    let braces := if t = .sign "\x7b" then s.braces + 1 else if t = .sign "\x7d" then s.braces - 1 else s.braces
    { s with rest, line, parens, braces }
  | [] => s

/-- The program cannot be read on. -/
def fail {α : Type} : Reading α := do
  let s ← get
  let (line, shown) := match s.rest with
    | (line, t) :: _ => (line, t.spelling)
    | [] => (s.line + 1, "end of file")
  let problem := if 0 < s.parens then "missing ) near " ++ shown
    else if 0 < s.braces && s.rest.isEmpty then "missing \x7d near " ++ shown
    else "syntax error at or near " ++ shown
  throw (((line, problem) :: s.flaws).reverse)

/-- Notes a flaw in the line that is read. -/
def note (problem : String) : Reading Unit :=
  modify fun s => { s with flaws := (s.line, problem) :: s.flaws }

/-- The next word must not stand here. -/
def refuse {α : Type} (problem : String) : Reading α := do
  let s ← get
  throw ((((s.rest.head?.map Prod.fst).getD s.line, problem) :: s.flaws).reverse)

/-- Notes what a name stands for. -/
def use (kind : Kind) (name : Octets) : Reading Unit := do
  let s ← get
  match s.locals.lookup name with
  | some none => modify fun s => { s with locals := s.locals.map fun e => if e.1 = name then (name, some kind) else e }
  | some (some k) => if k ≠ kind then note ("illegal reference to " ++ k.called ++ " " ++ Octets.text name)
  | none =>
    match s.globals.lookup name with
    | none => set { s with globals := (name, kind) :: s.globals }
    | some k => if k ≠ kind then note ("illegal reference to " ++ k.called ++ " " ++ Octets.text name)

/-- What a name stands for, as far as that is known. -/
def kindOf (name : Octets) : Reading (Option Kind) := do
  let s ← get
  match s.locals.lookup name with
  | some k => return k
  | none => return s.globals.lookup name

/-- The next word is a sign. -/
def isSign (g : String) : Reading Bool := return (← peek) = some (.sign g)

/-- Goes past a sign if it comes next. -/
def takeSign (g : String) : Reading Bool := do
  if ← isSign g then
    skip
    return true
  else return false

/-- Goes past a sign, which has to come next. -/
def expect (g : String) : Reading Unit := do
  if !(← takeSign g) then fail

/-- Goes past a word of the language if it comes next. -/
def takeKeyword (w : String) : Reading Bool := do
  if (← peek) = some (.keyword w) then
    skip
    return true
  else return false

/-- Goes past ends of lines. -/
def skipLines : Nat → Reading Unit
  | 0 => return
  | fuel + 1 => do
    if (← peek) = some .newline then
      skip
      skipLines fuel

/-- Goes past ends of lines and of statements. -/
def skipEnds : Nat → Reading Unit
  | 0 => return
  | fuel + 1 => do
    if (← peek) = some .newline || (← isSign ";") then
      skip
      skipEnds fuel

/-- The text of a regular expression in the spelling that matching knows.
Braces stand for themselves. -/
def regexText : Octets → Octets
  | '\\' :: c :: s =>
    let special := "\\.[]*+?()|^$\x7b\x7d/".toList
    match if c = '\\' || c = '"' then none else escape? (c :: s) with
    | some (d, _) => (if special.contains d then ['\\', d] else [d]) ++ regexText s
    | none => (if special.contains c then (if c = '/' then ['/'] else ['\\', c]) else [c]) ++ regexText s
  | c :: s => if c = '\x7b' || c = '\x7d' then '\\' :: c :: regexText s else c :: regexText s
  | [] => []

/-- What an expression is missing. -/
inductive Lack where
  /-- Something that a sign belongs to. -/
  | operand
  /-- The end of a group. -/
  | closing
  /-- The end of a class, or a class that exists. -/
  | bracket
  /-- Something between the start of a line and a star. -/
  | anchored

/-- The words for what an expression is missing. -/
def Lack.message : Lack → String
  | operand => "missing operand"
  | closing => "missing ')'"
  | bracket => "bad class -- [], [^] or ["
  | anchored => "syntax error ^* or ^+"

/-- The names of classes of characters. -/
def classNames : List String :=
  ["alnum", "alpha", "blank", "cntrl", "digit", "graph", "lower", "print", "punct", "space", "upper", "xdigit"]

/-- What follows a class of characters after its opening bracket. -/
def afterClass (s : Octets) : Option Octets :=
  let s := if s.head? = some '^' then s.drop 1 else s
  let rec go : Nat → Bool → Octets → Option Octets
    | 0, _, _ => none
    | _ + 1, _, [] => none
    | fuel + 1, atStart, ']' :: s => if atStart then go fuel false s else some s
    | fuel + 1, _, '[' :: ':' :: s =>
      let name := s.takeWhile Char.isAlpha
      match s.drop name.length with
      | ':' :: ']' :: rest => if classNames.contains (String.ofList name) then go fuel false rest else none
      | _ => go fuel false s
    | fuel + 1, _, '\\' :: _ :: s => go fuel false s
    | fuel + 1, _, _ :: s => go fuel false s
  go (s.length + 1) true s

/-- What a regular expression is missing. `depth` groups are open, and
`before` is the character that something has to follow. -/
def lack? : Nat → Nat → Option Char → Octets → Option Lack
  | 0, _, _, _ => none
  | _ + 1, depth, before, [] =>
    if before = some '|' then some .operand else if 0 < depth then some .closing else none
  | fuel + 1, depth, before, c :: s =>
    match c with
    | '\\' => lack? fuel depth none (s.drop 1)
    | '[' =>
      match afterClass s with
      | some rest => lack? fuel depth none rest
      | none => some .bracket
    | '(' => lack? fuel (depth + 1) (some '(') s
    | ')' =>
      if depth = 0 then lack? fuel 0 none s
      else if before = some '(' || before = some '|' then some .operand
      else lack? fuel (depth - 1) none s
    | '|' =>
      if before = some '(' || before = some '|' || before = some ' ' then some .operand else lack? fuel depth (some '|') s
    | '*' | '+' | '?' =>
      if before = some '^' then some .anchored
      else if before.isSome then some .operand
      else lack? fuel depth none s
    | '^' => lack? fuel depth (if before.isSome then some '^' else none) s
    | _ => lack? fuel depth none s

/-- The complaint about a regular expression that is not in order. -/
def regexFlaw? (s : Octets) : Option String :=
  (lack? (s.length + 1) 0 (some ' ') s).map fun l =>
    "regular expression compile failed (" ++ l.message ++ ")\n" ++ Octets.text s

/-- How expressions are spelled: they are about octets, and what is idle in
them has no effect. -/
def regexRules : Regex.Rules := ⟨true, .skipped, false, false, true, true, false, true, false, false⟩

/-- The regular expression that a text writes; one that is not in order
matches nothing. -/
def regexOf (s : Octets) : Regex :=
  (Regex.read regexRules (regexText s)).toOption.getD (.oneOf false [])

/-- How many arguments a function of the language takes. -/
def arity : String → Nat × Nat
  | "length" | "srand" | "fflush" => (0, 1)
  | "substr" | "split" => (2, 3)
  | "sub" | "gsub" => (2, 3)
  | "index" | "match" | "atan2" => (2, 2)
  | "sprintf" => (1, 255)
  | "rand" | "systime" => (0, 0)
  | "strftime" => (0, 3)
  | _ => (1, 1)

/-- What an expression must not hold at its top. -/
structure Limits where
  /-- A greater sign, since it would name where output goes. -/
  noGreater : Bool
  /-- The word `in`, since it would name an array. -/
  noIn : Bool

/-- The operation of an assignment sign. -/
def assignSign? (t : Option Token) : Option (Option Arith) :=
  match t with
  | some (.sign "=") => some none
  | some (.sign "+=") => some (some .add)
  | some (.sign "-=") => some (some .sub)
  | some (.sign "*=") => some (some .mul)
  | some (.sign "/=") => some (some .div)
  | some (.sign "%=") => some (some .rem)
  | some (.sign "^=") => some (some .pow)
  | _ => none

/-- The comparison of a sign. -/
def compareSign? (l : Limits) (t : Option Token) : Option Comparison :=
  match t with
  | some (.sign "<") => some .lt
  | some (.sign "<=") => some .le
  | some (.sign "==") => some .eq
  | some (.sign "!=") => some .ne
  | some (.sign ">=") => some .ge
  | some (.sign ">") => if l.noGreater then none else some .gt
  | _ => none

/-- The expression is a place that can be assigned to. -/
def Expr.isPlace : Expr → Bool
  | .variable _ | .field _ | .element .. => true
  | _ => false

/-- The word can start an operand that is joined to the one before. -/
def startsOperand : Option Token → Bool
  | some (.number _) | some (.text _) | some (.regex _) | some (.name _ _) | some (.builtin _) => true
  | some (.sign g) => ["$", "(", "-", "+", "++", "--"].contains g
  | _ => false

/-- Names among arguments stand for variables. -/
def useValues (args : List Expr) : Reading Unit :=
  args.forM fun
    | .variable name => use .scalar name
    | _ => pure ()

mutual

/-- Reads an expression. -/
def expr (l : Limits) : Nat → Reading Expr
  | 0 => fail
  | fuel + 1 => do
    let left ← choice l fuel
    match assignSign? (← peek) with
    | some op =>
      if left.isPlace then
        skip
        skipLines fuel
        return .assign left op (← expr l fuel)
      else return left
    | none => return left

/-- Reads an expression that may choose one of two. -/
def choice (l : Limits) : Nat → Reading Expr
  | 0 => fail
  | fuel + 1 => do
    let test ← disjunction l fuel
    if ← takeSign "?" then
      skipLines fuel
      let yes ← expr l fuel
      skipLines fuel
      expect ":"
      skipLines fuel
      return .conditional test yes (← expr l fuel)
    else return test

/-- Reads expressions of which one has to hold. -/
def disjunction (l : Limits) : Nat → Reading Expr
  | 0 => fail
  | fuel + 1 => do
    let first ← conjunction l fuel
    disjunctionTail l fuel first

/-- Reads what follows an alternative. -/
def disjunctionTail (l : Limits) : Nat → Expr → Reading Expr
  | 0, _ => fail
  | fuel + 1, first => do
    if ← takeSign "||" then
      skipLines fuel
      disjunctionTail l fuel (.either first (← conjunction l fuel))
    else return first

/-- Reads expressions that all have to hold. -/
def conjunction (l : Limits) : Nat → Reading Expr
  | 0 => fail
  | fuel + 1 => do
    let first ← membership l fuel
    conjunctionTail l fuel first

/-- Reads what follows an expression that has to hold. -/
def conjunctionTail (l : Limits) : Nat → Expr → Reading Expr
  | 0, _ => fail
  | fuel + 1, first => do
    if ← takeSign "&&" then
      skipLines fuel
      conjunctionTail l fuel (.both first (← membership l fuel))
    else return first

/-- Reads an expression that may ask for an element of an array. -/
def membership (l : Limits) : Nat → Reading Expr
  | 0 => fail
  | fuel + 1 => do
    let first ← matches' l fuel
    membershipTail l fuel first

/-- Reads the arrays that are asked for an element. -/
def membershipTail (l : Limits) : Nat → Expr → Reading Expr
  | 0, _ => fail
  | fuel + 1, first => do
    if !l.noIn && (← peek) = some (.keyword "in") then
      skip
      match ← peek with
      | some (.name name _) =>
        skip
        use .array name
        membershipTail l fuel (.member [first] name)
      | _ => fail
    else return first

/-- Reads an expression that may be matched with another one. -/
def matches' (l : Limits) : Nat → Reading Expr
  | 0 => fail
  | fuel + 1 => do
    let first ← comparison l fuel
    matchesTail l fuel first

/-- Reads the expressions that a text is matched with. -/
def matchesTail (l : Limits) : Nat → Expr → Reading Expr
  | 0, _ => fail
  | fuel + 1, first => do
    if ← takeSign "~" then matchesTail l fuel (.matching false first (← comparison l fuel))
    else if ← takeSign "!~" then matchesTail l fuel (.matching true first (← comparison l fuel))
    else return first

/-- Reads a comparison. -/
def comparison (l : Limits) : Nat → Reading Expr
  | 0 => fail
  | fuel + 1 => do
    let first ← joined l fuel
    match compareSign? l (← peek) with
    | some c =>
      skip
      return .compare c first (← joined l fuel)
    | none => return first

/-- Reads texts that are joined, and commands whose output is read. -/
def joined (l : Limits) : Nat → Reading Expr
  | 0 => fail
  | fuel + 1 => do
    let first ← sum fuel
    joinedTail l fuel first

/-- Reads the texts that are joined to one. -/
def joinedTail (l : Limits) : Nat → Expr → Reading Expr
  | 0, _ => fail
  | fuel + 1, first => do
    let next ← peek
    let isIn := next = some (.keyword "in")
    if next = some (.sign "|") && ((← get).rest[1]?).map Prod.snd = some (.keyword "getline") then
      skip
      skip
      joinedTail l fuel (.readLine .command (some first) (← place? fuel))
    else if !isIn && startsOperand next && next ≠ some (.sign "+") && next ≠ some (.sign "-") then
      joinedTail l fuel (.join first (← sum fuel))
    else return first

/-- Reads a sum. -/
def sum : Nat → Reading Expr
  | 0 => fail
  | fuel + 1 => do
    let first ← product fuel
    sumTail fuel first

/-- Reads what is added to a number. -/
def sumTail : Nat → Expr → Reading Expr
  | 0, _ => fail
  | fuel + 1, first => do
    if ← takeSign "+" then sumTail fuel (.arith .add first (← product fuel))
    else if ← takeSign "-" then sumTail fuel (.arith .sub first (← product fuel))
    else return first

/-- Reads a product. -/
def product : Nat → Reading Expr
  | 0 => fail
  | fuel + 1 => do
    let first ← signed fuel
    productTail fuel first

/-- Reads what a number is multiplied with. -/
def productTail : Nat → Expr → Reading Expr
  | 0, _ => fail
  | fuel + 1, first => do
    if ← takeSign "*" then productTail fuel (.arith .mul first (← signed fuel))
    else if ← takeSign "/" then productTail fuel (.arith .div first (← signed fuel))
    else if ← takeSign "%" then productTail fuel (.arith .rem first (← signed fuel))
    else return first

/-- Reads an expression with signs in front. -/
def signed : Nat → Reading Expr
  | 0 => fail
  | fuel + 1 => do
    if ← takeSign "!" then return .negation (← signed fuel)
    else if ← takeSign "-" then return .minus (← signed fuel)
    else if ← takeSign "+" then return .plus (← signed fuel)
    else power fuel

/-- Reads a power. -/
def power : Nat → Reading Expr
  | 0 => fail
  | fuel + 1 => do
    let base ← stepped fuel
    if ← takeSign "^" then return .arith .pow base (← signed fuel)
    else return base

/-- Reads an expression with steps before or after it. -/
def stepped : Nat → Reading Expr
  | 0 => fail
  | fuel + 1 => do
    if ← takeSign "++" then return .step (← operand fuel) .add true
    else if ← takeSign "--" then return .step (← operand fuel) .sub true
    else
      let e ← operand fuel
      if !e.isPlace then return e
      else if ← takeSign "++" then return .step e .add false
      else if ← takeSign "--" then return .step e .sub false
      else return e

/-- Reads a place that can be assigned to, if one comes next. -/
def place? : Nat → Reading (Option Expr)
  | 0 => fail
  | fuel + 1 => do
    match ← peek with
    | some (.sign "$") => return some (← operand fuel)
    | some (.name _ false) => return some (← operand fuel)
    | _ => return none

/-- Reads expressions with commas between them up to a closing sign. -/
def arguments (closing : String) : Nat → Reading (List Expr)
  | 0 => fail
  | fuel + 1 => do
    if ← takeSign closing then return []
    let e ← expr ⟨false, false⟩ fuel
    if ← takeSign "," then
      skipLines fuel
      return e :: (← arguments closing fuel)
    else
      expect closing
      return [e]

/-- Reads the arguments of a call after its parenthesis, of which there is
at most one if `single` is set. A name alone may stand for a variable or an
array. -/
def callArguments (single : Bool) : Nat → Reading (List Expr)
  | 0 => fail
  | fuel + 1 => do
    if ← takeSign ")" then return []
    let words := ((← get).rest.take 2).map Prod.snd
    let e ← match words with
      | [.name name false, .sign g] =>
        if g = "," || g = ")" then
          skip
          pure (Expr.variable name)
        else expr ⟨false, false⟩ fuel
      | _ => expr ⟨false, false⟩ fuel
    if !single && (← takeSign ",") then
      skipLines fuel
      if ← isSign ")" then fail
      return e :: (← callArguments single fuel)
    else
      expect ")"
      return [e]

/-- Reads a value, a place, a call or parentheses. -/
def operand : Nat → Reading Expr
  | 0 => fail
  | fuel + 1 => do
    match ← peek with
    | some (.number s) =>
      skip
      match Real.decimal? s with
      | some (n, e, _) =>
        let x := Float.ofScientific n (e < 0) e.natAbs
        if x.isInf then note (Octets.text s ++ " : decimal overflow")
        return .number x
      | none => fail
    | some (.text s) =>
      skip
      return .text s
    | some (.regex s) =>
      skip
      if let some problem := regexFlaw? s then note problem
      return .regex (regexOf s)
    | some (.sign "$") =>
      skip
      if ← takeSign "-" then return .field (.minus (← operand fuel))
      else if ← takeSign "++" then return .field (.step (← operand fuel) .add true)
      else if ← takeSign "--" then return .field (.step (← operand fuel) .sub true)
      else return .field (← operand fuel)
    | some (.sign "(") =>
      skip
      let es ← arguments ")" fuel
      match es with
      | [] => fail
      | [e] => return e
      | several =>
        if ← takeKeyword "in" then
          match ← peek with
          | some (.name name _) =>
            skip
            use .array name
            return .member several name
          | _ => fail
        else fail
    | some (.sign "-") =>
      skip
      return .minus (← signed fuel)
    | some (.sign "+") =>
      skip
      return .plus (← signed fuel)
    | some (.sign "!") =>
      skip
      return .negation (← signed fuel)
    | some (.keyword "getline") =>
      skip
      let target ← place? fuel
      if ← takeSign "<" then return .readLine .file (some (← stepped fuel)) target
      else return .readLine .input none target
    | some (.builtin name) =>
      skip
      if ← takeSign "(" then
        let args ← callArguments (name = "length") fuel
        let (least, most) := arity name
        if args.length < least || most < args.length then
          note ("wrong number of arguments in call to " ++ name)
        match name, args with
        | "split", _ :: .variable array :: _ => use .array array
        | "length", _ => pure ()
        | _, args => useValues args
        return .builtin name args
      else if name = "length" then return .builtin name []
      else fail
    | some (.name name called) =>
      skip
      if called then
        let line := (← get).line
        expect "("
        let args ← callArguments false fuel
        let kinds ← args.mapM fun
          | .variable n => kindOf n
          | _ => pure (some Kind.scalar)
        modify fun s => { s with called := ⟨line, name, kinds⟩ :: s.called }
        return .call name args
      else if ← takeSign "[" then
        use .array name
        return .element name (← arguments "]" fuel)
      else
        use .scalar name
        return .variable name
    | _ => fail

end

/-- Reads the end of a simple statement. -/
def endOfStatement : Reading Unit := do
  match ← peek with
  | some .newline => skip
  | some (.sign ";") => skip
  | some (.sign "\x7d") => return
  | none => return
  | _ => fail

/-- The words after the parenthesis that closes one. -/
def afterClosing : Nat → List (Nat × Token) → Option (List (Nat × Token))
  | _, [] => none
  | depth, (_, t) :: rest =>
    if t = .sign "(" then afterClosing (depth + 1) rest
    else if t = .sign ")" then (if depth ≤ 1 then some rest else afterClosing (depth - 1) rest)
    else afterClosing depth rest

/-- The parenthesis that comes next encloses all that is printed. -/
def enclosesAll : Reading Bool := do
  let s ← get
  if (s.rest.head?.map Prod.snd) ≠ some (.sign "(") then return false
  match afterClosing 0 s.rest with
  | some ((_, t) :: _) =>
    return t = .newline || [";", "\x7d", ">", ">>", "|"].any fun g => t = .sign g
  | some [] => return true
  | none => return false

/-- Reads what is printed. -/
def printed (fuel : Nat) : Reading (List Expr) := do
  if ← enclosesAll then
    skip
    arguments ")" fuel
  else
    match ← peek with
    | none | some .newline => return []
    | some (.sign g) =>
      if [";", "\x7d", ">", ">>", "|"].contains g then return [] else list fuel
    | _ => list fuel
where
  /-- Reads expressions with commas between them. -/
  list : Nat → Reading (List Expr)
    | 0 => fail
    | n + 1 => do
      let e ← expr ⟨true, false⟩ fuel
      if ← takeSign "," then
        skipLines fuel
        return e :: (← list n)
      else return [e]

/-- Reads where output goes, if that is told. -/
def goal? (fuel : Nat) : Reading (Option (Goal × Expr)) := do
  if ← takeSign ">" then return some (.file, ← expr ⟨true, false⟩ fuel)
  else if ← takeSign ">>" then return some (.extend, ← expr ⟨true, false⟩ fuel)
  else if ← takeSign "|" then return some (.command, ← expr ⟨true, false⟩ fuel)
  else return none

/-- Reads a statement without its end. -/
def simpleStatement (fuel : Nat) : Reading Stmt := do
  match ← peek with
  | some (.keyword "print") =>
    skip
    let args ← printed fuel
    return .print false args (← goal? fuel)
  | some (.keyword "printf") =>
    skip
    let args ← printed fuel
    if args.isEmpty then fail
    return .print true args (← goal? fuel)
  | some (.keyword "delete") =>
    skip
    match ← peek with
    | some (.name name _) =>
      skip
      use .array name
      if ← takeSign "[" then return .delete name (← arguments "]" fuel)
      else return .delete name []
    | _ => fail
  | _ => return .expr (← expr ⟨false, false⟩ fuel)

/-- There is an expression before the end of the statement. -/
def hasValue : Reading Bool := do
  match ← peek with
  | none | some .newline => return false
  | some (.sign g) => return g ≠ ";" && g ≠ "\x7d"
  | _ => return true

mutual

/-- Reads a statement with its end. -/
def statement : Nat → Reading Stmt
  | 0 => fail
  | fuel + 1 => do
    match ← peek with
    | some (.sign "\x7b") =>
      let body ← block fuel
      return body
    | some (.sign ";") =>
      skip
      return .block []
    | some (.keyword "if") =>
      skip
      expect "("
      let test ← expr ⟨false, false⟩ fuel
      expect ")"
      skipLines fuel
      let yes ← statement fuel
      let before ← get
      skipEnds fuel
      if ← takeKeyword "else" then
        skipLines fuel
        return .conditional test yes (some (← statement fuel))
      else
        set before
        return .conditional test yes none
    | some (.keyword "while") =>
      skip
      expect "("
      let test ← expr ⟨false, false⟩ fuel
      expect ")"
      if ← takeSign ";" then return .loop none (some test) none (.block [])
      skipLines fuel
      return .loop none (some test) none (← statement fuel)
    | some (.keyword "do") =>
      skip
      skipLines fuel
      let body ← statement fuel
      skipEnds fuel
      if !(← takeKeyword "while") then fail
      expect "("
      let test ← expr ⟨false, false⟩ fuel
      expect ")"
      endOfStatement
      return .again body test
    | some (.keyword "for") =>
      skip
      expect "("
      forLoop fuel
    | some (.keyword "break") =>
      skip
      endOfStatement
      return .leaveLoop
    | some (.keyword "continue") =>
      skip
      endOfStatement
      return .nextRound
    | some (.keyword "next") =>
      let s ← get
      if s.outside || s.inFunction then refuse "improper use of next"
      skip
      endOfStatement
      return .nextRecord
    | some (.keyword "nextfile") =>
      skip
      endOfStatement
      return .nextFile
    | some (.keyword "exit") =>
      skip
      let status ← if ← hasValue then some <$> expr ⟨false, false⟩ fuel else pure none
      endOfStatement
      return .exit status
    | some (.keyword "return") =>
      if !(← get).inFunction then refuse "return outside function body"
      skip
      let value ← if ← hasValue then some <$> expr ⟨false, false⟩ fuel else pure none
      endOfStatement
      return .giveBack value
    | _ =>
      let body ← simpleStatement fuel
      endOfStatement
      return body

/-- Reads a loop after its opening parenthesis. -/
def forLoop : Nat → Reading Stmt
  | 0 => fail
  | fuel + 1 => do
    let words := ((← get).rest.take 4).map Prod.snd
    match words with
    | [.name name _, .keyword "in", .name array _, .sign ")"] =>
      skip
      skip
      skip
      skip
      use .scalar name
      use .array array
      skipLines fuel
      return .each name array (← statement fuel)
    | _ =>
      let start ← if ← isSign ";" then pure none else some <$> simpleStatement fuel
      expect ";"
      skipLines fuel
      let test ← if ← isSign ";" then pure none else some <$> expr ⟨false, false⟩ fuel
      expect ";"
      skipLines fuel
      let next ← if ← isSign ")" then pure none else some <$> simpleStatement fuel
      expect ")"
      if ← takeSign ";" then return .loop start test next (.block [])
      skipLines fuel
      return .loop start test next (← statement fuel)

/-- Reads statements between braces. -/
def block : Nat → Reading Stmt
  | 0 => fail
  | fuel + 1 => do
    expect "\x7b"
    let body ← statements fuel
    expect "\x7d"
    return .block body

/-- Reads statements up to a closing brace. -/
def statements : Nat → Reading (List Stmt)
  | 0 => fail
  | fuel + 1 => do
    skipEnds fuel
    match ← peek with
    | some (.sign "\x7d") => return []
    | none => fail
    | _ =>
      let s ← statement fuel
      return s :: (← statements fuel)

end

/-- Reads the parameters of a function. -/
def parameters : Nat → Reading (List Octets)
  | 0 => fail
  | fuel + 1 => do
    if ← takeSign ")" then return []
    match ← peek with
    | some (.name name _) =>
      skip
      if ← takeSign "," then skipLines fuel
      return name :: (← parameters fuel)
    | _ => fail

/-- Reads rules and functions. -/
def items (fuel : Nat) : Nat → Reading Program
  | 0 => fail
  | n + 1 => do
    skipEnds fuel
    let rule (selector : Selector) : Reading Program := do
      let outside := match selector with
        | .start | .finish => true
        | _ => false
      modify fun s => { s with outside, inFunction := false, locals := [] }
      let body ← if ← isSign "\x7b" then some <$> block fuel else pure none
      let others ← items fuel n
      return { others with rules := ⟨selector, body⟩ :: others.rules }
    match ← peek with
    | none => return ⟨[], []⟩
    | some (.keyword "BEGIN") =>
      skip
      if !(← isSign "\x7b") then fail
      rule .start
    | some (.keyword "END") =>
      skip
      if !(← isSign "\x7b") then fail
      rule .finish
    | some (.keyword "function") | some (.keyword "func") =>
      skip
      match ← peek with
      | some (.name name _) =>
        skip
        if let some k := (← get).globals.lookup name then
          note (if k = .function then "redefinition of " ++ Octets.text name
            else "illegal reference to " ++ k.called ++ " " ++ Octets.text name)
        modify fun s => { s with globals := (name, .function) :: s.globals }
        expect "("
        let parameters ← parameters fuel
        if let some twice := parameters.find? fun p => 1 < parameters.count p then
          note (Octets.text twice ++ " is duplicated in argument list")
        skipLines fuel
        modify fun s => { s with outside := false, inFunction := true, locals := parameters.map fun p => (p, none) }
        let body ← block fuel
        modify fun s => { s with inFunction := false, locals := [] }
        let others ← items fuel n
        return { others with functions := ⟨name, parameters, body⟩ :: others.functions }
      | _ => fail
    | some (.sign "\x7b") => rule .always
    | _ =>
      let first ← expr ⟨false, false⟩ fuel
      if ← takeSign "," then
        skipLines fuel
        let last ← expr ⟨false, false⟩ fuel
        rule (.range first last)
      else rule (.holds first)

/-- The program that a text writes, or complaints. -/
def Program.read (text : Octets) : Except (List Flaw) Program := do
  let words ← (tokens (2 * text.length + 4) 1 none (text ++ ['\n'])).mapError fun flaw => [flaw]
  let fuel := 20 * (words.length + 4)
  let (program, s) ← (items fuel (words.length + 2)).run ⟨words, 1, 0, 0, false, false, [], [], [], []⟩
  let calls := s.called.reverse
  let function? (c : Called) : Option Function := program.functions.find? fun f => f.name = c.name
  let missing := (calls.find? fun c => (function? c).isNone).toList.map fun c =>
    (s.line + 1, "function " ++ Octets.text c.name ++ " never defined")
  let overfull := calls.filterMap fun c =>
    if (function? c).any fun f => f.parameters.length < c.arguments.length then
      some (c.line, "too many arguments in call to " ++ Octets.text c.name)
    else none
  let flaws := s.flaws.reverse ++ overfull ++ missing
  if flaws.isEmpty then return program else throw flaws

end Awk

end Shell

end Tangle
