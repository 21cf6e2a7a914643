import Tangle.Shell.Script.Token
/-!
# Reading commands

A script is read one line's commands at a time (`Script.next`), so that
commands run before a fault in a later line is found. Lists of commands nest
in each other, in compound commands and in words; each reader here is given
the one for the lists inside, and one definition ties them together
(`lists`), to a depth that is limited.
-/

namespace Tangle

namespace Shell

namespace Script

/-- How a list of commands ends. -/
inductive Extent where
  /-- At a line end. -/
  | line
  /-- Before a token that no command starts with; there has to be a
  command. -/
  | block
  /-- Before a token that no command starts with. -/
  | part
deriving Repr, DecidableEq

/-- A reader of the lists of commands inside another command. -/
abbrev Lists := Extent → Reading (List Command)

namespace Lists

/-- Commands in order as one command. -/
def gather : List Command → Command
  | [c] => c
  | cs => .sequence cs

/-- Reads the commands inside a word. -/
def inWord (lists : Lists) : Reading Command := return gather (← lists .part)

/-- Reads a token, with the commands in it. -/
def next (lists : Lists) (look : Lookout) : Reading Token := token lists.inWord look

/-- Reads commands of which there has to be one. -/
def block (lists : Lists) : Reading Command := return gather (← lists .block)

end Lists

/-- The token stands where it must not. -/
def unexpected {α : Type} (t : Token) (expected : Option String) : Reading α :=
  fail (.unexpected t expected)

/-- Goes past a reserved word that has to come next. -/
def expectWord (lists : Lists) (w : String) (look : Lookout) : Reading Unit := do
  match ← lists.next look with
  | .reserved r => if r = w then return else unexpected (.reserved r) (some w)
  | t => unexpected t (some w)

/-- Goes past an operator that has to come next. -/
def expectOperator (lists : Lists) (o : String) : Reading Unit := do
  match ← lists.next .plain with
  | .operator p => if p = o then return else unexpected (.operator p) (some o)
  | t => unexpected t (some o)

/-- Reads the target of a redirection. -/
def targetOf (lists : Lists) (descriptor : Descriptor) (d : Direction) (stripsTabs : Bool) : Reading Redirection := do
  match ← lists.next { Lookout.plain with delimiter := d = .here } with
  | .word w =>
    if d = .here then
      let (delimiter, literal) := w.unquote
      let index := (← get).nextText
      modify fun s => { s with
        nextText := index + 1
        awaited := s.awaited ++ [⟨delimiter, literal || s.verbatim, stripsTabs, index, s.line⟩] }
      return .mk descriptor d w index
    let w' := w.unquote.1
    let isFixed := match w with
      | [.text _ [c]] => c.isDigit || c = '-'
      | _ => false
    let duplicates := d = .duplicateInput || d = .duplicateOutput
    if duplicates && isFixed then return .mk descriptor d (Word.literal w') 0
    return .mk descriptor d w 0
  | t => unexpected t none

/-- Reads the redirections that come next. -/
def redirections (lists : Lists) : Nat → Reading (List Redirection)
  | 0 => return []
  | fuel + 1 => do
    match ← lists.next .command with
    | .redirection n d tabs =>
      let r ← targetOf lists n d tabs
      return r :: (← redirections lists fuel)
    | t =>
      push t
      return []

/-! ## Assignments -/

/-- The index in brackets at the front of parts, and the parts after the
bracket. -/
def indexOfParts (taken : Word) : List Part → Option (Word × List Part)
  | [] => none
  | .text false s :: rest =>
    match s.dropWhile (· ≠ ']') with
    | _ :: after =>
      let front := s.takeWhile (· ≠ ']')
      let index := if front.isEmpty then taken else taken ++ [.text false front]
      some (index, if after.isEmpty then rest else .text false after :: rest)
    | [] => indexOfParts (taken ++ [.text false s]) rest
  | p :: rest => indexOfParts (taken ++ [p]) rest

/-- The sign of an assignment at the front of parts, whether it appends,
and the parts after it. -/
def signOfParts (wide : Bool) : List Part → Option (Bool × Word)
  | .text false ('=' :: s) :: rest => some (false, if s.isEmpty then rest else .text false s :: rest)
  | .text false ('+' :: '=' :: s) :: rest =>
    if wide then some (true, if s.isEmpty then rest else .text false s :: rest) else none
  | _ => none

/-- The assignment that a word is. -/
def assignment? (wide : Bool) (w : Word) : Option Assignment :=
  match w with
  | .text false s :: rest =>
    let name := s.takeWhile isNameChar
    let after := s.dropWhile isNameChar
    if !isName name then none
    else
      match after with
      | '[' :: more =>
        if !wide then none
        else do
          let (index, tail) ← indexOfParts [] (if more.isEmpty then rest else .text false more :: rest)
          let (appends, value) ← signOfParts wide tail
          return .value name (some index) appends value
      | after => do
        let (appends, value) ← signOfParts wide (.text false after :: rest)
        return .value name none appends value
  | _ => none

/-- The element that a word gives to an array. -/
def arrayElement (w : Word) : Option Word × Word :=
  match w with
  | .text false ('[' :: s) :: rest =>
    match (do
      let (index, tail) ← indexOfParts [] (if s.isEmpty then rest else .text false s :: rest)
      let (_, value) ← signOfParts false tail
      return (index, value) : Option (Word × Word)) with
    | some (index, value) => (some index, value)
    | none => (none, w)
  | w => (none, w)

/-- Reads the elements of an array that starts at a line, up to the closing
parenthesis. -/
def arrayElements (lists : Lists) (line : Nat) : Nat → Reading (List (Option Word × Word))
  | 0 => return []
  | fuel + 1 => do
    match ← lists.next { Lookout.plain with lines := true } with
    | .word w => return arrayElement w :: (← arrayElements lists line fuel)
    | .operator ")" => return []
    | .endOfText => fail (.unclosed ['('] (some line))
    | t => unexpected t none

/-- Reads the array that a word is the front of, if it is one. -/
def array? (lists : Lists) (operand : Bool) (w : Word) : Reading (Option (Octets × Assignment)) := do
  if !(← isWide) || (← peekRaw) ≠ some '(' then return none
  match assignment? true w with
  | some (.value name none appends []) =>
    skip
    let line := (← get).line
    return some (name, .array operand name appends (← arrayElements lists line stepLimit))
  | _ => return none

/-! ## Simple commands -/

/-- The elements of a simple command. -/
structure Elements where
  /-- The assignments in front of the words. -/
  assignments : List Assignment
  /-- The words. -/
  words : List Word
  /-- The redirections. -/
  redirections : List Redirection

/-- The names that no function can have, since special commands have them. -/
def specialNames : List String :=
  [".", ":", "break", "continue", "eval", "exec", "exit", "export", "local", "readonly", "return", "set",
   "shift", "times", "trap", "unset"]

/-- Reads the elements of a simple command, or a function's name with its
parentheses; the second value tells which. -/
def elements (lists : Lists) : Nat → Elements → Reading (Elements × Bool)
  | 0, e => return (e, false)
  | fuel + 1, e => do
    let wide ← isWide
    let t ← lists.next { Lookout.plain with aliases := e.words.isEmpty }
    match t with
    | .word w =>
      match ← array? lists (!e.words.isEmpty) w with
      | some (name, a) =>
        let words := if e.words.isEmpty then [] else e.words ++ [Word.literal name]
        elements lists fuel { e with assignments := e.assignments ++ [a], words }
      | none =>
        match if e.words.isEmpty then assignment? wide w else none with
        | some a => elements lists fuel { e with assignments := e.assignments ++ [a] }
        | none => elements lists fuel { e with words := e.words ++ [w] }
    | .redirection n d tabs =>
      let r ← targetOf lists n d tabs
      elements lists fuel { e with redirections := e.redirections ++ [r] }
    | .operator "(" =>
      if e.words.length = 1 && e.assignments.isEmpty && e.redirections.isEmpty then
        expectOperator lists ")"
        return (e, true)
      push t
      return (e, false)
    | t =>
      push t
      return (e, false)

/-- A command with redirections, if there are any. -/
def withRedirections (line : Nat) (c : Command) (rs : List Redirection) : Command :=
  if rs.isEmpty then c else .redirected line c rs

/-- Reads the body of a function; the second value is its text, where
`before` is what there was to read in front of it. -/
def functionBody (before : Octets) (reader : Reading Command) : Reading (Command × Octets) := do
  let body ← reader
  return (body, before.take (before.length - (← get).rest.length))

/-- Reads a simple command, or the definition of a function with a body
that `command` reads. -/
def simple (command : Lookout → Reading Command) (lists : Lists) : Reading Command := do
  let line := (← get).line
  let (e, isFunction) ← elements lists stepLimit ⟨[], [], []⟩
  if isFunction then
    let name := ((e.words.head?.getD []).unquote).1
    let wide ← isWide
    let special := specialNames.any fun w => w.toList = name
    let isPlain := e.words matches [[.text false _]]
    if !wide && (!isName name || !isPlain || special) then fail (.other "Bad function name")
    let line := (← get).line
    let (body, text) ← functionBody (← get).rest (command .later)
    return .define line name body text
  return .simple line e.assignments e.words e.redirections

/-! ## Conditions between brackets -/

/-- Goes past line ends between conditions. -/
def testToken (lists : Lists) : Reading Token :=
  lists.next { Lookout.plain with lines := true, reserved := true }

/-- The operators on one operand. -/
def isUnaryTest (s : Octets) : Bool :=
  match s with
  | ['-', c] => "abcdefghknoprstuvwxzGLNORS".toList.contains c
  | _ => false

/-- The operators between two operands that are written as words. -/
def isBinaryTest (s : Octets) : Bool :=
  ["=", "==", "!=", "=~", "-eq", "-ne", "-lt", "-le", "-gt", "-ge", "-nt", "-ot", "-ef"].any fun o =>
    o.toList = s

/-- The condition is malformed at a token that was read. -/
def condemn {α : Type} (message : Option String) (t : Token) : Reading α := do
  if t matches .endOfText then unexpected t none
  fail (.condition message)

/-- Reads the operand of a condition; a pattern may have groups. -/
def testOperand (lists : Lists) (isPattern : Bool) : Reading Word := do
  let groups := (← get).groups
  modify fun s => { s with groups := groups || isPattern }
  let t ← lists.next { Lookout.plain with reserved := true }
  modify fun s => { s with groups }
  let missing : Reading Word :=
    condemn (some ("unexpected argument \x60" ++ t.spelling ++ "' to conditional binary operator")) t
  match t with
  | .word w => return w
  | .reserved r => if r = "]]" then missing else return Word.literal r.toList
  | _ => missing

mutual

/-- Reads conditions joined by `||`. -/
def testEither (lists : Lists) : Nat → Reading Test
  | 0 => fail (.other "too many conditions")
  | fuel + 1 => do
    let a ← testBoth lists fuel
    match ← testToken lists with
    | .operator "||" => return .either a (← testEither lists fuel)
    | t =>
      push t
      return a

/-- Reads conditions joined by `&&`. -/
def testBoth (lists : Lists) : Nat → Reading Test
  | 0 => fail (.other "too many conditions")
  | fuel + 1 => do
    let a ← testPrimary lists fuel
    match ← testToken lists with
    | .operator "&&" => return .both a (← testBoth lists fuel)
    | t =>
      push t
      return a

/-- Reads one condition. -/
def testPrimary (lists : Lists) : Nat → Reading Test
  | 0 => fail (.other "too many conditions")
  | fuel + 1 => do
    match ← testToken lists with
    | .reserved "!" => return .negation (← testPrimary lists fuel)
    | .operator "(" =>
      let t ← testEither lists fuel
      match ← testToken lists with
      | .operator ")" => return t
      | u => condemn (some ("unexpected token \x60" ++ u.spelling ++ "', expected \x60)'")) u
    | .reserved "]]" => condemn none (.reserved "]]")
    | .reserved r => operatorAfter (Word.literal r.toList)
    | .word w =>
      let isUnary := match w with
        | [.text false s] => isUnaryTest s
        | _ => false
      if isUnary then
        match ← testToken lists with
        | .word operand =>
          match operand with
          | [.text false s] =>
            if isBinaryTest s then
              push (.word operand)
              operatorAfter w
            else return .unary (w.unquote).1 operand
          | _ => return .unary (w.unquote).1 operand
        | .reserved r =>
          if r = "]]" then missing (.reserved r) else return .unary (w.unquote).1 (Word.literal r.toList)
        | t => missing t
      else operatorAfter w
    | t => unexpected t none
where
  /-- The operand of an operator is missing. -/
  missing (t : Token) : Reading Test :=
    condemn (some ("unexpected argument \x60" ++ t.spelling ++ "' to conditional unary operator")) t
  /-- Reads the operator and second operand after a first one, if any. -/
  operatorAfter (a : Word) : Reading Test := do
    match ← testToken lists with
    | .word [.text false s] =>
      if s = "=~".toList then
        pass
        return .binary s a (← spelled (parts lists.inWord stepLimit (.expression 0)))
      if isBinaryTest s then return .binary s a (← testOperand lists (["=", "==", "!="].any fun o => o.toList = s))
      condemn (some "conditional binary operator expected") (.word [.text false s])
    | .redirection (.number 0) .read _ => return .binary ['<'] a (← testOperand lists false)
    | .redirection (.number 1) .write _ => return .binary ['>'] a (← testOperand lists false)
    | t =>
      push t
      return .filled a

end

/-! ## Compound commands -/

/-- Reads a conditional after its first word. -/
def conditional (lists : Lists) : Nat → Reading Command
  | 0 => fail (.other "too many conditions")
  | fuel + 1 => do
    let test ← lists.block
    expectWord lists "then" .plain
    let yes ← lists.block
    match ← lists.next .plain with
    | .reserved "elif" => return .conditional test yes (some (← conditional lists fuel))
    | .reserved "else" => return .conditional test yes (some (← lists.block))
    | t =>
      push t
      return .conditional test yes none

/-- Reads the body of a loop. -/
def loopBody (lists : Lists) (look : Lookout) : Reading Command := do
  let t ← lists.next look
  if (← isWide) && (t matches .reserved "\x7b") then
    let body ← lists.block
    expectWord lists "\x7d" .plain
    return body
  push t
  expectWord lists "do" look
  let body ← lists.block
  expectWord lists "done" .plain
  return body

/-- Reads the words of a loop up to the end of their line. -/
def loopWords (lists : Lists) : Nat → Reading (List Word)
  | 0 => return []
  | fuel + 1 => do
    match ← lists.next .plain with
    | .word w => return w :: (← loopWords lists fuel)
    | .lineEnd =>
      takeTexts lists.inWord false
      return []
    | .operator ";" => return []
    | t => unexpected t none

/-- Reads an expression between semicolons or parentheses: its text up to
`stop`, where no parenthesis is open. -/
def expressionUpTo (stop : Char) : Nat → Nat → Reading Octets
  | 0, _ => return []
  | fuel + 1, depth => do
    match ← peek with
    | none => fail (.unclosed ['(', '('] none)
    | some c =>
      skip
      if c = stop && depth = 0 then return []
      let depth := if c = '(' then depth + 1 else if c = ')' then depth - 1 else depth
      return c :: (← expressionUpTo stop fuel depth)

/-- Reads a word from a text of its own. -/
def wordOf (lists : Lists) (script : Octets) : Reading Word :=
  readingFrom script (parts lists.inWord stepLimit (.braces true false []))

/-- Reads a loop that counts, after its doubled parentheses. -/
def countLoop (lists : Lists) (line : Nat) : Reading Command := do
  pass
  let start ← expressionUpTo ';' stepLimit 0
  pass
  let test ← expressionUpTo ';' stepLimit 0
  pass
  let next ← expressionUpTo ')' stepLimit 0
  let _ ← accept ')'
  match ← lists.next .plain with
  | .operator ";" => pure ()
  | t => push t
  let start ← expressionWord start
  let test ← expressionWord test
  let next ← expressionWord next
  match ← lists.next .later with
  | .reserved "\x7b" =>
    let body ← lists.block
    expectWord lists "\x7d" .plain
    return .count line start test next body
  | t =>
    push t
    return .count line start test next (← loopBody lists .later)
where
  /-- An expression as a word. -/
  expressionWord (s : Octets) : Reading Word := do
    if (← get).verbatim then return [.text false s]
    readingFrom s (parts lists.inWord stepLimit (.here ⟨[], true, false, 0, 0⟩))

/-- Reads the name and the words of a loop, and goes up to its body. -/
def loopHead (lists : Lists) : Reading (Octets × List Word) := do
  let name ← match ← lists.next .plain with
    | .word w =>
      let s := (w.unquote).1
      let isFit := isName s && (w matches [.text false _])
      if isFit || (← isWide) then pure s else fail (.other "Bad for loop variable")
    | t => if ← isWide then unexpected t none else fail (.other "Bad for loop variable")
  match ← lists.next .later with
  | .reserved "in" =>
    return (name, ← loopWords lists stepLimit)
  | t =>
    match t with
    | .operator ";" => pure ()
    | t => push t
    let all : Word := if (← get).verbatim then .literal "\"$@\"".toList else [.parameter true ['@'] none .plain]
    return (name, [all])

/-- Reads a loop over words, or one that counts, after its first word. -/
def eachLoop (lists : Lists) (line : Nat) : Reading Command := do
  if ← isWide then
    pass
    let s ← get
    if ['(', '('].isPrefixOf s.rest then
      skip
      skip
      return ← countLoop lists line
  let (name, words) ← loopHead lists
  return .each line name words (← loopBody lists .later)

/-- Reads a menu after its first word. -/
def menu (lists : Lists) (line : Nat) : Reading Command := do
  let (name, words) ← loopHead lists
  return .choose line name words (← loopBody lists .later)

/-- The word that a token is as a pattern. -/
def patternOf : Token → Word
  | .word w => w
  | .reserved r => Word.literal r.toList
  | _ => []

/-- Reads the patterns of a selection, of which the first was read. -/
def patterns (lists : Lists) : Nat → Token → Reading (List Word)
  | 0, _ => return []
  | fuel + 1, t => do
    match ← lists.next .plain with
    | .operator "|" => return patternOf t :: (← patterns lists fuel (← lists.next .plain))
    | .operator ")" => return [patternOf t]
    | u => unexpected u (some ")")

/-- Reads the arms of a selection. -/
def arms (lists : Lists) : Nat → Reading (List (List Word × Command × ArmEnd))
  | 0 => return []
  | fuel + 1 => do
    let look := { Lookout.later with aliases := false }
    match ← lists.next look with
    | .reserved "esac" => return []
    | t =>
      let first ← match t with
        | .operator "(" => lists.next .plain
        | t => pure t
      let ps ← patterns lists stepLimit first
      let body := Lists.gather (← lists .part)
      match ← lists.next look with
      | .operator ";;" => return (ps, body, .stop) :: (← arms lists fuel)
      | .operator ";&" => return (ps, body, .through) :: (← arms lists fuel)
      | .operator ";;&" => return (ps, body, .again) :: (← arms lists fuel)
      | .reserved "esac" => return [(ps, body, .stop)]
      | t => unexpected t (some ";;")

/-- Reads a selection after its first word. -/
def selection (lists : Lists) (line : Nat) : Reading Command := do
  let w ← match ← lists.next .plain with
    | .word w => pure w
    | .reserved r => pure (Word.literal r.toList)
    | t => unexpected t (some "word")
  expectWord lists "in" .later
  return .select line w (← arms lists stepLimit)

/-- Reads an expression in doubled parentheses, if two are closed together;
the first parenthesis was read. -/
def calculation? (lists : Lists) (line : Nat) : Reading (Option Command) := do
  if !(← isWide) || (← peekRaw) ≠ some '(' then return none
  let before ← get
  skip
  match (spelled (parts lists.inWord stepLimit (.arithmetic 0))).run (← get) with
  | .ok (e, s) =>
    set s
    return some (.calculate line (if s.verbatim then withoutParentheses e else e))
  | .error _ =>
    set before
    return none
where
  /-- An expression as it is written without the parentheses at its end. -/
  withoutParentheses (e : Word) : Word := .literal (((e.unquote).1).dropLast).dropLast

/-- Reads one command, with the redirections after a compound one. -/
def command (lists : Lists) : Nat → Lookout → Reading Command
  | 0, _ => fail (.other "nested too deep")
  | depth + 1, look => do
    let line := (← get).line
    let t ← lists.next look
    let finish (c : Command) : Reading Command :=
      return withRedirections line c (← redirections lists stepLimit)
    match t with
    | .reserved "if" =>
      let c ← conditional lists stepLimit
      expectWord lists "fi" .plain
      finish c
    | .reserved "while" =>
      let test ← lists.block
      finish (.loop false test (← loopBody lists .plain))
    | .reserved "until" =>
      let test ← lists.block
      finish (.loop true test (← loopBody lists .plain))
    | .reserved "for" => finish (← eachLoop lists line)
    | .reserved "select" => finish (← menu lists line)
    | .reserved "case" => finish (← selection lists line)
    | .reserved "\x7b" =>
      let body ← lists.block
      expectWord lists "\x7d" .plain
      finish (.sequence [body])
    | .reserved "[[" =>
      let test ← testEither lists stepLimit
      match ← testToken lists with
      | .reserved "]]" => finish (.test line test)
      | t => condemn (some "syntax error in conditional expression") t
    | .reserved "function" =>
      match ← lists.next .plain with
      | .word w =>
        let before := (← get).rest
        let before ← match ← lists.next .later with
          | .operator "(" =>
            expectOperator lists ")"
            pure (← get).rest
          | t =>
            push t
            pure before
        let (body, text) ← functionBody before (command lists depth .later)
        return .define line (w.unquote).1 body text
      | t => unexpected t none
    | .operator "(" =>
      match ← calculation? lists line with
      | some c => finish c
      | none =>
        let body ← lists.block
        expectOperator lists ")"
        let rs ← redirections lists stepLimit
        return .isolated line (withRedirections line body rs)
    | .word _ | .redirection .. =>
      push t
      simple (command lists depth) lists
    | t => unexpected t none

/-- A command ends before the token. -/
def Token.endsCommand : Token → Bool
  | .endOfText | .lineEnd => true
  | .operator o => o ≠ "("
  | _ => false

/-- Reads the commands of a pipeline, the first one after `look`. -/
def pipelineParts (lists : Lists) : Nat → Lookout → Reading (List Command)
  | 0, _ => return []
  | fuel + 1, look => do
    let c ← command lists stepLimit look
    match ← lists.next .plain with
    | .operator "|" => return c :: (← pipelineParts lists fuel .later)
    | .operator "|&" =>
      let line := (← get).line
      let both : Redirection := .mk (.number 2) .duplicateOutput (Word.literal ['1']) 0
      let c := match c with
        | .simple line as ws rs => .simple line as ws (rs ++ [both])
        | c => .redirected line c [both]
      return c :: (← pipelineParts lists fuel .later)
    | t =>
      push t
      return [c]

/-- Reads commands that are joined by `|`, with the words in front that
invert their success or tell their time. -/
def pipeline (lists : Lists) : Nat → Lookout → Reading Command
  | 0, _ => fail (.other "nested too deep")
  | depth + 1, look => do
    let joined (look : Lookout) : Reading Command := do
      match ← pipelineParts lists stepLimit look with
      | [c] => return c
      | cs => return .pipeline cs
    match ← lists.next look with
    | .reserved "!" =>
      if ← isWide then return .negate (← pipeline lists depth .command) else return .negate (← joined .command)
    | .reserved "time" =>
      match ← lists.next .command with
      | .word [.text false ['-', 'p']] => return .timed true (← pipeline lists depth .command)
      | t =>
        push t
        if t.endsCommand then return .timed false (.sequence []) else return .timed false (← pipeline lists depth .command)
    | t =>
      push t
      joined .plain

/-- Reads pipelines that are joined by `&&` and `||`, after `first`. -/
def conditionals (lists : Lists) : Nat → Command → Reading Command
  | 0, first => return first
  | fuel + 1, first => do
    match ← lists.next .plain with
    | .operator "&&" => conditionals lists fuel (.both first (← pipeline lists stepLimit .later))
    | .operator "||" => conditionals lists fuel (.either first (← pipeline lists stepLimit .later))
    | t =>
      push t
      return first

/-- No command starts with the token: it ends a list. -/
def Token.endsList : Token → Bool
  | .endOfText => true
  | .operator o => [")", ";;", ";&", ";;&"].contains o
  | .reserved r => ["do", "done", "elif", "else", "esac", "fi", "then", "\x7d"].contains r
  | _ => false

/-- Reads a list of commands. `started` tells that the list may end before
the next token. -/
def commandList (lists : Lists) (extent : Extent) : Nat → Bool → Reading (List Command)
  | 0, _ => return []
  | fuel + 1, started => do
    let t ← lists.next (if extent = .line then .command else .later)
    match t with
    | .lineEnd =>
      takeTexts lists.inWord false
      return []
    | .endOfText =>
      takeTexts lists.inWord true
      push t
      return []
    | t =>
      push t
      if started && extent ≠ .line && t.endsList then return []
      let line := (← get).line
      let first ← conditionals lists stepLimit (← pipeline lists stepLimit .plain)
      match ← lists.next .plain with
      | .operator "&" => return .background line first :: (← commandList lists extent fuel true)
      | .operator ";" => return first :: (← commandList lists extent fuel true)
      | .lineEnd =>
        push .lineEnd
        return first :: (← commandList lists extent fuel true)
      | .endOfText =>
        takeTexts lists.inWord true
        push .endOfText
        return [first]
      | u =>
        if extent = .line then unexpected u none
        push u
        return [first]

/-- The reader of lists that nest less than `depth` deep. -/
def lists : Nat → Lists
  | 0 => fun _ => fail (.other "nested too deep")
  | depth + 1 => fun extent => commandList (lists depth) extent stepLimit (extent = .part)

/-- The depth to which lists of commands may nest. -/
def depthLimit : Nat := 10000

/-- Reads the commands inside a word. -/
def listsInWord : Reading Command := (lists depthLimit).inWord

/-- Reads the commands of the next line; none at the end of the script. -/
def next : Reading (Option Command) := do
  modify fun s => { s with pushed := none }
  let cs ← lists depthLimit .line
  let s ← get
  if cs.isEmpty && (s.pushed matches some .endOfText) then return none
  return some (Lists.gather cs)

end Script

end Shell

end Tangle
