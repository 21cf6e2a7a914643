import Tangle.Shell.Sed.Escape
/-!
# Reading scripts that edit lines

A script comes in parts, each an argument or a file. A reader goes through a
part character by character (`Sed.Reading`); the commands so far, the labels
and the groups that are open stay with it from part to part
(`Sed.readPart`). What is left at the end is put in order by `Sed.finish`.
-/

namespace Tangle

namespace Shell

namespace Sed

/-- The progress of reading a script. -/
structure Scan where
  /-- What is left of the part. -/
  rest : Octets
  /-- The number of octets before it. -/
  count : Nat
  /-- The number of lines that have ended before it. -/
  line : Nat
  /-- Where the part comes from. -/
  origin : Origin
  /-- The commands so far, the last one first. -/
  steps : List Step
  /-- The labels with their places, the last one first. -/
  labels : List (Octets × Nat)
  /-- The jumps to labels, the last one first. -/
  jumps : List (Nat × Octets)
  /-- The places of the groups that are open, with where they begin. -/
  opened : List (Nat × Origin × Nat)
  /-- The text of the last command, if it goes on in the next part. -/
  pending : Option Octets
  /-- The files that commands write to, the last one first. -/
  outputs : List Octets
  /-- Lines are not printed unless a command asks for it. -/
  quiet : Bool
  /-- Expressions are spelled without backslashes. -/
  extended : Bool
  /-- Commands that concern files are refused. -/
  sandboxed : Bool
  /-- What the standard does not have is refused. -/
  strict : Bool

/-- Why a script cannot be read. -/
inductive Flaw where
  /-- Something is wrong at the place that was reached, or at a part that
  has no such place. -/
  | at (origin : Origin) (place : Nat) (line : Nat) (message : String)
  /-- There is no such label. -/
  | noLabel (name : Octets)
  /-- A class is spelled without its outer brackets. -/
  | looseClass

/-- A reader of a part of a script. What was read before a flaw stays. -/
abbrev Reading (α : Type) := ExceptT Flaw (StateM Scan) α

/-- The script cannot be read on. -/
def fail {α : Type} (message : String) : Reading α := do
  let s ← get
  throw (.at s.origin s.count (s.line + 1) message)

/-- The next character. -/
def peek : Reading (Option Char) := return (← get).rest.head?

/-- Goes past a character, if there is one. -/
def take : Reading (Option Char) :=
  modifyGet fun s =>
    match s.rest with
    | c :: rest => (some c, { s with rest, count := s.count + 1, line := if c = '\n' then s.line + 1 else s.line })
    | [] => (none, s)

/-- Goes past so many characters. -/
def skip (n : Nat) : Reading Unit :=
  modify fun s => { s with
    rest := s.rest.drop n, count := s.count + (s.rest.take n).length, line := s.line + (s.rest.take n).count '\n' }

/-- Goes past the characters that have a property. -/
def takeWhile (p : Char → Bool) : Reading Octets := do
  let front := (← get).rest.takeWhile p
  skip front.length
  return front

/-- A blank between the parts of a command. -/
def isBlank (c : Char) : Bool := c = ' ' || c = '\t'

/-- A blank or the end of a line. -/
def isSpace (c : Char) : Bool := c = ' ' || ('\t' ≤ c && c ≤ '\r')

/-- The next character after blanks. -/
def peekPastBlanks : Reading (Option Char) := do
  let _ ← takeWhile isBlank
  peek

/-- The number that digits write, zero without any. -/
def number : Reading Nat := return (Octets.nat? (← takeWhile Char.isDigit)).getD 0

/-! ## Texts between delimiters -/

/-- Reads the text up to a delimiter, which a backslash or, in an
expression, brackets protect; nothing if there is none. -/
def delimited (delimiter : Char) (isRegex : Bool) : Nat → Octets → Reading (Option Octets)
  | 0, _ => return none
  | fuel + 1, done => do
    match ← peek with
    | none => return none
    | some '\n' => return none
    | some c =>
      skip 1
      if c = delimiter then return some done.reverse
      else if c = '\\' then
        match ← peek with
        | none => return none
        | some d =>
          skip 1
          if d = 'n' && isRegex then delimited delimiter isRegex fuel ('\n' :: done)
          else if d = '\n' || (d = delimiter && (isRegex || d ≠ '&')) then delimited delimiter isRegex fuel (d :: done)
          else delimited delimiter isRegex fuel (d :: '\\' :: done)
      else if c = '[' && isRegex then
        match class? (← get).rest with
        | none =>
          skip (← get).rest.length
          return none
        | some text =>
          skip text.length
          let text' := if (← get).strict then text else inClass text
          delimited delimiter isRegex fuel (text'.reverse ++ '[' :: done)
      else delimited delimiter isRegex fuel (c :: done)
where
  /-- A class with the ends of lines that it names. -/
  inClass : Octets → Octets
    | '\\' :: 'n' :: s => '\n' :: inClass s
    | '\\' :: c :: s => if c = delimiter then c :: inClass s else '\\' :: c :: inClass s
    | c :: s => c :: inClass s
    | [] => []

/-- Reads the text up to a delimiter. -/
def delimitedText (delimiter : Char) (isRegex : Bool) : Reading (Option Octets) := do
  delimited delimiter isRegex ((← get).rest.length + 1) []

/-- The delimiter that comes next. It is a character of one octet. -/
def delimiter (unterminated : String) : Reading Char := do
  match ← take with
  | none => fail unterminated
  | some c => if 0x80 ≤ c.toNat then fail "delimiter character is not a single-byte character" else return c

/-- A text with the characters that its escapes stand for. -/
def unescaped (keepsClasses : Bool) (isMarked : Char → Bool) (text : Octets) : Reading Octets := do
  match unescaped? keepsClasses isMarked (text.length + 1) text with
  | some t => return t
  | none => fail "recursive escaping after \\c not allowed"

/-- How expressions are spelled. -/
def rules (extended strict : Bool) : Regex.Rules :=
  { (if extended then Regex.Rules.posixExtended else Regex.Rules.posixBasic) with
    looseClosing := extended && strict, extras := !strict, nestsKinds := true }

/-- Reads an expression from its text; an empty one stands for the one that
was used last. -/
def searchOf (text : Octets) (folds lines : Bool) : Reading (Option Search) := do
  if text.isEmpty then
    if folds || lines then fail "cannot specify modifiers on empty regexp"
    return none
  let strict := (← get).strict
  let t ← unescaped strict (fun _ => false) text
  match Regex.read (rules (← get).extended strict) t with
  | .ok r => return some ⟨r, folds, lines, true⟩
  | .error .looseKind => throw .looseClass
  | .error flaw => fail flaw.message

/-! ## Addresses -/

/-- Reads an address, if one comes next. The second value is the unit of a
range that a sign makes of it. -/
def address? : Reading (Option (Address ⊕ Until)) := do
  match ← peek with
  | some '$' =>
    skip 1
    return some (.inl .last)
  | some c =>
    if c.isDigit then
      let n ← number
      if (← peekPastBlanks) = some '~' && !(← get).strict then
        skip 1
        let _ ← peekPastBlanks
        let step ← number
        return some (.inl (if step = 0 then .line n else .every n step))
      return some (.inl (.line n))
    else if (c = '+' || c = '~') && !(← get).strict then
      skip 1
      let _ ← peekPastBlanks
      let n ← number
      if n = 0 then return some (.inl .all)
      return some (.inr (if c = '+' then .more n else .multiple n))
    else if c = '/' || c = '\\' then
      skip 1
      let unterminated := "unterminated address regex"
      let d ← if c = '\\' then delimiter unterminated else pure '/'
      match ← delimitedText d true with
      | none => fail unterminated
      | some text =>
        let (folds, lines) ← modifiers ((← get).rest.length + 1) false false
        return some (.inl (.regex (← searchOf text folds lines)))
    else return none
  | none => return none
where
  /-- Reads the letters after an expression. -/
  modifiers : Nat → Bool → Bool → Reading (Bool × Bool)
    | 0, folds, lines => return (folds, lines)
    | fuel + 1, folds, lines => do
      let next ← peekPastBlanks
      if (← get).strict then return (folds, lines)
      match next with
      | some 'I' =>
        skip 1
        modifiers fuel true lines
      | some 'M' =>
        skip 1
        modifiers fuel folds true
      | _ => return (folds, lines)

/-- Reads the end of a range, if a comma comes next. -/
def until? : Reading (Option Until) := do
  if (← peekPastBlanks) ≠ some ',' then return none
  skip 1
  let _ ← peekPastBlanks
  match ← address? with
  | some (.inl .all) => return some (.more 0)
  | some (.inl a) => return some (.address a)
  | some (.inr u) => return some u
  | none =>
    let _ ← take
    fail "unexpected \x60,'"

/-! ## Replacements -/

/-- Pieces with a piece in front; texts next to each other are one. -/
def Piece.cons (p : Piece) (rest : List Piece) : List Piece :=
  match p, rest with
  | .text s, .text t :: rest => .text (s ++ t) :: rest
  | p, rest => p :: rest

/-- The pieces of the text that replaces a match. -/
def piecesOf (strict : Bool) : Octets → List Piece
  | [] => []
  | '\\' :: c :: rest =>
    Piece.cons (if c.isDigit then .group (c.toNat - 48)
      else if !strict && "LUlEu".toList.contains c then .recase c else .text [c]) (piecesOf strict rest)
  | '&' :: rest => .group 0 :: piecesOf strict rest
  | c :: rest => Piece.cons (.text [c]) (piecesOf strict rest)

/-- Reads the digits after the letter of a command, which the standard does
not have. -/
def numeral : Reading Octets := do
  let _ ← peekPastBlanks
  if (← get).strict then return [] else takeWhile Char.isDigit

/-- Reads the name of a file up to the end of the line. -/
def fileName : Reading Octets := do
  let _ ← peekPastBlanks
  let name ← takeWhile (· ≠ '\n')
  skip 1
  if name.isEmpty then fail "missing filename in r/R/w/W commands"
  if (← get).sandboxed then fail "e/r/w commands disabled in sandbox mode"
  return name

/-- Reads the name of a file that is written to. -/
def outputName : Reading Octets := do
  let name ← fileName
  modify fun s => { s with outputs := name :: s.outputs }
  return name

/-- The flags of a replacement so far. -/
structure Flags where
  /-- The replacement. -/
  replacement : Replacement
  /-- Letters match those of the other case. -/
  folds : Bool
  /-- Lines start and end inside the text. -/
  lines : Bool

/-- Reads the flags of a replacement; they end with the command. -/
def flags : Nat → Flags → Reading Flags
  | 0, f => return f
  | fuel + 1, f => do
    let r := f.replacement
    match ← peekPastBlanks with
    | none => return f
    | some '\x7d' => return f
    | some '#' => return f
    | some c =>
      if c.isDigit then
        skip 1
        if r.number ≠ 0 then fail "multiple number options to \x60s' command"
        let more ← takeWhile Char.isDigit
        let n := (Octets.nat? (c :: more)).getD 0
        if n = 0 then fail "number option to \x60s' command may not be zero"
        flags fuel { f with replacement := { r with number := n } }
      else
        skip 1
        if (← get).strict && "iImMe".toList.contains c then fail "unknown option to \x60s'"
        match c with
        | '\n' => return f
        | ';' => return f
        | 'g' =>
          if r.every then fail "multiple \x60g' options to \x60s' command"
          flags fuel { f with replacement := { r with every := true } }
        | 'p' =>
          if r.prints || r.printsFirst then fail "multiple \x60p' options to \x60s' command"
          let r := if r.evaluates then { r with prints := true } else { r with printsFirst := true }
          flags fuel { f with replacement := r }
        | 'e' => flags fuel { f with replacement := { r with evaluates := true } }
        | 'i' => flags fuel { f with folds := true }
        | 'I' => flags fuel { f with folds := true }
        | 'm' => flags fuel { f with lines := true }
        | 'M' => flags fuel { f with lines := true }
        | 'w' => return { f with replacement := { r with file := some (← outputName) } }
        | _ => fail "unknown option to \x60s'"

/-- Reads a replacement after its letter. -/
def replacement : Reading Action := do
  let unterminated := "unterminated \x60s' command"
  let d ← delimiter unterminated
  let some source ← delimitedText d true | fail unterminated
  let some target ← delimitedText d false | fail unterminated
  let strict := (← get).strict
  let pieces := piecesOf strict (← unescaped false (fun c => c = '&' || c = '\\') target)
  let f ← flags ((← get).rest.length + 1) ⟨⟨none, pieces, false, 0, false, false, false, none⟩, false, false⟩
  let search ← searchOf source f.folds f.lines
  let r := f.replacement
  if r.evaluates && (← get).sandboxed then fail "e/r/w commands disabled in sandbox mode"
  match search with
  | some found =>
    let n := greatestGroup pieces
    if found.regex.groupCount < n && !strict then fail ("invalid reference \\" ++ toString n ++ " on \x60s' command's RHS")
  | none => pure ()
  -- A line that is not run is printed once it is replaced.
  let r := if r.evaluates then r else { r with prints := r.printsFirst, printsFirst := false }
  return .replace { r with search }

/-- Reads the characters that take the places of others. -/
def translation : Reading Action := do
  let unterminated := "unterminated \x60y' command"
  let d ← delimiter unterminated
  let some source ← delimitedText d false | fail unterminated
  let source := withoutBackslashes (← unescaped false (· = '\\') source)
  let some target ← delimitedText d false | fail unterminated
  let target := withoutBackslashes (← unescaped false (· = '\\') target)
  let (source, target) := (Octets.chars source, Octets.chars target)
  if source.length ≠ target.length then fail "strings for \x60y' command are different lengths"
  return .translate source target

/-! ## Texts of commands -/

/-- Reads the text of a command up to the end of its line, or beyond it
where a backslash stands at the end. The second value tells whether the text
ends there. -/
def textLines : Nat → Octets → Reading (Octets × Bool)
  | 0, done => return (done.reverse, true)
  | fuel + 1, done => do
    match ← take with
    | none => return (('\n' :: done).reverse, true)
    | some '\n' => return (('\n' :: done).reverse, true)
    | some '\\' =>
      match ← take with
      | none => return (('\n' :: done).reverse, false)
      | some c => textLines fuel (c :: '\\' :: done)
    | some c => textLines fuel (c :: done)

/-- The text that is printed for the text of a command. -/
def printedText (raw : Octets) : Reading Octets := return withoutBackslashes (← unescaped false (· = '\\') raw)

/-- Reads the text of the last command, which may have begun in an earlier
part. -/
def textFrom (begun : Octets) : Reading Unit := do
  let (raw, ended) ← textLines ((← get).rest.length + 1) []
  let text ← printedText (begun ++ raw)
  modify fun s => { s with
    pending := if ended then none else some (begun ++ raw)
    steps := match s.steps with
      | st :: steps => { st with action := st.action.withText text } :: steps
      | [] => [] }

/-- Reads the text of a command that was added with none. -/
def textOf : Reading Unit := do
  match ← peekPastBlanks with
  | none => fail "expected \\ after \x60a', \x60c' or \x60i'"
  | some '\\' =>
    skip 1
    let skipped ← takeWhile isBlank
    match ← peek with
    | none => modify fun s => { s with pending := some [] }
    | some '\n' =>
      skip 1
      textFrom []
    | some _ =>
      modify fun s => { s with rest := skipped ++ s.rest, count := s.count - skipped.length }
      textFrom []
  | some '\n' =>
    skip 1
    fail "expected \\ after \x60a', \x60c' or \x60i'"
  | some _ =>
    if (← get).strict then
      skip 1
      fail "expected \\ after \x60a', \x60c' or \x60i'"
    textFrom []

/-! ## Commands -/

/-- Reads a label. -/
def labelName : Reading Octets := do
  let _ ← peekPastBlanks
  takeWhile fun c => !isSpace c && c ≠ ';' && c ≠ '\x7d'

/-- Goes past the end of a command. -/
def finishCommand : Reading Unit := do
  match ← peekPastBlanks with
  | none => return
  | some '\x7d' => return
  | some '#' => return
  | some c =>
    skip 1
    if c ≠ '\n' && c ≠ ';' then fail "extra characters after command"

/-- The version of the language that is understood. -/
def version : List Nat := [4, 9]

/-- A version is later than the one that is understood. -/
def isLater (label : Octets) : Bool :=
  let parts := (Octets.splitOn '.' label).map fun t => Octets.nat? t
  !label.isEmpty && (parts.any Option.isNone || decide (version < parts.filterMap id))

/-- Reads a command after its addresses. -/
def command (address : Option Address) (stop : Option Until) (negated : Bool) (c : Char) : Reading Unit := do
  let place := (← get).steps.length
  let add (action : Action) : Reading Unit :=
    modify fun s => { s with steps := ⟨address, stop, negated, action⟩ :: s.steps }
  if (← get).strict then
    if "eFvzLQTRW".toList.contains c then fail ("unknown command: \x60" ++ Octets.text [c] ++ "'")
    if stop.isSome && "ail=r".toList.contains c then fail "command only uses one address"
  let jumpTo (action : Action) : Reading Unit := do
    let name ← labelName
    if !name.isEmpty then modify fun s => { s with jumps := (place, name) :: s.jumps }
    add action
  match c with
  | '\x7b' =>
    modify fun s => { s with opened := (place, s.origin, s.line + 1) :: s.opened }
    add (.enter 0)
  | '\x7d' =>
    match (← get).opened with
    | [] => fail "unexpected \x60\x7d'"
    | (start, _, _) :: opened =>
      if address.isSome then fail "\x60\x7d' doesn't want any addresses"
      finishCommand
      modify fun s => { s with
        opened
        steps := (s.steps.reverse.zip (List.range s.steps.length)).map (fun (st, n) =>
          if n = start then { st with action := .enter (place + 1) } else st) |>.reverse }
      add .leave
  | ':' =>
    if address.isSome then fail ": doesn't want any addresses"
    let name ← labelName
    if name.isEmpty then fail "\":\" lacks a label"
    modify fun s => { s with labels := (name, place) :: s.labels }
    add .label
  | '=' =>
    finishCommand
    add .number
  | 'a' =>
    add (.append [])
    textOf
  | 'i' =>
    add (.insert [])
    textOf
  | 'c' =>
    add (.change [])
    textOf
  | 'e' =>
    if (← get).sandboxed then fail "e/r/w commands disabled in sandbox mode"
    add (.evaluate [])
    match ← peekPastBlanks with
    | none => return
    | some '\n' => skip 1
    | some _ => textOf
  | 'b' => jumpTo (.jump none)
  | 't' => jumpTo (.jumpIf true none)
  | 'T' => jumpTo (.jumpIf false none)
  | 'q' | 'Q' =>
    if stop.isSome then fail "command only uses one address"
    let digits ← numeral
    finishCommand
    add (.quit (c = 'q') ((Octets.nat? digits).getD 0))
  | 'r' => add (.readFile (← fileName))
  | 'R' => add (.readLine (← fileName))
  | 'w' => add (.writeFile false (← outputName))
  | 'W' => add (.writeFile true (← outputName))
  | 'l' | 'L' =>
    let digits ← numeral
    finishCommand
    add (if c = 'l' then .display (Octets.nat? digits) else .simple 'L')
  | 's' => add (← replacement)
  | 'y' =>
    let action ← translation
    finishCommand
    add action
  | 'v' => if isLater (← labelName) then fail "expected newer version of sed"
  | c =>
    if "dDgGhHnNpPxzF".toList.contains c then
      finishCommand
      add (.simple c)
    else fail ("unknown command: \x60" ++ Octets.text [c] ++ "'")

/-- Reads the commands of a part. -/
def commands : Nat → Reading Unit
  | 0 => return
  | fuel + 1 => do
    let _ ← takeWhile fun c => isSpace c || c = ';'
    if (← get).rest.isEmpty then return
    let first ← address?
    let (address, stop) ← match first with
      | none => pure (none, none)
      | some (.inr _) => fail "invalid usage of +N or ~N as first address"
      | some (.inl a) => pure (some a, ← until?)
    let isRegexEnd : Bool := match stop with
      | some (.address (.regex _)) => true
      | _ => false
    if address = some (.line 0) && (!isRegexEnd || (← get).strict) then
      let letter ← peekPastBlanks
      if letter ≠ some 'r' || stop.isSome || (← get).strict then
        let _ ← take
        fail "invalid usage of line address 0"
    let negated := (← peekPastBlanks) = some '!'
    if negated then
      skip 1
      if (← peekPastBlanks) = some '!' then
        skip 1
        fail "multiple \x60!'s"
    match ← take with
    | none => fail "missing command"
    | some '#' =>
      if address.isSome then fail "comments don't accept any addresses"
      let _ ← takeWhile (· ≠ '\n')
      commands fuel
    | some c =>
      command address stop negated c
      commands fuel

/-- Reads a part of a script. -/
def readPart (origin : Origin) (isFirst : Bool) (text : Octets) : Reading Unit := do
  modify fun s => { s with rest := text, count := 0, line := 0, origin }
  if isFirst && (text = ['#', 'n'] || ['#', 'n', '\n'].isPrefixOf text) then modify fun s => { s with quiet := true }
  match (← get).pending with
  | some begun => textFrom begun
  | none => pure ()
  commands (2 * text.length + 2)

/-- A reader that has read nothing. -/
def Scan.start (extended sandboxed strict : Bool) : Scan :=
  ⟨[], 0, 0, .expression 1, [], [], [], [], none, [], false, extended, sandboxed, strict⟩

/-- The commands of a script that was read to its end. -/
def finish : Reading (List Step) := do
  let s ← get
  match s.opened, s.jumps.find? fun j => (s.labels.lookup j.2).isNone with
  | (_, origin, line) :: _, _ => throw (.at origin 0 line "unmatched \x60\x7b'")
  | [], some (_, name) => throw (.noLabel name)
  | [], none =>
    return (s.steps.reverse.zip (List.range s.steps.length)).map fun (st, n) =>
      match s.jumps.lookup n with
      | none => st
      | some name =>
        let goal := s.labels.lookup name
        { st with action := match st.action with
          | .jump _ => .jump goal
          | .jumpIf replaced _ => .jumpIf replaced goal
          | a => a }

end Sed

end Shell

end Tangle
