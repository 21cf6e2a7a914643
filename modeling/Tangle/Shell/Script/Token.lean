import Tangle.Shell.Script.Word
/-!
# Tokens

A script is a sequence of words, operators, redirections and line ends.
Whether a word is a reserved one, or an alias that gives way to its text,
depends on where it stands, so the reader of a token is told what it may be
taken for (`Lookout`).
-/

namespace Tangle

namespace Shell

namespace Script

/-- A redirection as it is spelled. -/
def directionSpelling : Direction → String
  | .read => "<"
  | .write => ">"
  | .replace => ">|"
  | .extend => ">>"
  | .update => "<>"
  | .duplicateInput => "<&"
  | .duplicateOutput => ">&"
  | .here => "<<"
  | .hereWord => "<<<"
  | .writeBoth => "&>"
  | .extendBoth => "&>>"

/-- A token as it is spelled. -/
def Token.spelling : Token → String
  | .endOfText => "end of file"
  | .lineEnd => "newline"
  | .operator o => o
  | .redirection _ d _ => directionSpelling d
  | .word w => Octets.text w.unquote.1
  | .reserved r => r

/-- What the next token may be taken for. -/
structure Lookout where
  /-- Line ends are passed over. -/
  lines : Bool
  /-- A word may be a reserved one. -/
  reserved : Bool
  /-- A word may be an alias. -/
  aliases : Bool
  /-- A word is the line that ends a text. -/
  delimiter : Bool

namespace Lookout

/-- The next token is taken as it is. -/
def plain : Lookout := ⟨false, false, false, false⟩

/-- A command may start here. -/
def command : Lookout := ⟨false, true, true, false⟩

/-- A command may start here, or on a later line. -/
def later : Lookout := ⟨true, true, true, false⟩

end Lookout

/-- The words with a meaning of their own where a command can start. -/
def reservedWords : List String :=
  ["!", "case", "do", "done", "elif", "else", "esac", "fi", "for", "if", "in", "then", "until", "while",
   "\x7b", "\x7d"]

/-- The further reserved words of the wide dialect. -/
def wideReservedWords : List String := ["[[", "]]", "function", "select", "time"]

/-- The reserved word that a text is. -/
def reserved? (wide : Bool) (s : Octets) : Option String :=
  (reservedWords ++ if wide then wideReservedWords else []).find? fun w => w.toList = s

/-- The text after blanks, joined lines and a comment, and the number of
joined lines. -/
def skipBlanks : Octets → Octets × Nat
  | [] => ([], 0)
  | '\\' :: '\n' :: s => ((skipBlanks s).1, (skipBlanks s).2 + 1)
  | c :: s =>
    if c = ' ' || c = '\t' then skipBlanks s
    else if c = '#' then ((c :: s).dropWhile (· ≠ '\n'), 0)
    else (c :: s, 0)

/-- Goes past blanks. -/
def pass : Reading Unit :=
  modify fun s =>
    let (rest, n) := skipBlanks s.rest
    { s with rest, line := s.line + n }

/-- Reads a redirection after its first character. -/
def redirectionAfter (descriptor : Option Descriptor) (first : Char) : Reading Token := do
  let wide ← isWide
  let token (standard : Nat) (d : Direction) : Token := .redirection (descriptor.getD (.number standard)) d false
  if first = '>' then
    match ← peek with
    | some '>' =>
      skip
      return token 1 .extend
    | some '|' =>
      skip
      return token 1 .replace
    | some '&' =>
      skip
      return token 1 .duplicateOutput
    | _ => return token 1 .write
  else
    match ← peek with
    | some '<' =>
      skip
      if wide && (← peek) = some '<' then
        skip
        return token 0 .hereWord
      return .redirection (descriptor.getD (.number 0)) .here (← accept '-')
    | some '&' =>
      skip
      return token 0 .duplicateInput
    | some '>' =>
      skip
      return token 0 .update
    | _ => return token 0 .read

/-- The end of an index in brackets at the front of a text with so many
brackets open, if an equals sign follows it. -/
def indexEnd? : Nat → Octets → Option Nat
  | _, [] => none
  | depth, '[' :: s => (indexEnd? (depth + 1) s).map (· + 1)
  | depth + 1, ']' :: s =>
    if depth = 0 then
      match s with
      | '=' :: _ | '+' :: '=' :: _ => some 1
      | _ => none
    else (indexEnd? depth s).map (· + 1)
  | _, '\n' :: _ => none
  | depth, _ :: s => (indexEnd? depth s).map (· + 1)

/-- Reads the front of an assignment to an element whose index has blanks
or operators in it. -/
def elementFront? (commands : Reading Command) : Reading (Option Word) := do
  let s ← get
  let name := s.rest.takeWhile isNameChar
  let after := s.rest.drop name.length
  match if isName name && after.head? = some '[' then indexEnd? 0 after else none with
  | some n =>
    if (after.take n).any isMeta then
      modify fun s => { s with rest := s.rest.drop (name.length + 1) }
      let index ← parts commands stepLimit .index
      skip
      return some (Word.cons (.text false (name ++ ['['])) (index ++ [.text false [']']]))
    else return none
  | none => return none

/-- The name of a variable in braces in front of a redirection, and what
follows the braces. -/
def namedDescriptor? : Octets → Option (Octets × Octets)
  | '\x7b' :: s =>
    let name := s.takeWhile isNameChar
    match s.drop name.length with
    | '\x7d' :: c :: rest => if isName name && (c = '<' || c = '>') then some (name, c :: rest) else none
    | _ => none
  | _ => none

/-- Reads a word. -/
def word (commands : Reading Command) : Reading Word := spelled do
  let front ← if ← isWide then elementFront? commands else pure none
  let rest ← parts commands stepLimit .bare
  return (front.getD []).foldr Word.cons rest

/-- Reads a token as it is written. -/
def rawToken (commands : Reading Command) (delimiter : Bool) : Reading Token := do
  pass
  let wide ← isWide
  match ← peek with
  | none => return .endOfText
  | some '\n' =>
    skip
    return .lineEnd
  | some '&' =>
    skip
    if ← accept '&' then return .operator "&&"
    if wide && (← peek) = some '>' then
      skip
      if ← accept '>' then return .redirection (.number 1) .extendBoth false
      return .redirection (.number 1) .writeBoth false
    return .operator "&"
  | some '|' =>
    skip
    if ← accept '|' then return .operator "||"
    if wide then
      if ← accept '&' then return .operator "|&"
    return .operator "|"
  | some ';' =>
    skip
    if ← accept ';' then
      if wide then
        if ← accept '&' then return .operator ";;&"
      return .operator ";;"
    if wide then
      if ← accept '&' then return .operator ";&"
    return .operator ";"
  | some '(' =>
    skip
    return .operator "("
  | some ')' =>
    skip
    return .operator ")"
  | some c =>
    if c = '<' || c = '>' then
      let next := (← get).rest.drop 1
      if wide && next.head? = some '(' && !delimiter then
        return .word (← spelled do
          skip
          skip
          let body ← parenthesized commands
          return .outputFile body :: (← parts commands stepLimit .bare))
      skip
      redirectionAfter none c
    else
      let digits := (← get).rest.takeWhile Char.isDigit
      let after := ((← get).rest.drop digits.length).head?
      if !digits.isEmpty && (after = some '<' || after = some '>') && (wide || digits.length = 1) then
        modify fun s => { s with rest := s.rest.drop (digits.length + 1) }
        redirectionAfter ((Octets.nat? digits).map .number) (after.getD '>')
      else if delimiter then return .word (← parts commands stepLimit .delimiter)
      else
        let rest := (← get).rest
        match if wide then namedDescriptor? rest else none with
        | some (name, rest) =>
          modify fun s => { s with rest := rest.drop 1 }
          redirectionAfter (some (.named name)) (rest.head?.getD '>')
        | none => return .word (← word commands)

/-- Takes the awaited texts from the lines that follow; there are none if
the script has ended. -/
def takeTexts (commands : Reading Command) (hasEnded : Bool) : Reading Unit := do
  let awaited := (← get).awaited
  modify fun s => { s with awaited := [] }
  awaited.forM fun a => do
    let line := (← get).line
    let text ← hereText commands { a with line := if hasEnded then line else line - 1 }
    modify fun s => { s with texts := (a.index, text) :: s.texts }

/-- Puts the text of an alias in front of what is left, if the word is one
that is not just being replaced. The second argument is what is left with
the word. -/
def replaceAlias? (name : Octets) (start : Nat) : Reading Bool := do
  let s ← get
  match s.aliases.lookup name with
  | none => return false
  | some text =>
    if s.expanding.any fun e => e.1 = name && e.2 < start then return false
    let chained := match text.getLast? with
      | some c => if c = ' ' || c = '\t' then some s.rest.length else s.chained
      | none => s.chained
    set { s with rest := text ++ s.rest, expanding := (name, s.rest.length) :: s.expanding, chained }
    return true

/-- Reads a token, giving way to at most so many aliases and line ends. -/
def tokenWithin (commands : Reading Command) (look : Lookout) : Nat → Reading Token
  | 0 => fail (.other "too many aliases")
  | fuel + 1 => do
    let s ← get
    pass
    let usesAliases := !s.aliases.isEmpty
    let start ← if usesAliases then pure (← get).rest.length else pure 0
    let t ← match s.pushed with
      | some t =>
        set { s with pushed := none }
        pure t
      | none => rawToken commands look.delimiter
    match t with
    | .lineEnd =>
      if look.lines then
        takeTexts commands false
        tokenWithin commands look fuel
      else return t
    | .word [.text false w] =>
      match if look.reserved then reserved? (s.dialect = .wide) w else none with
      | some r => return .reserved r
      | none =>
        if !usesAliases then return t
        let start ← if s.pushed.isSome then pure ((← get).rest.length + 1) else pure start
        let isChained := s.chained.any fun n => start ≤ n
        if isChained then modify fun s => { s with chained := none }
        if look.aliases || isChained then
          if ← replaceAlias? w start then tokenWithin commands look fuel else return t
        else return t
    | t => return t

/-- Reads a token. -/
def token (commands : Reading Command) (look : Lookout) : Reading Token :=
  tokenWithin commands look stepLimit

end Script

end Shell

end Tangle
