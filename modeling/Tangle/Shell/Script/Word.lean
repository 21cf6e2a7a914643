import Tangle.Shell.Script.Scan
/-!
# Reading words

A word goes up to the first unquoted blank or operator. Single quotes
protect everything, double quotes all but expansions, a backslash the next
character. What is read where is a matter of the context (`Context`); the
commands of an expansion are read by a reader that is given.
-/

namespace Tangle

namespace Shell

namespace Script

/-- Where a part of a word is read. -/
inductive Context where
  /-- Between blanks. -/
  | bare
  /-- Between double quotes. -/
  | quoted
  /-- In a text that follows in the script. -/
  | here (a : Awaited)
  /-- In the braces of an expansion, up to one of some characters. -/
  | braces (quoted inHere : Bool) (stops : Octets)
  /-- Between double quotes in the braces of a quoted expansion. -/
  | braceQuotes (inHere : Bool)
  /-- Between doubled parentheses, with so many open inside. -/
  | arithmetic (depth : Nat)
  /-- Up to the bracket that closes an index. -/
  | index
  /-- The line that ends a text, where nothing is expanded. -/
  | delimiter
  /-- The right side of a match, where parentheses are no operators. -/
  | expression (depth : Nat)
  /-- In a group of alternatives, with so many open inside. -/
  | group (depth : Nat)
deriving Inhabited

/-- Single quotes have no meaning there, and expansions are protected. -/
def Context.protects : Context → Bool
  | .quoted | .here _ | .braceQuotes _ | .arithmetic _ => true
  | .braces protectedText _ _ => protectedText
  | _ => false

/-- A text in the script that takes it. -/
def Context.inHere : Context → Bool
  | .here _ => true
  | .braces _ inHere _ => inHere
  | .braceQuotes inHere => inHere
  | _ => false

/-- A backslash protects the character there. -/
def Context.escapes (c : Char) (ctx : Context) : Bool :=
  if !ctx.protects then true
  else if c = '\\' || c = '\x60' || c = '$' then true
  else
    match ctx with
    | .here _ => false
    | .braces .. | .braceQuotes _ => c = '"' || c = '\x7d'
    | _ => c = '"'

/-- The problem that the script ends in a context. -/
def Context.openEnd : Context → Option Problem
  | .bare | .here _ | .delimiter | .expression _ => none
  | .quoted => some (.unclosed ['"'] none)
  | .braceQuotes inHere => if inHere then some (.unclosed ['\x7b'] none) else some (.unclosed ['"'] none)
  | .braces protectedText inHere _ =>
    if protectedText && !inHere then some (.unclosed ['"'] none) else some (.unclosed ['\x7b'] none)
  | .arithmetic _ => some (.unclosed ['(', '('] none)
  | .index => some (.unclosed ['['] none)
  | .group _ => some (.unclosed ['('] none)

/-- The text up to a backtick, the text after it, and the number of lines
that it goes over. Some backslashes are taken away from it. -/
def untilTick (quoted : Bool) : Octets → Option (Octets × Octets × Nat)
  | [] => none
  | '\x60' :: s => some ([], s, 0)
  | '\\' :: '\n' :: s => (untilTick quoted s).map fun (a, b, n) => (a, b, n + 1)
  | '\\' :: c :: s =>
    (untilTick quoted s).map fun (a, b, n) =>
      (if c = '\x60' || c = '$' || c = '\\' || (quoted && c = '"') then (c :: a, b, n)
        else ('\\' :: c :: a, b, n))
  | c :: s => (untilTick quoted s).map fun (a, b, n) => (c :: a, b, if c = '\n' then n + 1 else n)

/-- What `reader` reads from a text of its own; texts that redirections
take from it are kept. -/
def readingFrom {α : Type} (script : Octets) (reader : Reading α) : Reading α := do
  let s ← get
  set { s with rest := script, line := 1, awaited := [], pushed := none, expanding := [], chained := none }
  let a ← reader
  modify fun t => { s with nextText := t.nextText, texts := t.texts, endless := t.endless }
  return a

/-- The escape of a quotation with a dollar sign, after its backslash: the
characters it stands for, and what follows. -/
def dollarEscape (s : Octets) : Octets × Octets :=
  let number (base digits : Nat) (isDigit : Char → Bool) (rest : Octets) : Option (Nat × Octets) :=
    let ds := (rest.take digits).takeWhile isDigit
    (Octets.inBase? base ds).map fun n => (n, rest.drop ds.length)
  let isHex (c : Char) := c.isDigit || ('a' ≤ c.toLower && c.toLower ≤ 'f')
  let scalar (rest : Octets) (digits : Nat) (letter : Char) : Octets × Octets :=
    match number 16 digits isHex rest with
    | some (n, rest) => (Octets.ofString (Char.ofNat n).toString, rest)
    | none => (['\\', letter], rest)
  match s with
  | [] => (['\\'], [])
  | 'a' :: r => (['\x07'], r)
  | 'b' :: r => (['\x08'], r)
  | 'e' :: r => (['\x1b'], r)
  | 'E' :: r => (['\x1b'], r)
  | 'f' :: r => (['\x0c'], r)
  | 'n' :: r => (['\n'], r)
  | 'r' :: r => (['\r'], r)
  | 't' :: r => (['\t'], r)
  | 'v' :: r => (['\x0b'], r)
  | 'c' :: c :: r => ([Char.ofNat (c.toNat % 32)], r)
  | 'x' :: r =>
    match number 16 2 isHex r with
    | some (n, rest) => ([Char.ofNat n], rest)
    | none => (['\\', 'x'], r)
  | 'u' :: r => scalar r 4 'u'
  | 'U' :: r => scalar r 8 'U'
  | c :: r =>
    if '0' ≤ c && c ≤ '7' then
      match number 8 3 (fun d => '0' ≤ d && d ≤ '7') (c :: r) with
      | some (n, rest) => ([Char.ofNat (n % 256)], rest)
      | none => ([c], r)
    else if c = '\\' || c = '\'' || c = '"' || c = '?' then ([c], r)
    else (['\\', c], r)

/-- The text of a quotation with a dollar sign, up to its closing quote. -/
def dollarQuoted : Nat → Octets → Option (Octets × Octets)
  | 0, _ => none
  | _ + 1, [] => none
  | _ + 1, '\'' :: s => some ([], s)
  | fuel + 1, '\\' :: s =>
    let (shown, rest) := dollarEscape s
    (dollarQuoted fuel rest).map fun (a, b) => (shown ++ a, b)
  | fuel + 1, c :: s => (dollarQuoted fuel s).map fun (a, b) => (c :: a, b)

/-- A reader of parts in a context. -/
abbrev WordReader := Context → Reading Word

/-- The name of a parameter in braces, and whether its value is only
measured. -/
def bracedName : Reading (Octets × Bool) := do
  let name : Reading Octets := do
    match ← peek with
    | none => return []
    | some c =>
      if isNameStart c then take isNameChar
      else if c.isDigit then take Char.isDigit
      else if isSpecial c then
        skip
        return [c]
      else return []
  if (← peek) ≠ some '#' then return (← name, false)
  skip
  match ← peek with
  | none => return (['#'], false)
  | some c =>
    if isNameStart c || c.isDigit then return (← name, true)
    if c = '\x7d' || !isSpecial c then return (['#'], false)
    -- A special parameter is only measured if the braces end after it.
    let before ← get
    skip
    if (← peek) = some '\x7d' then return ([c], true)
    set before
    return (['#'], false)

/-- Reads the pattern and the text of a replacement. -/
def replacement (inner : WordReader) (quoted inHere : Bool) (anchor : Anchor) : Reading Form := do
  let pattern ← inner (.braces false inHere ['/', '\x7d'])
  if ← accept '/' then return .replace anchor pattern (← inner (.braces quoted inHere ['\x7d']))
  return .replace anchor pattern []

/-- Reads a form that only the wide dialect has. -/
def wideForm? (inner : WordReader) (quoted inHere : Bool) : Reading (Option Form) := do
  let pattern : Reading Word := inner (.braces false inHere ['\x7d'])
  match ← peek with
  | some ':' =>
    skip
    let start ← inner (.braces true inHere [':', '\x7d'])
    if ← accept ':' then return some (.slice start (some (← inner (.braces true inHere ['\x7d']))))
    return some (.slice start none)
  | some '/' =>
    skip
    match ← peek with
    | some '/' =>
      skip
      return some (← replacement inner quoted inHere .every)
    | some '#' =>
      skip
      return some (← replacement inner quoted inHere .front)
    | some '%' =>
      skip
      return some (← replacement inner quoted inHere .back)
    | _ => return some (← replacement inner quoted inHere .first)
  | some '^' =>
    skip
    let every ← accept '^'
    return some (.recase (some true) every (← pattern))
  | some ',' =>
    skip
    let every ← accept ','
    return some (.recase (some false) every (← pattern))
  | some '~' =>
    skip
    let every ← accept '~'
    return some (.recase none every (← pattern))
  | some '@' =>
    skip
    match ← peek with
    | some c =>
      skip
      return some (.transform c)
    | none => return none
  | _ => return none

/-- Reads the form that follows a parameter's name in braces in the wide
dialect, with its word. -/
def bracedForm (inner : WordReader) (quoted inHere : Bool) (name : Octets) : Reading Form := do
  let word : Reading Word := inner (.braces quoted inHere ['\x7d'])
  let pattern : Reading Word := inner (.braces false inHere ['\x7d'])
  let start := (← get).rest
  let invalid : Reading Form := do
    let _ ← word
    let text := start.take (start.length - (← get).rest.length)
    return .invalid (name ++ text)
  if name.isEmpty then invalid
  else
    let before ← get
    match ← peek with
    | some '\x7d' => return .plain
    | some '#' =>
      skip
      let longest ← accept '#'
      return .cutFront longest (← pattern)
    | some '%' =>
      skip
      let longest ← accept '%'
      return .cutBack longest (← pattern)
    | some c =>
      let orEmpty := c = ':'
      if orEmpty then skip
      match ← peek with
      | some '-' =>
        skip
        return .fallback orEmpty (← word)
      | some '=' =>
        skip
        return .assign orEmpty (← word)
      | some '+' =>
        skip
        return .alternative orEmpty (← word)
      | some '?' =>
        skip
        return .require orEmpty (← word)
      | _ =>
        set before
        match ← wideForm? inner quoted inHere with
        | some form => return form
        | none => invalid
    | none => invalid

/-- Reads the index of an element of an array, if one comes next. -/
def index? (inner : WordReader) : Reading (Option Word) := do
  if ← accept '[' then
    let w ← inner .index
    let _ ← accept ']'
    return some w
  return none

/-- Goes past a character without regard to what it means. -/
def skipRaw : Reading Unit := modify fun s => { s with rest := s.rest.drop 1 }

/-- Reads an expansion in braces of the plain dialect, after the opening
one. Where an operator is due any character is taken for one, even a quote
or the closing brace. -/
def bracedPlain (inner : WordReader) (quoted inHere : Bool) : Reading Part := do
  let word : Reading Word := inner (.braces quoted inHere ['\x7d'])
  let pattern : Reading Word := inner (.braces false inHere ['\x7d'])
  let close (name : Octets) (form : Form) : Reading Part := do
    let _ ← accept '\x7d'
    return .parameter quoted name none form
  let invalid (name : Octets) : Reading Part := do
    let _ ← word
    close name (.invalid name)
  let operator (name : Octets) : Reading Part := do
    match ← peek with
    | none => invalid name
    | some '\x7d' => close name .plain
    | some '%' =>
      skipRaw
      let longest ← accept '%'
      close name (.cutBack longest (← pattern))
    | some '#' =>
      skipRaw
      let longest ← accept '#'
      close name (.cutFront longest (← pattern))
    | some c =>
      skipRaw
      let orEmpty := c = ':'
      let sign ← if orEmpty then peek else pure (some c)
      match sign with
      | none => invalid name
      | some sign =>
        if orEmpty then skipRaw
        match sign with
        | '-' => close name (.fallback orEmpty (← word))
        | '=' => close name (.assign orEmpty (← word))
        | '+' => close name (.alternative orEmpty (← word))
        | '?' => close name (.require orEmpty (← word))
        | '\x7d' =>
          let _ ← word
          close name .plain
        | _ => invalid name
  let measured (name : Octets) : Reading Part := do
    if (← peek) = some '\x7d' then close name .length else invalid name
  match ← peek with
  | none => invalid []
  | some c =>
    if isNameStart c then operator (← take isNameChar)
    else if c.isDigit then operator (← take Char.isDigit)
    else if c = '\x7d' then invalid []
    else
      skipRaw
      if c ≠ '#' then
        if isSpecial c then operator [c] else invalid []
      else
        match ← peek with
        | none => operator ['#']
        | some d =>
          if isNameStart d then measured (← take isNameChar)
          else if d.isDigit then measured (← take Char.isDigit)
          else
            let before ← get
            skipRaw
            if d ≠ '\x7d' && (← peek) = some '\x7d' then
              if isSpecial d then measured [d] else invalid []
            else
              set before
              operator ['#']

/-- Reads an expansion in braces of the wide dialect, after the opening
one. -/
def bracedWide (inner : WordReader) (quoted inHere : Bool) : Reading Part := do
  let closing : Reading Unit := do let _ ← accept '\x7d'
  let before ← get
  let indirect ← accept '!'
  let (name, measured) ← bracedName
  if indirect && (isName name || name = ['#'] || (!name.isEmpty && name.all Char.isDigit)) then
    let index ← if isName name then index? inner else pure none
    let form ← match ← peek with
      | some '*' | some '@' =>
        skip
        pure Form.names
      | _ => pure (if index.isSome then Form.keys else .indirect)
    closing
    return .parameter quoted name (if form matches .names then none else index) form
  let (name, measured) ← if indirect then do
      set before
      bracedName
    else pure (name, measured)
  let index ← if isName name then index? inner else pure none
  if measured then
    match ← peek with
    | some '\x7d' =>
      skip
      return .parameter quoted name index .length
    | _ =>
      let start := (← get).rest
      let _ ← inner (.braces quoted inHere ['\x7d'])
      let text := start.take (start.length - (← get).rest.length)
      closing
      return .parameter quoted name index (.invalid ('#' :: name ++ text))
  let form ← bracedForm inner quoted inHere name
  closing
  return .parameter quoted name index form

/-- Reads commands in parentheses, after the opening one. Texts that they
still await come after those awaited before. -/
def parenthesized (commands : Reading Command) : Reading Command := do
  let awaited := (← get).awaited
  modify fun s => { s with awaited := [] }
  let body ← commands
  modify fun s => { s with awaited := awaited ++ s.awaited }
  match (← get).pushed with
  | some (.operator ")") =>
    modify fun s => { s with pushed := none }
    return body
  | t =>
    let t := t.getD .endOfText
    if (← isWide) && (t matches .endOfText) then fail .unclosedCommands
    fail (.unexpected t (some ")"))

/-- Reads what follows a dollar sign. -/
def dollar (commands : Reading Command) (inner : WordReader) (ctx : Context) : Reading Part := do
  let quoted := ctx.protects
  match ← peek with
  | some '\x7b' =>
    skip
    if ← isWide then bracedWide inner quoted ctx.inHere else bracedPlain inner quoted ctx.inHere
  | some '(' =>
    skip
    if (← peek) = some '(' then
      let before ← get
      skip
      let wide ← isWide
      let read : Reading Part := do
        let e ← inner (.arithmetic 0)
        return .arithmetic quoted e
      if wide then
        -- Doubled parentheses that do not close together are commands.
        match read.run (← get) with
        | .ok (p, s) =>
          set s
          return p
        | .error _ =>
          set before
          return .command quoted (← parenthesized commands)
      else read
    else return .command quoted (← parenthesized commands)
  | some c =>
    if isNameStart c then return .parameter quoted (← take isNameChar) none .plain
    else if c.isDigit || isSpecial c then
      skip
      return .parameter quoted [c] none .plain
    else return .text quoted ['$']
  | none => return .text quoted ['$']

/-- The line that comes next ends an awaited text, or the script does: goes
past it, with its end. -/
def acceptDelimiter (a : Awaited) : Reading Bool := do
  let s ← get
  let start := if a.stripsTabs then s.rest.dropWhile (· = '\t') else s.rest
  let line := start.takeWhile (· ≠ '\n')
  if line = a.delimiter then
    set { s with rest := (start.dropWhile (· ≠ '\n')).drop 1, line := s.line + 1 }
    return true
  if start.isEmpty then
    let stop := if s.line = a.line then s.line else s.line - 1
    let e : Endless := ⟨a.delimiter, a.line, stop⟩
    set { s with rest := start, endless := s.endless ++ [e] }
    return true
  set { s with rest := start }
  return false

/-- The context ends where the character comes next. -/
def Context.stops (c : Char) : Context → Bool
  | .bare => isMeta c
  | .delimiter => isMeta c
  | .expression depth => if c = '(' || c = '|' || 0 < depth then false else isMeta c
  | .quoted => c = '"'
  | .braces _ _ stops => stops.contains c
  | .braceQuotes _ => c = '"'
  | .index => c = ']'
  | _ => false

/-- Reads the parts of a word up to where its context ends. -/
def parts (commands : Reading Command) : Nat → WordReader
  | 0, _ => fail (.other "word too long")
  | fuel + 1, ctx => do
    let goOn : Reading Word := parts commands fuel ctx
    let continueWith (p : Part) : Reading Word := return Word.cons p (← goOn)
    match ← peek with
    | none =>
      match ctx.openEnd with
      | some problem => fail problem
      | none => return []
    | some c =>
      if ctx.stops c then return []
      else
        let line := (← get).line
        skip
        if c = '\\' then
          match ← peekRaw with
          | none => continueWith (.text true ['\\'])
          | some d =>
            skip
            if ctx.escapes d then continueWith (.text true [d]) else continueWith (.text true ['\\', d])
        else if c = '\'' && !ctx.protects then
          let rest := (← get).rest
          let inside := rest.takeWhile (· ≠ '\'')
          modify fun s => { s with rest := (rest.dropWhile (· ≠ '\'')).drop 1, line := s.line + inside.count '\n' }
          if inside.length = rest.length then fail (.unclosed ['\''] (some line))
          return .text true inside :: (← goOn)
        else if c = '"' then
          match ctx with
          | .arithmetic _ => if ← isWide then goOn else continueWith (.text true [c])
          | .here _ => continueWith (.text true [c])
          | .braces true inHere _ =>
            let inside ← fromLine line (parts commands fuel (.braceQuotes inHere))
            skip
            return inside ++ (← goOn)
          | _ =>
            let inside ← fromLine line (parts commands fuel .quoted)
            skip
            return .text true [] :: inside ++ (← goOn)
        else if c = '$' && !(ctx matches .delimiter) then
          let wide ← isWide
          match ← peek with
          | some '\'' =>
            if wide && !ctx.protects then
              skip
              let s ← get
              match dollarQuoted (s.rest.length + 1) s.rest with
              | none => fail (.unclosed ['\''] (some line))
              | some (text, rest) =>
                set { s with rest, line := s.line + (s.rest.count '\n' - rest.count '\n') }
                return .text true text :: (← goOn)
            else continueWith (.text ctx.protects ['$'])
          | some '"' => if wide && !ctx.protects then goOn else continueWith (.text ctx.protects ['$'])
          | _ => continueWith (← fromLine line (dollar commands (parts commands fuel) ctx))
        else if c = '\x60' && !(ctx matches .delimiter) then
          let s ← get
          match untilTick ctx.protects s.rest with
          | none =>
            set { s with line := s.line + s.rest.count '\n' }
            fail (.unclosed ['\x60'] (some line))
          | some (script, rest, n) =>
            set { s with rest, line := s.line + n }
            continueWith (.command ctx.protects (← readingFrom script commands))
        else if c = '\n' then
          match ctx with
          | .here a =>
            if ← acceptDelimiter a then return [.text true ['\n']] else continueWith (.text true ['\n'])
          | _ => continueWith (.text ctx.protects ['\n'])
        else
          match ctx with
          | .arithmetic depth =>
            if c = '(' then return Word.cons (.text true ['(']) (← parts commands fuel (.arithmetic (depth + 1)))
            else if c = ')' then
              match depth with
              | depth + 1 => return Word.cons (.text true [')']) (← parts commands fuel (.arithmetic depth))
              | 0 =>
                if ← accept ')' then return [] else
                  if ← isWide then fail (.unclosed ['(', '('] none) else continueWith (.text true [')'])
            else continueWith (.text true [c])
          | .group depth =>
            if c = '(' then return Word.cons (.text false ['(']) (← parts commands fuel (.group (depth + 1)))
            else if c = ')' then
              match depth with
              | depth + 1 => return Word.cons (.text false [')']) (← parts commands fuel (.group depth))
              | 0 => return [.text false [')']]
            else continueWith (.text false [c])
          | .bare =>
            if "?*+@!".toList.contains c && (← get).groups && (← peek) = some '(' then
              skip
              let inside ← parts commands fuel (.group 0)
              let w ← goOn
              return Word.cons (.text false [c, '(']) (inside.foldr Word.cons w)
            else continueWith (.text false [c])
          | .expression depth =>
            if c = '(' then return Word.cons (.text false ['(']) (← parts commands fuel (.expression (depth + 1)))
            else if c = ')' then return Word.cons (.text false [')']) (← parts commands fuel (.expression (depth - 1)))
            else continueWith (.text false [c])
          | _ => continueWith (.text ctx.protects [c])

/-- Reads the text that a redirection takes from the script. In the wide
dialect its last line ends in any case. -/
def hereText (commands : Reading Command) (a : Awaited) : Reading Word := do
  let s ← get
  if (← isWide) && s.rest.getLast?.any (· ≠ '\n') then
    set { s with rest := s.rest ++ ['\n'] }
  if ← acceptDelimiter a then return []
  if a.literal then literalLines (← get).rest.length a
  else parts commands stepLimit (.here a)
where
  /-- Reads lines as they are, up to the one that ends the text. -/
  literalLines : Nat → Awaited → Reading Word
    | 0, _ => return []
    | fuel + 1, a => do
      let s ← get
      let line := s.rest.takeWhile (· ≠ '\n')
      let rest := s.rest.dropWhile (· ≠ '\n')
      let text := line ++ rest.take 1
      set { s with rest := rest.drop 1, line := s.line + 1 }
      if ← acceptDelimiter a then return [.text true text]
      return Word.cons (.text true text) (← literalLines fuel a)

end Script

end Shell

end Tangle
