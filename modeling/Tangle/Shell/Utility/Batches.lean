import Tangle.Shell.Utility.Calling
/-!
# Calling a program with what is read

The program that calls another one with arguments that it reads (`xargs`):
as many as fit, so many at once, those of so many lines, or each line in the
place of a mark.
-/

namespace Tangle

namespace Shell

namespace Utility

namespace Batches

/-- What is taken together. -/
inductive Grouping where
  /-- As much as fits. -/
  | all
  /-- So many arguments. -/
  | words (count : Nat)
  /-- The arguments of so many lines. -/
  | lines (count : Nat)
  /-- A line, which takes the place of a mark. -/
  | mark (text : Octets)
deriving Repr, DecidableEq

/-- How arguments are read and used. -/
structure Setting where
  /-- What is taken together. -/
  grouping : Grouping
  /-- What ends arguments, where it is no blank. -/
  delimiter : Option Char
  /-- The argument that ends the input. -/
  finish : Option Octets
  /-- The file that is read. -/
  file : Option Octets
  /-- Nothing is called if there are no arguments. -/
  idle : Bool
  /-- Calls are shown. -/
  shows : Bool
  /-- Calls are asked for. -/
  asks : Bool
  /-- What does not fit is a fault. -/
  strict : Bool
  /-- The characters that a call may have, with one for the end of each
  argument. -/
  most : Nat
  /-- What is doubtful about the options. -/
  warnings : List String

/-- The standard. -/
def Setting.standard : Setting := ⟨.all, none, none, none, false, false, false, false, 131072, []⟩

/-- The number that the argument of an option writes. -/
def number (letter : Char) (least : Int) (v : Octets) : Except Problem Int :=
  match Numeral.read? (some 10) v with
  | some ⟨n, []⟩ =>
    if n < least then .error (.usage ("value " ++ Octets.text v ++ " for -" ++ letter.toString ++ " option should be >= "
      ++ toString least))
    else .ok n
  | _ => .error (.usage ("invalid number \"" ++ Octets.text v ++ "\" for -" ++ letter.toString ++ " option"))

/-- The setting with another grouping, which excludes the former one; `name`
is that of its option. -/
def Setting.withGrouping (name : String) (grouping : Grouping) (v : Setting) : Setting :=
  let conflict (former : String) : Setting :=
    { v with
      grouping
      warnings := v.warnings ++ ["warning: options --" ++ former ++ " and " ++ name
        ++ " are mutually exclusive, ignoring previous --" ++ former ++ " value"] }
  match v.grouping, grouping with
  | .mark _, .words 1 => v
  | .mark _, .mark _ => { v with grouping }
  | .mark _, _ => conflict "replace"
  | .words _, .words _ => { v with grouping }
  | .words _, _ => conflict "max-args"
  | .lines _, .lines _ => { v with grouping }
  | .lines _, _ => conflict "max-lines"
  | .all, _ => { v with grouping }

/-- The character that a text describes as a delimiter. -/
def delimiterOf (v : Octets) : Except Problem Char :=
  let invalid : Problem := .value ("Invalid input delimiter specification " ++ Octets.text v
    ++ ": the delimiter must be either a single character or an escape sequence starting with \\.")
  let malformed : Problem :=
    .value ("Invalid escape sequence " ++ Octets.text v ++ " in input delimiter specification.")
  match v with
  | [c] => .ok c
  | '\\' :: s =>
    match Format.octalEscape? false s, Format.hexEscape? false s, s with
    | some (c, []), _, _ => .ok c
    | _, some ([c], []), _ => .ok c
    | _, _, [c] => if c = 'e' then .error malformed else ((Format.escaped? c).map Except.ok).getD (.error malformed)
    | _, _, _ => .error malformed
  | _ => .error invalid

/-- The setting with an option added. -/
def Setting.add (v : Setting) (o : Char × Octets) : Except Problem Setting :=
  match o.1 with
  | '0' => .ok { v with delimiter := some '\x00' }
  | 'a' => .ok { v with file := some o.2 }
  | 'd' => (delimiterOf o.2).map fun c => { v with delimiter := some c }
  | 'E' | 'e' => .ok { v with finish := if o.2.isEmpty then none else some o.2 }
  | 'I' => .ok (v.withGrouping "--replace/-I/-i" (.mark o.2))
  | 'i' => .ok (v.withGrouping "--replace/-I/-i" (.mark (if o.2.isEmpty then ['\x7b', '\x7d'] else o.2)))
  | 'L' => (number 'L' 1 o.2).map fun n => v.withGrouping "-L" (.lines n.toNat)
  | 'l' => (if o.2.isEmpty then .ok 1 else number 'l' 1 o.2).map fun n => v.withGrouping "--max-lines/-l" (.lines n.toNat)
  | 'n' => (number 'n' 1 o.2).map fun n => v.withGrouping "--max-args/-n" (.words n.toNat)
  | 'P' => (number 'P' 0 o.2).map fun _ => v
  | 'p' => .ok { v with asks := true }
  | 'r' => .ok { v with idle := true }
  | 's' =>
    match number 's' 1 o.2, Octets.int? o.2 with
    | .ok n, _ => .ok { v with most := n.toNat }
    | .error (.usage message), some _ => .ok { v with most := 1, warnings := v.warnings ++ [message] }
    | .error problem, _ => .error problem
  | 't' => .ok { v with shows := true }
  | 'x' => .ok { v with strict := true }
  | _ => .ok v

/-- The setting that options describe. -/
def Setting.of (options : List (Char × Octets)) : Except Problem Setting := do
  let v ← options.foldlM Setting.add standard
  let strict := match v.grouping with
    | .mark _ | .lines _ => true
    | _ => v.strict
  let useless := v.delimiter.isSome && v.finish.isSome
  return { v with
    strict
    finish := if v.delimiter.isSome then none else v.finish
    warnings := v.warnings
      ++ if useless then ["warning: the -E option has no effect if -0 or -d is used.\n"] else [] }

/-! ## Reading -/

/-- What is read up to the end of a line. -/
structure Portion where
  /-- The arguments. -/
  words : List Octets
  /-- A line ends here, whose last argument has no blank behind. -/
  endsLine : Bool

/-- What is read: portions, and what is wrong at the end. -/
structure Reading where
  /-- The portions, the last one first. -/
  portions : List Portion
  /-- The complaint. -/
  problem : Option String

/-- Where the reading of quoted arguments is. -/
inductive Mode where
  /-- Between arguments. -/
  | blank
  /-- In an argument. -/
  | inside
  /-- Behind a backslash. -/
  | escaped
  /-- In quotes. -/
  | quoted (c : Char)
deriving Repr, DecidableEq

/-- The reading of arguments with quotes. -/
structure Progress where
  /-- Where it is. -/
  mode : Mode
  /-- The characters of the argument, the last one first. -/
  item : Octets
  /-- There is an argument, even if it has no characters. -/
  begun : Bool
  /-- The arguments on the line, the last one first. -/
  words : List Octets
  /-- The character before. -/
  former : Char

/-- The complaint about a quote that does not end. -/
def unmatched (c : Char) : String :=
  "unmatched " ++ (if c = '"' then "double" else "single")
    ++ " quote; by default quotes are special to xargs unless you use the -0 option"

/-- Reads arguments with quotes and backslashes. In `whole` lines blanks end
no arguments. -/
def quotedPortions (whole : Bool) (finish : Option Octets) : Octets → Progress → List Portion → Reading
  | [], p, found =>
    let before := if p.words.isEmpty then found else ⟨p.words.reverse, false⟩ :: found
    if p.item.isEmpty then ⟨before, none⟩
    else
      match p.mode with
      | .quoted c => ⟨before, some (unmatched c)⟩
      | _ =>
        if p.words.isEmpty && finish = some p.item.reverse then ⟨before, none⟩
        else ⟨⟨(p.item.reverse :: p.words).reverse, false⟩ :: found, none⟩
  | c :: s, p, found =>
    let isBlank := c = ' ' || c = '\t'
    let fresh : Progress := ⟨.blank, [], false, [], c⟩
    let add : Progress := { p with mode := .inside, item := c :: p.item, begun := true, former := c }
    match p.mode with
    | .quoted q =>
      if c = '\n' then ⟨if p.words.isEmpty then found else ⟨p.words.reverse, false⟩ :: found, some (unmatched q)⟩
      else if c = q then quotedPortions whole finish s { p with mode := .inside, begun := true, former := c } found
      else quotedPortions whole finish s { add with mode := .quoted q } found
    | .escaped => quotedPortions whole finish s add found
    | mode =>
      if mode = .blank && (Numeral.isBlank c || c = '\n') then
        quotedPortions whole finish s { p with former := c } found
      else if c = '\n' then
        let endsLine := p.former ≠ ' ' && p.former ≠ '\t'
        if p.item.isEmpty && !p.begun then quotedPortions whole finish s { fresh with words := p.words } found
        else
          let item := p.item.reverse
          if finish = some item then ⟨if p.words.isEmpty then found else ⟨p.words.reverse, endsLine⟩ :: found, none⟩
          else quotedPortions whole finish s fresh (⟨(item :: p.words).reverse, endsLine⟩ :: found)
      else if isBlank && !whole then
        let item := p.item.reverse
        if finish = some item then ⟨if p.words.isEmpty then found else ⟨p.words.reverse, false⟩ :: found, none⟩
        else quotedPortions whole finish s { fresh with words := item :: p.words } found
      else if c = '\\' then quotedPortions whole finish s { p with mode := .escaped, begun := true, former := c } found
      else if c = '\'' || c = '"' then
        quotedPortions whole finish s { p with mode := .quoted c, begun := true, former := c } found
      else quotedPortions whole finish s add found

/-- Reads arguments that a character ends. -/
def plainPortions (delimiter : Char) (text : Octets) : Reading :=
  let pieces := Octets.splitOn delimiter text
  let pieces := if pieces.getLast? = some [] then pieces.dropLast else pieces
  ⟨(pieces.map fun w => ⟨[w], true⟩).reverse, none⟩

/-- The warning about a character that ends arguments where they are used. -/
def nulWarning : String :=
  "WARNING: a NUL character occurred in the input.  It cannot be passed through in the argument list.  "
    ++ "Did you mean to use the --null option?"

/-- What is read of a text. -/
def Setting.portions (v : Setting) (text : Octets) : List Portion × Option String :=
  let whole := match v.grouping with
    | .mark _ => true
    | _ => false
  let r := match v.delimiter with
    | some c => plainPortions c text
    | none => quotedPortions whole v.finish text ⟨.blank, [], false, [], '\n'⟩ []
  (r.portions.reverse.map fun p => { p with words := p.words.map (·.takeWhile (· ≠ '\x00')) }, r.problem)

/-! ## Calling -/

/-- The calls so far. -/
structure Run where
  /-- The state. -/
  state : State
  /-- The arguments that wait for a call, the last one first. -/
  waiting : List Octets
  /-- The lines that wait. -/
  lines : Nat
  /-- There was a call. -/
  called : Bool
  /-- Nothing more is done. -/
  isOver : Bool

/-- How the calls are made. -/
structure Plan where
  /-- Calls a program. -/
  call : Caller
  /-- The program that makes the calls. -/
  invoked : Invoked
  /-- The setting. -/
  setting : Setting
  /-- The command and its first arguments. -/
  command : List Octets

/-- The characters of arguments, with one for the end of each. -/
def size (words : List Octets) : Nat := (words.map fun w => w.length + 1).foldl (· + ·) 0

/-- Ends all with a complaint. -/
def Plan.fail (p : Plan) (message : String) (status : Nat) (r : Run) : Run :=
  { r with state := (p.invoked.complain message r.state).ended status, isOver := true }

/-- Calls a command. -/
def Plan.perform (p : Plan) (argv : List Octets) (r : Run) : Run :=
  let name := Octets.text (argv.head?.getD [])
  let shown := List.intercalate [' '] (argv.map fun a => if needsQuotes a then quoteOctets a else a)
  let r := { r with waiting := [], lines := 0, called := true }
  if p.setting.asks then
    p.fail "failed to open /dev/tty for reading: No such device or address" 1
      { r with state := r.state.write 2 shown }
  else
    let s := if p.setting.shows then r.state.complain (Octets.text shown) else r.state
    match callApart p.call argv s with
    | .error fault => p.fail (name ++ ": " ++ faultText fault) (if fault = .notFound then 127 else 126) { r with state := s }
    | .ok (some signal, s) => p.fail (name ++ ": terminated by signal " ++ toString signal) 125 { r with state := s }
    | .ok (none, after) =>
      if after.status = 255 then p.fail (name ++ ": exited with status 255; aborting") 124 { r with state := after }
      else { r with state := after.ended (if after.status = 0 then s.status else 123) }

/-- Calls the command with the arguments that wait. -/
def Plan.flush (p : Plan) (r : Run) : Run := p.perform (p.command ++ r.waiting.reverse) r

/-- Takes one more argument. -/
def Plan.push (p : Plan) (r : Run) (word : Octets) : Run :=
  if r.isOver then r
  else if p.setting.most < size p.command + word.length + 1 then
    let r := if r.waiting.isEmpty || p.setting.strict then r else p.flush r
    if r.isOver then r else p.fail "argument line too long" 1 r
  else
    let isFull := p.setting.most < size (p.command ++ r.waiting) + word.length + 1
    let r :=
      if !isFull then r
      else if p.setting.strict && p.setting.grouping ≠ .all then p.fail "argument list too long" 1 r
      else p.flush r
    if r.isOver then r
    else
      let r := { r with waiting := word :: r.waiting }
      if p.setting.grouping = .words r.waiting.length then p.flush r else r

/-- Takes a portion. -/
def Plan.take (p : Plan) (r : Run) (portion : Portion) : Run :=
  if r.isOver then r
  else
    match p.setting.grouping with
    | .mark m =>
      let line := portion.words.head?.getD []
      let argv := p.command.take 1 ++ (p.command.drop 1).map fun a => replaceAll m line (a.length + 1) a
      if m.isEmpty && 1 < argv.length then p.fail "command too long" 1 r
      else if p.setting.most < size argv then p.fail "argument list too long" 1 r
      else p.perform argv r
    | grouping =>
      let r := portion.words.foldl p.push r
      let r := if portion.endsLine then { r with lines := r.lines + 1 } else r
      match grouping with
      | .lines n => if n ≤ r.lines && !r.isOver then p.flush r else r
      | _ => r

/-- Calls the command for all that is read. -/
def Plan.run (p : Plan) (portions : List Portion) (problem : Option String) (s : State) : State :=
  let start : Run := ⟨s, [], 0, false, false⟩
  let isMarked := match p.setting.grouping with
    | .mark _ => true
    | _ => false
  if !isMarked && p.setting.most < size p.command then
    (p.fail "cannot fit single argument within argument list size limit" 1 start).state
  else
    let r := portions.foldl p.take start
    if r.isOver then r.state
    else
      match problem with
      | some message =>
        let r := if r.waiting.isEmpty || p.setting.strict then r else p.flush r
        if r.isOver then r.state else (p.fail message 1 r).state
      | none =>
        if !r.waiting.isEmpty || (!isMarked && !p.setting.idle && !r.called) then (p.flush r).state else r.state

end Batches

/-- Calls a program with what is read. -/
def xargs : Utility := fun call argv =>
  withSetting ⟨"0oprtxκ", "adEILnPsπ", "eil", [("arg-file", 'a'), ("delimiter", 'd'), ("eof", 'e'), ("exit", 'x'),
      ("interactive", 'p'), ("max-args", 'n'), ("max-chars", 's'), ("max-lines", 'l'), ("max-procs", 'P'), ("no-run-if-empty", 'r'),
      ("null", '0'), ("open-tty", 'o'), ("process-slot-var", 'π'), ("replace", 'i'), ("show-limits", 'κ'), ("verbose", 't')],
      true, 1⟩ Batches.Setting.of (fun i v s =>
    let s := v.warnings.foldl (fun s w => s.complain (i.name ++ ": " ++ w)) s
    let (text, input) : Except Fault Octets × State := match v.file with
      | some file => content file s
      | none =>
        let (text, s) := s.readAll 0
        (text, s.attach 0 (Stream.ofDevice .null true false))
    match text, v.file with
    | .error fault, some file => i.complain ("Cannot open input file " ++ curly file ++ ": " ++ faultText fault) s
    | text, _ =>
      let content := text.toOption.getD []
      let (portions, problem) := v.portions content
      let isDoubtful := v.delimiter.isNone && content.contains '\x00'
      let input := if isDoubtful then input.complain (i.name ++ ": " ++ Batches.nulWarning) else input
      let command := if i.operands.isEmpty then ["echo".toList] else i.operands
      { Batches.Plan.run ⟨call, i, v, command⟩ portions problem input with toProcess := s.toProcess }) call argv

end Utility

end Shell

end Tangle
