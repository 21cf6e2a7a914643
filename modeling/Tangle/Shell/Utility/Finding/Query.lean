import Tangle.Shell.Moment
import Tangle.Shell.Regex.Reading
import Tangle.Shell.Utility.Finding.Report
/-!
# Questions about files

What can be asked about files that are found, and done with them (`Query`).
An expression is read from arguments: first each question with its operands
(`Query.readOne`), then what joins them (`Query.readLevel`).
-/

namespace Tangle

namespace Shell

namespace Utility

namespace Finding

/-- How a number is compared with the one that is wanted. -/
inductive Bound where
  /-- It is smaller. -/
  | below
  /-- It is the same. -/
  | exact
  /-- It is greater. -/
  | above
deriving Repr, DecidableEq

/-- The number is as the bound wants it. -/
def Bound.admits (b : Bound) (wanted n : Nat) : Bool :=
  match b with
  | .below => n < wanted
  | .exact => n = wanted
  | .above => wanted < n

/-- Where something is printed: to a file, or to standard output. -/
abbrev Goal := Option Octets

/-- What is asked about a file, or done with it. -/
inductive Query where
  /-- The answer is always the same. -/
  | always (answer : Bool)
  /-- The name matches a pattern. -/
  | nameLike (folds : Bool) (pattern : Octets)
  /-- The path matches a pattern. -/
  | pathLike (folds : Bool) (pattern : Octets)
  /-- The file is a link to what matches a pattern. -/
  | goalLike (folds : Bool) (pattern : Octets)
  /-- The path matches an expression. -/
  | regex (folds : Bool) (r : Regex)
  /-- The file is of one of the kinds that letters name. -/
  | kind (through : Bool) (letters : Octets)
  /-- There is nothing in the file or directory. -/
  | isVoid
  /-- The size in units. -/
  | size (bound : Bound) (count unit : Nat)
  /-- The number of names. -/
  | links (bound : Bound) (count : Nat)
  /-- The number of the file. -/
  | number (bound : Bound) (count : Nat)
  /-- The permission bits: all of them, these among them, or some of these. -/
  | rights (sign : Option Char) (mode : Nat)
  /-- The file can be read, written or called. -/
  | access (letter : Char)
  /-- The file is the one at a place. -/
  | same (place : Place)
  /-- The file was changed after a time, and up to another one. -/
  | changed (since upTo : Option Int)
  /-- Prints the path and an ending. -/
  | print (goal : Goal) (ending : Char)
  /-- Prints what a format tells. -/
  | format (goal : Goal) (pieces : List Piece)
  /-- Prints a row of a long listing. -/
  | row (goal : Goal)
  /-- Removes the file. -/
  | delete
  /-- The walk does not enter the directory. -/
  | prune
  /-- The walk ends. -/
  | quit
  /-- Calls a program, perhaps in the directory of the file, perhaps only if
  somebody agrees. -/
  | call (words : List Octets) (inPlace asks : Bool)
  /-- Calls a program at the end, with the paths of all files. -/
  | gather (words : List Octets) (inPlace : Bool)
  /-- The answer is no. -/
  | negation (q : Query)
  /-- Both answers are yes. -/
  | both (p q : Query)
  /-- One of the answers is yes. -/
  | either (p q : Query)
  /-- The second answer, after the first question. -/
  | after (p q : Query)

namespace Query

/-- The questions that stand in a query, in order. -/
def parts : Query → List Query
  | negation q => parts q
  | both p q | either p q | after p q => parts p ++ parts q
  | q => [q]

/-- Asking prints or does something, so the path is not printed besides. -/
def isAction : Query → Bool
  | print .. | format .. | row _ | delete | call .. | gather .. => true
  | _ => false

/-- Removes files. -/
def isDelete : Query → Bool
  | delete => true
  | _ => false

/-- Keeps the walk from entering directories. -/
def isPrune : Query → Bool
  | prune => true
  | _ => false

/-- The file to which something is printed. -/
def goal? : Query → Option Octets
  | print goal _ | format goal _ | row goal => goal
  | _ => none

/-- The program that is called at the end. -/
def gathered? : Query → Option (List Octets × Bool)
  | gather words inPlace => some (words, inPlace)
  | _ => none

end Query

/-! ## Questions -/

/-- How files are walked. -/
structure Scope where
  /-- The least depth of files that are asked about. -/
  least : Nat
  /-- The greatest depth. -/
  greatest : Option Nat
  /-- Directories come after what is in them. -/
  deepFirst : Bool
  /-- All links are followed. -/
  follows : Bool
  /-- How expressions are spelled. -/
  rules : Regex.Rules
  /-- The time from which days are counted back. -/
  dayStart : Int
  /-- What is doubtful. -/
  warnings : List String

/-- A query is read as long as nothing is wrong. -/
abbrev Reading := EStateM String Scope

/-- A word of the expression. -/
inductive Token where
  /-- A question or an action. -/
  | query (q : Query)
  /-- A sign between questions or before one. -/
  | sign (name : Octets)

/-- A number with a sign in front that says how it is compared, and what
follows it. -/
def bounded? (o : Octets) : Option (Bound × Nat × Octets) :=
  let (bound, rest) : Bound × Octets := match o with
    | '+' :: rest => (.above, rest)
    | '-' :: rest => (.below, rest)
    | rest => (.exact, rest)
  (Octets.nat? (rest.takeWhile Char.isDigit)).map fun n => (bound, n, rest.dropWhile Char.isDigit)

/-- The unit of a size by its letter. -/
def sizeUnit? (letter : Char) : Option Nat :=
  match letter with
  | 'b' => some 512
  | 'c' => some 1
  | 'w' => some 2
  | 'k' => some 1024
  | 'M' => some (1024 * 1024)
  | 'G' => some (1024 * 1024 * 1024)
  | _ => none

/-- The question about the size that a text describes. -/
def sizeQuery (a : Octets) : Except String Query :=
  match a.getLast? with
  | none => .error "invalid null argument to -size"
  | some last =>
    let (unit, body) : Option Nat × Octets := if last.isDigit then (some 512, a) else (sizeUnit? last, a.dropLast)
    match unit, bounded? body with
    | none, _ => .error ("invalid -size type \x60" ++ Octets.text [last] ++ "'")
    | some unit, some (bound, n, []) => .ok (.size bound n unit)
    | some _, _ => .error ("Invalid argument \x60" ++ Octets.text a ++ "' to -size")

/-- The letters of kinds that a list names. -/
def kindLetters (name : String) : Octets → Octets → Except String Octets
  | [], found => .ok found.reverse
  | c :: s, found =>
    if c = 'D' then .error ("-" ++ name ++ " D is not supported because Solaris doors are not supported on the platform "
      ++ "find was compiled on.")
    else if !"bcdpfls".toList.contains c then .error ("Unknown argument to -" ++ name ++ ": " ++ Octets.text [c])
    else if found.contains c then
      .error ("Duplicate file type '" ++ Octets.text [c] ++ "' in the argument list to -" ++ name ++ ".")
    else
      match s with
      | [] => .ok (c :: found).reverse
      | [','] => .error ("Last file type in list argument to -" ++ name ++ " is missing, i.e., list is ending on: ','")
      | ',' :: s => kindLetters name s (c :: found)
      | _ => .error ("Must separate multiple arguments to -" ++ name ++ " using: ','")

/-- The question about the age that a text tells in units of so many seconds;
ages in days are counted back from the start of a day. -/
def ageQuery? (start unit : Int) (isDay : Bool) (a : Octets) : Option Query :=
  let (bound, body) : Bound × Octets := match a with
    | '+' :: rest => (.above, rest)
    | '-' :: rest => (.below, rest)
    | rest => (.exact, rest)
  match Real.read? 64 body with
  | some (.finite false x, []) =>
    let time := start - (x.scaled 9 : Nat) * unit
    let second : Int := 1000000000
    some (match bound with
      | .above => .changed none (some (time - 1))
      | .below => .changed (some (if isDay then time + (unit - 1) * second else time)) none
      | .exact => .changed (some time) (some (time + unit * second)))
  | _ => none

/-- The ways to spell expressions by their names. -/
def spellings : List (String × Regex.Rules) :=
  let basic : Regex.Rules := { Regex.Rules.posixBasic with repeatsOnce := false, emptyRanges := true }
  let extended : Regex.Rules := { Regex.Rules.posixExtended with idle := .skipped, looseIntervals := true, emptyRanges := true }
  let default : Regex.Rules := { basic with suffixes := true }
  [("findutils-default", default), ("ed", basic), ("emacs", default), ("gnu-awk", extended), ("grep", basic),
   ("posix-awk", extended), ("awk", extended), ("posix-basic", basic), ("posix-egrep", extended), ("egrep", extended),
   ("posix-extended", extended), ("posix-minimal-basic", { basic with extras := false }), ("sed", basic)]

/-- The owners that a system knows. -/
def owners : List String :=
  ["root", "daemon", "bin", "sys", "sync", "games", "man", "lp", "mail", "news", "uucp", "proxy", "www-data", "backup", "list",
   "irc", "nobody"]

/-- The groups that a system knows. -/
def groups : List String :=
  ["root", "daemon", "bin", "sys", "adm", "tty", "disk", "lp", "mail", "news", "uucp", "man", "proxy", "kmem", "dialout", "fax",
   "voice", "cdrom", "floppy", "tape", "sudo", "audio", "dip", "www-data", "backup", "operator", "list", "irc", "src", "shadow",
   "utmp", "video", "sasl", "plugdev", "staff", "games", "users", "nogroup"]

/-- The words of a program that is called, whether they end with a plus, and
what follows. -/
def calledWords : List Octets → Octets → Except String (Option (List Octets × Bool × List Octets))
  | [], _ => .ok none
  | [';'] :: rest, _ => .ok (some ([], false, rest))
  | w :: rest, former =>
    let mark : Octets := ['\x7b', '\x7d']
    if w = ['+'] && former = mark then .ok (some ([], true, rest))
    else (calledWords rest w).map fun found => found.map fun (ws, plus, rest) => (w :: ws, plus, rest)

/-- The path has a mark for files in it. -/
def hasMark : Octets → Bool
  | '\x7b' :: '\x7d' :: _ => true
  | _ :: s => hasMark s
  | [] => false

/-- The question that calls a program. -/
def callQuery (name : String) (args : List Octets) : Except String (Query × List Octets) :=
  let inPlace := name = "execdir" || name = "okdir"
  let missing := "missing argument to \x60-" ++ name ++ "'"
  let mark : Octets := ['\x7b', '\x7d']
  match calledWords args [] with
  | .error problem => .error problem
  | .ok none =>
    let marked := args.filter hasMark
    match args.findIdx? (· = ['+']), marked.getLast? with
    | some n, some w =>
      if (args[n - 1]?).any hasMark && 0 < n then
        .error ("In ‘-" ++ name ++ " ... \x7b\x7d +’ the ‘\x7b\x7d’ must appear by itself, but you specified "
          ++ curly w)
      else .error missing
    | _, _ => .error missing
  | .ok (some ([], _, _)) => .error ("invalid argument \x60;' to \x60-" ++ name ++ "'")
  | .ok (some (words, true, rest)) =>
    if 1 < (words.filter hasMark).length then
      .error ("Only one instance of \x7b\x7d is supported with -" ++ name ++ " ... +")
    else .ok (.gather (words.filter (· ≠ mark)) inPlace, rest)
  | .ok (some (words, false, rest)) => .ok (.call words inPlace (name = "ok" || name = "okdir"), rest)

/-- The change times between which a file has to lie for a question such as
`newermt`. -/
def newerQuery (s : State) (name : String) (a : Octets) : Except String Query :=
  let ofFile : Except String Query := match s.lookup (State.path a) with
    | .ok node => .ok (.changed (some node.modified) none)
    | .error fault => .error (curly a ++ ": " ++ faultText fault)
  match name.toList.drop 5 with
  | [x, y] =>
    if !"aBcm".toList.contains x || !"aBcmt".toList.contains y then .error ("invalid predicate \x60-" ++ name ++ "'")
    else if y ≠ 't' then ofFile
    else
      match Moment.read? (Moment.ofNanoseconds s.now) a with
      | some t => .ok (.changed (some t.toNanoseconds) none)
      | none => .error ("I cannot figure out how to interpret " ++ curly a ++ " as a date or time")
  | _ => ofFile

/-- Reads one question, after its name without the dash. -/
def Query.readOne (s : State) (name : String) (args : List Octets) : Reading (Query × List Octets) := do
  let done (q : Query) : Reading (Query × List Octets) := pure (q, args)
  let argument : Reading (Octets × List Octets) := match args with
    | a :: rest => pure (a, rest)
    | [] => throw ("missing argument to \x60-" ++ name ++ "'")
  let taking (make : Octets → Except String Query) : Reading (Query × List Octets) := do
    let (a, rest) ← argument
    match make a with
    | .ok q => return (q, rest)
    | .error problem => throw problem
  let changing (change : Scope → Scope) : Reading (Query × List Octets) := do
    modify change
    done (.always true)
  let withDepth (change : Nat → Scope → Scope) : Reading (Query × List Octets) := do
    let (a, rest) ← argument
    match Octets.nat? a with
    | some n =>
      modify (change n)
      return (.always true, rest)
    | none => throw ("Expected a positive decimal integer argument to -" ++ name ++ ", but got " ++ curly a)
  let invalid (a : Octets) : String := "invalid argument \x60" ++ Octets.text a ++ "' to \x60-" ++ name ++ "'"
  let counting (make : Bound → Nat → Query) : Reading (Query × List Octets) :=
    match args with
    | [] => throw (invalid ('-' :: name.toList))
    | a :: rest =>
      match bounded? a with
      | some (bound, n, []) => pure (make bound n, rest)
      | _ => throw (invalid a)
  let aged (start : Int) (unit : Int) (isDay : Bool) : Reading (Query × List Octets) :=
    taking fun a => (ageQuery? start unit isDay a).elim (.error (invalid a)) .ok
  let printing (goal : Goal) (a : Octets) (rest : List Octets) : Reading (Query × List Octets) := do
    match Piece.read (a.length + 1) a with
    | .ok (pieces, warnings) =>
      modify fun scope => { scope with warnings := scope.warnings ++ warnings }
      return (.format goal pieces, rest)
    | .error (warnings, problem) =>
      modify fun scope => { scope with warnings := scope.warnings ++ warnings }
      throw problem
  match name with
  | "true" | "mount" | "xdev" | "noleaf" | "warn" | "nowarn" | "ignore_readdir_race" | "noignore_readdir_race" =>
    done (.always true)
  | "false" | "nouser" | "nogroup" => done (.always false)
  | "follow" => changing fun scope => { scope with follows := true }
  | "name" | "iname" => taking fun a => .ok (.nameLike (name = "iname") a)
  | "path" | "wholename" => taking fun a => .ok (.pathLike false a)
  | "ipath" | "iwholename" => taking fun a => .ok (.pathLike true a)
  | "lname" | "ilname" => taking fun a => .ok (.goalLike (name = "ilname") a)
  | "regextype" => do
    let (a, rest) ← argument
    match spellings.find? fun e => e.1.toList = a with
    | some (_, rules) =>
      modify fun scope => { scope with rules }
      return (.always true, rest)
    | none =>
      let names := String.intercalate ", " (spellings.map fun e => "‘" ++ e.1 ++ "’")
      throw ("Unknown regular expression type " ++ curly a ++ "; valid types are " ++ names ++ ".")
  | "regex" | "iregex" => do
    let rules := (← get).rules
    taking fun a =>
      match Regex.read rules a with
      | .ok r => .ok (.regex (name = "iregex") r)
      | .error flaw => .error ("failed to compile regular expression '" ++ Octets.text a ++ "': " ++ flaw.message)
  | "type" | "xtype" => taking fun a =>
    if a.isEmpty then .error ("Arguments to -" ++ name ++ " should contain at least one letter")
    else (kindLetters name a []).map fun letters => .kind (name = "xtype") letters
  | "empty" => done .isVoid
  | "size" => taking sizeQuery
  | "links" => counting .links
  | "inum" => counting .number
  | "uid" | "gid" => counting fun bound n => .always (bound.admits n 0)
  | "used" => taking fun a =>
    if (bounded? a).isSome then .ok (.always false) else .error ("Invalid argument " ++ Octets.text a ++ " to -used")
  | "mtime" | "atime" | "ctime" => do aged (← get).dayStart 86400 true
  | "mmin" | "amin" | "cmin" => aged s.now 60 false
  | "newer" | "anewer" | "cnewer" => taking (newerQuery s "newer")
  | "samefile" => do
    let through := (← get).follows
    taking fun a =>
      match s.disk.findEntry through s.cwd (State.path a) with
      | .ok ⟨place, some _, _⟩ => .ok (.same place)
      | .ok _ => .error (curly a ++ ": " ++ faultText .notFound)
      | .error fault => .error (curly a ++ ": " ++ faultText fault)
  | "perm" => taking fun a =>
    let (sign, body) : Option Char × Octets := match a with
      | '-' :: rest => (some '-', rest)
      | '/' :: rest => (some '/', rest)
      | rest => (none, rest)
    match (Octets.inBase? 8 body).or (Permission.change? body 0) with
    | some mode => if mode ≤ 0o7777 then .ok (.rights sign mode) else .error ("invalid mode " ++ curly a)
    | none => .error ("invalid mode " ++ curly a)
  | "user" => taking fun a =>
    if a = "root".toList || a = ['0'] then .ok (.always true)
    else if owners.contains (Octets.text a) || (!a.isEmpty && a.all Char.isDigit) then .ok (.always false)
    else .error (curly a ++ " is not the name of a known user")
  | "group" => taking fun a =>
    if a = "root".toList || a = ['0'] then .ok (.always true)
    else if groups.contains (Octets.text a) || (!a.isEmpty && a.all Char.isDigit) then .ok (.always false)
    else .error (curly a ++ " is not the name of an existing group")
  | "fstype" => taking fun a => .ok (.always (a = "overlay".toList))
  | "context" => throw "invalid predicate -context: SELinux is not enabled."
  | "readable" => done (.access 'r')
  | "writable" => done (.access 'w')
  | "executable" => done (.access 'x')
  | "print" => done (.print none '\n')
  | "print0" => done (.print none '\x00')
  | "ls" => done (.row none)
  | "fprint" => taking fun a => .ok (.print (some a) '\n')
  | "fprint0" => taking fun a => .ok (.print (some a) '\x00')
  | "fls" => taking fun a => .ok (.row (some a))
  | "printf" => do
    let (a, rest) ← argument
    printing none a rest
  | "fprintf" => do
    let (file, rest) ← argument
    match rest with
    | a :: rest => printing (some file) a rest
    | [] => throw ("missing argument to \x60-" ++ name ++ "'")
  | "delete" => done .delete
  | "prune" => done .prune
  | "quit" => done .quit
  | "maxdepth" => withDepth fun n scope => { scope with greatest := some n }
  | "mindepth" => withDepth fun n scope => { scope with least := n }
  | "depth" | "d" => changing fun scope => { scope with deepFirst := true }
  | "exec" | "execdir" | "ok" | "okdir" =>
    match callQuery name args with
    | .ok found => return found
    | .error problem => throw problem
  | name =>
    if name.startsWith "newer" && name.length = 7 then taking (newerQuery s name)
    else throw ("unknown predicate \x60-" ++ name ++ "'")

/-! ## Expressions -/

/-- The names of signs between questions. -/
def signs : List String := ["(", ")", "!", ",", "-a", "-and", "-o", "-or", "-not"]

/-- Reads the words of an expression; `previous` is the one before. The word
that moves the start of days is no question. -/
def Query.tokens (s : State) : Nat → Octets → List Octets → Reading (List Token)
  | 0, _, _ => return []
  | _ + 1, _, [] => return []
  | fuel + 1, previous, a :: rest => do
    if signs.contains (String.ofList a) then return .sign a :: (← tokens s fuel a rest)
    if a = "-daystart".toList then
      modify fun scope => { scope with dayStart := s.now / 86400000000000 * 86400000000000 }
      return ← tokens s fuel a rest
    match a with
    | '-' :: c :: name =>
      let (q, rest) ← Query.readOne s (Octets.text (c :: name)) rest
      return .query q :: (← tokens s fuel a rest)
    | _ =>
      let hint := if (s.lookup (State.path a)).toOption.isSome && !previous.isEmpty then
          "\nfind: possible unquoted pattern after predicate \x60" ++ Octets.text previous ++ "'?" else ""
      throw ("paths must precede expression: \x60" ++ Octets.text a ++ "'" ++ hint)

/-- How the complaint starts about an expression that is not finished. -/
def unfinished : String := "expected an expression after '"

mutual

/-- Reads questions that signs of a level or tighter ones join: `,` is level
zero, `-o` one, `-a` two. -/
def Query.readLevel : Nat → Nat → Octets → List Token → Except String (Query × List Token)
  | 0, _, _, _ => .error "expression too long"
  | fuel + 1, level, before, ts => do
    let (q, rest) ← if level = 3 then Query.readPrimary fuel before ts else Query.readLevel fuel (level + 1) before ts
    Query.readChain fuel level q rest

/-- Reads what signs of one level add to a question. -/
def Query.readChain : Nat → Nat → Query → List Token → Except String (Query × List Token)
  | 0, _, _, _ => .error "expression too long"
  | fuel + 1, level, q, ts =>
    let goOn (sign : Octets) (make : Query → Query → Query) (rest : List Token) : Except String (Query × List Token) :=
      match Query.readLevel fuel (level + 1) sign rest with
      | .error problem => .error problem
      | .ok (p, rest) => Query.readChain fuel level (make q p) rest
    match ts with
    | [] => .ok (q, [])
    | .query p :: rest => if level = 2 then goOn [] .both (.query p :: rest) else .ok (q, ts)
    | .sign name :: rest =>
      match level, String.ofList name with
      | 0, "," => goOn name .after rest
      | 1, "-o" | 1, "-or" => goOn name .either rest
      | 2, "-a" | 2, "-and" => goOn name .both rest
      | 2, "!" | 2, "-not" | 2, "(" => goOn [] .both ts
      | _, _ => .ok (q, ts)

/-- Reads one question. -/
def Query.readPrimary : Nat → Octets → List Token → Except String (Query × List Token)
  | 0, _, _ => .error "expression too long"
  | fuel + 1, before, ts =>
    match ts with
    | [] => .error (unfinished ++ Octets.text before ++ "'")
    | .query q :: rest => .ok (q, rest)
    | .sign name :: rest =>
      match String.ofList name with
      | "!" | "-not" =>
        match Query.readPrimary fuel name rest with
        | .ok (q, rest) => .ok (.negation q, rest)
        | .error problem => .error problem
      | "(" =>
        match rest with
        | [] => .error ("invalid expression; expected to find a ')' but didn't see one. "
            ++ "Perhaps you need an extra predicate after '('")
        | .sign [')'] :: _ => .error "invalid expression; empty parentheses are not allowed."
        | _ =>
          match Query.readLevel fuel 0 name rest with
          | .error problem => .error problem
          | .ok (q, .sign [')'] :: rest) => .ok (q, rest)
          | .ok _ => .error "invalid expression; I was expecting to find a ')' somewhere but did not see one."
      | ")" =>
        if before.isEmpty || before = ['('] then .error "invalid expression; you have too many ')'"
        else .error ("expected an expression between '" ++ Octets.text before ++ "' and ')'")
      | _ => .error ("invalid expression; you have used a binary operator '" ++ Octets.text name
          ++ "' with nothing before it.")

end

/-- The token is an action. -/
def Token.isAction : Token → Bool
  | query q => q.isAction
  | sign _ => false

/-- The query that tokens write; nothing at all asks nothing. Paths are printed
if there are no actions. -/
def Query.ofTokens (ts : List Token) : Except String Query :=
  let acts := ts.any Token.isAction
  let read : Except String (Query × List Token) :=
    if ts.isEmpty then .ok (.always true, []) else Query.readLevel (8 * (ts.length + 2)) 0 [] ts
  match read with
  | .ok (q, []) => .ok (if acts then q else .both q (.print none '\n'))
  | .ok (_, .sign [')'] :: _) => .error "you have too many ')'"
  | .ok _ => .error "invalid expression"
  | .error problem => .error (if acts && problem.startsWith unfinished then "invalid expression" else problem)

/-- The query that arguments write. Directories come after what is in them
where files are removed. -/
def Query.read (s : State) (args : List Octets) : Reading Query := do
  let ts ← Query.tokens s (args.length + 1) [] args
  match Query.ofTokens ts with
  | .error problem => throw problem
  | .ok q =>
    let deletes := q.parts.any Query.isDelete
    if deletes && q.parts.any Query.isPrune && !(← get).deepFirst then
      throw ("The -delete action automatically turns on -depth, but -prune does nothing when -depth is in effect.  If you "
        ++ "want to carry on anyway, just explicitly use the -depth option.")
    if deletes then modify fun scope => { scope with deepFirst := true }
    return q

end Finding

end Utility

end Shell

end Tangle
