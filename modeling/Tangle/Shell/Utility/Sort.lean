import Tangle.Shell.Utility.Amount
import Tangle.Shell.Utility.Collation
import Tangle.Shell.Utility.Paths
/-!
# Sorting lines

Lines are compared by keys, each a part of the line with a way to compare
it (`Key`); lines whose keys are all equal are compared as a whole. The
order of lines that are still equal is kept.
-/

namespace Tangle

namespace Shell

namespace Utility

/-- Part of a line by its fields and the octets in them, counted from zero.
-/
structure Key where
  /-- The field where it starts. -/
  field : Nat
  /-- The octet of the field where it starts. -/
  offset : Nat
  /-- The field where it ends, and the number of octets of that which belong
  to it; zero stands for all of them. -/
  stop : Option (Nat × Nat)
  /-- Blanks in front of the start do not count. -/
  startBlanks : Bool
  /-- Blanks in front of the end do not count. -/
  stopBlanks : Bool
  /-- How it is compared. -/
  order : Collation

namespace Key

/-- The whole line. -/
def whole : Key := ⟨0, 0, none, false, false, .bytes⟩

/-- The key has no way of its own to compare it. -/
def isPlain (k : Key) : Bool := k.order = .bytes && !k.startBlanks && !k.stopBlanks

/-- The line after so many fields. Without a separator a field starts with
the blanks in front of it. -/
def dropFields (separator : Option Char) : Nat → Octets → Octets
  | 0, l => l
  | _ + 1, [] => []
  | n + 1, l =>
    match separator with
    | some c => dropFields separator n ((l.dropWhile (· ≠ c)).drop 1)
    | none => dropFields separator n ((l.dropWhile Collation.isBlank).dropWhile fun c => !Collation.isBlank c)

/-- What of a line follows the start of the key. -/
def afterStart (k : Key) (separator : Option Char) (l : Octets) : Octets :=
  let rest := dropFields separator k.field l
  (if k.startBlanks then rest.dropWhile Collation.isBlank else rest).drop k.offset

/-- What of a line follows the end of the key. -/
def afterStop (k : Key) (separator : Option Char) (l : Octets) : Octets :=
  match k.stop with
  | none => []
  | some (field, 0) =>
    match separator with
    | some c => (dropFields separator field l).dropWhile (· ≠ c)
    | none => dropFields separator (field + 1) l
  | some (field, count) =>
    let rest := dropFields separator field l
    (if k.stopBlanks then rest.dropWhile Collation.isBlank else rest).drop count

/-- The part of a line that a key is about. -/
def part (k : Key) (separator : Option Char) (l : Octets) : Octets :=
  let rest := k.afterStart separator l
  rest.take (rest.length - (k.afterStop separator l).length)

/-- The key with the meaning of the letters in front added, and what follows
them. The letter for blanks is about the start, the end, or both. -/
def letters (start stop : Bool) : Key → Octets → Key × Octets
  | k, [] => (k, [])
  | k, c :: s =>
    if c = 'b' then letters start stop { k with startBlanks := k.startBlanks || start, stopBlanks := k.stopBlanks || stop } s
    else
      match k.order.add? c with
      | some order => letters start stop { k with order } s
      | none => (k, c :: s)

/-- The number in front, and what follows. -/
def count? (s : Octets) : Option (Nat × Octets) :=
  match s.dropWhile Numeral.isBlank with
  | '-' :: _ => none
  | _ => (Numeral.read? (some 10) s).map fun p => (p.value.toNat, p.rest)

/-- The number in front; it has to be there. -/
def count (place : String) (s : Octets) : Except String (Nat × Octets) :=
  match count? s with
  | some found => .ok found
  | none => .error ("invalid number " ++ place ++ ": invalid count at start of " ++ curly s)

/-- The number behind a point, if there is one. -/
def offset? (s : Octets) : Except String (Option Nat × Octets) :=
  match s with
  | '.' :: s => (count "after '.'" s).map fun (n, s) => (some n, s)
  | s => .ok (none, s)

/-- The key that a text such as `2,3n` describes, or the complaint about
it. -/
def read (s : Octets) : Except String Key := do
  let wrong (reason : String) : Except String Key := .error (reason ++ ": invalid field specification " ++ curly s)
  let (field, rest) ← count "at field start" s
  if field = 0 then wrong "field number is zero"
  else
    let (offset, rest) ← offset? rest
    if offset = some 0 then wrong "character offset is zero"
    else
      let (k, rest) := letters true false { whole with field := field - 1, offset := offset.getD 1 - 1 } rest
      match rest with
      | [] => return k
      | ',' :: rest =>
        let (stop, rest) ← count "after ','" rest
        if stop = 0 then wrong "field number is zero"
        else
          let (stopOffset, rest) ← offset? rest
          let (k, rest) := letters false true { k with stop := some (stop - 1, stopOffset.getD 0) } rest
          if rest.isEmpty then return k else wrong "stray character in field spec"
      | _ => wrong "stray character in field spec"

/-- The key that `+2.1n` describes, whose fields are counted from zero, and
which ends where the text behind says, such as `-3`. -/
def readAncient? (start : Octets) (stop : Option Octets) : Option (Except String Key) := do
  let (field, rest) ← count? start
  let (offset, rest) ← match rest with
    | '.' :: r => count? r
    | r => some (0, r)
  match letters true false { whole with field, offset } rest, stop with
  | (k, []), none => return .ok k
  | (k, []), some stop => return do
    let (field, rest) ← count "after '-'" stop
    let (offset, rest) ← offset? rest
    let stop' := if offset.getD 0 = 0 then (field - 1, 0) else (field, offset.getD 0)
    let (k, rest) := letters false true { k with stop := some stop' } rest
    if rest.isEmpty then return k
    else throw ("stray character in field spec: invalid field specification " ++ curly ('-' :: stop))
  | _, _ => none

end Key

namespace Sorting

/-- What is done with lines. -/
inductive Task where
  /-- They are sorted. -/
  | sort
  /-- Each input is sorted already. -/
  | merge
  /-- They are checked; the complaint can be left out. -/
  | check (silent : Bool)
deriving Repr, DecidableEq

/-- How lines are sorted. -/
structure Setting where
  /-- The keys. -/
  keys : List Key
  /-- How keys are compared that do not say so themselves. -/
  standard : Key
  /-- What separates fields; otherwise blanks do. -/
  separator : Option Char
  /-- Where the lines go. -/
  output : Option Octets
  /-- Lines with equal keys keep their order. -/
  stable : Bool
  /-- One of several lines with equal keys is kept. -/
  unique : Bool
  /-- What is done. -/
  task : Task
  /-- What ends lines. -/
  lineEnd : Char

/-- The standard. -/
def Setting.standardOne : Setting := ⟨[], .whole, none, none, false, false, .sort, '\n'⟩

/-- The octet that separates fields. -/
def readSeparator (v : Octets) : Except String Char :=
  match v with
  | [] => .error "empty tab"
  | [c] => .ok c
  | ['\\', '0'] => .ok '\x00'
  | v => .error ("multi-character tab " ++ curly v)

/-- The room to work in; it has no effect. -/
def checkRoom (v : Octets) : Except String Unit :=
  let said := "-S argument '" ++ Octets.text v ++ "'"
  match Amount.read? "bEgGkKmMPtTYZ" (v.filter (· ≠ '%')) with
  | .ok _ => .ok ()
  | .error .beyond => .error (said ++ " too large")
  | .error .malformed => .error ("invalid " ++ (if v.head?.any Char.isDigit then "suffix in " else "") ++ said)

/-- The other name of a check. -/
def Task.ofCheck (silent : Bool) (t : Task) : Except String Task :=
  match t with
  | .check other => if other = silent then .ok t else .error "options '-cC' are incompatible"
  | _ => .ok (.check silent)

/-- The setting with an option added. -/
def Setting.add (v : Setting) (o : Char × Octets) : Except Problem Setting :=
  let said {α : Type} (x : Except String α) : Except Problem α := x.mapError .value
  match o.1 with
  | 'c' => said ((v.task.ofCheck false).map fun task => { v with task })
  | 'C' => said ((v.task.ofCheck true).map fun task => { v with task })
  | 'κ' => do
    let silent ← (if o.2.isEmpty then return false
      else return (← chooseWord "--check" [["quiet", "silent"], ["diagnose-first"]] o.2) = "quiet")
    said ((v.task.ofCheck silent).map fun task => { v with task })
  | 'k' => said ((Key.read o.2).map fun k => { v with keys := v.keys ++ [k] })
  | '+' =>
    let (start, stop) : Octets × Option Octets := (o.2.takeWhile (· ≠ '\x00'), ((o.2.dropWhile (· ≠ '\x00')).tail?))
    match Key.readAncient? start stop with
    | some k => said (k.map fun k => { v with keys := v.keys ++ [k] })
    | none => .ok v
  | 'm' => .ok { v with task := match v.task with
    | .sort => .merge
    | t => t }
  | 'o' =>
    if v.output.any (· ≠ o.2) then .error (.value "multiple output files specified") else .ok { v with output := some o.2 }
  | 's' => .ok { v with stable := true }
  | 'S' => said ((checkRoom o.2).map fun () => v)
  | 't' => said do
    let c ← readSeparator o.2
    if v.separator.any (· ≠ c) then throw "incompatible tabs"
    return { v with separator := some c }
  | 'u' => .ok { v with unique := true }
  | 'z' => .ok { v with lineEnd := '\x00' }
  | 'ω' => do
    let word ← chooseWord "--sort" [["general-numeric"], ["human-numeric"], ["month"], ["numeric"], ["random"], ["version"]] o.2
    let letter : Octets := match word with
      | "general-numeric" => ['g']
      | "human-numeric" => ['h']
      | "month" => ['M']
      | "numeric" => ['n']
      | "random" => ['R']
      | _ => ['V']
    return { v with standard := (Key.letters true true v.standard letter).1 }
  | c => .ok { v with standard := (Key.letters true true v.standard [c]).1 }

/-- The keys in use: those that do not say how they are compared are
compared like the whole line. -/
def Setting.keysInUse (v : Setting) : List Key :=
  if v.keys.isEmpty then
    (if ({ v.standard with order := { v.standard.order with reverse := false } } : Key).isPlain then [] else [v.standard])
  else
    v.keys.map fun k =>
      if k.isPlain then
        { k with order := v.standard.order, startBlanks := v.standard.startBlanks, stopBlanks := v.standard.stopBlanks }
      else k

/-- The setting that options describe. -/
def Setting.of (options : List (Char × Octets)) : Except Problem Setting := options.foldlM Setting.add standardOne

/-- A line with the parts of it that count. -/
structure Item where
  /-- The line. -/
  line : Octets
  /-- What counts of the parts that the keys are about. -/
  parts : List Octets

/-- A line with its parts. -/
def Setting.item (v : Setting) (line : Octets) : Item :=
  ⟨line, v.keysInUse.map fun k => k.order.counted (k.part v.separator line)⟩

/-- Compares lines by the keys. -/
def compareParts : List Key → List Octets → List Octets → Ordering
  | k :: ks, a :: as, b :: bs => (k.order.compareCounted a b).then (compareParts ks as bs)
  | _, _, _ => .eq

/-- Compares lines. -/
def Setting.compare (v : Setting) (a b : Item) : Ordering :=
  let byKeys := compareParts v.keysInUse a.parts b.parts
  let whole := Collation.compareOctets a.line b.line
  let whole := if v.standard.order.reverse then whole.swap else whole
  if v.keysInUse.isEmpty then whole
  else if v.stable || v.unique then byKeys
  else byKeys.then whole

/-- Merges lists: the least of their first lines is taken each time, and of
equal ones that of the first list. -/
def merge (isBefore : Item → Item → Bool) : Nat → List (List Item) → List Item
  | 0, _ => []
  | fuel + 1, lists =>
    let lists := lists.filter fun l => !l.isEmpty
    let least := lists.foldl (fun (best : Option Item) l =>
      match best, l with
      | some b, x :: _ => if isBefore x b then some x else some b
      | none, x :: _ => some x
      | b, [] => b) none
    match least with
    | none => []
    | some x =>
      -- The first list whose first line is the least one loses it.
      let index := (lists.findIdx? fun l => l.head?.any fun y => !isBefore x y && !isBefore y x).getD 0
      x :: merge isBefore fuel (lists.modify index fun l => l.drop 1)

/-- The first line of each run of equal ones. -/
def firstOfEach (same : Item → Item → Bool) : List Item → List Item
  | [] => []
  | [x] => [x]
  | x :: y :: rest =>
    if same x y then firstOfEach same (x :: rest) else x :: firstOfEach same (y :: rest)
termination_by l => l.length

/-- The lines of texts in order. -/
def Setting.ordered (v : Setting) (texts : List Octets) : List Octets :=
  let inputs := texts.map fun t => ((linesWithEnds v.lineEnd t).map fun l => v.item l.1)
  let ordered := match v.task with
    | .merge => merge (fun a b => v.compare a b = .lt) (inputs.flatten.length + 1) inputs
    | _ => inputs.flatten.mergeSort fun a b => v.compare a b ≠ .gt
  let kept := if v.unique then firstOfEach (fun a b => v.compare a b = .eq) ordered else ordered
  kept.map Item.line

/-- The number of the first line that is not in order, and the line. -/
def Setting.disorder? (v : Setting) (text : Octets) : Option (Nat × Octets) :=
  let items := (linesWithEnds v.lineEnd text).map fun l => v.item l.1
  let wrong (a b : Item) : Bool := match v.compare a b with
    | .gt => true
    | .eq => v.unique
    | .lt => false
  ((items.zip (items.drop 1)).findIdx? fun (a, b) => wrong a b).bind fun n =>
    (items[n + 1]?).map fun x => (n + 2, x.line)

/-- The arguments with old keys such as `+1 -2` in the form of an option. -/
def withAncientKeys : List Octets → List Octets
  | ['-', '-'] :: rest => ['-', '-'] :: rest
  | a :: rest =>
    match a with
    | '+' :: start =>
      match rest with
      | ('-' :: c :: stop) :: rest' =>
        if c.isDigit && (Key.readAncient? start none).isSome then
          (['-', '+'] ++ start ++ '\x00' :: c :: stop) :: withAncientKeys rest'
        else if (Key.readAncient? start none).isSome then (['-', '+'] ++ start) :: withAncientKeys (('-' :: c :: stop) :: rest')
        else a :: withAncientKeys (('-' :: c :: stop) :: rest')
      | rest => (if (Key.readAncient? start none).isSome then ['-', '+'] ++ start else a) :: withAncientKeys rest
    | a => a :: withAncientKeys rest
  | [] => []

/-- The options. -/
def spec : Spec :=
  ⟨"bdfgihMnrRVcCmsuzδ", "koStTyωρπβχφ+", "κ", [("batch-size", 'β'), ("check", 'κ'), ("compress-program", 'χ'), ("debug", 'δ'),
    ("dictionary-order", 'd'), ("field-separator", 't'), ("files0-from", 'φ'), ("general-numeric-sort", 'g'),
    ("human-numeric-sort", 'h'), ("ignore-case", 'f'), ("ignore-leading-blanks", 'b'), ("ignore-nonprinting", 'i'),
    ("key", 'k'), ("merge", 'm'), ("month-sort", 'M'), ("numeric-sort", 'n'), ("output", 'o'), ("parallel", 'π'),
    ("random-sort", 'R'), ("random-source", 'ρ'), ("reverse", 'r'), ("sort", 'ω'), ("stable", 's'), ("buffer-size", 'S'),
    ("temporary-directory", 'T'), ("unique", 'u'), ("version-sort", 'V'), ("zero-terminated", 'z')], false, 2⟩

end Sorting

/-- Sorts lines. -/
def sort : Utility := fun call argv s =>
  withSetting Sorting.spec Sorting.Setting.of (fun i v s =>
    let stop (message : String) (s : State) : State := (i.complain message s).ended 2
    let told (what : String) (o : Octets) (fault : Fault) (s : State) : State :=
      stop (what ++ ": " ++ quoteRare o ++ ": " ++ faultText fault) s
    match v.keysInUse.findSome? fun k => k.order.conflict? with
    | some letters => stop ("options '-" ++ letters ++ "' are incompatible") s
    | none =>
      match v.task with
      | .check silent =>
        let letter := if silent then "C" else "c"
        match i.inputs with
        | _ :: extra :: _ => stop ("extra operand " ++ quote extra ++ " not allowed with -" ++ letter) s
        | inputs =>
          let o := inputs.head?.getD ['-']
          if v.output.isSome then stop ("options '-" ++ letter ++ "o' are incompatible") s
          else
            match content o s with
            | (.error fault, s) => told (if fault = .isADirectory then "read failed" else "open failed") o fault s
            | (.ok text, s) =>
              match v.disorder? text with
              | none => s
              | some (n, line) =>
                if silent then s.ended 1
                else i.complain (Octets.text o ++ ":" ++ toString n ++ ": disorder: " ++ Octets.text line) s
      | _ =>
        let refused := i.inputs.findSome? fun o =>
          match if o = ['-'] then .ok () else (s.lookup (State.path o)).map fun _ => () with
          | .error fault => some (o, fault)
          | .ok () => none
        match refused with
        | some (o, fault) => told "cannot read" o fault s
        | none =>
          let opened : Except Fault State := match v.output with
            | some file => writeFile file [] .append s
            | none => .ok s
          match opened with
          | .error fault => told "open failed" (v.output.getD []) fault s
          | .ok s =>
            let (texts, s) := i.inputs.foldl (fun (acc : Except (Octets × Fault) (List Octets) × State) o =>
              match acc.1 with
              | .error _ => acc
              | .ok ts =>
                match content o acc.2 with
                | (.ok t, s) => (.ok (ts ++ [t]), s)
                | (.error fault, s) => (.error (o, fault), s)) (.ok [], s)
            match texts with
            | .error (o, fault) => told "read failed" o fault s
            | .ok texts =>
              let output := (v.ordered texts).flatMap (· ++ [v.lineEnd])
              match v.output with
              | none => s.print output
              | some file =>
                match writeFile file output .truncate s with
                | .ok s => s
                | .error fault => told "open failed" file fault s)
    call (argv.take 1 ++ Sorting.withAncientKeys (argv.drop 1)) s

end Utility

end Shell

end Tangle
