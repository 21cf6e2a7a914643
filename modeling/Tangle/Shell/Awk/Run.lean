import Tangle.Shell.Awk.Machine
import Tangle.Shell.Utility.Calling
/-!
# Running programs on records

What expressions mean and statements do (`eval`, `exec`), how a program runs
on its input (`Program.run`), and the arguments that `awk` takes. A depth is
counted down where expressions and statements nest.
-/

namespace Tangle

namespace Shell

namespace Awk

/-- How a statement ends. -/
inductive Flow where
  /-- The next one comes. -/
  | done
  /-- The loop ends. -/
  | leaveLoop
  /-- The loop goes on with its next round. -/
  | nextRound
  /-- The function ends. -/
  | giveBack (v : Value)

/-- The rounds that a loop makes at most. -/
def roundLimit : Nat := 1000000

/-! ## Functions of the language -/

/-- The part of a text from a place on that is so many characters long. A
place before the first one counts from there. -/
def partOf (s : Octets) (start : Float) (count : Option Float) : Octets :=
  let first := truncated start
  let rest := s.drop (max first 1 - 1).toNat
  match count with
  | none => rest
  | some x =>
    let n := truncated x
    rest.take (if first < 0 then n - first else n).toNat

/-- The place where a text occurs in another one, counted from one. -/
def placeOf (s t : Octets) : Nat :=
  ((List.range (s.length + 1)).find? fun n => t.isPrefixOf (s.drop n)).map (· + 1) |>.getD 0

/-- The text that replaces a match. -/
def replacement (matched : Octets) : Octets → Octets
  | '\\' :: '&' :: s => '&' :: replacement matched s
  | '\\' :: '\\' :: s => '\\' :: replacement matched s
  | '&' :: s => matched ++ replacement matched s
  | c :: s => c :: replacement matched s
  | [] => []

/-- A text with its matches replaced, or the first one, and their number. -/
def substitute (every : Bool) (r : Regex) (new text : Octets) : Nat → Nat → Bool → Octets × Nat
  | 0, offset, _ => (text.drop offset, 0)
  | fuel + 1, offset, afterMatch =>
    match r.search? .octets text offset with
    | none => (text.drop offset, 0)
    | some m =>
      let between := (text.drop offset).take (m.start - offset)
      if m.stop = m.start then
        -- Nothing is replaced right after a match.
        let counts := !(afterMatch && m.start = offset)
        let shown := if counts then replacement [] new else []
        let step := (text.drop m.stop).take 1
        if !every then (between ++ shown ++ text.drop m.stop, 1)
        else if text.length ≤ m.stop then (between ++ shown, if counts then 1 else 0)
        else
          let (rest, n) := substitute every r new text fuel (m.stop + 1) false
          (between ++ shown ++ step ++ rest, n + if counts then 1 else 0)
      else
        let shown := replacement (m.text text) new
        if !every then (between ++ shown ++ text.drop m.stop, 1)
        else
          let (rest, n) := substitute every r new text fuel m.stop true
          (between ++ shown ++ rest, n + 1)

/-- How the filling of a format ends. -/
inductive Filling where
  /-- At its end. -/
  | complete
  /-- For lack of values. -/
  | tooFew
  /-- At a directive that there is none of, by its number. -/
  | improper (number : Nat)

/-- The letters of the directives. -/
def directiveLetters : Octets := "diouxXeEfFgGcs".toList

/-- The text of a format with values, piece by piece, the last one first;
`count` is the number of directives so far. -/
def formatted (convert : Octets) : Nat → Nat → Octets → List Value → List Octets → Filling × List Octets
  | 0, _, _, _, done => (.complete, done)
  | _ + 1, _, [], _, done => (.complete, done)
  | fuel + 1, count, '%' :: '%' :: s, args, done => formatted convert fuel count s args (['%'] :: done)
  | fuel + 1, count, '%' :: s, args, done =>
    let (d, rest) := Format.directive [] s
    let measure (m : Format.Measure) (args : List Value) : Option Int × List Value := match m with
      | .given n => (n.map fun n => (n : Int), args)
      | .argument => (args.head?.map fun v => truncated v.toNumber, args.drop 1)
    let (width, args) := measure d.width args
    let (precision, args) := measure d.precision args
    let l : Format.Layout := ⟨d.flags.contains '-' || width.any (· < 0), d.flags.contains '0', d.flags.contains '+',
      d.flags.contains ' ', d.flags.contains '#', (width.getD 0).natAbs, (precision.filter (0 ≤ ·)).map Int.toNat⟩
    match args, d.letter with
    | [], _ => (.tooFew, done)
    | _, none => (.improper (count + 1), done)
    | v :: others, some letter =>
      if !directiveLetters.contains letter then (.improper (count + 1), done)
      else
        let x := v.toNumber
        let shown : Octets :=
          if letter = 'd' || letter = 'i' then l.signed (truncated x)
          else if "ouxX".toList.contains letter then l.unsigned letter ((truncated x).emod (Int.pow 2 64)).toNat
          else if "eEfFgG".toList.contains letter then l.real 53 letter (realOf x)
          else if letter = 'c' then
            match v with
            | .number _ => l.pad [Char.ofNat ((truncated x).emod 256).toNat]
            | v =>
              let t := v.toText convert
              l.pad (if t.isEmpty then ['\x00'] else t.take 1)
          else
            let t := v.toText convert
            l.pad (match l.precision with
              | some n => t.take n
              | none => t)
        formatted convert fuel (count + 1) rest others (shown :: done)
  | fuel + 1, count, c :: s, args, done => formatted convert fuel count s args ([c] :: done)

/-- The complaint about a format with too few values. -/
def tooFew (name : String) (format : Octets) : Halt :=
  .fault ("run time error: not enough arguments passed to " ++ name ++ "(\"" ++ Octets.text format ++ "\")")

/-- The complaint about a directive of a format. -/
def improper (number : Nat) (name : String) (format : Octets) : Halt :=
  .fault ("run time error: improper conversion(number " ++ toString number ++ ") in " ++ name ++ "(\""
    ++ Octets.text format ++ "\")")

/-- Fills a format with values. -/
def format (name : String) (values : List Value) : Run Octets := do
  match values with
  | [] => throw (tooFew name [])
  | f :: args =>
    let text ← textOf f
    match formatted (← get).format (text.length + 1) 0 text args [] with
    | (.complete, pieces) => return pieces.reverse.flatten
    | (.tooFew, pieces) =>
      if name = "printf" then emit pieces.reverse.flatten
      throw (tooFew name text)
    | (.improper number, pieces) =>
      if name = "printf" then emit pieces.reverse.flatten
      throw (improper number name text)

/-! ## Commands and files -/

/-- Runs a command by the interpreter of a name, with its output as it is or
taken; the second value is its status. -/
def runCommand (call : Caller) (name : String) (input output : Option Stream) (command : Octets) :
    Run (Octets × Nat) := do
  flush
  let m ← get
  let index := m.state.streams.size
  let s := match output with
    | some st => m.state.attach 1 st
    | none => m.state
  let s := match input with
    | some st => s.attach 0 st
    | none => s
  match Utility.callApart call [name.toList, "-c".toList, command] s with
  | .ok (_, after) =>
    set { m with state := { after with toProcess := m.state.toProcess, status := m.state.status } }
    return (after.textOf index, after.status)
  | .error _ => return ([], 127)

/-- Writes the text for a command, which ends with it. -/
def closePipe (call : Caller) (command : Octets) : Run Unit := do
  match (← get).pipes.lookup command with
  | none => return
  | some pieces =>
    modify fun m => { m with pipes := dropKey command m.pipes }
    let waiting := (← get).printed
    -- What was printed before is still waiting.
    modify fun m => { m with printed := [] }
    let _ ← runCommand call "/bin/sh" (some (Stream.ofText pieces.reverse.flatten)) none command
    modify fun m => { m with printed := waiting }

/-- Closes a file or a command. -/
def close (call : Caller) (name : Octets) : Run Bool := do
  let m ← get
  let known := m.opened.contains name || (m.pipes.lookup name).isSome || (m.readers.lookup name).isSome
  closePipe call name
  modify fun m => { m with opened := m.opened.filter (· ≠ name), readers := dropKey name m.readers }
  return known

/-- The complaint about output that could not be written. -/
def closeFailed (name : Octets) (fault : Fault) : String :=
  "close failed on file " ++ Octets.text name ++ " (" ++ faultText fault ++ ")"

/-- Writes to where output goes. -/
def writeTo (goal : Goal) (name text : Octets) : Run Unit := do
  match goal with
  | .command =>
    modify fun m => { m with pipes := setKey name (text :: (m.pipes.lookup name).getD []) m.pipes }
  | goal =>
    if name = "/dev/stdout".toList || name = ['-'] then emit text
    else if name = "/dev/stderr".toList then modify fun m => { m with state := m.state.write 2 text }
    else
      let m ← get
      let isNew := !m.opened.contains name
      let mode : WriteMode := if isNew && goal = .file then .truncate else .append
      match Utility.writeFile name text mode m.state with
      | .ok state => set { m with state, opened := if isNew then name :: m.opened else m.opened }
      | .error fault =>
        throw (.fault (if fault = .deviceFull then closeFailed name fault
          else "cannot open " ++ Octets.text name ++ " for output (" ++ faultText fault ++ ")"))

/-! ## Expressions and statements -/

mutual

/-- The value of an expression. -/
def eval (call : Caller) : Nat → Expr → Run Value
  | 0, _ => throw (.fault "expression nested too deep")
  | fuel + 1, e => do
    match e with
    | .number x => return .number x
    | .text s => return .text s
    | .regex r =>
      let text ← textOf (← get).record
      return .ofBool (r.search? .octets text 0).isSome
    | .variable name => variable' name
    | .field index =>
      let n := truncated (← eval call fuel index).toNumber
      if n < 0 then throw (.fault ("run time error: negative field index $" ++ toString n))
      fieldAt n.toNat
    | .element array index =>
      let (whole, key) ← indexOf call fuel index
      let t ← tableOf array
      match t.get? key with
      | some v =>
        setTable array (t.set whole key v)
        return v
      | none =>
        setTable array (t.set whole key .nothing)
        return .nothing
    | .member index array =>
      let (_, key) ← indexOf call fuel index
      return .ofBool ((← tableOf array).get? key).isSome
    | .assign target op value =>
      let v ← eval call fuel value
      let v ← match op with
        | none => pure v
        | some op => do
          let former ← eval call fuel target
          pure (Value.number (op.apply former.toNumber v.toNumber))
      assign call fuel target v
      return v
    | .step target op before =>
      let former := (← eval call fuel target).toNumber
      let new := op.apply former 1
      assign call fuel target (.number new)
      return .number (if before then new else former)
    | .conditional test yes no =>
      if (← eval call fuel test).isTrue then eval call fuel yes else eval call fuel no
    | .both a b =>
      if !(← eval call fuel a).isTrue then return .ofBool false
      else return .ofBool (← eval call fuel b).isTrue
    | .either a b =>
      if (← eval call fuel a).isTrue then return .ofBool true
      else return .ofBool (← eval call fuel b).isTrue
    | .negation a => return .ofBool !(← eval call fuel a).isTrue
    | .matching negated a pattern =>
      let text ← textOf (← eval call fuel a)
      let r ← patternOf call fuel pattern
      return .ofBool ((r.search? .octets text 0).isSome != negated)
    | .compare c a b =>
      let x ← eval call fuel a
      let y ← eval call fuel b
      return .ofBool (Value.compare (← get).format c x y)
    | .join a b =>
      let x ← textOf (← eval call fuel a)
      let y ← textOf (← eval call fuel b)
      return .text (x ++ y)
    | .arith op a b =>
      let x ← eval call fuel a
      let y ← eval call fuel b
      return .number (op.apply x.toNumber y.toNumber)
    | .minus a => return .number (0 - (← eval call fuel a).toNumber)
    | .plus a => return .number (← eval call fuel a).toNumber
    | .call name args => callFunction call fuel name args
    | .builtin name args => callBuiltin call fuel name args
    | .readLine origin source target =>
      let found ← match origin, source with
        | .input, _ => nextInput 100000
        | origin, some source => do
          let name ← textOf (← eval call fuel source)
          if ((← get).readers.lookup name).isNone then
            if origin = .command then
              let (text, _) ← runCommand call "/bin/sh" none (some Stream.pipe) name
              modify fun m => { m with readers := setKey name text m.readers }
            else
              let m ← get
              match Utility.content name m.state with
              | (.ok text, state) => set { m with state, readers := setKey name text m.readers }
              | (.error fault, state) =>
                set { m with state }
                if fault = .isADirectory then throw (.fault (cannotRead name fault))
          if ((← get).readers.lookup name).isNone then return .number (-1)
          nextOf name
        | _, none => pure none
      match found with
      | none => return .ofBool false
      | some record =>
        match target with
        | some place => assign call fuel place (.ofInput record)
        | none => setRecord record
        if origin = .command then
          count "NR"
        return .ofBool true

/-- The index of an element: the texts with a separator between them, and
the whole number that it was given as. -/
def indexOf (call : Caller) : Nat → List Expr → Run (Option Int × Octets)
  | 0, _ => return (none, [])
  | fuel + 1, es => do
    match es with
    | [e] =>
      let v ← eval call fuel e
      let whole := match v with
        | .number x => whole? x
        | _ => none
      return (whole, ← textOf v)
    | es =>
      let texts ← es.mapM fun e => do textOf (← eval call fuel e)
      return (none, List.intercalate (← scalarText "SUBSEP") texts)

/-- The regular expression that an expression stands for. -/
def patternOf (call : Caller) : Nat → Expr → Run Regex
  | 0, _ => return .empty
  | fuel + 1, e => do
    match e with
    | .regex r => return r
    | e =>
      let text ← textOf (← eval call fuel e)
      if let some problem := regexFlaw? text then throw (.fault ("run time error: " ++ problem))
      return regexOf text

/-- Gives a place a value. -/
def assign (call : Caller) : Nat → Expr → Value → Run Unit
  | 0, _, _ => return
  | fuel + 1, place, v => do
    match place with
    | .variable name => setVariable name v
    | .field index =>
      let n := truncated (← eval call fuel index).toNumber
      if n < 0 then throw (.fault ("run time error: negative field index $" ++ toString n))
      setField n.toNat v
    | .element array index =>
      let (whole, key) ← indexOf call fuel index
      setTable array ((← tableOf array).set whole key v)
    | _ => return

/-- Calls a function of the program. -/
def callFunction (call : Caller) : Nat → Octets → List Expr → Run Value
  | 0, _, _ => throw (.fault "function calls nested too deep")
  | fuel + 1, name, args => do
    match (← get).functions.find? fun f => f.name = name with
    | none => throw (.fault ("function " ++ Octets.text name ++ " never defined"))
    | some f =>
      let given ← args.mapM fun a => do
        match a with
        | .variable n =>
          let m ← get
          match m.frame.lookup n with
          | some slot => return slot
          | none =>
            if (m.tables.lookup n).isSome then return .table n
            else if (m.scalars.lookup n).isSome || n = "NF".toList then return .value (← variable' n)
            else return .open' n
        | a => return .value (← eval call fuel a)
      let m ← get
      let missing := f.parameters.drop given.length
      let spare := (missing.zip (List.range missing.length)).map fun (p, n) =>
        (p, Slot.open' ('\x00' :: (toString (m.fresh + n)).toList))
      set { m with frame := f.parameters.zip given ++ spare, fresh := m.fresh + missing.length }
      let flow ← exec call fuel f.body
      modify fun after => { after with frame := m.frame }
      match flow with
      | .giveBack v => return v
      | _ => return .nothing

/-- Calls a function of the language. -/
def callBuiltin (call : Caller) : Nat → String → List Expr → Run Value
  | 0, _, _ => throw (.fault "expression nested too deep")
  | fuel + 1, name, args => do
    let text (n : Nat) : Run Octets := do
      match args[n]? with
      | some e => textOf (← eval call fuel e)
      | none => return []
    let number (n : Nat) : Run Float := do
      match args[n]? with
      | some e => return (← eval call fuel e).toNumber
      | none => return 0
    match name, args with
    | "length", [] => return .ofNat (← textOf (← get).record).length
    | "length", [.variable n] =>
      let m ← get
      let isTable := match m.frame.lookup n with
        | some (.table _) => true
        | some (.open' key) => (m.tables.lookup key).isSome
        | some (.value _) => false
        | none => (m.tables.lookup n).isSome
      if isTable then return .ofNat (← tableOf n).size else return .ofNat (← text 0).length
    | "length", _ => return .ofNat (← text 0).length
    | "substr", _ =>
      let s ← text 0
      let start ← number 1
      let size ← if args.length < 3 then pure none else some <$> number 2
      return .text (partOf s start size)
    | "index", _ =>
      let s ← text 0
      return .ofNat (placeOf s (← text 1))
    | "split", s :: .variable array :: rest =>
      let s ← textOf (← eval call fuel s)
      let fields ← match rest with
        | .regex r :: _ => pure (if s.isEmpty then [] else regexFields r s (s.length + 2) 0)
        | e :: _ => do
          let separator ← textOf (← eval call fuel e)
          pure (fieldsBy separator s)
        | [] => do
          let separator ← scalarText "FS"
          pure (fieldsBy separator s)
      let numbered := (fields.zip (List.range fields.length)).map fun (f, n) => ((n + 1 : Int), Value.ofInput f)
      setTable array ⟨numbered, []⟩
      return .ofNat fields.length
    | "sub", pattern :: new :: rest | "gsub", pattern :: new :: rest =>
      let r ← patternOf call fuel pattern
      let new ← textOf (← eval call fuel new)
      let place := rest.head?.getD (.field (.number 0))
      let s ← textOf (← eval call fuel place)
      let (changed, n) := substitute (name = "gsub") r new s (2 * s.length + 3) 0 false
      if n ≠ 0 then assign call fuel place (.text changed)
      return .ofNat n
    | "match", s :: pattern :: _ =>
      let s ← textOf (← eval call fuel s)
      let r ← patternOf call fuel pattern
      let (start, length) : Nat × Value := match r.search? .octets s 0 with
        | some m => (m.start + 1, .ofNat (m.stop - m.start))
        | none => (0, .number (-1))
      putScalar "RSTART" (.ofNat start)
      putScalar "RLENGTH" length
      return .ofNat start
    | "sprintf", _ =>
      let values ← args.mapM (eval call fuel)
      return .text (← format "sprintf" values)
    | "tolower", _ => return .text ((← text 0).map Char.toLower)
    | "toupper", _ => return .text ((← text 0).map Char.toUpper)
    | "int", _ =>
      let x ← number 0
      return .number (if x.isFinite then (if x < 0 then x.ceil else x.floor) else x)
    | "sin", _ => return .number (← number 0).sin
    | "cos", _ => return .number (← number 0).cos
    | "exp", _ => return .number (← number 0).exp
    | "log", _ => return .number (← number 0).log
    | "sqrt", _ => return .number (← number 0).sqrt
    | "atan2", _ =>
      let y ← number 0
      return .number (Float.atan2 y (← number 1))
    | "system", _ =>
      let command ← text 0
      let (_, status) ← runCommand call "sh" none none command
      return .ofNat status
    | "close", _ => return .number (if ← close call (← text 0) then 0 else -1)
    | "rand", _ =>
      let (x, random) := (← get).random.fraction
      modify fun m => { m with random }
      return .number x
    | "srand", _ =>
      let former := (← get).seed
      let seed ← match args with
        | e :: _ => eval call fuel e
        | [] => pure (.number (Float.ofInt ((← get).state.now / 1000000000)))
      modify fun m => { m with seed, random := Random.ofSeed (truncated seed.toNumber) }
      return former
    | "systime", _ => return .number (Float.ofInt ((← get).state.now / 1000000000))
    | "strftime", _ =>
      let format ← if args.isEmpty then pure "%c".toList else text 0
      let seconds ← if args.length < 2 then pure ((← get).state.now / 1000000000) else truncated <$> number 1
      return .text (Calendar.write none seconds (format.length + 3) format)
    | "mktime", _ =>
      let parts := (blankFields (← text 0)).map Octets.int?
      match parts with
      | some year :: some month :: some day :: some hour :: some minute :: some second :: _ =>
        -- Months and days beyond their ends count on.
        let months := year * 12 + month - 1
        let days := (Date.mk (months / 12) (months % 12 + 1).toNat 1).toDays + day - 1
        return .number (Float.ofInt (days * 86400 + hour * 3600 + minute * 60 + second))
      | _ => return .number (-1)
    | "fflush", _ =>
      flush
      return .number 0
    | _, _ => return .number 0

/-- Does what a statement says. -/
def exec (call : Caller) : Nat → Stmt → Run Flow
  | 0, _ => throw (.fault "statements nested too deep")
  | fuel + 1, s => do
    match s with
    | .expr e =>
      let _ ← eval call fuel e
      return .done
    | .print isFormat args goal =>
      let values ← args.mapM (eval call fuel)
      let text ← if isFormat then format "printf" values
        else do
          let number := (← get).scalar "OFMT" |>.toText "%.6g".toList
          let shown ← match values with
            | [] => do
              let record := (← get).record
              pure [record.toText number]
            | vs => pure (vs.map fun v => v.toText number)
          pure (List.intercalate (← scalarText "OFS") shown ++ (← scalarText "ORS"))
      match goal with
      | none => emit text
      | some (goal, e) =>
        let name ← textOf (← eval call fuel e)
        writeTo goal name text
      return .done
    | .block body => execAll call fuel body
    | .conditional test yes no =>
      if (← eval call fuel test).isTrue then exec call fuel yes
      else
        match no with
        | some no => exec call fuel no
        | none => return .done
    | .loop start test next body =>
      if let some start := start then
        let _ ← exec call fuel start
      for _ in [0:roundLimit] do
        if let some test := test then
          if !(← eval call fuel test).isTrue then break
        match ← exec call fuel body with
        | .leaveLoop => break
        | .giveBack v => return .giveBack v
        | _ =>
          if let some next := next then
            let _ ← exec call fuel next
      return .done
    | .again body test =>
      for _ in [0:roundLimit] do
        match ← exec call fuel body with
        | .leaveLoop => break
        | .giveBack v => return .giveBack v
        | _ =>
          if !(← eval call fuel test).isTrue then break
      return .done
    | .each name array body =>
      let t ← tableOf array
      setTable array t.settled
      for index in t.indices do
        setVariable name (.text index)
        match ← exec call fuel body with
        | .leaveLoop => break
        | .giveBack v => return .giveBack v
        | _ => pure ()
      return .done
    | .leaveLoop => return .leaveLoop
    | .nextRound => return .nextRound
    | .nextRecord => throw .nextRecord
    | .nextFile => throw .nextFile
    | .exit status =>
      if let some e := status then
        let x := (← eval call fuel e).toNumber
        modify fun m => { m with status := ((truncated x).emod 256).toNat }
      throw .exit
    | .giveBack value =>
      match value with
      | some e => return .giveBack (← eval call fuel e)
      | none => return .giveBack .nothing
    | .delete array [] =>
      setTable array .empty
      return .done
    | .delete array index =>
      let (_, key) ← indexOf call fuel index
      setTable array ((← tableOf array).erase key)
      return .done

/-- Does what statements say in order. -/
def execAll (call : Caller) : Nat → List Stmt → Run Flow
  | 0, _ => throw (.fault "statements nested too deep")
  | fuel + 1, body => do
    for s in body do
      match ← exec call fuel s with
      | .done => pure ()
      | flow => return flow
    return .done

end

/-! ## Programs -/

/-- The depth to which expressions and statements may nest. -/
def depthLimit : Nat := 20000

/-- The records that are read at most. -/
def recordLimit : Nat := 10000000

/-- A rule is for the record; `place` is its number. -/
def selects (call : Caller) (place : Nat) : Selector → Run Bool
  | .always => return true
  | .holds e => return (← eval call depthLimit e).isTrue
  | .range first last => do
    let inside := (← get).ranges.contains place
    if !inside && !(← eval call depthLimit first).isTrue then return false
    let ends := (← eval call depthLimit last).isTrue
    modify fun m => { m with ranges := m.ranges.filter (· ≠ place) ++ if ends then [] else [place] }
    return true
  | _ => return false

/-- Does what a rule says. -/
def perform (call : Caller) (r : Rule) : Run Unit := do
  let _ ← exec call depthLimit (r.body.getD (.print false [] none))

/-- Runs the rules for the times before and after all records. -/
def runSpecial (call : Caller) (rules : List Rule) (isWanted : Selector → Bool) : Run Unit := do
  for r in rules do
    if isWanted r.selector then perform call r

/-- Runs the rules on all records. -/
def runRecords (call : Caller) (rules : List (Rule × Nat)) : Run Unit := do
  for _ in [0:recordLimit] do
    match ← nextInput 100000 with
    | none => break
    | some record =>
      setRecord record
      try
        for (r, place) in rules do
          if ← selects call place r.selector then perform call r
      catch
        | .nextRecord => pure ()
        | .nextFile => modify fun m => { m with input := none }
        | halt => throw halt

/-- Runs a program on its input. -/
def Program.run (call : Caller) (p : Program) : Run Unit := do
  let isStart : Selector → Bool := fun
    | .start => true
    | _ => false
  let isFinish : Selector → Bool := fun
    | .finish => true
    | _ => false
  try
    runSpecial call p.rules isStart
    if !p.rules.all fun r => isStart r.selector then runRecords call (p.rules.zip (List.range p.rules.length))
  catch
    | .exit => pure ()
    | halt => throw halt
  try runSpecial call p.rules isFinish
  catch
    | .exit => pure ()
    | halt => throw halt

/-- Ends a program: the commands that are written to run, and what was
printed is written. -/
def finishOutput (call : Caller) : Run Unit := do
  for (command, _) in (← get).pipes do
    closePipe call command
  flush

end Awk

namespace Utility

/-- The variables that a program starts with. -/
def awkVariables : List (String × Awk.Value) :=
  [("FS", .text [' ']), ("OFS", .text [' ']), ("ORS", .text ['\n']), ("RS", .text ['\n']), ("NR", .number 0),
   ("FNR", .number 0), ("SUBSEP", .text ['\x1c']), ("CONVFMT", .text "%.6g".toList), ("OFMT", .text "%.6g".toList),
   ("RSTART", .number 0), ("RLENGTH", .number (-1)), ("FILENAME", .text []), ("ENVIRON", .nothing)]

/-- How `awk` is used. -/
def awkUsage : List String :=
  ["Usage: mawk [Options] [Program] [file ...]", "", "Program:",
   "    The -f option value is the name of a file containing program text.",
   "    If no -f option is given, a \"--\" ends option processing; the following",
   "    parameters are the program text.", "", "Options:",
   "    -f program-file  Program  text is read from file instead of from the",
   "                     command-line.  Multiple -f options are accepted.",
   "    -F value         sets the field separator, FS, to value.",
   "    -v var=value     assigns value to program variable var.",
   "    --               unambiguous end of options.", "",
   "    Implementation-specific options are prefixed with \"-W\".  They can be", "    abbreviated:", "",
   "    -W version       show version information and exit.",
   "    -W dump          show assembler-like listing of program and exit.",
   "    -W help          show this message and exit.",
   "    -W interactive   set unbuffered output, line-buffered input.",
   "    -W exec file     use file as program as well as last option.",
   "    -W posix_space   do not consider \"\\n\" a space.",
   "    -W random=number set initial random seed.",
   "    -W sprintf=number adjust size of sprintf buffer.",
   "    -W usage         show this message and exit."]

/-- Runs a program on the records of files. -/
def awk : Utility := fun call argv s =>
  let i : Invoked := ⟨Octets.text (argv.head?.getD []), [], []⟩
  let args := argv.drop 1
  match argumentsOf ⟨"", "FvfW", "", [("field-separator", 'F'), ("assign", 'v'), ("file", 'f')], true, 2⟩ argv with
  | (_, .error _) =>
    ((i.complain ("not an option: " ++ Octets.text ((args.find? fun a => a.head? = some '-').getD []))) s).ended 2
  | (options, .ok operands) =>
    let i := { i with options, operands }
    match options.find? fun o => o.1 = 'v' && (Awk.assignment? o.2).isNone with
    | some (_, o) => (i.complain ("improper assignment: -v " ++ Octets.text o) s).ended 2
    | none =>
    let files := (options.filter fun o => o.1 = 'f').map Prod.snd
    let texts := files.map fun f => (f, (content f s).1)
    match texts.find? fun t => t.2.toOption.isNone with
    | some (f, r) =>
      let fault := match r with
        | .error fault => fault
        | .ok _ => Fault.notFound
      (i.complain ("cannot open " ++ Octets.text f ++ " (" ++ faultText fault ++ ")") s).ended 2
    | none =>
      let program? : Option (Octets × List Octets) := if files.isEmpty then
          (match operands with
            | p :: rest => some (p, rest)
            | [] => none)
        else some (List.intercalate ['\n'] (texts.map fun t => t.2.toOption.getD []), operands)
      match program? with
      | none => (awkUsage.foldl (fun s l => s.complain l) s).ended 0
      | some (text, operands) =>
        match Awk.Program.read text with
        | .error flaws =>
          (flaws.foldl (fun s (line, problem) =>
            i.complain (if line = 0 then problem else "line " ++ toString line ++ ": " ++ problem) s) s).ended 2
        | .ok program =>
          let environment := (s.bindings.filter fun v => v.2.exported).filterMap fun v =>
            (s.value? v.1).map fun t => (v.1, Awk.Value.ofInput t)
          let arguments := ((argv.head?.getD []) :: operands).map Awk.Value.ofInput
          let separator : List (Octets × Awk.Value) := match i.value? 'F' with
            | some t => [("FS".toList, .text (Awk.unescape (t.length + 1) t))]
            | none => []
          let assigned := (options.filter fun o => o.1 = 'v').filterMap fun o => Awk.assignment? o.2
          let scalars := awkVariables.map fun v => (v.1.toList, v.2)
          let scalars := (separator ++ assigned.map fun a => (a.1, Awk.Value.ofInput a.2)).foldl
            (fun vs v => setKey v.1 v.2 vs) scalars
          let machine : Awk.Machine := {
            state := s, functions := program.functions
            scalars := setKey "ARGC".toList (.ofNat arguments.length) scalars
            tables := [("ENVIRON".toList, ⟨[], environment⟩),
              ("ARGV".toList, ⟨(arguments.zip (List.range arguments.length)).map fun (v, n) => ((n : Int), v), []⟩)]
            frame := [], record := .text [], fields := #[], input := none, argument := 1, hasRead := false
            readers := [], opened := [], pipes := [], printed := [], ranges := [], fresh := 0, status := 0
            random := .ofSeed 0, seed := .number 0 }
          let (fault?, m) : Option String × Awk.Machine := match (program.run call).run machine with
            | .ok () m => (none, m)
            | .error (.fault problem) m => (some problem, m)
            | .error _ m => (none, m)
          let m := match (Awk.finishOutput call).run m with
            | .ok () m => m
            | .error _ m => m
          match fault? with
          | none =>
            match m.state.writeFault with
            | some fault =>
              { (i.complain (Awk.closeFailed "/dev/stdout".toList fault) m.state).ended 2 with writeFault := none }
            | none => m.state.ended m.status
          | some problem =>
            let told := i.complain problem m.state
            let name := (m.scalar "FILENAME").toText []
            let number (v : String) : String := Octets.text ((m.scalar v).toText [])
            let told := if problem.startsWith "run time error" then
                told.complain ("\tFILENAME=\"" ++ Octets.text name ++ "\" FNR=" ++ number "FNR" ++ " NR=" ++ number "NR")
              else told
            told.ended 2

end Utility

end Shell

end Tangle
