import Tangle.Shell.Awk.Grammar
import Tangle.Shell.Awk.Random
import Tangle.Shell.Awk.Value
import Tangle.Shell.Utility.Basic
/-!
# The machine that works on records

What a running program knows: its variables and arrays, the record with its
fields, the input that is left, and the output that is under way
(`Machine`). Reading a record and splitting it into fields are here; what
statements do is elsewhere.
-/

namespace Tangle

namespace Shell

namespace Awk

/-- What a name stands for in a function. -/
inductive Slot where
  /-- A value. -/
  | value (v : Value)
  /-- The array of a key. -/
  | table (key : Octets)
  /-- Nothing was made of it yet; as an array it is the one of a key. -/
  | open' (key : Octets)

/-- A running program. -/
structure Machine where
  /-- The state of the process. -/
  state : State
  /-- The functions of the program. -/
  functions : List Function
  /-- The variables that are not local. -/
  scalars : List (Octets × Value)
  /-- The arrays by their keys. -/
  tables : List (Octets × Table)
  /-- What names stand for in the function under way. -/
  frame : List (Octets × Slot)
  /-- The record. -/
  record : Value
  /-- Its fields. -/
  fields : Array Value
  /-- What is left of the file that is read. -/
  input : Option Octets
  /-- The place of the next argument. -/
  argument : Nat
  /-- A file was read. -/
  hasRead : Bool
  /-- What is left of files and outputs that are read beside the input. -/
  readers : List (Octets × Octets)
  /-- The files that are written. -/
  opened : List Octets
  /-- The commands that are written to, with the pieces for them, the last
  one first. -/
  pipes : List (Octets × List Octets)
  /-- What was printed and not written yet, the last piece first. -/
  printed : List Octets
  /-- The places of the rules in whose range the record is. -/
  ranges : List Nat
  /-- The number of the next array that has no name of its own. -/
  fresh : Nat
  /-- The status at the end. -/
  status : Nat
  /-- The random numbers that come next. -/
  random : Random
  /-- What they were started with. -/
  seed : Value

/-- Why statements that follow do not run. -/
inductive Halt where
  /-- The next record comes. -/
  | nextRecord
  /-- The next file comes. -/
  | nextFile
  /-- The program ends. -/
  | exit
  /-- The program ends with a complaint. -/
  | fault (message : String)

/-- A step of a program. -/
abbrev Run (α : Type) := EStateM Halt Machine α

/-! ## Variables -/

/-- The value of a variable that is not local. -/
def Machine.scalar (m : Machine) (name : String) : Value := (m.scalars.lookup name.toList).getD .nothing

/-- How numbers become texts. -/
def Machine.format (m : Machine) : Octets := (m.scalar "CONVFMT").toText "%.6g".toList

/-- The value as a text. -/
def textOf (v : Value) : Run Octets := return v.toText (← get).format

/-- The text of a variable that is not local. -/
def scalarText (name : String) : Run Octets := do textOf ((← get).scalar name)

/-- Sets a variable that is not local. -/
def putScalar (name : String) (v : Value) : Run Unit :=
  modify fun m => { m with scalars := setKey name.toList v m.scalars }

/-- Adds one to a variable. -/
def count (name : String) : Run Unit := do
  putScalar name (.number (((← get).scalar name).toNumber + 1))

/-! ## Fields -/

/-- The texts between blanks and ends of lines. -/
def blankFields (s : Octets) : List Octets :=
  (Octets.splitOn ' ' (s.map fun c => if c = '\t' || c = '\n' then ' ' else c)).filter fun f => !f.isEmpty

/-- The texts between matches of an expression that are not empty. -/
def regexFields (r : Regex) (text : Octets) : Nat → Nat → List Octets
  | 0, offset => [text.drop offset]
  | fuel + 1, offset => go fuel offset offset fuel
where
  /-- Looks for the next match from a place on. -/
  go (fuel start from' : Nat) : Nat → List Octets
    | 0 => [text.drop start]
    | n + 1 =>
      match r.search? .octets text from' with
      | none => [text.drop start]
      | some m =>
        if m.stop = m.start then go fuel start (m.stop + 1) n
        else (text.drop start).take (m.start - start) :: go fuel m.stop m.stop n

/-- The fields of a text by a separator: a blank stands for all blanks, one
character for itself, and other texts are expressions. -/
def fieldsBy (separator : Octets) (s : Octets) : List Octets :=
  if s.isEmpty then []
  else
    match separator with
    | [' '] => blankFields s
    | [] => s.map fun c => [c]
    | [c] => if c = '\\' then Octets.splitOn '\\' s else Octets.splitOn c s
    | e => regexFields (regexOf e) s (s.length + 2) 0

/-- Makes a text the record, and splits it. -/
def setRecord (s : Octets) : Run Unit := do
  let separator := ((← get).scalar "FS").toText []
  let paragraphs := (((← get).scalar "RS").toText []).isEmpty
  let fields := if paragraphs && separator.length = 1 && separator ≠ [' '] then
      (Octets.splitOn '\n' s).flatMap fun l => if l.isEmpty then [[]] else fieldsBy separator l
    else fieldsBy separator s
  modify fun m => { m with record := .ofInput s, fields := (fields.map Value.ofInput).toArray }

/-- Makes the record anew from its fields. -/
def joinRecord : Run Unit := do
  let separator ← scalarText "OFS"
  let texts ← (← get).fields.toList.mapM textOf
  modify fun m => { m with record := .text (List.intercalate separator texts) }

/-- A field of the record; the one of number zero is the record. -/
def fieldAt (n : Nat) : Run Value := do
  let m ← get
  return if n = 0 then m.record else m.fields[n - 1]?.getD (.text [])

/-- Sets a field, after as many empty ones as are needed. -/
def setField (n : Nat) (v : Value) : Run Unit := do
  if n = 0 then setRecord (← textOf v)
  else
    modify fun m =>
      let missing := List.replicate (n - m.fields.size) (Value.text [])
      { m with fields := (m.fields ++ missing.toArray).setIfInBounds (n - 1) v }
    joinRecord

/-- Sets the number of fields. -/
def setFieldCount (n : Nat) : Run Unit := do
  modify fun m =>
    let missing := List.replicate (n - m.fields.size) (Value.text [])
    { m with fields := (m.fields ++ missing.toArray).take n }
  joinRecord

/-! ## Names -/

/-- The value of a variable. -/
def variable' (name : Octets) : Run Value := do
  let m ← get
  match m.frame.lookup name with
  | some (.value v) => return v
  | some _ => return .nothing
  | none =>
    if name = "NF".toList then return .ofNat m.fields.size
    else return (m.scalars.lookup name).getD .nothing

/-- Sets a variable. -/
def setVariable (name : Octets) (v : Value) : Run Unit := do
  let m ← get
  match m.frame.lookup name with
  | some _ => set { m with frame := setKey name (.value v) m.frame }
  | none =>
    if name = "NF".toList then
      let n := truncated v.toNumber
      if n < 0 then throw (.fault "run time error: negative value assigned to NF")
      setFieldCount n.toNat
    else set { m with scalars := setKey name v m.scalars }

/-- The key of the array that a name stands for. -/
def tableKey (name : Octets) : Run Octets := do
  match (← get).frame.lookup name with
  | some (.table key) | some (.open' key) => return key
  | _ => return name

/-- The array that a name stands for. -/
def tableOf (name : Octets) : Run Table := do
  let key ← tableKey name
  return ((← get).tables.lookup key).getD .empty

/-- Changes the array that a name stands for. -/
def setTable (name : Octets) (t : Table) : Run Unit := do
  let key ← tableKey name
  modify fun m => { m with tables := setKey key t m.tables }

/-! ## Records -/

/-- The first record of a text and what is left of it. -/
def cutRecord (separator text : Octets) : Option (Octets × Octets) :=
  match separator with
  | [] =>
    let text := text.dropWhile (· = '\n')
    if text.isEmpty then none
    else
      let rec paragraph : Octets → Octets × Octets
        | '\n' :: '\n' :: rest => ([], rest.dropWhile (· = '\n'))
        | c :: rest =>
          let (front, after) := paragraph rest
          (c :: front, after)
        | [] => ([], [])
      let (front, after) := paragraph text
      some (if front.getLast? = some '\n' then front.dropLast else front, after)
  | [c] =>
    if text.isEmpty then none
    else
      let front := text.takeWhile (· ≠ c)
      some (front, text.drop (front.length + 1))
  | e =>
    if text.isEmpty then none
    else
      match (regexOf e).search? .octets text 0 with
      | some m => some (text.take m.start, text.drop (max m.stop (m.start + 1)))
      | none =>
        -- The end of the last line is none of the record.
        some (if text.getLast? = some '\n' && e.contains '\n' then text.dropLast else text, [])

/-- The variable and the value of an operand that is an assignment. -/
def assignment? (o : Octets) : Option (Octets × Octets) :=
  let name := o.takeWhile isNameChar
  match o.drop name.length with
  | '=' :: value =>
    if name.head?.any (fun c => !c.isDigit) then some (name, unescape (value.length + 1) value) else none
  | _ => none

/-- The complaint about a file that cannot be read. -/
def cannotRead (name : Octets) (fault : Fault) : String :=
  if fault = .isADirectory then "read error (" ++ faultText fault ++ ")"
  else "cannot open " ++ Octets.text name ++ " (" ++ faultText fault ++ ")"

/-- The next record of the input, if there is one. -/
def nextInput : Nat → Run (Option Octets)
  | 0 => return none
  | fuel + 1 => do
    let m ← get
    match m.input with
    | some text =>
      match cutRecord ((m.scalar "RS").toText []) text with
      | some (record, rest) =>
        set { m with input := some rest }
        count "NR"
        count "FNR"
        return some record
      | none =>
        set { m with input := none }
        nextInput fuel
    | none =>
      let openFile (name : Octets) (m : Machine) : Run (Option Octets) := do
        match Utility.content name m.state with
        | (.ok text, state) =>
          set { m with state, input := some text, hasRead := true }
          putScalar "FILENAME" (.text (if name = ['-'] then [] else name))
          putScalar "FNR" (.number 0)
          nextInput fuel
        | (.error fault, state) =>
          set { m with state }
          throw (.fault (cannotRead name fault))
      if (truncated (m.scalar "ARGC").toNumber) ≤ m.argument then
        if m.hasRead then return none else openFile ['-'] m
      else
        let arguments := (m.tables.lookup "ARGV".toList).getD .empty
        let o := ((arguments.get? (toString m.argument).toList).map fun v => v.toText m.format).getD []
        let m := { m with argument := m.argument + 1 }
        match assignment? o with
        | some (name, value) =>
          set m
          setVariable name (.ofInput value)
          nextInput fuel
        | none =>
          if o.isEmpty then
            set m
            nextInput fuel
          else openFile o m

/-- The next record of a text that is read beside the input. -/
def nextOf (name : Octets) : Run (Option Octets) := do
  let m ← get
  match m.readers.lookup name with
  | none => return none
  | some text =>
    match cutRecord ((m.scalar "RS").toText []) text with
    | some (record, rest) =>
      set { m with readers := setKey name rest m.readers }
      return some record
    | none => return none

/-! ## Output -/

/-- Prints to standard output. -/
def emit (text : Octets) : Run Unit := modify fun m => { m with printed := text :: m.printed }

/-- Writes what was printed. -/
def flush : Run Unit := modify fun m =>
  { m with state := m.state.print m.printed.reverse.flatten, printed := [] }

end Awk

end Shell

end Tangle
