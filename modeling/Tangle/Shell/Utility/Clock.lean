import Tangle.Shell.Moment
import Tangle.Shell.Utility.Inspection
import Tangle.Shell.Utility.Paths
/-!
# The date

The program that prints points in time (`date`): the present one, one that is
written as people write it, or the one when a file was changed.
-/

namespace Tangle

namespace Shell

namespace Utility

namespace Clock

/-- Which points in time are printed. -/
inductive Source where
  /-- The one that a text tells. -/
  | told (text : Octets)
  /-- Those that the lines of a file tell. -/
  | lines (file : Octets)
  /-- The one when a file was changed. -/
  | change (file : Octets)
deriving Repr, DecidableEq

/-- What options ask for. -/
structure Setting where
  /-- The points in time. -/
  source : Option Source
  /-- The clock is to be set to what a text tells. -/
  newTime : Option Octets
  /-- The format. -/
  format : Option Octets
  /-- There are several sources that exclude each other. -/
  isTorn : Bool

/-- The formats of international standards by their precision. -/
def standardFormat (word : String) : Octets :=
  match word with
  | "hours" => "%Y-%m-%dT%H%:z".toList
  | "minutes" => "%Y-%m-%dT%H:%M%:z".toList
  | "seconds" => "%Y-%m-%dT%H:%M:%S%:z".toList
  | "ns" => "%Y-%m-%dT%H:%M:%S,%N%:z".toList
  | _ => "%Y-%m-%d".toList

/-- The format of a date with blanks by its precision. -/
def blankFormat (word : String) : Octets :=
  match word with
  | "seconds" => "%Y-%m-%d %H:%M:%S%:z".toList
  | "ns" => "%Y-%m-%d %H:%M:%S.%N%:z".toList
  | _ => "%Y-%m-%d".toList

/-- The setting with a format, of which there is but one. -/
def Setting.withFormat (format : Octets) (v : Setting) : Except Problem Setting :=
  match v.format with
  | some _ => .error (.value "multiple output formats specified")
  | none => .ok { v with format := some format }

/-- The setting with a source. A text takes the place of a former one. -/
def Setting.withSource (source : Source) (v : Setting) : Setting :=
  let torn : Bool := match v.source, source with
    | some (.told _), .told _ => false
    | some (.lines _), .lines _ => false
    | some (.change _), .change _ => false
    | none, _ => false
    | _, _ => true
  { v with source := some source, isTorn := v.isTorn || torn }

/-- The setting with an option added. -/
def Setting.add (v : Setting) (o : Char × Octets) : Except Problem Setting :=
  match o.1 with
  | 'd' => .ok (v.withSource (.told o.2))
  | 'f' => .ok (v.withSource (.lines o.2))
  | 'r' => .ok (v.withSource (.change o.2))
  | 's' => .ok { v with newTime := some o.2 }
  | 'R' => v.withFormat "%a, %d %b %Y %H:%M:%S %z".toList
  | 'I' => do
    let words := [["hours"], ["minutes"], ["date"], ["seconds"], ["ns"]]
    v.withFormat (standardFormat (← if o.2.isEmpty then .ok "date" else chooseWord "--iso-8601" words o.2))
  | 'ρ' => do v.withFormat (blankFormat (← chooseWord "--rfc-3339" [["date"], ["seconds"], ["ns"]] o.2))
  | _ => .ok v

/-- The setting that options describe. -/
def Setting.of (options : List (Char × Octets)) : Except Problem Setting :=
  options.foldlM Setting.add ⟨none, none, none, false⟩

/-- The setting with the operands. -/
def Setting.withOperands (v : Setting) (operands : List Octets) : Except Problem Setting := do
  if v.isTorn then throw (.usage "the options to specify dates for printing are mutually exclusive")
  if v.newTime.isSome && v.source.isSome then
    throw (.usage "the options to print and set the time may not be used together")
  match operands with
  | _ :: extra :: _ => throw (.usage ("extra operand " ++ curly extra))
  | ['+' :: format] => v.withFormat format
  | [o] =>
    if v.newTime.isSome || v.source.isSome then
      throw (.usage ("the argument " ++ curly o ++ " lacks a leading '+';\nwhen using an option to specify date(s), any "
        ++ "non-option\nargument must be a format string beginning with '+'"))
    return v
  | [] => return v

/-- A point in time in a format. -/
def shown (format : Octets) (t : Moment) : Octets :=
  Calendar.write (some t.nanoseconds) t.seconds (format.length + 12) format ++ ['\n']

/-- The point in time of an operand such as `020310002024.30`, whose year
stands behind. -/
def ofOperand? (now : Moment) (o : Octets) : Option Moment :=
  let ds := o.takeWhile Char.isDigit
  Moment.ofStamp? now (ds.drop 8 ++ ds.take 8 ++ o.drop ds.length)

end Clock

/-- Prints points in time. Nobody may set the clock. -/
def date : Utility :=
  withSetting ⟨"Rukδπ", "dfrsρ", "I", [("date", 'd'), ("debug", 'δ'), ("file", 'f'), ("iso-8601", 'I'), ("reference", 'r'),
      ("resolution", 'π'), ("rfc-2822", 'R'), ("rfc-3339", 'ρ'), ("rfc-822", 'R'), ("rfc-email", 'R'), ("set", 's'), ("uct", 'u'),
      ("universal", 'u'), ("utc", 'u')], false, 1⟩ Clock.Setting.of fun i v s =>
    match v.withOperands i.operands with
    | .error problem => i.reject problem s
    | .ok v =>
      let format := v.format.getD "%a %b %e %H:%M:%S %Z %Y".toList
      let now := Moment.ofNanoseconds s.now
      let show' (t : Moment) (s : State) : State := s.print (Clock.shown format t)
      let told (text : Octets) (s : State) : State := match Moment.read? now text with
        | some t => show' t s
        | none => i.complain ("invalid date " ++ curly text) s
      let set (t : Option Moment) (text : Octets) (s : State) : State := match t with
        | some t => show' t (i.complain "cannot set date: Operation not permitted" s)
        | none => i.complain ("invalid date " ++ curly text) s
      match v.source, v.newTime, i.operands with
      | some (.told text), _, _ => told text s
      | some (.lines file), _, _ =>
        match content file s with
        | (.error fault, s) => i.complainOf file fault s
        | (.ok text, s) => (endedLines text).foldl (fun s line => told (line.filter (· ≠ '\n')) s) s
      | some (.change file), _, _ =>
        match s.lookup (State.path file) with
        | .ok node => show' (Moment.ofNanoseconds node.modified) s
        | .error fault => i.complainOf file fault s
      | none, some text, _ => set (Moment.read? now text) text s
      | none, none, [o] => if o.head? = some '+' then show' now s else set (Clock.ofOperand? now o) o s
      | none, none, _ => show' now s

end Utility

end Shell

end Tangle
