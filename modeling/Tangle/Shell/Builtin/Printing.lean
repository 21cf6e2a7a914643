import Tangle.Shell.Builtin.Basic
import Tangle.Shell.Condition
import Tangle.Shell.Format
/-!
# Commands that print and compare

The built-in commands that print their arguments, plain or by a format, and
those that tell whether a condition holds.
-/

namespace Tangle

namespace Shell

namespace Builtin

/-- Does nothing. -/
def succeed : Builtin := fun _ s => s.ended 0

/-- Does nothing, without success. -/
def decline : Builtin := fun _ s => s.ended 1

/-- Prints arguments. -/
def echo : Builtin := fun args s =>
  (s.ended 0).print (if s.isWide then Format.wideEcho .wide args else Format.echo args)

/-- A complaint about an argument of a format. -/
def doubtText : Format.Doubt → String
  | .notNumber a => Octets.text a ++ ": expected numeric value"
  | .trailing a => Octets.text a ++ ": not completely converted"
  | .beyond a => Octets.text a ++ ": Numerical result out of range"
  | .notTime _ => ""

/-- Prints a format filled with arguments. -/
def printFormat : Builtin :=
  withOptions "" "" fun _ operands s =>
    match operands with
    | [] => s.abort "usage: printf format [arg ...]"
    | format :: args =>
      let p := Format.printf .plain format args
      let s := (s.ended 0).print p.output
      let s := p.doubts.reverse.foldl (fun s d => fail 1 (doubtText d) s) s
      match p.stop with
      | some (.invalid directive) => s.abort (Octets.text directive ++ ": invalid directive")
      | some (.missing _) => s.abort "missing format character"
      | _ => s

/-- How the wide dialect prints a format. -/
def wideManner : Format.Manner :=
  ⟨.wideFormat, .wideText, 64, some Quoting.backslashed, "hjlLtz".toList, true, false⟩

/-- Complains about an argument of a format in the wide dialect. -/
def complainOf (d : Format.Doubt) (s : State) : State :=
  match d with
  | .notNumber a | .trailing a => fail 1 (Octets.text a ++ ": invalid number") s
  | .beyond a => s.complainHere ("warning: " ++ Octets.text a ++ ": Numerical result out of range")
  | .notTime c => s.complainHere ("warning: " ++ named c.toList ++ ": invalid time format specification")

/-- Prints a format filled with arguments, or makes the text the value of a
variable. -/
def printOrStore : Builtin :=
  withOptions "" "v:" fun given operands s =>
    match operands, argumentOf? given 'v' with
    | [], _ => showSynopsis s
    | format :: args, target =>
      if target.any fun t => !isTarget s t then fail 2 (named (target.getD []) ++ ": not a valid identifier") s
      else
        let p := Format.printf wideManner format args
        let s := s.ended 0
        let s := match target with
          | some t => store t p.output s
          | none => s.print p.output
        let s := p.doubts.reverse.foldl (fun s d => complainOf d s) s
        match p.stop with
        | some (.invalid directive) =>
          fail 1 (named ((directive.getLast?).toList) ++ ": invalid format character") s
        | some (.missing directive) => fail 1 (named directive ++ ": missing format character") s
        | _ => s

/-- Prints a format filled with arguments. -/
def printf : Builtin := fun args s => if s.isWide then printOrStore args s else printFormat args s

/-- The complaints of the counting reading of conditions. -/
def wording : Condition.Wording where
  notNumber a := Octets.text a ++ ": integer expression expected"
  unaryExpected a := Octets.text a ++ ": unary operator expected"
  binaryExpected a := Octets.text a ++ ": binary operator expected"
  missingAfter _ := "argument expected"
  tooMany _ := "too many arguments"
  notClosed := fun
    | some a => "\x60)' expected, found " ++ Octets.text a
    | none => "\x60)' expected"

/-- Tells whether a condition holds. -/
def test : Builtin := fun args s =>
  match if s.isWide then Condition.counted s wording args else Condition.value s 4 args with
  | .ok value => s.ended (if value then 0 else 1)
  | .error problem => fail 2 problem s

/-- Tells whether a condition in brackets holds. In the plain dialect the
first character of the closing bracket decides. -/
def bracket : Builtin := fun args s =>
  let isClosing (w : Octets) : Bool := if s.isWide then w = [']'] else w.head? = some ']'
  if args.getLast?.any isClosing then test args.dropLast s
  else fail 2 (if s.isWide then "missing \x60]'" else "missing ]") s

end Builtin

end Shell

end Tangle
