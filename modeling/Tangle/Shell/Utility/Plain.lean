import Tangle.Shell.Format
import Tangle.Shell.Utility.Paths
/-!
# Programs beside the built-in commands

The programs that print, compare and wait as built-in commands do, with
complaints of their own, and the few that tell about the system.
-/

namespace Tangle

namespace Shell

namespace Utility

/-- Prints arguments; only the option `-e` gives backslashes a meaning. -/
def echo : Utility := simple fun argv s => (s.ended 0).print (Format.wideEcho .program (argv.drop 1))

/-- How the program `printf` prints. -/
def printfManner : Format.Manner :=
  ⟨.programFormat, .programText, 64, some fun a => if needsQuotes a then quoteOctets a else a, "hlLjzt".toList,
    false, true⟩

/-- Prints a format filled with arguments. -/
def printf : Utility := simple fun argv s =>
  let i : Invoked := ⟨Octets.text (argv.head?.getD []), [], []⟩
  match if (argv.drop 1).head? = some ['-', '-'] then argv.drop 2 else argv.drop 1 with
  | [] => i.refuse "missing operand" s
  | format :: args =>
    let p := Format.printf printfManner format args
    let s := (s.ended 0).print p.output
    let s := p.doubts.reverse.foldl (fun s d =>
      match d with
      | .notNumber a => i.complain (curly a ++ ": expected a numeric value") s
      | .trailing a => i.complain (curly a ++ ": value not completely converted") s
      | .beyond a => i.complain (curly a ++ ": Numerical result out of range") s
      | .notTime _ => s) s
    match p.stop with
    | some (.invalid d) => i.complain (Octets.text d ++ ": invalid conversion specification") s
    | some (.missing d) => i.complain (Octets.text d ++ ": invalid conversion specification") s
    | _ =>
      if !p.taken && !args.isEmpty then
        s.complain (i.name ++ ": warning: ignoring excess arguments, starting with " ++ curly (args.head?.getD []))
      else s

/-- The milliseconds of a time such as `0.5` or `2m`. -/
def duration? (s : Octets) : Option Nat :=
  let (number, unit) : Octets × Nat := match s.getLast? with
    | some 's' => (s.dropLast, 1)
    | some 'm' => (s.dropLast, 60)
    | some 'h' => (s.dropLast, 3600)
    | some 'd' => (s.dropLast, 86400)
    | _ => (s, 1)
  if s.head?.any fun c => c.isDigit || c = '.' || c = '+' then
    match Real.read? 64 number with
    | some (.finite false x, []) => some (x.scaled 3 * unit)
    | some (.infinite false, []) => some (Nat.pow 10 15)
    | _ => none
  else none

/-- Lets time pass. -/
def sleep : Utility := withOptions ⟨"", "", "", [], true, 1⟩ fun i s =>
  if i.operands.isEmpty then i.refuse "missing operand" s
  else
    match i.operands.filter fun o => (duration? o).isNone with
    | [] => { s with clock := s.clock + ((i.operands.filterMap duration?).foldl (· + ·) 0) }
    | bad =>
      let s := bad.foldl (fun s o => i.complain ("invalid time interval " ++ curly o) s) s
      s.complain ("Try '" ++ i.name ++ " --help' for more information.")

/-- Prints the name of the user. -/
def whoami : Utility := simple fun _ s => (s.ended 0).print "root\n".toList

/-- Prints the number or name of the user. -/
def id : Utility := withOptions (Spec.letters "ugnrG" "") fun i s =>
  s.print (if i.options.isEmpty then "uid=0(root) gid=0(root) groups=0(root)\n"
    else if i.has 'n' then "root\n" else "0\n").toList

/-- Prints the name of the system. -/
def uname : Utility := withOptions (Spec.letters "so" "") fun i s =>
  s.print (if i.has 'o' then "GNU/Linux\n" else "Linux\n").toList

/-- Prints variables that programs receive. -/
def printenv : Utility := withOptions ⟨"0", "", "", [], true, 2⟩ fun i s =>
  let exported := s.bindings.filter fun v => v.2.exported && v.2.value.isSome
  if i.operands.isEmpty then
    s.print (exported.flatMap fun v => v.1 ++ '=' :: ((s.value? v.1).getD []) ++ ['\n'])
  else i.operands.foldl (fun s o =>
    match if exported.any fun v => v.1 = o then s.value? o else none with
    | some v => s.print (v ++ ['\n'])
    | none => s.ended 1) s

end Utility

end Shell

end Tangle
