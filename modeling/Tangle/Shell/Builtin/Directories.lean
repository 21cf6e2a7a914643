import Tangle.Shell.Builtin.Basic
import Tangle.Shell.Program
/-!
# Commands on directories

The built-in commands that change the current directory and print it, and
those that keep a stack of directories to come back to.
-/

namespace Tangle

namespace Shell

namespace Builtin

/-- Changes the directory to one at a logical path. -/
def changeTo (physical : Bool) (goal : Octets) (s : State) : Option State :=
  let logical := logicalPath s.directory goal
  match s.disk.find s.cwd (State.path (if physical then goal else logical)) with
  | .ok ⟨place, some (.directory _ _), _⟩ =>
    let moved := (s.setVariable "OLDPWD".toList s.directory).markExported "OLDPWD".toList
    let moved := { moved with cwd := place, directory := if physical then State.placeOctets place else logical }
    some ((moved.setVariable "PWD".toList moved.directory).markExported "PWD".toList)
  | _ => none

/-- Changes the directory. -/
def cd : Builtin :=
  withOptions "LP" "LPe@" fun given operands s =>
    let s := s.ended 0
    let physical := given.getLast?.any fun g => g.1 = 'P'
    let (goal, back) : Octets × Bool := match operands with
      | [] => ((s.value? "HOME".toList).getD [], false)
      | ['-'] :: _ => ((s.value? "OLDPWD".toList).getD [], true)
      | goal :: _ => (goal, false)
    let refused := if s.isWide then
        let reason := match s.lookup (State.path goal) with
          | .ok _ => Fault.notADirectory
          | .error fault => fault
        fail 1 (Octets.text goal ++ ": " ++ faultText reason) s
      else s.abort ("can't cd to " ++ Octets.text goal)
    if s.isWide && operands.isEmpty && (s.value? "HOME".toList).isNone then fail 1 "HOME not set" s
    else if s.isWide && back && goal.isEmpty then fail 1 "OLDPWD not set" s
    else if s.isWide && 1 < operands.length then fail 1 "too many arguments" s
    else
      let goal' := if goal.isEmpty then ['.'] else goal
      let first := (goal'.takeWhile (· ≠ '/'))
      let searched := if first.isEmpty || first = ['.'] || first = ['.', '.'] then none
        else (s.value? "CDPATH".toList).bind fun path =>
          (Octets.splitOn ':' path).findSome? fun d =>
            (changeTo physical (inDirectory d goal') s).map fun moved => (moved, !d.isEmpty)
      match searched with
      | some (moved, told) => if told || back then moved.print (moved.directory ++ ['\n']) else moved
      | none =>
        match changeTo physical goal' s with
        | some moved => if back then moved.print (moved.directory ++ ['\n']) else moved
        | none => refused

/-- Prints the current directory. -/
def pwd : Builtin :=
  withOptions "LP" "LP" fun given _ s =>
    let physical := given.getLast?.any fun g => g.1 = 'P'
    (s.ended 0).print ((if physical then State.placeOctets s.cwd else s.directory) ++ ['\n'])

/-! ## The stack of directories -/

/-- A directory as the stack shows it: the home directory is a tilde. -/
def shownDirectory (s : State) (long : Bool) (d : Octets) : Octets :=
  match s.value? "HOME".toList with
  | some home =>
    if !long && !home.isEmpty && (d = home || (home ++ ['/']).isPrefixOf d) then '~' :: d.drop home.length else d
  | none => d

/-- The stack of directories, the current one first. -/
def directoryStack (s : State) : List Octets := s.directory :: s.directories

/-- Prints the stack. -/
def showStack (s : State) : State :=
  s.print (List.intercalate [' '] ((directoryStack s).map (shownDirectory s false)) ++ ['\n'])

/-- The place in a stack that an operand such as `+1` names, counted from
either end. -/
def stackPlace? (size : Nat) (operand : Octets) : Option Nat :=
  match operand with
  | '+' :: ds => (Octets.nat? ds).filter (· < size)
  | '-' :: ds => ((Octets.nat? ds).filter (· < size)).map fun n => size - 1 - n
  | _ => none

/-- The operand counts in the stack. -/
def isStackPlace (operand : Octets) : Bool :=
  (operand.head? = some '+' || operand.head? = some '-') && (Octets.nat? (operand.drop 1)).isSome

/-- Changes to the first directory of a stack, which the rest follows. -/
def enterStack (stack : List Octets) (s : State) : State :=
  match stack with
  | [] => s
  | top :: rest =>
    let after := if top = s.directory then s.ended 0 else { cd [top] { s with speaker := s.speaker } with speaker := s.speaker }
    if after.status ≠ 0 then after else showStack { after with directories := rest }

/-- Changes the directory and keeps the former one on the stack, or turns
the stack. -/
def pushDirectory : Builtin := fun args s =>
  let stays := args.head? = some ['-', 'n']
  let args := if stays then args.drop 1 else args
  let args := if args.head? = some ['-', '-'] then args.drop 1 else args
  let s := s.ended 0
  let stack := directoryStack s
  match args with
  | [] =>
    match s.directories with
    | [] => fail 1 "no other directory" s
    | top :: rest => enterStack (top :: s.directory :: rest) s
  | operand :: more =>
    if !more.isEmpty then fail 1 "too many arguments" s
    else if isStackPlace operand then
      match stackPlace? stack.length operand with
      | some n => enterStack (stack.drop n ++ stack.take n) s
      | none =>
        if s.directories.isEmpty then fail 1 "directory stack empty" s
        else fail 1 (Octets.text operand ++ ": directory stack index out of range") s
    else if stays then showStack { s with directories := operand :: s.directories }
    else
      let after := cd [operand] s
      if after.status ≠ 0 then after else showStack { after with directories := stack }

/-- Comes back to a directory on the stack, or drops one from it. -/
def popDirectory : Builtin := fun args s =>
  let stays := args.head? = some ['-', 'n']
  let args := if stays then args.drop 1 else args
  let s := s.ended 0
  let stack := directoryStack s
  if s.directories.isEmpty then fail 1 "directory stack empty" s
  else
    match args with
    | [] => if stays then showStack { s with directories := s.directories.drop 1 } else enterStack s.directories s
    | operand :: _ =>
      match stackPlace? stack.length operand with
      | some 0 => if stays then showStack { s with directories := s.directories.drop 1 } else enterStack s.directories s
      | some n => showStack { s with directories := (stack.eraseIdx n).drop 1 }
      | none =>
        if isStackPlace operand then fail 1 (Octets.text operand ++ ": directory stack index out of range") s
        else showSynopsis (s.complainHere (Octets.text operand ++ ": invalid argument"))

/-- Prints the stack of directories, or empties it. -/
def showDirectories : Builtin := fun args s =>
  let s := s.ended 0
  let (places, flags) := args.partition isStackPlace
  let flags := flags.flatMap fun f => f.drop 1
  let stack := directoryStack s
  if flags.contains 'c' then { s with directories := [] }
  else
    let shown := shownDirectory s (flags.contains 'l')
    match places with
    | place :: _ =>
      match stackPlace? stack.length place with
      | some n => s.print (shown ((stack[n]?).getD []) ++ ['\n'])
      | none => fail 1 (Octets.text place ++ ": directory stack index out of range") s
    | [] =>
      if flags.contains 'v' then
        s.print (((stack.zip (List.range stack.length)).map fun (d, i) =>
          let n := (toString i).toList
          List.replicate (2 - n.length) ' ' ++ n ++ [' ', ' '] ++ shown d ++ ['\n']).flatten)
      else if flags.contains 'p' then s.print (stack.flatMap fun d => shown d ++ ['\n'])
      else s.print (List.intercalate [' '] (stack.map shown) ++ ['\n'])

end Builtin

end Shell

end Tangle
