import Tangle.Shell.Builtin.Declaration
import Tangle.Shell.Builtin.Directories
import Tangle.Shell.Builtin.Input
import Tangle.Shell.Builtin.Names
import Tangle.Shell.Builtin.Printing
import Tangle.Shell.Builtin.Process
import Tangle.Shell.Builtin.Settings
/-!
# The built-in commands by their names

The built-in commands that run no others (`Builtin.find?`), and what is
known of all of them by name: which are special, and which take assignments
for operands.
-/

namespace Tangle

namespace Shell

namespace Builtin

/-- The built-in commands of both dialects that run no others. -/
def common : List (String × Builtin) :=
  [(":", succeed), ("[", bracket), ("alias", setAlias), ("bg", noJob), ("break", loopJump .leaveLoops), ("cd", cd),
   ("continue", loopJump .nextRound), ("echo", echo), ("exit", exit), ("false", decline), ("fg", noJob),
   ("getopts", getopts), ("hash", hash), ("kill", kill), ("printf", printf), ("pwd", pwd), ("read", read),
   ("return", leave), ("set", set), ("shift", shift), ("test", test), ("times", times), ("trap", trap),
   ("true", succeed), ("ulimit", ulimit), ("umask", umask), ("unalias", unsetAlias), ("unset", unset)]

/-- The built-in commands of the plain dialect that run no others. -/
def plain : List (String × Builtin) :=
  [("chdir", cd), ("export", «export»), ("local", declareLocal), ("readonly", «readonly»)] ++ common

/-- The built-in commands of the wide dialect that run no others. -/
def wide : List (String × Builtin) :=
  [("caller", caller), ("compopt", decline), ("complete", succeed), ("declare", declareVariables),
   ("dirs", showDirectories), ("disown", succeed), ("export", exportVariables),
   ("history", succeed), ("let", evaluate), ("local", declareLocals), ("mapfile", readLines), ("popd", popDirectory),
   ("pushd", pushDirectory), ("readarray", readLines), ("readonly", fixVariables), ("shopt", feature),
   ("typeset", declareVariables)] ++ common

/-- The command of a name, but for those that run others or tell of all. -/
def find? (dialect : Dialect) (name : Octets) : Option Builtin :=
  (match dialect with
    | .plain => plain
    | .wide => wide).lookup (String.ofList name)

/-- The names of the built-in commands that run others. -/
def callers (dialect : Dialect) : List String :=
  [".", "command", "eval", "exec", "jobs", "type", "wait"] ++ if dialect = .wide then ["builtin", "enable", "source"] else []

/-- The name is that of a built-in command. -/
def isName (dialect : Dialect) (name : Octets) : Bool :=
  (find? dialect name).isSome || (callers dialect).contains (String.ofList name)

/-- The name is that of a special command: its faults end the interpreter,
and what is assigned in front of it stays. -/
def isSpecial (dialect : Dialect) (name : Octets) : Bool :=
  dialect = .plain && Script.specialNames.contains (String.ofList name)

/-- The name is that of a command whose operands may be assignments. -/
def takesAssignments (dialect : Dialect) (name : Octets) : Bool :=
  (["alias", "export", "local", "readonly"] ++ if dialect = .wide then ["declare", "typeset"] else []).contains
    (String.ofList name)

/-- The name is that of a built-in command that is not disabled. -/
def isEnabled (s : State) (name : Octets) : Bool := isName s.dialect name && !s.disabled.contains name

/-- The names of all built-in commands of the wide dialect in order. -/
def wideNames : List String := (wide.map Prod.fst ++ callers .wide).mergeSort fun a b => decide (a ≤ b)

/-- Disables built-in commands, or enables them again, or lists them. -/
def enable : Builtin :=
  withOptions "" "adnpsf:" fun given operands s =>
    let s := s.ended 0
    let line (name : String) : Octets :=
      (if s.disabled.contains name.toList then "enable -n " else "enable ").toList ++ name.toList ++ ['\n']
    if operands.isEmpty then
      let shown := wideNames.filter fun n => has given 'a' || s.disabled.contains n.toList = has given 'n'
      s.print (shown.flatMap line)
    else operands.foldl (fun s o =>
      if !isName .wide o then fail 1 (Octets.text o ++ ": not a shell builtin") s
      else
        let others := s.disabled.filter (· ≠ o)
        { s with disabled := if has given 'n' then o :: others else others }) s

/-- What a name calls, apart from programs. -/
def kindOf (s : State) (name : Octets) : Option Kind :=
  if isSpecial s.dialect name then some (.builtin true)
  else if (s.functions.lookup name).isSome then some .function
  else if isEnabled s name then some (.builtin (isSpecial s.dialect name))
  else none

end Builtin

end Shell

end Tangle
