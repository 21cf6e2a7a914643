import Tangle.Shell.Process
import Tangle.Shell.Builtin.Settings
import Tangle.Shell.Redirect
import Tangle.Shell.Program
/-!
# Command interpreters

A command interpreter is a program that runs a script: an argument after
the option `-c`, a file, or what it reads (`interpret`). It starts with the
variables that it receives and nothing else of the process that calls it.
-/

namespace Tangle

namespace Shell

/-- The letters of an interpreter's arguments that are no options of
scripts. -/
structure Start where
  /-- The script is the first operand. -/
  hasText : Bool
  /-- The operands. -/
  operands : List Octets

/-- Reads the options in front of an interpreter's operands. -/
def readStart : Nat → Bool → List Octets → State → Start × State
  | 0, hasText, args, s => (⟨hasText, args⟩, s)
  | _ + 1, hasText, [], s => (⟨hasText, []⟩, s)
  | fuel + 1, hasText, a :: rest, s =>
    match a with
    | ['-'] | ['-', '-'] => (⟨hasText, rest⟩, s)
    | sign :: c :: letters =>
      if sign = '-' && c = '-' && s.isWide then readStart fuel hasText rest s
      else if sign = '-' || sign = '+' then readLetters fuel (sign = '-') (c :: letters) hasText rest s
      else (⟨hasText, a :: rest⟩, s)
    | _ => (⟨hasText, a :: rest⟩, s)
where
  /-- Reads the letters of an argument; an `o` takes a name from those that
  follow. -/
  readLetters (fuel : Nat) (value : Bool) (letters : Octets) (hasText : Bool) (rest : List Octets) (s : State) :
      Start × State :=
    match fuel with
    | 0 => (⟨hasText, rest⟩, s)
    | fuel + 1 =>
      match letters, rest with
      | [], rest => readStart fuel hasText rest s
      | 'c' :: more, rest => readLetters fuel value more true rest s
      | 'l' :: more, rest => readLetters fuel value more hasText rest s
      | 'o' :: more, [] => readLetters fuel value more hasText [] (Builtin.listOptions (!value) s)
      | 'o' :: more, name :: rest =>
        match Switch.ofName? s.dialect (Octets.text name) with
        | some o => readLetters fuel value more hasText rest (s.setOption o value)
        | none =>
          (⟨hasText, rest⟩, if s.isWide then
              ((s.complain (Octets.text s.name ++ ": line 0: " ++ Octets.text s.name ++ ": " ++ Octets.text name
                ++ ": invalid option name")).exit 2)
            else s.abort ("Illegal option -o " ++ Octets.text name))
      | c :: more, rest =>
        let switch? := if s.isWide && c = 's' then some .stdin else if s.isWide && c = 'i' then some .interactive
          else Switch.ofLetter? s.dialect c
        match switch? with
        | some o => readLetters fuel value more hasText rest (s.setOption o value)
        | none => (⟨hasText, rest⟩,
            if s.isWide then (s.complain (Octets.text s.name ++ ": -" ++ Octets.text [c] ++ ": invalid option")).exit 2
            else s.abort ("Illegal option -" ++ Octets.text [c]))

/-- A variable with a text. -/
def textVariable (exported : Bool) (text : String) : Variable := { value := some (.text (Octets.ofString text)), exported }

/-- The state in which an interpreter starts. -/
def State.asInterpreter (dialect : Dialect) (name : Octets) (s : State) : State :=
  let received := s.bindings.filter fun v => v.2.exported && v.2.value.isSome
  let received := received.filter fun v => v.1 ≠ "IFS".toList
  let common : List (String × Variable) :=
    [("IFS", textVariable false " \t\n"), ("OPTIND", textVariable false "1"), ("PS4", textVariable false "+ ")]
  let parent := textVariable false (toString s.parent)
  let own : List (String × Variable) := match dialect with
    | .plain => [("PS1", textVariable false "# "), ("PS2", textVariable false "> "), ("PPID", parent)]
    | .wide =>
      let level := ((received.lookup "SHLVL".toList).bind fun v =>
        match v.value with
        | some (.text t) => Octets.nat? t
        | _ => none).getD 0
      let fixed (text : String) : Variable := { textVariable false text with constant := true, integer := true }
      let version : Value := .numbered (["5", "2", "15", "1", "release", "x86_64-pc-linux-gnu"].map String.toList)
      [("PPID", { parent with constant := true, integer := true }), ("BASH", textVariable false "/usr/bin/bash"),
       ("BASH_VERSION", textVariable false "5.2.15(1)-release"),
       ("BASH_VERSINFO", { value := some version, constant := true }),
       ("UID", fixed "0"), ("EUID", fixed "0"), ("SHLVL", textVariable true (toString (level + 1))),
       ("HOSTTYPE", textVariable false "x86_64"), ("OSTYPE", textVariable false "linux-gnu"),
       ("OLDPWD", { exported := true }), ("MACHTYPE", textVariable false "x86_64-pc-linux-gnu"), ("OPTERR", textVariable false "1")]
  let place := State.placeOctets s.cwd
  let received := if (received.lookup "PATH".toList).isSome then received
    else setKey "PATH".toList (textVariable false standardSearchPath) received
  let bindings := (common ++ own).foldl (fun vs v => setKey v.1.toList v.2 vs) received
  { s with
    dialect, name
    bindings := setKey "PWD".toList (Variable.received place) bindings
    directory := place, aliases := [], args := [], guarded := false
    functions := if dialect = .wide then
        (s.functions.filter fun f => f.2.exported).map fun f => (f.1, { f.2 with source := { f.2.source with file := none } })
      else []
    options := if dialect = .wide then Switch.wideStart else []
    features := if dialect = .wide then Feature.start else []
    calls := [], included := false, subshells := 0, indirection := 0, directories := [], lastWord := name, disabled := []
    isLast := false, source := ⟨[], 1, none⟩, line := 0, speaker := none, interpreter := s.self
    traps := s.traps.filter fun t => t.2.isEmpty
    scopes := [], loops := 0, jobs := [], lastJob := none, trapped := none
    isCommandText := false, showsScript := false, optionIndex := 1, optionOffset := 0, found := [], statuses := []
    status := 0, jump := none, writeFault := none, outputStatus := 0 }

/-- Runs a script that is read from a file or from what comes in. -/
def runRead (run : Runner) (script : Octets) (s : State) : State :=
  runScript run false script { s with isCommandText := false, showsScript := true, line := 1 }

/-- Complains that a script cannot be opened. -/
def refuseScriptFile (file : Octets) (fault : Fault) (s : State) : State :=
  if s.isWide then
    (s.complain (Octets.text s.name ++ ": " ++ Octets.text file ++ ": " ++ faultText fault)).exit
      (if fault = .notFound || fault = .notADirectory then 127 else 126)
  else s.abort ("cannot open " ++ Octets.text file ++ ": " ++ openingFault s false fault)

/-- What an interpreter does that is called with arguments, the first of
which is its name. -/
def interpret (run : Runner) (dialect : Dialect) (argv : List Octets) (s : State) : State :=
  let name := argv.head?.getD []
  let args := argv.drop 1
  let (start, s) := readStart (args.flatten.length + 2 * args.length + 2) false args (s.asInterpreter dialect name)
  if s.jump.isSome then s
  else
    let done := match start.hasText, start.operands with
      | true, [] =>
        if dialect = .wide then (s.complain (Octets.text name ++ ": -c: option requires an argument")).exit 2
        else s.abort "-c requires an argument"
      | true, script :: rest =>
        let s := { s with name := rest.head?.getD name, args := rest.drop 1, isCommandText := true, showsScript := s.isWide, line := 1 }
        let s := if s.isWide then s.putVariable "BASH_EXECUTION_STRING".toList { value := some (.text script) } else s
        let after := runScript run (s.isWide && !s.has .stdin) script s
        if after.jump.isSome || !s.has .stdin then after
        else
          let (text, after) := after.readAll 0
          runRead run (text.toOption.getD []) after
      | false, operands =>
        match if s.has .stdin then none else operands.head? with
        | some file =>
          match s.disk.readAt s.cwd (State.path file) with
          | .ok script =>
            let source := { s.source with file := if s.isWide then some file else none }
            runRead run (Octets.ofBytes script) { s with name := file, args := operands.drop 1, source }
          | .error .isADirectory =>
            if dialect = .wide then
              (s.complain (Octets.text file ++ ": " ++ Octets.text file ++ ": Is a directory")).exit 126
            else s
          | .error fault => refuseScriptFile file fault s
        | none =>
          let (text, s) := s.readAll 0
          runRead run (text.toOption.getD []) ({ s with args := operands }.setOption .stdin true)
    finish run (takeSignals run done)

end Shell

end Tangle
