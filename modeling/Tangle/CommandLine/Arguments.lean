import Tangle.Config
import Tangle.Path
/-!
# Command line arguments

How arguments are read (`CommandLine.read`): options that are allowed
everywhere, a command, and the options and operands of that command. Short
options can be put together and a value can be attached to its option.
Anything else is refused as a whole, so there is only one refusal.
-/

namespace Tangle

namespace CommandLine

/-- What is to be done. -/
inductive Command where
  /-- Tangle documents, or those that the configuration selects. -/
  | tangle (preview quiet : Bool) (documents : List Path)
  /-- Print the program of a document. -/
  | extract (document : Path)
  /-- Print the configuration. -/
  | config
  /-- Write a configuration file to begin with. -/
  | init
deriving Repr, DecidableEq

/-- A request that arguments make. -/
structure Request where
  /-- The configuration file to read. -/
  configFile : Option Path
  /-- The base directory. -/
  directory : Option Path
  /-- The mode, whatever is configured. -/
  mode : Option Mode
  /-- What is to be done. -/
  command : Command
deriving Repr, DecidableEq

/-- The outcome of reading arguments. -/
inductive Reading where
  /-- A request. -/
  | request (r : Request)
  /-- The version is asked for. -/
  | version
  /-- The arguments are refused. -/
  | refused
deriving Repr, DecidableEq

/-- An option. -/
inductive Switch where
  | config | directory | verbose | mode | version | preview | quiet
deriving Repr, DecidableEq

/-- The option is followed by a value. -/
def Switch.takesValue : Switch → Bool
  | .config | .directory | .mode => true
  | _ => false

/-- The name of a command. -/
inductive CommandName where
  | tangle | extract | config | init
deriving Repr, DecidableEq

/-- The command with a name. -/
def CommandName.ofString? : String → Option CommandName
  | "tangle" => some .tangle
  | "extract" => some .extract
  | "config" => some .config
  | "init" => some .init
  | _ => none

/-- The options that are allowed after a command, or before any, with their
short and long names. -/
def switches (command : Option CommandName) : List (Char × String × Switch) :=
  [('c', "config", .config), ('C', "directory", .directory), ('v', "verbose", .verbose), ('m', "mode", .mode)]
    ++ match command with
      | none => [('V', "version", .version)]
      | some .tangle => [('n', "dry-run", .preview), ('q', "quiet", .quiet)]
      | some _ => []

/-- The option with a short name. -/
def short? (command : Option CommandName) (c : Char) : Option Switch :=
  (switches command).lookup c |>.map Prod.snd

/-- The option with a long name. -/
def long? (command : Option CommandName) (name : String) : Option Switch :=
  ((switches command).map Prod.snd).lookup name

/-- What has been read on one side of the command. -/
structure Draft where
  /-- The configuration file. -/
  configFile : Option Path
  /-- The base directory. -/
  directory : Option Path
  /-- The mode. -/
  mode : Option Mode
  /-- More is to be logged. -/
  verbose : Bool
  /-- The blocks are only to be shown. -/
  preview : Bool
  /-- No summary is wanted. -/
  quiet : Bool
  /-- The operands. -/
  operands : List Path
deriving Repr, DecidableEq

/-- Nothing has been read. -/
def Draft.empty : Draft := ⟨none, none, none, false, false, false, []⟩

/-- Why reading ends before the end. -/
inductive Stop where
  /-- The version is asked for. -/
  | version
  /-- The arguments are refused. -/
  | refused
deriving Repr, DecidableEq

/-- A path that an argument gives; it must not be empty. -/
def path? (s : String) : Option Path :=
  if s.isEmpty then none else some ⟨s⟩

/-- A setting that is given once. -/
def once {α : Type} (former new : Option α) : Except Stop (Option α) :=
  match former, new with
  | none, some a => .ok (some a)
  | _, _ => .error .refused

/-- A flag that is given once. -/
def flagOnce (former : Bool) : Except Stop Bool :=
  if former then .error .refused else .ok true

/-- Sets an option without a value. -/
def Draft.setFlag (d : Draft) : Switch → Except Stop Draft
  | .verbose => do return { d with verbose := ← flagOnce d.verbose }
  | .preview => do return { d with preview := ← flagOnce d.preview }
  | .quiet => do return { d with quiet := ← flagOnce d.quiet }
  | .version => .error .version
  | _ => .error .refused

/-- Sets an option with a value. -/
def Draft.setValue (d : Draft) (value : String) : Switch → Except Stop Draft
  | .config => do return { d with configFile := ← once d.configFile (path? value) }
  | .directory => do return { d with directory := ← once d.directory (path? value) }
  | .mode => do return { d with mode := ← once d.mode (Mode.ofName? value) }
  | _ => .error .refused

/-- Adds an operand, if the command takes one more. -/
def Draft.addOperand (d : Draft) (command : Option CommandName) (s : String) : Except Stop Draft :=
  let room := match command with
    | some .tangle => true
    | some .extract => d.operands.isEmpty
    | _ => false
  match if room then path? s else none with
  | some p => .ok { d with operands := d.operands ++ [p] }
  | none => .error .refused

/-- Adds operands. -/
def Draft.addOperands (command : Option CommandName) : List String → Draft → Except Stop Draft
  | [], d => .ok d
  | s :: rest, d => do Draft.addOperands command rest (← d.addOperand command s)

/-- Reads short options that are put together. The second value is the
option whose value is the next argument. -/
def Draft.readCluster (command : Option CommandName) : List Char → Draft → Except Stop (Draft × Option Switch)
  | [], d => .ok (d, none)
  | c :: rest, d =>
    match short? command c with
    | none => .error .refused
    | some switch =>
      if switch.takesValue then
        match rest with
        | [] => .ok (d, some switch)
        | '=' :: value => do return (← d.setValue (String.ofList value) switch, none)
        | value => do return (← d.setValue (String.ofList value) switch, none)
      else do Draft.readCluster command rest (← d.setFlag switch)

/-- Reads a long option, without its dashes. The second value is the option
whose value is the next argument. -/
def Draft.readLong (command : Option CommandName) (s : List Char) (d : Draft) :
    Except Stop (Draft × Option Switch) :=
  match long? command (String.ofList (s.takeWhile (· ≠ '='))), s.dropWhile (· ≠ '=') with
  | none, _ => .error .refused
  | some switch, [] =>
    if switch.takesValue then .ok (d, some switch) else do return (← d.setFlag switch, none)
  | some switch, _ :: value =>
    if switch.takesValue then do return (← d.setValue (String.ofList value) switch, none) else .error .refused

/-- The argument starts with a dash and more. -/
def isOption (s : String) : Bool := s.toList.head? = some '-' && s ≠ "-"

/-- Reads arguments up to a command if none has come yet, else all of
them. The second value is the command with the arguments after it. -/
def Draft.read (command : Option CommandName) :
    List String → Option Switch → Draft → Except Stop (Draft × Option (CommandName × List String))
  | [], none, d => .ok (d, none)
  | [], some _, _ => .error .refused
  | s :: rest, some switch, d =>
    if isOption s then .error .refused else do Draft.read command rest none (← d.setValue s switch)
  | s :: rest, none, d =>
    match s.toList with
    | ['-', '-'] => do return (← d.addOperands command rest, none)
    | '-' :: '-' :: name => do
      let (d, pending) ← d.readLong command name
      Draft.read command rest pending d
    | '-' :: c :: letters => do
      let (d, pending) ← d.readCluster command (c :: letters)
      Draft.read command rest pending d
    | _ =>
      match command with
      | some _ => do Draft.read command rest none (← d.addOperand command s)
      | none =>
        match CommandName.ofString? s with
        | some name => .ok (d, some (name, rest))
        | none => .error .refused

/-- The command that a name and what was read after it make. -/
def command? (name : CommandName) (d : Draft) : Except Stop Command :=
  match name, d.operands with
  | .tangle, operands => .ok (.tangle d.preview d.quiet operands)
  | .extract, [document] => .ok (.extract document)
  | .extract, _ => .error .refused
  | .config, _ => .ok .config
  | .init, _ => .ok .init

/-- Reads arguments. What is given after the command counts more than what
is given before it. -/
def read? (args : List String) : Except Stop Request := do
  let (front, found) ← Draft.read none args none .empty
  match found with
  | none => throw .refused
  | some (name, rest) =>
    let (back, _) ← Draft.read (some name) rest none .empty
    let command ← command? name back
    return ⟨back.configFile.or front.configFile, back.directory.or front.directory,
      back.mode.or front.mode, command⟩

/-- Reads arguments. -/
def read (args : List String) : Reading :=
  match read? args with
  | .ok r => .request r
  | .error .version => .version
  | .error .refused => .refused

end CommandLine

end Tangle
