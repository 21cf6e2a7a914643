import Tangle.Shell.Script.Grammar
import Tangle.Shell.Stream
/-!
# The state of running commands

A process has a directory, variables and functions, descriptors and
options of its own; the disk, the streams and the signals under way belong
to the system and are shared (`State`). A command that ends others before
their time leaves a `Jump`, and nothing runs until somebody takes it.
-/

namespace Tangle

namespace Shell

/-- Why the commands that follow do not run. -/
inductive Jump where
  /-- The interpreter ends. -/
  | exit
  /-- The interpreter ends, or the built-in command that was at fault. -/
  | error
  /-- The process is killed. -/
  | killed
  /-- So many loops end. -/
  | leaveLoops (count : Nat)
  /-- The loop around so many others goes on. -/
  | nextRound (count : Nat)
  /-- A function or a script that was included ends. -/
  | leaveFunction
  /-- The commands of the line end that was read last. -/
  | leaveLine
deriving Repr, DecidableEq

/-- The value of a variable. -/
inductive Value where
  /-- A text. -/
  | text (s : Octets)
  /-- Texts by ascending numbers. -/
  | indexed (elements : List (Nat × Octets))
  /-- Texts by names. -/
  | keyed (elements : List (Octets × Octets))
deriving Repr, DecidableEq

/-- The texts of a list by their places. -/
def Value.numbered (texts : List Octets) : Value := .indexed ((List.range texts.length).zip texts)

/-- A variable. -/
structure Variable where
  /-- The value, if it has one. -/
  value : Option Value := none
  /-- Programs receive it. -/
  exported : Bool := false
  /-- It cannot be changed. -/
  constant : Bool := false
  /-- What is assigned is evaluated first. -/
  integer : Bool := false
  /-- The letters of what is assigned become upper case, or lower case. -/
  uppercase : Option Bool := none
  /-- The variable stands for the one whose name is its value. -/
  refers : Bool := false
deriving Repr, DecidableEq

namespace Variable

/-- A variable with a text that programs receive. -/
def received (text : Octets) : Variable := { value := some (.text text), exported := true }

end Variable

/-- What commands refer to in the script that they were read from: the
texts that redirections take. -/
structure Source where
  /-- The texts with their numbers. -/
  texts : List (Nat × Word)
  /-- The line to which the script has been read. -/
  line : Nat
  /-- The file that the script was read from. -/
  file : Option Octets

/-- A function that scripts call. -/
structure Function where
  /-- What it does. -/
  body : Command
  /-- The script that it was read from. -/
  source : Source
  /-- The body as it is written. -/
  text : Octets
  /-- Interpreters that are called receive it. -/
  exported : Bool

/-- The call of a function that is under way. -/
structure Frame where
  /-- The name of the function. -/
  name : Octets
  /-- The file that the function comes from. -/
  file : Option Octets
  /-- The line of the call. -/
  line : Nat

/-- An option of the interpreter. -/
inductive Switch where
  | errexit | noglob | ignoreeof | interactive | monitor | noexec | stdin | xtrace | verbose | vi | emacs
  | noclobber | allexport | notify | nounset | privileged | nolog | debug | pipefail | braceexpand | errtrace
  | functrace | hashall | histexpand | history | interactiveComments | keyword | onecmd | physical | posix
deriving Repr, DecidableEq

namespace Switch

/-- The options of the plain dialect with their names and letters, in the
order in which they are listed. -/
def plain : List (Switch × String × Option Char) :=
  [(errexit, "errexit", some 'e'), (noglob, "noglob", some 'f'), (ignoreeof, "ignoreeof", some 'I'),
   (interactive, "interactive", some 'i'), (monitor, "monitor", some 'm'), (noexec, "noexec", some 'n'),
   (stdin, "stdin", some 's'), (xtrace, "xtrace", some 'x'), (verbose, "verbose", some 'v'),
   (vi, "vi", some 'V'), (emacs, "emacs", some 'E'), (noclobber, "noclobber", some 'C'),
   (allexport, "allexport", some 'a'), (notify, "notify", some 'b'), (nounset, "nounset", some 'u'),
   (privileged, "privileged", some 'p'), (nolog, "nolog", none), (debug, "debug", none)]

/-- The options of the wide dialect. -/
def wide : List (Switch × String × Option Char) :=
  [(allexport, "allexport", some 'a'), (braceexpand, "braceexpand", some 'B'), (emacs, "emacs", none),
   (errexit, "errexit", some 'e'), (errtrace, "errtrace", some 'E'), (functrace, "functrace", some 'T'),
   (hashall, "hashall", some 'h'), (histexpand, "histexpand", some 'H'), (history, "history", none),
   (ignoreeof, "ignoreeof", none), (interactiveComments, "interactive-comments", none),
   (keyword, "keyword", some 'k'), (monitor, "monitor", some 'm'), (noclobber, "noclobber", some 'C'),
   (noexec, "noexec", some 'n'), (noglob, "noglob", some 'f'), (nolog, "nolog", none), (notify, "notify", some 'b'),
   (nounset, "nounset", some 'u'), (onecmd, "onecmd", some 't'), (physical, "physical", some 'P'),
   (pipefail, "pipefail", none), (posix, "posix", none), (privileged, "privileged", some 'p'),
   (verbose, "verbose", some 'v'), (vi, "vi", none), (xtrace, "xtrace", some 'x')]

/-- The options of a dialect. -/
def all : Dialect → List (Switch × String × Option Char)
  | .plain => plain
  | .wide => wide

/-- The options of the wide dialect that are set at the start. -/
def wideStart : List Switch := [braceexpand, hashall, interactiveComments]

/-- The option of a letter. -/
def ofLetter? (dialect : Dialect) (c : Char) : Option Switch :=
  ((all dialect).find? fun e => e.2.2 = some c).map Prod.fst

/-- The option of a name. -/
def ofName? (dialect : Dialect) (name : String) : Option Switch :=
  ((all dialect).find? fun e => e.2.1 = name).map Prod.fst

end Switch

/-- A further option of the wide dialect. -/
inductive Feature where
  /-- Patterns that match nothing vanish. -/
  | nullglob
  /-- Patterns that match nothing are a fault. -/
  | failglob
  /-- Patterns match names that start with a dot. -/
  | dotglob
  /-- Two stars match directories at any depth. -/
  | globstar
  /-- Patterns match names without regard to case. -/
  | nocaseglob
  /-- Patterns in conditions and selections match without regard to case. -/
  | nocasematch
  /-- Patterns may have alternatives. -/
  | extglob
  /-- Aliases are read. -/
  | expandAliases
  /-- The last part of a pipeline is no process of its own. -/
  | lastpipe
  /-- Failures end also the processes whose output becomes part of a word. -/
  | inheritErrexit
  /-- There is a complaint when too many parameters are dropped. -/
  | shiftVerbose
  /-- An option without a meaning here. -/
  | other (name : String)
deriving Repr, DecidableEq

namespace Feature

/-- The names of the features in the order in which they are listed. -/
def names : List String :=
  ["autocd", "assoc_expand_once", "cdable_vars", "cdspell", "checkhash", "checkjobs", "checkwinsize", "cmdhist",
   "compat31", "compat32", "compat40", "compat41", "compat42", "compat43", "compat44", "complete_fullquote",
   "direxpand", "dirspell", "dotglob", "execfail", "expand_aliases", "extdebug", "extglob", "extquote", "failglob",
   "force_fignore", "globasciiranges", "globskipdots", "globstar", "gnu_errfmt", "histappend", "histreedit",
   "histverify", "hostcomplete", "huponexit", "inherit_errexit", "interactive_comments", "lastpipe", "lithist",
   "localvar_inherit", "localvar_unset", "login_shell", "mailwarn", "no_empty_cmd_completion", "nocaseglob",
   "nocasematch", "noexpand_translation", "nullglob", "patsub_replacement", "progcomp", "progcomp_alias",
   "promptvars", "restricted_shell", "shift_verbose", "sourcepath", "varredir_close", "xpg_echo"]

/-- The feature of a name. -/
def ofName (name : String) : Feature :=
  match name with
  | "nullglob" => nullglob
  | "failglob" => failglob
  | "dotglob" => dotglob
  | "globstar" => globstar
  | "nocaseglob" => nocaseglob
  | "nocasematch" => nocasematch
  | "extglob" => extglob
  | "expand_aliases" => expandAliases
  | "lastpipe" => lastpipe
  | "inherit_errexit" => inheritErrexit
  | "shift_verbose" => shiftVerbose
  | name => other name

/-- The features that are set at the start. -/
def start : List Feature :=
  ["checkwinsize", "cmdhist", "complete_fullquote", "extquote", "force_fignore", "globasciiranges", "globskipdots",
   "hostcomplete", "interactive_comments", "patsub_replacement", "progcomp", "promptvars", "sourcepath"].map ofName

end Feature

/-- How a process ended. -/
structure Outcome where
  /-- The status. -/
  status : Nat
  /-- A signal has killed it. -/
  killed : Bool
deriving Repr, DecidableEq

/-- A process beside the one that has started it. -/
structure Job where
  /-- The number among those that were started. -/
  number : Nat
  /-- The number of the process. -/
  process : Nat
  /-- The number of commands that it consists of. -/
  parts : Nat
  /-- Somebody has waited for it. -/
  awaited : Bool
deriving Repr, DecidableEq

/-- What belongs to one process. -/
structure Process where
  /-- The dialect that it understands. -/
  dialect : Dialect
  /-- The current directory. -/
  cwd : Place
  /-- The path by which the current directory was reached. -/
  directory : Octets
  /-- The streams that descriptors lead to. -/
  descriptors : List (Nat × Nat)
  /-- The variables. -/
  bindings : List (Octets × Variable)
  /-- The functions. -/
  functions : List (Octets × Function)
  /-- The aliases. -/
  aliases : List (Octets × Octets)
  /-- The name of the interpreter. -/
  name : Octets
  /-- The positional parameters. -/
  args : List Octets
  /-- The options. -/
  options : List Switch
  /-- Failures do not end the interpreter here. -/
  guarded : Bool
  /-- Nothing is left to be done after the command that is run. -/
  isLast : Bool
  /-- The script that is run. -/
  source : Source
  /-- The line of the command that is run. -/
  line : Nat
  /-- The built-in command in whose name complaints are made. -/
  speaker : Option Octets
  /-- The number of the process. -/
  self : Nat
  /-- The number of the interpreter that it belongs to. -/
  interpreter : Nat
  /-- The number of the process that made the interpreter. -/
  parent : Nat
  /-- What is done on signals, zero being the end. -/
  traps : List (Nat × Octets)
  /-- The variables that the functions under way have made local, with
  what they were before. -/
  scopes : List (List (Octets × Option Variable))
  /-- The loops under way. -/
  loops : Nat
  /-- The processes that it has started beside this one. -/
  jobs : List Job
  /-- The last process that was started beside this one. -/
  lastJob : Option Nat
  /-- The status before the trap that runs. -/
  trapped : Option Nat
  /-- The script that is run is an argument. -/
  isCommandText : Bool
  /-- Lines of the script can be shown as they are read. -/
  showsScript : Bool
  /-- The permission bits that new files do not get. -/
  umask : Nat
  /-- The number of the argument where options are read on. -/
  optionIndex : Nat
  /-- The place in the argument before it, if its letters go on. -/
  optionOffset : Nat
  /-- The programs that were found before. -/
  found : List Octets
  /-- The statuses of the parts of the last pipeline. -/
  statuses : List Nat
  /-- The further options. -/
  features : List Feature
  /-- The calls of functions under way, the innermost first. -/
  calls : List Frame
  /-- A script is included that can be left like a function. -/
  included : Bool
  /-- The number of processes of its own around this one. -/
  subshells : Nat
  /-- The number of scripts around the one that runs, in words or commands. -/
  indirection : Nat
  /-- The directories that were left to come back to. -/
  directories : List Octets
  /-- The last word of the last simple command. -/
  lastWord : Octets
  /-- The built-in commands that are not to be called. -/
  disabled : List Octets

/-- A process that has not run yet. -/
structure Task where
  /-- Its number. -/
  id : Nat
  /-- The time when it starts. -/
  start : Nat
  /-- What it runs. -/
  body : Command
  /-- What belongs to it. -/
  process : Process

/-- What all processes share. -/
structure System where
  /-- The disk. -/
  disk : Node
  /-- The streams. -/
  streams : Array Stream
  /-- The number of the next process. -/
  nextProcess : Nat
  /-- The signals that were sent to processes and not taken yet. -/
  signals : List (Nat × Nat)
  /-- The processes that have not run yet. -/
  waiting : List Task
  /-- How processes beside others have ended. -/
  outcomes : List (Nat × Outcome)
  /-- The time that has passed, in milliseconds. -/
  clock : Nat

/-- The state of an interpreter. -/
structure State extends Process, System where
  /-- The status of the last command. -/
  status : Nat
  /-- Why nothing runs now. -/
  jump : Option Jump
  /-- Why the last command could not write. -/
  writeFault : Option Fault
  /-- The status of the last commands whose output became part of a word. -/
  outputStatus : Nat

/-- An association with the value of one key set. -/
def setKey {κ α : Type} [DecidableEq κ] (key : κ) (value : α) : List (κ × α) → List (κ × α)
  | [] => [(key, value)]
  | e :: es => if e.1 = key then (key, value) :: es else e :: setKey key value es

/-- An association without one key. -/
def dropKey {κ α : Type} [DecidableEq κ] (key : κ) (es : List (κ × α)) : List (κ × α) :=
  es.filter fun e => e.1 ≠ key

namespace State

/-- The feature is set. -/
def hasFeature (f : Feature) (s : State) : Bool := s.features.contains f

/-- The interpreter understands the wide dialect. -/
def isWide (s : State) : Bool := s.dialect = .wide

/-- The option is set. -/
def has (o : Switch) (s : State) : Bool := s.options.contains o

/-- Sets or unsets an option. -/
def setOption (o : Switch) (value : Bool) (s : State) : State :=
  let others := s.options.filter (· ≠ o)
  { s with options := if value then others ++ [o] else others }

/-- The state after a command that ended with `status`. -/
def ended (status : Nat) (s : State) : State := { s with status }

/-- The interpreter ends with `status`. -/
def exit (status : Nat) (s : State) : State := { s with status, jump := some .exit }

/-! ## Streams -/

/-- The stream that a descriptor leads to. -/
def stream? (descriptor : Nat) (s : State) : Option Stream :=
  (s.descriptors.lookup descriptor).bind fun i => s.streams[i]?

/-- Changes the stream that a descriptor leads to. -/
def modifyStream (descriptor : Nat) (f : Stream → Stream) (s : State) : State :=
  match s.descriptors.lookup descriptor with
  | some i => { s with streams := s.streams.modify i f }
  | none => s

/-- Lets a descriptor lead to a new stream. -/
def attach (descriptor : Nat) (st : Stream) (s : State) : State :=
  { s with
    streams := s.streams.push st
    descriptors := setKey descriptor s.streams.size s.descriptors }

/-- Closes a descriptor. -/
def detach (descriptor : Nat) (s : State) : State :=
  { s with descriptors := dropKey descriptor s.descriptors }

/-- The time, in nanoseconds since the start of 1970. It is later than the
time at which the first files were made. -/
def now (s : State) : Int := Attributes.firstChange + 1000000000 + s.clock * 1000000

/-- The disk with the bytes of a file changed now. -/
def editFile (f : Bytes → Bytes) (place : Place) (s : State) : State :=
  { s with disk := s.disk.modify (fun
    | .file content a => .file (f content) { a with modified := s.now }
    | n => n) place }

/-- Changes a stream. -/
def modifyStreamAt (index : Nat) (f : Stream → Stream) (s : State) : State :=
  { s with streams := s.streams.modify index f }

/-- Writes to a stream. What cannot be written is noted. -/
def writeStream (index : Nat) (text : Octets) (s : State) : State :=
  let failed (fault : Fault) : State := { s with writeFault := some fault }
  match s.streams[index]? with
  | none => failed .badDescriptor
  | some st =>
    if text.isEmpty then s
    else if !st.writes then failed .badDescriptor
    else
      let moved (s : State) : State :=
        s.modifyStreamAt index fun st => { st with position := st.position + text.length }
      match st.target with
      | .text | .kept => s.modifyStreamAt index (Stream.extended text)
      | .again i =>
        moved (s.modifyStreamAt i (Stream.changed (if st.appends then none else some st.position) text))
      | .file place =>
        let bytes := Octets.toBytes text
        if st.appends then s.editFile (· ++ bytes) place
        else moved (s.editFile (overwritten 0 st.position bytes) place)
      | .device .full => failed .deviceFull
      | _ => s

/-- Writes to a descriptor. What cannot be written is noted. -/
def write (descriptor : Nat) (text : Octets) (s : State) : State :=
  if text.isEmpty then s
  else
    match s.descriptors.lookup descriptor with
    | none => { s with writeFault := some .badDescriptor }
    | some index => s.writeStream index text

/-- Writes to standard output. -/
def print (text : Octets) (s : State) : State := s.write 1 text

/-- Writes a line to standard error. -/
def complain (message : String) (s : State) : State :=
  { s.write 2 (Octets.ofString (message ++ "\n")) with writeFault := s.writeFault }

/-- What complaints of the interpreter start with: its name, or in the wide
dialect the file that the commands come from. -/
def origin (s : State) : String :=
  let speaker := match s.speaker with
    | some name => Octets.text name ++ ": "
    | none => ""
  let file := s.source.file.getD (if s.calls.isEmpty then s.name else "environment".toList)
  if s.isWide then Octets.text file ++ ": line " ++ toString s.line ++ ": " ++ speaker
  else Octets.text s.name ++ ": " ++ toString s.line ++ ": " ++ speaker

/-- Writes a complaint of the interpreter itself, with its name and the
line. -/
def complainHere (message : String) (s : State) : State :=
  s.complain (s.origin ++ message)

/-- The interpreter ends with a complaint, or the built-in command that is
at fault. -/
def abort (message : String) (s : State) : State :=
  { s.complainHere message with status := if s.isWide then 1 else 2, jump := some .error }

/-- The zeros that are read at most at once where there is no end of
them. -/
def zeroCount : Nat := 65536

/-- What can be read from a stream. -/
def readableAt (stream : Nat) (s : State) : Except Fault Octets :=
  match s.streams[stream]? with
  | none => .error .badDescriptor
  | some st =>
    if !st.reads then .error .badDescriptor
    else
      match st.target with
      | .text => .ok st.text
      | .kept => .ok []
      | .again i => .ok (((s.streams[i]?.map Stream.text).getD []).drop st.position)
      | .file place =>
        match s.disk.get? place with
        | some node => .ok (Octets.ofBytes ((node.content?.getD []).drop st.position))
        | none => .ok []
      | .directory => .error .isADirectory
      | .device .zero => .ok (List.replicate zeroCount '\x00')
      | .device _ => .ok []

/-- Uses up so many characters of a stream. -/
def consumeAt (stream count : Nat) (s : State) : State :=
  s.modifyStreamAt stream fun st =>
    match st.target with
    | .text => { st with unread := st.text.drop count, written := [] }
    | _ => { st with position := st.position + count }

/-- Uses up all that can be read from a stream. -/
def readStream (stream : Nat) (s : State) : Except Fault Octets × State :=
  match s.readableAt stream with
  | .ok text => (.ok text, s.consumeAt stream text.length)
  | .error fault => (.error fault, s)

/-- What can be read from a descriptor. -/
def readable (descriptor : Nat) (s : State) : Except Fault Octets :=
  match s.descriptors.lookup descriptor with
  | some stream => s.readableAt stream
  | none => .error .badDescriptor

/-- Uses up so many characters of a descriptor. -/
def consume (descriptor count : Nat) (s : State) : State :=
  match s.descriptors.lookup descriptor with
  | some stream => s.consumeAt stream count
  | none => s

/-- Uses up all that can be read from a descriptor. -/
def readAll (descriptor : Nat) (s : State) : Except Fault Octets × State :=
  match s.descriptors.lookup descriptor with
  | some stream => s.readStream stream
  | none => (.error .badDescriptor, s)

/-- Lets others read so many of the octets again that were read last, if
they come from a file. -/
def giveBack (descriptor count : Nat) (s : State) : State :=
  s.modifyStream descriptor fun st =>
    match st.target with
    | .file _ => { st with position := st.position - count }
    | _ => st

/-- Lets others read a text again that was read last, if it comes from no
file. -/
def putBack (descriptor : Nat) (text : Octets) (s : State) : State :=
  s.modifyStream descriptor fun st =>
    match st.target with
    | .text => { st with unread := text ++ st.text, written := [] }
    | .again _ => { st with position := st.position - text.length }
    | _ => st

/-- Standard input leads to a file. -/
def readsFile (s : State) : Bool :=
  match s.stream? 0 with
  | some st =>
    match st.target with
    | .file _ => true
    | _ => false
  | none => false

/-- The text that was written to a stream and not read. -/
def textOf (stream : Nat) (s : State) : Octets := (s.streams[stream]?.map Stream.text).getD []

/-! ## Variables -/

/-- A variable without a value. -/
def noVariable : Variable := {}

/-- The depth to which variables may stand for each other. -/
def referenceDepth : Nat := 8

/-- The name of the variable that a name stands for in the end. -/
def resolve (s : State) (name : Octets) : Octets :=
  if s.isWide then go referenceDepth name else name
where
  /-- Follows references. -/
  go : Nat → Octets → Octets
    | 0, name => name
    | depth + 1, name =>
      match s.bindings.lookup name with
      | some ⟨some (.text target), _, _, _, _, true⟩ => go depth target
      | _ => name

/-- The file of the script around all calls of functions, if it has one. -/
def outermostFile (s : State) : Option Octets :=
  match s.calls.getLast? with
  | some call => call.file
  | none => s.source.file

/-- The value of a variable that the interpreter of the wide dialect keeps
itself. -/
def ownValue? (s : State) (name : Octets) : Option Value :=
  let natural (n : Nat) : Option Value := some (.text (toString n).toList)
  let listed (names : List String) : Option Value := some (.text (String.intercalate ":" names).toList)
  match String.ofList name with
  | "LINENO" => natural s.line
  | "SECONDS" => natural (s.clock / 1000)
  | "BASHPID" => natural s.self
  | "BASH_SUBSHELL" => natural s.subshells
  | "RANDOM" => natural ((s.nextProcess * 7919 + s.clock) % 32768)
  | "_" => some (.text s.lastWord)
  | "SHELLOPTS" => listed (((Switch.all s.dialect).filter fun o => s.has o.1).map fun o => o.2.1)
  | "BASHOPTS" => listed (Feature.names.filter fun n => s.hasFeature (Feature.ofName n))
  | "PIPESTATUS" => some (.numbered (s.statuses.map fun n => (toString n).toList))
  | "DIRSTACK" => some (.numbered (s.directory :: s.directories))
  | "FUNCNAME" =>
    if s.calls.isEmpty then none
    else some (.numbered (s.calls.map Frame.name ++ s.outermostFile.toList.map fun _ => "main".toList))
  | "BASH_SOURCE" =>
    some (.numbered (s.calls.map (fun c => c.file.getD "environment".toList) ++ s.outermostFile.toList))
  | "BASH_LINENO" =>
    some (.numbered (s.calls.map (fun c => (toString c.line).toList) ++ s.outermostFile.toList.map fun _ => ['0']))
  | _ => none

/-- The variable of a name. -/
def lookupVariable (s : State) (name : Octets) : Variable :=
  match s.bindings.lookup (s.resolve name) with
  | some v => v
  | none => { value := if s.isWide then s.ownValue? name else none }

/-- The value of a variable as a text. -/
def value? (s : State) (name : Octets) : Option Octets :=
  match (s.lookupVariable name).value with
  | none => none
  | some (.text v) => some v
  | some (.indexed es) => es.lookup 0
  | some (.keyed es) => es.lookup ['0']

/-- Sets a variable, whatever it was. -/
def putVariable (name : Octets) (v : Variable) (s : State) : State :=
  { s with bindings := setKey (s.resolve name) v s.bindings }

/-- Complains that a variable cannot be changed. -/
def refuseChange (name : Octets) (s : State) : State :=
  if s.isWide then { { s with speaker := none }.abort (Octets.text name ++ ": readonly variable") with speaker := s.speaker }
  else s.abort (Octets.text name ++ ": is read only")

/-- The texts of a value changed by a function. -/
def mapTexts (f : Octets → Octets) : Value → Value
  | .text t => .text (f t)
  | .indexed es => .indexed (es.map fun e => (e.1, f e.2))
  | .keyed es => .keyed (es.map fun e => (e.1, f e.2))

/-- Gives a variable a value. -/
def setValue (name : Octets) (value : Value) (s : State) : State :=
  let v := s.lookupVariable name
  if v.constant then s.refuseChange name
  else
    let value := match v.uppercase with
      | none => value
      | some upper => mapTexts (fun t => t.map fun c => if upper then c.toUpper else c.toLower) value
    let s := s.putVariable name { v with value := some value, exported := v.exported || s.has .allexport }
    match name == "OPTIND".toList, value with
    | true, .text t => { s with optionIndex := max 1 ((Octets.nat? t).getD 1), optionOffset := 0 }
    | _, _ => if name = "PATH".toList then { s with found := [] } else s

/-- Makes programs receive a variable. -/
def markExported (name : Octets) (s : State) : State :=
  s.putVariable name { s.lookupVariable name with exported := true }

/-- Makes a variable one that cannot be changed. -/
def markConstant (name : Octets) (s : State) : State :=
  s.putVariable name { s.lookupVariable name with constant := true }

/-- Removes a variable. -/
def unset (name : Octets) (s : State) : State :=
  if (s.lookupVariable name).constant then
    s.abort (Octets.text name ++ if s.isWide then ": cannot unset: readonly variable" else ": is read only")
  else { s with bindings := dropKey (s.resolve name) s.bindings }

/-- Makes a variable local to the innermost scope. -/
def makeLocal (name : Octets) (s : State) : State :=
  match s.scopes with
  | [] => s
  | scope :: outer =>
    if (scope.lookup name).isSome then s
    else { s with scopes := ((name, s.bindings.lookup name) :: scope) :: outer }

/-- Makes a variable local to the innermost scope; a new one has no value. -/
def makeFreshLocal (name : Octets) (s : State) : State :=
  match s.scopes with
  | [] => s
  | scope :: _ =>
    if (scope.lookup name).isSome then s
    else
      let s := s.makeLocal name
      { s with bindings := dropKey name s.bindings }

/-- Opens a scope. -/
def openScope (s : State) : State := { s with scopes := [] :: s.scopes }

/-- Closes the innermost scope: its variables are again what they were. -/
def closeScope (s : State) : State :=
  match s.scopes with
  | [] => s
  | scope :: outer =>
    { s with
      scopes := outer
      bindings := scope.foldl (fun vs (name, former) =>
        match former with
        | some v => setKey name v vs
        | none => dropKey name vs) s.bindings }

/-- The separators of fields. -/
def separators (s : State) : Octets := (s.value? "IFS".toList).getD " \t\n".toList

/-! ## Files -/

/-- The path of octets. -/
def path (text : Octets) : Path := ⟨Octets.text text⟩

/-- What a path denotes. -/
def lookup (s : State) (path : Path) : Except Fault Node := s.disk.lookup s.cwd path

/-- What lies at a path; a link is its own entry. -/
def lookupEntry (s : State) (path : Path) : Except Fault Node := s.disk.lookupEntry s.cwd path

/-- A place as octets. -/
def placeOctets (place : Place) : Octets := Octets.ofString ("/" ++ String.intercalate "/" place)

/-- The permission bits of a new file. -/
def newFileMode (s : State) : Nat := 0o666 &&& (0o777 - s.umask)

/-- Opens a file for writing. -/
def openFile (path : Path) (mode : WriteMode) (s : State) : Except Fault Place × State :=
  let isNew := (s.lookup path).toOption.isNone
  match Node.openFile s.cwd path mode s.disk with
  | (.ok place, disk) =>
    let s := { s with disk }
    if isNew || mode = .truncate then
      (.ok place, { s with disk := s.disk.modify (Node.withAttributes fun a =>
        { a with mode := if isNew then s.newFileMode else a.mode, modified := s.now }) place })
    else (.ok place, s)
  | (.error fault, disk) => (.error fault, { s with disk })

/-- How a file is opened. -/
structure Opening where
  /-- For reading. -/
  reads : Bool
  /-- For writing, in this mode. -/
  writes : Option WriteMode
  /-- Whatever is written goes to the end. -/
  appends : Bool

namespace Opening

/-- For reading. -/
def forReading : Opening := ⟨true, none, false⟩

/-- For writing. -/
def forWriting (mode : WriteMode) : Opening := ⟨false, some mode, mode = .append⟩

/-- For reading and writing what is there. -/
def forUpdate : Opening := ⟨true, some .append, false⟩

/-- A stream that was opened so. -/
def stream (o : Opening) (target : Target) : Stream := Stream.start target o.appends o.reads o.writes.isSome

end Opening

/-- Adds a stream; the first value is its number. -/
def addStream (st : Stream) (s : State) : Nat × State :=
  (s.streams.size, { s with streams := s.streams.push st })

/-- Opens again what a descriptor leads to; the first value is the number
of the stream. A text that is no file is one for all who open it. -/
def openAgain (descriptor : Nat) (o : Opening) (s : State) : Except Fault Nat × State :=
  match s.descriptors.lookup descriptor with
  | none => (.error .notFound, s)
  | some index =>
    let added (target : Target) (s : State) : Except Fault Nat × State :=
      let (n, s) := s.addStream (o.stream target)
      (.ok n, s)
    let truncates := o.writes = some .truncate
    match s.streams[index]?.map Stream.target with
    | some (.file place) => added (.file place) (if truncates then s.editFile (fun _ => []) place else s)
    | some (.device d) => added (.device d) s
    | some .kept => added (.again index) (if truncates then s.modifyStreamAt index Stream.emptied else s)
    | some (.again i) => added (.again i) (if truncates then s.modifyStreamAt i Stream.emptied else s)
    | _ => (.ok index, s)

/-- Opens a path; the first value is the number of the stream. -/
def openStream (path : Path) (o : Opening) (s : State) : Except Fault Nat × State :=
  let opened : Except Fault Place × State := match o.writes with
    | some mode => s.openFile path mode
    | none => (do
        let found ← s.disk.find s.cwd path
        let _ ← found.existing
        return found.place, s)
  match opened with
  | (.error fault, s) => (.error fault, s)
  | (.ok place, s) =>
    let added (st : Stream) : Except Fault Nat × State :=
      let (n, s) := s.addStream st
      (.ok n, s)
    match s.disk.get? place with
    | some (.device (.descriptor n)) => s.openAgain n o
    | some (.device d) => added (o.stream (.device d))
    | some (.directory _ _) => added Stream.ofDirectory
    | _ => added (o.stream (.file place))

/-- What an isolated run leaves of the state `s`: what is shared, and the
status. A jump ends with the run. -/
def afterIsolated (s run : State) : State :=
  { s with toSystem := run.toSystem, status := run.status }

end State

/-- What a fault of a file is called in complaints. -/
def faultText : Fault → String
  | .notFound => "No such file or directory"
  | .permissionDenied => "Permission denied"
  | .alreadyExists => "File exists"
  | .notADirectory => "Not a directory"
  | .isADirectory => "Is a directory"
  | .nameTooLong => "File name too long"
  | .tooManyLinks => "Too many levels of symbolic links"
  | .notExecutable => "Exec format error"
  | .argumentsTooLong => "Argument list too long"
  | .deviceFull => "No space left on device"
  | .invalidArgument => "Invalid argument"
  | .badDescriptor => "Bad file descriptor"
  | .notEmpty => "Directory not empty"
  | .notPermitted => "Operation not permitted"
  | .busy => "Device or resource busy"
  | fault => fault.message

end Shell

end Tangle
