import Tangle.Shell.Builtin.Basic
import Tangle.Shell.Process
import Tangle.Shell.Permission
/-!
# Commands on processes

The built-in commands that end loops, functions and the interpreter, send
signals and say what is done on them, and limit what a process may do.
-/

namespace Tangle

namespace Shell

namespace Builtin

/-- Ends the interpreter. -/
def exit : Builtin := fun args s =>
  let args := if s.isWide && args.head? = some ['-', '-'] then args.drop 1 else args
  if s.isWide then
    match args with
    | [] => s.exit (s.trapped.getD s.status)
    | first :: rest =>
      match wideCount first with
      | .error problem => (s.complainHere problem).exit 2
      | .ok n =>
        if !rest.isEmpty then { fail 1 "too many arguments" s with jump := some .leaveLine }
        else s.exit (n.emod 256).toNat
  else
    match args.head?.map count with
    | none => s.exit (s.trapped.getD s.status)
    | some (.ok status) => s.exit status
    | some (.error problem) => s.abort problem

/-- Ends a function, or a script that is included. -/
def leave : Builtin := fun args s =>
  let args := if s.isWide && args.head? = some ['-', '-'] then args.drop 1 else args
  let leaving (status : Nat) (s : State) : State := { s with status, jump := some .leaveFunction }
  if s.isWide then
    if s.calls.isEmpty && !s.included then fail 2 "can only \x60return' from a function or sourced script" s
    else
      match args with
      | [] => leaving s.status s
      | first :: rest =>
        match wideCount first with
        | .error problem => leaving 2 (s.complainHere problem)
        | .ok n =>
          if !rest.isEmpty then { fail 1 "too many arguments" s with jump := some .leaveLine }
          else leaving (n.emod 256).toNat s
  else
    match (args.head?.map count).getD (.ok s.status) with
    | .ok status => leaving status s
    | .error problem => s.abort problem

/-- Tells where the function that runs was called, or the one around so many
others. -/
def caller : Builtin := fun args s =>
  let s := s.ended 0
  let file (n : Nat) : Option Octets := match s.calls[n]? with
    | some call => some (call.file.getD "environment".toList)
    | none => if n = s.calls.length then s.outermostFile else none
  match args with
  | [] =>
    match s.calls with
    | [] => s.ended 1
    | call :: _ => s.print ((toString call.line).toList ++ [' '] ++ (file 1).getD "NULL".toList ++ ['\n'])
  | o :: _ =>
    match Octets.nat? o with
    | none => showSynopsis (fail 1 (Octets.text o ++ ": invalid number") s)
    | some n =>
      match s.calls[n]?, file (n + 1) with
      | some call, some file =>
        let around := (s.calls[n + 1]?.map Frame.name).getD "main".toList
        s.print ((toString call.line).toList ++ [' '] ++ around ++ [' '] ++ file ++ ['\n'])
      | _, _ => s.ended 1

/-- Ends loops, or goes on with one; there are no more than those under
way. -/
def loopJump (jump : Nat → Jump) : Builtin := fun args s =>
  let jumping (n : Nat) : State :=
    { s with status := 0, jump := if s.loops = 0 then none else some (jump (min n s.loops)) }
  if s.isWide then
    if s.loops = 0 then
      (s.complainHere "only meaningful in a \x60for', \x60while', or \x60until' loop").ended 0
    else
      match (args.head?.map wideCount).getD (.ok 1) with
      | .error problem => (s.complainHere problem).exit 128
      | .ok n =>
        if n ≤ 0 then { fail 1 (toString n ++ ": loop count out of range") s with jump := some (.leaveLoops s.loops) }
        else if 1 < args.length then { fail 1 "too many arguments" s with jump := some .leaveLine }
        else jumping n.toNat
  else
    match (args.head?.map count).getD (.ok 1) with
    | .ok (n + 1) => jumping (n + 1)
    | .ok 0 => s.abort ("Illegal number: " ++ Octets.text (args.head?.getD []))
    | .error problem => s.abort problem

/-! ## Signals -/

/-- The name of a signal without what the wide dialect may put in front. -/
def signalName (s : State) (name : Octets) : Octets :=
  if s.isWide && ['S', 'I', 'G'].isPrefixOf (name.map Char.toUpper) then name.drop 3 else name

/-- The events that count as signals in traps of the wide dialect. -/
def events : List (Nat × String) := [(65, "DEBUG"), (66, "ERR"), (67, "RETURN")]

/-- The number of what a trap is set for. -/
def trapped? (s : State) (name : Octets) : Option Nat :=
  match if s.isWide then events.find? fun e => e.2.toList = name.map Char.toUpper else none with
  | some e => some e.1
  | none => Signal.number? (signalName s name)

/-- What a trap is set for, as it is listed. -/
def trapName (s : State) (n : Nat) : String :=
  match events.lookup n with
  | some name => name
  | none => if s.isWide && n ≠ 0 then "SIG" ++ Signal.nameOf n else Signal.nameOf n

/-- Lists traps, of certain signals or all. -/
def listTraps (only : List Nat) (s : State) : State :=
  let rows := s.traps.mergeSort fun a b => a.1 ≤ b.1
  let rows := if only.isEmpty then rows else only.flatMap fun n => rows.filter fun r => r.1 = n
  s.print (rows.flatMap fun (n, commands) =>
    "trap -- ".toList ++ (if s.isWide then Quoting.single commands else quoted commands)
      ++ (" " ++ trapName s n ++ "\n").toList)

/-- The signals as the wide dialect lists them: five in a row. -/
def signalTable : Octets :=
  let listed := Signal.all.filter fun g => g.number ≠ 32 && g.number ≠ 33
  ((listed.zip (List.range listed.length)).map fun (g, i) =>
    let front := if g.number < 10 then " " else ""
    let ending := if i % 5 = 4 || i + 1 = listed.length then "\n" else "\t"
    (front ++ toString g.number ++ ") SIG" ++ g.name ++ ending).toList).flatten

/-- Says what is done on signals, or lists it. -/
def trap : Builtin := fun args s =>
  match if s.isWide then options "lp" (optionSteps args) args
    else .ok ([], if args.head? = some ['-', '-'] then args.drop 1 else args) with
  | .error flaw => refuseOptions flaw s
  | .ok (given, args) =>
    if has given 'l' then (s.ended 0).print signalTable
    else
      let refuse (name : Octets) (s : State) : State :=
        if s.isWide then fail 1 (Octets.text name ++ ": invalid signal specification") s
        else (s.complain ("trap: " ++ Octets.text name ++ ": bad trap")).ended 1
      match args with
      | [] => listTraps [] (s.ended 0)
      | first :: rest =>
        if has given 'p' then listTraps (args.filterMap (trapped? s)) (s.ended 0)
        else
          let isNumber := (Octets.nat? first).any (· ≤ 64)
          let (action, signals) : Option Octets × List Octets :=
            if rest.isEmpty || isNumber then (none, args)
            else (if first = ['-'] then none else some first, rest)
          signals.foldl (fun s name =>
            if s.status ≠ 0 then s
            else
              match trapped? s name with
              | none => refuse name s
              | some n =>
                { s with traps := match action with
                  | some commands => setKey n commands s.traps
                  | none => dropKey n s.traps }) (s.ended 0)

/-- How `kill` is used. -/
def killUsage : String :=
  "Usage: kill [-s sigspec | -signum | -sigspec] [pid | job]... or\nkill -l [exitstatus]"

/-- The number of a signal that can be sent. -/
def sentSignal? (s : State) (name : Octets) : Option Nat :=
  let name := signalName s name
  match Octets.nat? name with
  | some n => if n ≤ 64 then some n else none
  | none => if name.map Char.toUpper = "EXIT".toList then none else Signal.number? name

/-- The process is there, so that signals can be sent to it. -/
def isRunning (s : State) (id : Nat) : Bool :=
  id = s.self || id = s.interpreter || id = s.parent || id = 1 || s.waiting.any fun t => t.id = id

/-- Sends a signal to processes. -/
def sendAll (signal : Nat) (operands : List Octets) (s : State) : State :=
  operands.foldl (fun s o =>
    if s.jump.isSome then s
    else if o.head? = some '%' then
      match s.jobOf o with
      | .ok j => if s.isWide then send j.process s else fail 1 "No such process\n" s
      | .error problem => if s.isWide then fail 1 (Octets.text o ++ ": no such job") s else s.abort problem
    else
      match count (if o.head? = some '-' then o.drop 1 else o) with
      | .ok id => send (if o.head? = some '-' && id ≠ s.self then 0 else if id = 0 then s.interpreter else id) s
      | .error problem =>
        if s.isWide then fail 1 (Octets.text o ++ ": arguments must be process or job IDs") s else s.abort problem)
    (s.ended 0)
where
  /-- Sends the signal to one process. -/
  send (id : Nat) (s : State) : State :=
    if isRunning s id then (if signal = 0 then s else { s with signals := s.signals ++ [(id, signal)] })
    else if s.isWide then fail 1 ("(" ++ toString id ++ ") - No such process") s
    else fail 1 "No such process\n" s

/-- Lists signals, or prints the name of one. -/
def listSignals (operands : List Octets) (s : State) : State :=
  match operands with
  | [] => s.print (['0', '\n'] ++ Signal.all.flatMap fun g => (g.name ++ "\n").toList)
  | o :: _ =>
    match count o with
    | .error problem => s.abort problem
    | .ok n =>
      let n := if 128 < n then n - 128 else n
      match if n = 0 then none else Signal.ofNumber? n with
      | some g => s.print (g.name ++ "\n").toList
      | none => s.abort ("invalid signal number or exit status: " ++ Octets.text o)

/-- Lists signals in the wide dialect, or prints the names and numbers of
some. -/
def listWideSignals (operands : List Octets) (s : State) : State :=
  if operands.isEmpty then s.print signalTable
  else operands.foldl (fun s o =>
    match Octets.nat? o with
    | some n =>
      match if n = 0 then some "EXIT" else (Signal.ofNumber? (if 128 < n then n - 128 else n)).map Signal.name with
      | some name => s.print (name ++ "\n").toList
      | none => fail 1 (Octets.text o ++ ": invalid signal specification") s
    | none =>
      match Signal.number? (signalName s o) with
      | some n => s.print ((toString n).toList ++ ['\n'])
      | none => fail 1 (Octets.text o ++ ": invalid signal specification") s) s

/-- Sends signals, or lists them, in the wide dialect. -/
def killWide : Builtin := fun args s =>
  let s := s.ended 0
  let refuse (name : Octets) : State := fail 1 (Octets.text name ++ ": invalid signal specification") s
  let sending (name : Octets) (operands : List Octets) : State :=
    match sentSignal? s name with
    | none => refuse name
    | some signal =>
      let operands := if operands.head? = some ['-', '-'] then operands.drop 1 else operands
      if operands.isEmpty then showSynopsis s else sendAll signal operands s
  match args with
  | [] => showSynopsis s
  | ['-', 'l'] :: rest | ['-', 'L'] :: rest => listWideSignals rest s
  | ['-', 's'] :: rest | ['-', 'n'] :: rest =>
    match rest with
    | name :: operands => sending name operands
    | [] => fail 1 (Octets.text (args.head?.getD []) ++ ": option requires an argument") s
  | ['-', '-'] :: rest => sending "TERM".toList rest
  | ('-' :: c :: name) :: rest => sending (c :: name) rest
  | args => sending "TERM".toList args

/-- Sends signals, or lists them, in the plain dialect. -/
def killPlain : Builtin := fun args s =>
  let s := s.ended 0
  let sending (signal : Nat) (operands : List Octets) : State :=
    if operands.isEmpty then s.abort killUsage else sendAll signal operands s
  match args with
  | [] => s.abort killUsage
  | a :: rest =>
    match if a.head? = some '-' then sentSignal? s (a.drop 1) else none with
    | some signal => if a = ['-'] then sending 15 args else sending signal rest
    | none =>
      if a.head? ≠ some '-' || a = ['-'] then sending 15 args
      else
        match options "ls:" (optionSteps args) args with
        | .error flaw => refuseOptions flaw s
        | .ok (given, operands) =>
          match given.find? fun g => g.1 = 's' && (sentSignal? s g.2).isNone with
          | some g => s.abort ("invalid signal number or name: " ++ Octets.text g.2)
          | none =>
            let signal := (argumentOf? given 's').bind (sentSignal? s)
            if has given 'l' then (if signal.isSome then s.abort killUsage else listSignals operands s)
            else sending (signal.getD 15) operands

/-- Sends signals, or lists them. -/
def kill : Builtin := fun args s => if s.isWide then killWide args s else killPlain args s

/-! ## Limits -/

/-- Changes the bits that new files do not get, or prints them. -/
def umask : Builtin :=
  withOptions "S" "Sp" fun given operands s =>
    let s := s.ended 0
    match operands with
    | [] =>
      let front := if has given 'p' then (if has given 'S' then "umask -S " else "umask ") else ""
      s.print (front.toList
        ++ (if has given 'S' then Permission.letters (0o777 - s.umask) else Permission.digits s.umask) ++ ['\n'])
    | o :: _ =>
      if o.head?.any Char.isDigit then
        match Octets.inBase? 8 o with
        | some n => { s with umask := n % 0o1000 }
        | none => if s.isWide then fail 1 (Octets.text o ++ ": octal number out of range") s
          else s.abort ("Illegal number: " ++ Octets.text o)
      else
        let isLetters := o.all fun c => "ugoa".toList.contains c
        match if isLetters then some (0o777 - s.umask) else Permission.change? o (0o777 - s.umask) with
        | some mode =>
          let s := { s with umask := 0o777 - mode % 0o1000 }
          if has given 'S' then s.print (Permission.letters (0o777 - s.umask) ++ ['\n']) else s
        | none =>
          let operator := (o.dropWhile fun c => "ugoa".toList.contains c).take 1
          if s.isWide then fail 1 (named operator ++ ": invalid symbolic mode operator") s
          else s.abort ("Illegal mode: " ++ Octets.text o)

/-- The limits of a process by their letters. -/
def limits : List (Char × String) :=
  [('t', "time(seconds)        unlimited"), ('f', "file(blocks)         unlimited"),
   ('d', "data(kbytes)         unlimited"), ('s', "stack(kbytes)        8192"),
   ('c', "coredump(blocks)     0"), ('m', "memory(kbytes)       unlimited"),
   ('l', "locked memory(kbytes) 8192"), ('p', "process              unlimited"),
   ('n', "nofiles              1024"), ('v', "vmemory(kbytes)      unlimited"),
   ('w', "locks                unlimited"), ('r', "rtprio               0")]

/-- The limits of a process in the wide dialect: their letters, how they are
called, their units, and their values. -/
def wideLimits : List (Char × String × String × String) :=
  [('R', "real-time non-blocking time", "microseconds", "unlimited"), ('c', "core file size", "blocks", "0"),
   ('d', "data seg size", "kbytes", "unlimited"), ('e', "scheduling priority", "", "0"),
   ('f', "file size", "blocks", "unlimited"), ('i', "pending signals", "", "128620"),
   ('l', "max locked memory", "kbytes", "8192"), ('m', "max memory size", "kbytes", "unlimited"),
   ('n', "open files", "", "1024"), ('p', "pipe size", "512 bytes", "8"),
   ('q', "POSIX message queues", "bytes", "819200"), ('r', "real-time priority", "", "0"),
   ('s', "stack size", "kbytes", "8192"), ('t', "cpu time", "seconds", "unlimited"),
   ('u', "max user processes", "", "unlimited"), ('v', "virtual memory", "kbytes", "unlimited"),
   ('x', "file locks", "", "unlimited")]

/-- A limit as the wide dialect lists it. -/
def limitLine (l : Char × String × String × String) : Octets :=
  let (letter, name, unit, value) := l
  let unit := if unit.isEmpty then "(-" ++ Octets.text [letter] ++ ")"
    else "(" ++ unit ++ ", -" ++ Octets.text [letter] ++ ")"
  let gap := String.ofList (List.replicate (max 1 (43 - name.length - unit.length)) ' ')
  (name ++ gap ++ unit ++ " " ++ value ++ "\n").toList

/-- Prints limits. -/
def ulimit : Builtin :=
  withOptions "HSatfdscmlpnvwr" "HSabcdefiklmnpqrstuvxPRT" fun given operands s =>
    let s := s.ended 0
    let letter := ((given.filter fun g => g.1 ≠ 'H' && g.1 ≠ 'S').getLast?.map Prod.fst).getD 'f'
    match operands with
    | o :: _ =>
      let isLimit := o = "unlimited".toList || o = "hard".toList || o = "soft".toList || (Octets.nat? o).isSome
      if s.isWide && !isLimit then fail 1 (Octets.text o ++ ": invalid number") s else s
    | [] =>
      if has given 'a' then
        s.print (if s.isWide then wideLimits.flatMap limitLine else limits.flatMap fun l => (l.2 ++ "\n").toList)
      else
        let value := if s.isWide then (wideLimits.lookup letter).map fun l => l.2.2
          else (limits.lookup letter).map fun t => ((t.splitOn " ").getLast?).getD ""
        s.print ((value.getD "unlimited") ++ "\n").toList

/-- Prints the time that was used. -/
def times : Builtin := fun _ s =>
  (s.ended 0).print (if s.isWide then "0m0.000s 0m0.000s\n0m0.000s 0m0.000s\n"
    else "0m0.000000s 0m0.000000s\n0m0.000000s 0m0.000000s\n").toList

/-- There is no job that could be continued: none was started with its own
control. -/
def noJob : Builtin := fun args s =>
  if s.isWide then fail 1 "no job control" s
  else
    match s.jobOf (args.head?.getD ['%', '%']) with
    | .ok j => s.abort ("job " ++ toString j.number ++ " not created under job control")
    | .error problem => s.abort (if args.isEmpty then problem else "No such job: " ++ Octets.text (args.head?.getD []))

end Builtin

end Shell

end Tangle
