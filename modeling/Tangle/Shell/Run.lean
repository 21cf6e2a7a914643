import Tangle.Shell.Call
import Tangle.Shell.Builtin.Table
import Tangle.Shell.Menu
/-!
# Running commands

What commands do to the state (`execute`). A command that is run inside
another one is run by a function that is given, so each rule stands for
itself and the depth to which commands nest is counted in one place only.
Parts of a pipeline run one after the other, the output of each being the
input of the next.
-/

namespace Tangle

namespace Shell

/-! ## Flags of a run -/

/-- Runs a command with failures that end nothing if `guarded` is set, and
with nothing left to be done after it if `isLast` is set. -/
def runWith (run : Runner) (guarded isLast : Bool) (c : Command) (s : State) : State :=
  { run c { s with guarded, isLast } with guarded := s.guarded, isLast := s.isLast }

/-- Runs a command whose failure ends nothing. -/
def guard (run : Runner) : Runner := runWith run true false

/-- Runs a command after which something is left to be done. -/
def runInner (run : Runner) : Runner := fun c s => runWith run s.guarded false c s

/-- The number of the trap for failures. -/
def failureTrap : Nat := 66

/-- Runs the commands that are set for failures, which functions only do if
they are to. -/
def trapFailure (run : Runner) (s : State) : State :=
  if s.has .errtrace || s.calls.isEmpty then
    match s.traps.lookup failureTrap with
    | some (c :: commands) =>
      let script := c :: commands
      let scan := { Script.Scan.ofScript s.dialect [] script with line := s.line }
      let traps := s.traps
      let inner := { s with
        traps := dropKey failureTrap traps, trapped := some s.status, indirection := s.indirection + 1 }
      let after := runFrom run false script (script.length + 1) scan inner
      let after := { after with source := s.source, trapped := s.trapped, indirection := s.indirection, line := s.line }
      let after := if after.traps.lookup failureTrap |>.isSome then after
        else { after with traps := setKey failureTrap script after.traps }
      if after.jump.isSome then after else after.ended s.status
    | _ => s
  else s

/-- Does what is to be done after a failure, which may end the
interpreter. -/
def checkFailure (run : Runner) (s : State) : State :=
  if s.status ≠ 0 && !s.guarded && s.jump.isNone then
    let s := if s.isWide then trapFailure run s else s
    if s.has .errexit && s.jump.isNone then s.exit s.status else s
  else s

/-! ## Words and assignments -/

/-- The word is an assignment as it is written. -/
def isAssignmentWord (wide : Bool) (w : Word) : Bool :=
  match w with
  | .text false t :: _ => if wide then (Script.assignment? true w).isSome else (Script.splitAssignment? t).isSome
  | _ => false

/-- The fields without the command `command` and its options in front of
others, and whether there was one. -/
def skipCommand (s : State) : Nat → List Octets → List Octets × Bool
  | 0, fields => (fields, false)
  | fuel + 1, fields =>
    match fields with
    | name :: rest =>
      if name = "command".toList && (s.functions.lookup name).isNone then
        match afterOptions rest with
        | [] => (fields, false)
        | inner => ((skipCommand s fuel inner).1, true)
      else (fields, false)
    | [] => (fields, false)
where
  /-- What follows the options; nothing if there are others than `-p`. -/
  afterOptions : List Octets → List Octets
    | ['-', '-'] :: rest => rest
    | ('-' :: c :: letters) :: rest => if (c :: letters).all (· = 'p') then afterOptions rest else []
    | fields => fields

/-- The fields of the words of a command. Words that are assignments stay
one field where the command takes them for operands. -/
def commandFields (capture : Capture) : List Octets → List Word → State → List Octets × State
  | fields, [], s => (fields, s)
  | fields, w :: ws, s =>
    let name := ((skipCommand s (fields.length + 1) fields).1).head?.getD []
    let assigns := isAssignmentWord s.isWide w && Builtin.takesAssignments s.dialect name
      && (Builtin.isSpecial s.dialect name || (s.functions.lookup name).isNone)
    let (more, s) := if assigns then
        (let (t, s) := expandAssigned capture w s
        ([t], s))
      else allFields capture [w] s
    if s.jump.isSome then (fields, s) else commandFields capture (fields ++ more) ws s

/-- What stands in front of a line that shows a command. In the wide dialect
its first character is repeated for scripts inside others. -/
def traceLead (capture : Capture) (s : State) : Octets × State :=
  let lead := (s.value? "PS4".toList).getD []
  let (lead, s) := if lead.contains '$' || lead.contains '\x60' then
      match (Script.parts Script.listsInWord Script.stepLimit (.here ⟨[], false, false, 0, 0⟩)).run
          (Script.Scan.ofScript s.dialect [] lead) with
      | .ok (w, _) =>
        let (text, after) := expandHere capture w { s with options := s.options.filter (· ≠ .xtrace) }
        (text, after.setOption .xtrace true)
      | .error _ => (lead, s)
    else (lead, s)
  (if s.isWide then (lead.take 1).flatMap (List.replicate s.indirection) ++ lead else lead, s)

/-- Shows a line for a command before it runs, if that is wanted. -/
def traceLine (capture : Capture) (descriptors : List (Nat × Nat)) (line : Octets) (s : State) : State :=
  if !s.has .xtrace || line.isEmpty then s
  else
    let (lead, s) := traceLead capture s
    let written := { s with descriptors }.write 2 (lead ++ line ++ ['\n'])
    { written with descriptors := s.descriptors, writeFault := s.writeFault }

/-- Shows a simple command before it runs: its assignments and fields on
one line, or in the wide dialect each assignment on a line of its own. -/
def trace (capture : Capture) (descriptors : List (Nat × Nat)) (shown fields : List Octets) (s : State) : State :=
  if s.isWide then
    let s := shown.foldl (fun s a => traceLine capture descriptors a s) s
    traceLine capture descriptors (List.intercalate [' '] (fields.map Quoting.traced)) s
  else traceLine capture descriptors (List.intercalate [' '] (shown ++ fields)) s

mutual

/-- A part of a word as it is shown when a loop or a selection starts, its
quotes apart. -/
def Part.spelled : Part → Octets
  | .text true s => ((Quoting.double s).drop 1).dropLast
  | .text false s => s
  | .parameter _ name index form =>
    let index : Octets := match index with
      | some w => '[' :: spelledParts false w ++ [']']
      | none => []
    let colon (orEmpty : Bool) : Octets := if orEmpty then [':'] else []
    let twice (c : Char) (both : Bool) : Octets := if both then [c, c] else [c]
    let braces (front operator word : Octets) : Octets :=
      ['$', '\x7b'] ++ front ++ name ++ index ++ operator ++ word ++ ['\x7d']
    match form with
    | .plain => if index.isEmpty then '$' :: name else braces [] [] []
    | .length => braces ['#'] [] []
    | .fallback orEmpty w => braces [] (colon orEmpty ++ ['-']) (spelledParts false w)
    | .assign orEmpty w => braces [] (colon orEmpty ++ ['=']) (spelledParts false w)
    | .alternative orEmpty w => braces [] (colon orEmpty ++ ['+']) (spelledParts false w)
    | .require orEmpty w => braces [] (colon orEmpty ++ ['?']) (spelledParts false w)
    | .cutFront longest w => braces [] (twice '#' longest) (spelledParts false w)
    | .cutBack longest w => braces [] (twice '%' longest) (spelledParts false w)
    | .keys | .indirect => braces ['!'] [] []
    | _ => braces [] [] []
  | .arithmetic _ e => "$((".toList ++ spelledParts true e ++ "))".toList
  | _ => []

/-- The parts of a word as they are shown. `within` tells that quotes are
open before them. -/
def spelledParts (within : Bool) : List Part → Octets
  | [] => if within then ['"'] else []
  | p :: ps =>
    let quoted := match p with
      | .text q _ => q
      | .parameter q _ _ _ => q
      | .command q _ => q
      | .arithmetic q _ => q
      | .outputFile _ => false
    (if quoted = within then [] else ['"']) ++ p.spelled ++ spelledParts quoted ps

end

/-- A word as it is shown when a loop or a selection starts. -/
def spelledWord (w : List Part) : Octets := spelledParts false w

/-- The element that an index in a word selects, with the index as it is
written; nothing if it is at fault. -/
def selectElement (capture : Capture) (name : Octets) (index : Word) (s : State) : Option (Index × Octets) × State :=
  let (text, s) := expandHere capture index s
  let (i, s) := Builtin.indexOf name text s
  (i.map fun i => (i, text), s)

/-- The text that an assignment gives to what had another one before: the
number of an expression for variables that hold numbers. -/
def assignedText (v : Variable) (former : Octets) (appends : Bool) (text : Octets) (s : State) :
    Option Octets × State :=
  if v.integer then
    let e := if appends then (if former.isEmpty then ['0'] else former) ++ ['+', '('] ++ text ++ [')'] else text
    match s.calculate e with
    | (.ok n, s) => (some (toString n).toList, s)
    | (.error (), s) => (none, s)
  else (some (if appends then former ++ text else text), s)

/-- The elements of an array found by keys with those of a list added, of
which each has an index or follows its key. -/
def addKeyed (capture : Capture) :
    List (Option Word × Word) → List (Octets × Octets) → State → List (Octets × Octets) × State
  | [], es, s => (es, s)
  | (some k, w) :: rest, es, s =>
    let (key, s) := expandText capture k s
    let (text, s) := expandAssigned capture w s
    if s.jump.isSome then (es, s) else addKeyed capture rest (setKey key text es) s
  | (none, k) :: (none, w) :: rest, es, s =>
    let (key, s) := expandText capture k s
    let (text, s) := expandText capture w s
    if s.jump.isSome then (es, s) else addKeyed capture rest (setKey key text es) s
  | (none, k) :: rest, es, s =>
    let (key, s) := expandText capture k s
    if s.jump.isSome then (es, s) else addKeyed capture rest (setKey key [] es) s

/-- The elements of an array with those of a list added from the number
`next` on. -/
def addIndexed (capture : Capture) (name : Octets) :
    List (Option Word × Word) → Nat → List (Nat × Octets) → State → List (Nat × Octets) × State
  | [], _, es, s => (es, s)
  | (some k, w) :: rest, _, es, s =>
    match selectElement capture [] k s with
    | (some (.number n, _), s) =>
      let (text, s) := expandAssigned capture w s
      if s.jump.isSome then (es, s)
      else if n < 0 then (es, s.abort (Octets.text name ++ ": bad array subscript"))
      else addIndexed capture name rest (n.toNat + 1) (insertElement n.toNat text es) s
    | (_, s) => (es, s)
  | (none, w) :: rest, next, es, s =>
    let (fs, s) := allFields capture [w] s
    if s.jump.isSome then (es, s)
    else
      let es := (fs.zip (List.range fs.length)).foldl (fun es (f, i) => insertElement (next + i) f es) es
      addIndexed capture name rest (next + fs.length) es s

/-- Gives a variable the elements of a list. -/
def assignElements (capture : Capture) (name : Octets) (appends : Bool) (elements : List (Option Word × Word))
    (s : State) : State :=
  if s.isKeyed name then
    let (es, s) := addKeyed capture elements (if appends then s.elements name else []) s
    if s.jump.isSome then s else s.setValue name (.keyed es)
  else
    let start := if appends then s.indexedElements name else []
    let next := (start.getLast?.map fun e => e.1 + 1).getD 0
    let (es, s) := addIndexed capture name elements next start s
    if s.jump.isSome then s else s.setValue name (.indexed es)

/-- Makes an assignment; the second value is how it is shown. -/
def assign (capture : Capture) (a : Assignment) (s : State) : State × Octets :=
  match a with
  | .value name index appends w =>
    let v := s.lookupVariable name
    let sign : Octets := if appends then ['+', '='] else ['=']
    let (place, s) : Option (Index × Octets) × State := match index with
      | none => (none, s)
      | some index => selectElement capture name index s
    if s.jump.isSome then (s, [])
    else
      let (text, s) := expandAssigned capture w s
      if s.jump.isSome then (s, [])
      else
        let former := match place with
          | none => (s.value? name).getD []
          | some (i, _) => (s.element? name i).getD []
        match assignedText v former appends text s with
        | (none, s) => (s, [])
        | (some value, s) =>
          let shownText := if s.isWide && !text.isEmpty then Quoting.traced text else text
          match place with
          | none => (s.setVariable name value, name ++ sign ++ shownText)
          | some (i, shown) =>
            (s.setElement name i shown value, name ++ ['['] ++ shown ++ [']'] ++ sign ++ shownText)
  | .array _ name appends elements =>
    let shown := elements.map fun (index, w) =>
      match index with
      | some i => '[' :: spelledWord i ++ [']', '='] ++ spelledWord w
      | none => spelledWord w
    let sign : Octets := if appends then ['+', '='] else ['=']
    (assignElements capture name appends elements s, name ++ sign ++ ['('] ++ List.intercalate [' '] shown ++ [')'])

/-- The variable of an assignment. -/
def assignedName : Assignment → Octets
  | .value name _ _ _ => name
  | .array _ name _ _ => name

/-- The assignment stands among the operands of a command. -/
def isOperand : Assignment → Bool
  | .value .. => false
  | .array operand _ _ _ => operand

/-- Makes assignments in order, each kept as `keep` says; the second value
is how they are shown. -/
def assignAll (capture : Capture) (keep : Octets → State → State) :
    List Assignment → State → State × List Octets
  | [], s => (s, [])
  | a :: rest, s =>
    let (s, shown) := assign capture a s
    if s.jump.isSome then (s, [])
    else
      let (s, others) := assignAll capture keep rest (keep (assignedName a) s)
      (s, shown :: others)

/-! ## Calling -/

/-- Calls a function. -/
def callFunction (run : Runner) (name : Octets) (f : Function) (args : List Octets) (s : State) : State :=
  let inner := { s with
    args, source := f.source, loops := 0, optionIndex := 1, optionOffset := 0
    calls := ⟨name, f.source.file, s.line⟩ :: s.calls }
  let after := runInner run f.body inner
  { after with
    args := s.args, source := s.source, loops := s.loops, calls := s.calls
    optionIndex := s.optionIndex, optionOffset := s.optionOffset
    line := s.line
    jump := if after.jump = some .leaveFunction then none else after.jump }

/-- Runs a script that is included. -/
def includeScript (run : Runner) (args : List Octets) (s : State) : State :=
  match args with
  | [] => if s.isWide then Builtin.showSynopsis (s.complainHere "filename argument required") else s.ended 0
  | name :: operands =>
    let missing := if s.isWide then
        { s with speaker := none }.complainHere (Octets.text name ++ ": No such file or directory") |>.ended 1
      else s.abort (Octets.text name ++ ": not found")
    let file? := match s.findScript name with
      | some file => some file
      | none => if s.isWide && (s.lookup (State.path name)).toOption.any Node.isFile then some name else none
    match file? with
    | none =>
      if s.isWide && s.disk.isDirectoryAt s.cwd (State.path name) then
        Builtin.fail 1 (Octets.text name ++ ": is a directory") s
      else { missing with speaker := s.speaker }
    | some file =>
      match s.disk.readAt s.cwd (State.path file) with
      | .error .isADirectory =>
        if s.isWide then Builtin.fail 1 (Octets.text file ++ ": is a directory") s else s.ended 0
      | .error fault =>
        if s.isWide then { missing with speaker := s.speaker }
        else s.abort ("cannot open " ++ Octets.text file ++ ": " ++ openingFault s false fault)
      | .ok script =>
        let inner := { s with
          status := 0, guarded := false, isCommandText := false, included := true
          indirection := s.indirection + 1
          source := { s.source with file := some file }
          speaker := if s.isWide then s.speaker else some file
          args := if s.isWide && !operands.isEmpty then operands else s.args }
        let after := runScript run false (Octets.ofBytes script) inner
        { after with
          guarded := s.guarded, isCommandText := s.isCommandText, speaker := s.speaker, included := s.included
          indirection := s.indirection, source := s.source
          args := if s.isWide && !operands.isEmpty then s.args else after.args
          jump := if after.jump = some .leaveFunction then none else after.jump }

/-- Waits for a process that an operand names, as the wide dialect does. -/
def waitForOperand (run : Runner) (o : Octets) (s : State) : State :=
  if o.head? = some '%' then
    match s.jobOf o with
    | .ok j => waitFor run j.process s
    | .error _ => Builtin.fail 127 (Octets.text o ++ ": no such job") s
  else
    match Octets.nat? o with
    | none => Builtin.fail 1 (Builtin.named o ++ ": not a pid or valid job spec") s
    | some id =>
      if s.jobs.any fun j => j.process = id then waitFor run id s
      else Builtin.fail 127 ("pid " ++ toString id ++ " is not a child of this shell") s

/-- Waits for the process beside this one that was not waited for and ends
first. -/
def waitForNext (run : Runner) (s : State) : State :=
  let open' := s.jobs.filter fun j => !j.awaited
  let ended := open'.filter fun j => (s.outcome? j).isSome
  match ended.getLast?, firstEnding run { s with waiting := s.waiting.filter fun t => open'.any fun j => j.process = t.id } with
  | some j, _ => waitFor run j.process s
  | none, some (t, _) => waitFor run t.id s
  | none, none => s.ended 127

/-- Waits for processes beside this one. -/
def wait (run : Runner) (args : List Octets) (s : State) : State :=
  let waitsNext := s.isWide && args.head? = some ['-', 'n']
  let args := if waitsNext || args.head? = some ['-', '-'] then args.drop 1 else args
  match args with
  | [] => if waitsNext then waitForNext run s else waitForAll run s
  | operands =>
    operands.foldl (fun s o =>
      if s.jump.isSome then s
      else if s.isWide then waitForOperand run o s
      else if o.head? = some '%' then
        match s.jobOf o with
        | .ok j => waitFor run j.process s
        | .error problem => s.abort problem
      else
        match Builtin.count o with
        | .ok id => waitFor run id s
        | .error problem => s.abort problem) s

/-- Says what has become of the processes beside this one. -/
def showJobs (run : Runner) : Builtin :=
  Builtin.withOptions "lp" "lnprs" fun given operands s =>
    let s := (settle run s).ended 0
    let show' (s : State) (j : Job) : State :=
      if Builtin.has given 'p' then s.print ((toString j.process).toList ++ ['\n']) else s.showJob j
    if operands.isEmpty then s.jobs.foldl show' s
    else operands.foldl (fun s o =>
      if s.jump.isSome then s
      else
        match s.jobOf (if o.head? = some '%' then o else '%' :: 'x' :: o) with
        | .ok j => show' s j
        | .error _ =>
          if s.isWide then Builtin.fail 1 (Octets.text o ++ ": no such job") s
          else s.abort ("No such job: " ++ Octets.text o)) s

/-- The options of a declaration without the one that makes variables ones
that cannot be changed. -/
def changeable (args : List Octets) : List Octets :=
  args.filterMap fun a =>
    match a with
    | '-' :: c :: letters =>
      let kept := (c :: letters).filter (· ≠ 'r')
      if kept.isEmpty then none else some ('-' :: kept)
    | a => some a

/-- Runs a built-in command. -/
def runBuiltin (run : Runner) : Nat → Octets → List Octets → State → State
  | 0, _, _, s => s
  | fuel + 1, name, args, s =>
    match String.ofList name with
    | "eval" =>
      let args := if args.head? = some ['-', '-'] && s.isWide then args.drop 1 else args
      let inner := { s with status := 0, isCommandText := false, indirection := s.indirection + 1 }
      let after := runScript run false (List.intercalate [' '] args) inner
      { after with isCommandText := s.isCommandText, indirection := s.indirection }
    | "exec" =>
      match if args.head? = some ['-', '-'] then args.drop 1 else args with
      | [] => s.ended 0
      | program :: rest => becomeProgram run program rest s
    | "." | "source" => includeScript run (if args.head? = some ['-', '-'] then args.drop 1 else args) s
    | "wait" => wait run args s
    | "jobs" => showJobs run args s
    | "enable" => Builtin.enable args s
    | "type" => Builtin.type (Builtin.kindOf s) args s
    | "command" => Builtin.command (Builtin.kindOf s) args s
    | "builtin" =>
      match args with
      | [] => s.ended 0
      | inner :: rest =>
        if Builtin.isEnabled s inner then runBuiltin run fuel inner rest { s with speaker := some inner }
        else Builtin.fail 1 (Octets.text inner ++ ": not a shell builtin") s
    | _ =>
      match Builtin.find? s.dialect name with
      | some b => b args s
      | none => s.ended 127

/-- Complains that a built-in command could not write its output. -/
def reportBuiltin (name : Octets) (s : State) : State :=
  match s.writeFault with
  | none => s
  | some fault =>
    let s := { s with writeFault := none }
    if s.isWide then Builtin.fail 1 ("write error: " ++ faultText fault) s
    else { s.complainHere (Octets.text name ++ ": I/O error") with status := s.status ||| 1 }

/-- Calls a built-in command. Its faults end the interpreter only if it is
special. -/
def callBuiltin (run : Runner) (special : Bool) (name : Octets) (args : List Octets) (s : State) : State :=
  let after := runBuiltin run (args.length + 1) name args { s with speaker := some name, writeFault := none }
  let after := if after.jump.isNone then reportBuiltin name after else after
  { after with
    speaker := s.speaker, writeFault := none
    jump := if after.jump = some .error && !special then none else after.jump }

/-- The redirections of the command stay. -/
def keepsRedirections (fields : List Octets) : Bool := fields.head? = some "exec".toList

/-- The descriptors after a command that had `former` ones before: those that
variables name stay. -/
def keptDescriptors (former : List (Nat × Nat)) (rs : List Redirection) (after : State) : List (Nat × Nat) :=
  let isNamed (r : Redirection) : Bool := r matches .mk (.named _) _ _ _
  if rs.any isNamed then
    former.filter (fun d => d.1 < firstNamed) ++ after.descriptors.filter fun d => firstNamed ≤ d.1
  else former

/-- The content of a file that a command is nothing but a reference to. -/
def onlyReads? (s : State) (rs : List Redirection) : Bool :=
  match rs with
  | [.mk (.number 0) .read _ _] => s.isWide
  | _ => false

/-- Shows the assignments among the operands of a command that gives
variables to programs or keeps them from changes, as the wide dialect
does. -/
def traceOperands (capture : Capture) (descriptors : List (Nat × Nat)) (name : Octets) (args : List Octets)
    (s : State) : State :=
  if s.isWide && ["export", "readonly"].contains (String.ofList name) then
    args.foldl (fun s a =>
      match Script.splitAssignment? a with
      | some (name, value) =>
        traceLine capture descriptors (name ++ ['='] ++ if value.isEmpty then [] else Quoting.traced value) s
      | none => s) s
  else s

/-- Runs a simple command. -/
def runSimple (run : Runner) (line : Nat) (assignments : List Assignment) (words : List Word)
    (redirections : List Redirection) (s : State) : State :=
  let capture := capture run
  let descriptors := s.descriptors
  let s := { s with line, outputStatus := 0 }
  let (fields, s) := commandFields capture [] words s
  s.andThen fun s =>
    let (call, hidden) := skipCommand s (fields.length + 1) fields
    let kind : Option Builtin.Kind := match call.head? with
      | none => none
      | some name => match Builtin.kindOf s name with
        | some .function => if hidden then
            (if Builtin.isEnabled s name then some (.builtin false) else none) else some .function
        | k => k
    let isSpecial := kind = some (.builtin true)
    let keepsAssignments := fields.isEmpty || (isSpecial && !hidden)
    let restored (after : State) : State :=
      if keepsRedirections call then after else { after with descriptors := keptDescriptors descriptors redirections after }
    match redirectAll capture redirections s with
    | (false, failed) =>
      let failed := { failed with descriptors, status := if s.isWide then 1 else 2 }
      if failed.jump.isSome then failed
      else if isSpecial && !hidden then { failed with jump := some .error } else failed
    | (true, s) =>
      let (operands, fronts) := assignments.partition isOperand
      let opensScope := !keepsAssignments && !(s.isWide && fronts.isEmpty && (kind matches some (.builtin _)))
      let s := if opensScope then s.openScope else s
      let s := if opensScope then fronts.foldl (fun s a => s.makeLocal (assignedName a)) s else s
      let keep (name : Octets) (s : State) : State :=
        if !keepsAssignments || (keepsRedirections call && 1 < call.length) then s.markExported name else s
      let (s, shown) := assignAll capture keep fronts s
      -- In the wide dialect a command runs even if its assignments fail.
      let s := if s.isWide && !call.isEmpty && s.jump = some .error then { s with jump := none } else s
      s.andThen fun s =>
        let s := trace capture descriptors shown fields s
        let s := match fields.getLast? with
          | some w => { s with lastWord := w }
          | none => s
        let after := match call with
          | [] =>
            let s := if onlyReads? s redirections then
                (let (text, s) := s.readAll 0
                s.print (text.toOption.getD []))
              else s
            s.ended s.outputStatus
          | name :: args =>
            match kind with
            | some .function =>
              match s.functions.lookup name with
              | some f => callFunction run name f args s
              | none => s
            | some (.builtin special) =>
              if operands.isEmpty then
                callBuiltin run (special && !hidden) name args (traceOperands capture descriptors name args s)
              else
                -- Variables are declared before they get elements, and fixed after it.
                let declares := ["declare", "local", "typeset"].contains (String.ofList name)
                let declared := if declares then callBuiltin run false name (changeable args) s else s
                (assignAll capture (fun _ s => s) operands declared).1.andThen fun s => callBuiltin run false name args s
            | none => callProgram run name args s
        restored (if opensScope then after.closeScope else after)

/-! ## Loops -/

/-- Loops end or go on as a jump out of their body tells: the first value
tells whether there is a next round. -/
def takeLoopJump (s : State) : Bool × State :=
  match s.jump with
  | none => (true, s)
  | some (.leaveLoops n) => (false, { s with jump := if n ≤ 1 then none else some (.leaveLoops (n - 1)) })
  | some (.nextRound n) => if n ≤ 1 then (true, { s with jump := none })
    else (false, { s with jump := some (.nextRound (n - 1)) })
  | some _ => (false, s)

/-- The rounds that a loop makes at most; one that makes more writes where
nobody reads any more. -/
def roundLimit : Nat := 100000

/-- Repeats a body while a test succeeds, or until it does. `status` is
that of the last round. -/
def repeatBody (run : Runner) (untilSuccess : Bool) (test body : Command) : Nat → Nat → State → State
  | 0, _, s => s.kill 13
  | fuel + 1, status, s =>
    match guard run test s with
    | tested =>
      if tested.jump.isSome then
        match takeLoopJump tested with
        | (true, s) => repeatBody run untilSuccess test body fuel status s
        | (false, s) => if s.jump.isSome then s else s.ended status
      else if (tested.status = 0) = untilSuccess then tested.ended status
      else
        let (goesOn, s) := takeLoopJump (runInner run body tested)
        if goesOn then repeatBody run untilSuccess test body fuel s.status s else s

/-- Repeats a body for each value of a variable. `shown` is the head of the
loop as it is shown. -/
def repeatFor (run : Runner) (shown name : Octets) (body : Command) : List Octets → State → State
  | [], s => s
  | v :: vs, s =>
    let s := if s.isWide then traceLine (capture run) s.descriptors shown s else s
    let assigned := s.setVariable name v
    let assigned := if s.isWide && assigned.jump = some .error then { assigned with jump := none } else assigned
    if s.isWide && (s.lookupVariable name).constant then assigned
    else assigned.andThen fun s =>
      let (goesOn, s) := takeLoopJump (runInner run body s)
      if goesOn then repeatFor run shown name body vs s else s

/-- The value of an expression that is written between parentheses; nothing
counts as `standard`. -/
def calculateWord (capture : Capture) (standard : Int) (w : Word) (s : State) : Except Unit Int × State :=
  let (ps, s) := wordPieces capture false .nowhere w s
  let text := joinPieces ps
  if s.jump.isSome then (.error (), s)
  else
    let s := traceLine capture s.descriptors ("(( ".toList ++ text ++ " ))".toList) s
    if text.all Numeral.isBlank then (.ok standard, s)
    else
      let (result, after) := { s with speaker := some ['(', '('] }.calculate text
      (result, { after with speaker := s.speaker })

/-- Repeats a body while an expression is not zero. -/
def repeatCounted (run : Runner) (test next : Word) (body : Command) : Nat → State → State
  | 0, s => s.kill 13
  | fuel + 1, s =>
    match calculateWord (capture run) 1 test s with
    | (.error (), s) => s
    | (.ok 0, s) => s
    | (.ok _, s) =>
      let (goesOn, s) := takeLoopJump (runInner run body s)
      if !goesOn then s
      else
        match calculateWord (capture run) 1 next s with
        | (.ok _, s) => repeatCounted run test next body fuel s
        | (.error (), s) => s

/-- A loop under way. -/
def inLoop (f : State → State) (s : State) : State :=
  { f { s with loops := s.loops + 1 } with loops := s.loops }

/-! ## Menus -/

/-- The choice that a line from standard input makes among words, the menu
being shown first if `shows` is set and again after an empty line; nothing
at the end of the input. -/
def askChoice (words : List Octets) : Nat → Bool → State → Option Octets × State
  | 0, _, s => (none, s)
  | fuel + 1, shows, s =>
    let places := (((s.value? "COLUMNS".toList).bind Octets.nat?).filter (0 < ·)).getD 80
    let lead := (s.value? "PS3".toList).getD "#? ".toList
    let s := Builtin.read [] (s.write 2 ((if shows then Menu.lines places words else []) ++ lead))
    if s.status ≠ 0 || s.jump.isSome then (none, s.print ['\n'])
    else
      match (s.value? "REPLY".toList).getD [] with
      | [] => askChoice words fuel true s
      | line =>
        match Numeral.whole? (some 10) line with
        | some (.ofNat (n + 1)) => ((words[n]?).getD [], s)
        | _ => (some [], s)

/-- Repeats a body for each word that is chosen. -/
def repeatChosen (run : Runner) (name : Octets) (words : List Octets) (body : Command) :
    Nat → Bool → State → State
  | 0, _, s => s.kill 13
  | fuel + 1, shows, s =>
    match askChoice words roundLimit shows s with
    | (none, s) => s.ended 1
    | (some choice, s) =>
      (s.setVariable name choice).andThen fun s =>
        let (goesOn, s) := takeLoopJump (runInner run body s)
        if goesOn then repeatChosen run name words body fuel ((s.value? "REPLY".toList).any List.isEmpty) s else s

/-! ## Selections and conditions -/

/-- Some of the patterns match a value. -/
def matchesSome (capture : Capture) (value : Octets) : List Word → State → Bool × State
  | [], s => (false, s)
  | w :: ws, s =>
    let (pattern, s) := expandPattern capture w s
    if s.jump.isSome then (false, s)
    else if (Matcher.ofMarked s.patternStyle pattern).accepts value then (true, s)
    else matchesSome capture value ws s

/-- Runs the arm whose patterns match a value. `entered` tells that the
body of the first arm runs in any case. -/
def runArms (run : Runner) (value : Octets) (entered : Bool) :
    List (List Word × Command × ArmEnd) → State → State
  | [], s => s
  | (patterns, body, ending) :: arms, s =>
    let (found, s) := if entered then (true, s) else matchesSome (capture run) value patterns s
    s.andThen fun s =>
      if !found then runArms run value false arms s
      else
        let isEmpty := body matches .sequence []
        let after := if isEmpty then s.ended 0 else runWith run s.guarded (s.isLast && ending = .stop) body s
        match ending with
        | .stop => after
        | .through => after.andThen (runArms run value true arms)
        | .again => after.andThen (runArms run value false arms)

/-- Shows a condition between doubled brackets before it is decided. -/
def traceTest (capture : Capture) (negated : Bool) (operands : List Octets) (s : State) : State :=
  let shown := operands.map fun o => if o.isEmpty then "''".toList else o
  let front : Octets := if negated then "[[ ! ".toList else "[[ ".toList
  traceLine capture s.descriptors (front ++ List.intercalate [' '] shown ++ " ]]".toList) s

/-- What a condition between doubled brackets tells. `negated` tells that it
is shown with a sign for that. -/
def testValue (capture : Capture) (negated : Bool) : Test → State → Except String Bool × State
  | .filled w, s =>
    let (text, s) := expandText capture w s
    (.ok !text.isEmpty, traceTest capture negated [['-', 'n'], text] s)
  | .negation t, s => (testValue capture true t s).map (fun r => r.map (!·)) id
  | .both a b, s =>
    match testValue capture false a s with
    | (.ok true, s) => testValue capture false b s
    | result => result
  | .either a b, s =>
    match testValue capture false a s with
    | (.ok false, s) => testValue capture false b s
    | result => result
  | .unary operator w, s =>
    let (text, s) := expandText capture w s
    let s := traceTest capture negated [operator, text] s
    (Condition.countedUnary s Builtin.wording operator text, s)
  | .binary operator a b, s =>
    let (x, s) := expandText capture a s
    let matching (s : State) : Bool × State :=
      let (pattern, s) := expandPattern capture b s
      let shown := pattern.flatMap fun (quoted, c) => if quoted then ['\\', c] else [c]
      let s := traceTest capture negated [x, operator, shown] s
      ((Matcher.ofMarked { s.patternStyle with grouped := true } pattern).accepts x, s)
    match String.ofList operator with
    | "=" | "==" => (matching s).map .ok id
    | "!=" => (matching s).map (fun value => .ok !value) id
    | "=~" =>
      let (pattern, s) := expandPattern capture b s
      let source := expressionOf pattern
      matchExpression x source (traceTest capture negated [x, operator, source] s)
    | "-eq" | "-ne" | "-lt" | "-le" | "-gt" | "-ge" =>
      let (y, s) := expandText capture b s
      let s := traceTest capture negated [x, operator, y] s
      let inBrackets := { s with speaker := some "[[".toList }
      match inBrackets.calculate x with
      | (.error (), s) => (.ok false, { s with speaker := none, jump := none })
      | (.ok m, s) =>
        match s.calculate y with
        | (.error (), s) => (.ok false, { s with speaker := none, jump := none })
        | (.ok n, s) =>
          (.ok (((Condition.numeric? operator).map fun holds => holds m n).getD false), { s with speaker := none })
    | _ =>
      let (y, s) := expandText capture b s
      let s := traceTest capture negated [x, operator, y] s
      (Condition.countedBinary s Builtin.wording operator x y, s)
where
  /-- The expression that a word is: what is quoted in it has no special
  meaning. -/
  expressionOf (pattern : List Marked) : Octets :=
    let isSpecial (c : Char) : Bool := "\\.^$*+?()[]\x7b\x7d|".toList.contains c
    pattern.flatMap fun (quoted, c) => if quoted && isSpecial c then ['\\', c] else [c]
  /-- Tells whether an expression matches a text, and keeps what its groups
  have matched. -/
  matchExpression (text source : Octets) (s : State) : Except String Bool × State :=
    match Regex.read .posixExtended source with
    | .error _ => (.error "", s)
    | .ok r =>
      match r.search? ⟨s.hasFeature .nocasematch, false, true⟩ text 0 with
      | none => (.ok false, s.putVariable "BASH_REMATCH".toList { value := some (.indexed []) })
      | some m =>
        let groups := (List.range (Regex.groupCount r + 1)).map fun n => m.group text n
        (.ok true, s.putVariable "BASH_REMATCH".toList { value := some (.numbered groups) })

/-! ## Pipelines and processes -/

/-- Runs the parts of a pipeline, each in a process of its own; `status` is
the one before the pipeline, and `input` the stream that the next part
reads. The second value holds their statuses. -/
def runPipeline (run : Runner) (status : Nat) (input : Option Nat) : List Command → State → State × List Nat
  | [], s => (s, [])
  | c :: rest, s =>
    let reading (s : State) : State := match input with
      | some stream => { s with status, descriptors := setKey 0 stream s.descriptors }
      | none => { s with status }
    if rest.isEmpty && s.hasFeature .lastpipe then
      let after := { runInner run c (reading s) with descriptors := s.descriptors }
      (after, [after.status])
    else
      let child := reading s.forked
      let output := child.streams.size
      let child := if rest.isEmpty then child else child.attach 1 Stream.pipe
      let after := s.reap (runProcess run (run c) child)
      let (last, statuses) := runPipeline run status (some output) rest after
      (last, after.status :: statuses)

/-- Runs commands in a process of their own; at the end of a script the
process itself runs them. -/
def runIsolated (run : Runner) (line : Nat) (body : Command) (s : State) : State :=
  let s := settle run { s with line }
  let inPlace := s.isLast && !s.hasTraps
  let child := runProcess run (run body) { s.forked with isLast := true }
  if child.jump = some .killed && inPlace then (s.afterIsolated child).kill (child.status - 128) else s.reap child

/-- The line of a command that is told. -/
def commandLine? : Command → Option Nat
  | .simple line .. => some line
  | .isolated line .. => some line
  | .redirected line .. => some line
  | .sequence [c] => commandLine? c
  | _ => none

/-! ## All commands -/

/-- What a command does; the commands inside it are run by `run`. -/
def perform (run : Runner) (c : Command) (s : State) : State :=
  match c with
  | .simple line assignments words redirections =>
    let after := runSimple run line assignments words redirections s
    checkFailure run (if after.isWide then { after with statuses := [after.status] } else after)
  | .pipeline commands =>
    let s := settle run { s with line := ((commands.head?.bind commandLine?).getD s.line) }
    let (after, statuses) := runPipeline run s.status none commands s
    let after := { after with statuses }
    checkFailure run (if after.has .pipefail then
      after.ended (((statuses.filter (· ≠ 0)).getLast?).getD 0) else after)
  | .negate c => (guard run c s).andThen fun s => s.ended (if s.status = 0 then 1 else 0)
  | .both first second =>
    (guard run first s).andThen fun s => if s.status = 0 then run second s else s
  | .either first second =>
    (guard run first s).andThen fun s => if s.status = 0 then s else run second s
  | .sequence commands => runAll commands s
  | .background _ c => startTask c s
  | .conditional test yes no =>
    (guard run test s).andThen fun s =>
      if s.status = 0 then run yes s
      else
        match no with
        | some no => run no s
        | none => s.ended 0
  | .loop untilSuccess test body => inLoop (repeatBody run untilSuccess test body roundLimit 0) s
  | .each line name words body =>
    let (fields, s) := allFields (capture run) words { s with line }
    let shown := "for ".toList ++ name ++ " in ".toList ++ List.intercalate [' '] (words.map spelledWord)
    s.andThen fun s =>
      if Script.isName name then inLoop (repeatFor run shown name body fields) (s.ended 0)
      else (s.complainHere ("\x60" ++ Octets.text name ++ "': not a valid identifier")).ended 1
  | .choose line name words body =>
    let (fields, s) := allFields (capture run) words { s with line }
    let shown := "select ".toList ++ name ++ " in ".toList ++ List.intercalate [' '] (words.map spelledWord)
    s.andThen fun s =>
      if !Script.isName name then (s.complainHere ("\x60" ++ Octets.text name ++ "': not a valid identifier")).ended 1
      else
        let s := traceLine (capture run) s.descriptors shown (s.ended 0)
        if fields.isEmpty then s else inLoop (repeatChosen run name fields body roundLimit true) s
  | .count line start test next body =>
    match calculateWord (capture run) 0 start { s with line } with
    | (.ok _, s) => inLoop (repeatCounted run test next body roundLimit) (s.ended 0)
    | (.error (), s) => s
  | .select line w arms =>
    let (value, s) := expandText (capture run) w { s with line }
    s.andThen fun s =>
      let shown := "case ".toList ++ spelledWord w ++ " in".toList
      let s := if s.isWide then traceLine (capture run) s.descriptors shown s else s
      runArms run value false arms (s.ended 0)
  | .isolated line body => checkFailure run (runIsolated run line body s)
  | .define _ name body text => { s with status := 0, functions := setKey name ⟨body, s.source, text, false⟩ s.functions }
  | .redirected line c redirections =>
    let (done, redirected) := redirectAll (capture run) redirections { s with line }
    if done then
      let after := runInner run c redirected
      { after with descriptors := keptDescriptors s.descriptors redirections after }
    else { redirected with descriptors := s.descriptors, status := if s.isWide then 1 else 2 }
  | .calculate line w =>
    match calculateWord (capture run) 0 w { s with line } with
    | (.ok n, s) => checkFailure run (s.ended (if n = 0 then 1 else 0))
    | (.error (), s) => checkFailure run { s with status := 1, jump := if s.jump = some .error then none else s.jump }
  | .test line t =>
    match testValue (capture run) false t { s with line } with
    | (.ok value, s) => s.andThen fun s => checkFailure run (s.ended (if value then 0 else 1))
    | (.error problem, s) =>
      let s := if problem.isEmpty then s else s.complainHere ("[[: " ++ problem)
      checkFailure run (s.ended 2)
  | .timed brief c =>
    let after := run c s
    if after.jump.isSome then after
    else
      let row (name : String) : String := if brief then name ++ " 0.00\n" else name ++ "\t0m0.000s\n"
      let text := (if brief then "" else "\n") ++ row "real" ++ row "user" ++ row "sys"
      { after.write 2 text.toList with writeFault := after.writeFault }
where
  /-- Runs commands in order; something is left to be done after all but the
  last one. -/
  runAll : List Command → State → State
    | [], s => s
    | [c], s => run c s
    | c :: cs, s => (runInner run c s).andThen (runAll cs)

/-- One step of running a command: signals are taken before and after
it. -/
def step (run : Runner) (c : Command) (s : State) : State :=
  if s.has .noexec then s
  else (takeSignals run s).andThen fun s => (perform run c s).andThen (takeSignals run)

/-- Runs a command that nests less than `depth` deep. -/
def execute : Nat → Runner
  | 0 => fun _ s => s.abort "nested too deep"
  | depth + 1 => step (execute depth)

/-- The depth to which commands may nest. -/
def depthLimit : Nat := 10000

end Shell

end Tangle
