import Tangle.Shell.Expand
import Tangle.Shell.Job
import Tangle.Shell.Script.Problem
/-!
# Processes

Commands run in processes. A process of its own shares the system with the
one that made it and nothing else (`State.forked`, `State.reap`). Signals
are taken between commands: a trap runs its commands, and a signal without
one may kill the process (`takeSignals`). Processes beside the others have
run when the time at which they end has come (`settle`).

A command inside another one is run by a function that is given
(`Runner`).
-/

namespace Tangle

namespace Shell

/-- The run of a command. -/
abbrev Runner := Command → State → State

namespace State

/-- Goes on with `f` unless something else is to happen. -/
def andThen (s : State) (f : State → State) : State :=
  if s.jump.isSome then s else f s

/-- The state in which a process of its own starts. Only what is ignored
stays trapped. -/
def forked (s : State) : State :=
  { s with
    self := s.nextProcess
    nextProcess := s.nextProcess + 1
    subshells := s.subshells + 1
    jobs := []
    traps := s.traps.filter fun t => t.2.isEmpty
    isLast := true
    jump := none
    writeFault := none }

/-- Says by what signal a process was killed, unless nothing is said of
it. -/
def announce (signal : Nat) (s : State) : State :=
  match (Signal.ofNumber? signal).bind Signal.description with
  | some text => if text.isEmpty || (s.isWide && signal ≠ 15) then s else s.complain text
  | none => s

/-- What a process that has ended leaves of the state `s`: what is shared,
and its status. -/
def reap (s child : State) : State :=
  let s := if s.jobs.isEmpty then s else { s with outcomes := child.outcomes }.releaseNumber
  if child.jump = some .killed then (s.afterIsolated child).announce (child.status - 128)
  else s.afterIsolated { child with status := child.status % 256 }

/-- The process is killed by a signal. -/
def kill (signal : Nat) (s : State) : State :=
  { s with status := 128 + signal, jump := some .killed }

/-- The process was given traps that run commands. -/
def hasTraps (s : State) : Bool := s.traps.any fun t => !t.2.isEmpty

end State

/-! ## Scripts -/

/-- Warns of texts in a script without the line that ends them. -/
def warnOfEndless (endless : List Script.Endless) (s : State) : State :=
  if !s.isWide then s
  else endless.foldl (fun s e =>
    s.complain (Octets.text (s.source.file.getD s.name) ++ ": line " ++ toString e.stop ++ ": warning: here-document at line "
      ++ toString e.start ++ " delimited by end-of-file (wanted \x60" ++ Octets.text e.delimiter ++ "')")) s

/-- Complains about the form of a script, at which the interpreter ends. -/
def refuseScript (script : Octets) (misfit : Script.Misfit) (s : State) : State :=
  if s.isWide then
    let speaker := match s.speaker with
      | some name => if s.source.file.isSome then "" else Octets.text name ++ ": "
      | none => if s.isCommandText then "-c: " else ""
    let front := Octets.text (s.source.file.getD s.name) ++ ": " ++ speaker ++ "line " ++ toString (misfit.wideLine script) ++ ": "
    let s := (misfit.wideMessages script).foldl (fun s m => s.complain (front ++ m)) s
    if misfit.problem matches .condition _ then s
    else
    let status := if misfit.problem matches .unclosed ['('] _ then 1 else 2
    { s with status, jump := some (if s.speaker.isSome then .error else .exit) }
  else { s with line := misfit.line }.abort ("Syntax error: " ++ misfit.problem.message)

/-- Runs the commands of a script from a place in it. Nothing is left to be
done after its last command if `isLast` is set. -/
def runFrom (run : Runner) (isLast : Bool) (script : Octets) : Nat → Script.Scan → State → State
  | 0, _, s => s
  | fuel + 1, scan, s =>
    let aliases := if s.isWide && !s.hasFeature .expandAliases then [] else s.aliases
    let result := Script.next.run { scan with aliases, groups := s.hasFeature .extglob }
    match result with
    | .error misfit =>
      let s := refuseScript script misfit (warnOfEndless misfit.endless s)
      -- After a malformed condition the interpreter goes on with the next line.
      if s.jump.isSome then s
      else runFrom run isLast script fuel (Script.Scan.ofLine s.dialect (misfit.line + 1) script) s
    | .ok (c?, next) =>
      let s := warnOfEndless next.endless s
      let next := { next with endless := [] }
      let s := if s.showsScript && s.has .verbose then
          let shown := scan.rest.take (scan.rest.length - next.rest.length)
          s.write 2 (if s.isWide && shown.getLast?.any (· ≠ '\n') then shown ++ ['\n'] else shown)
        else s
      match c? with
      | none => s
      | some c =>
        let atEnd := next.pushed matches some .endOfText
        let speaker := s.speaker
        let s := run c { s with
          source := ⟨next.texts, next.line, s.source.file⟩, isLast := isLast && atEnd
          speaker := if s.isWide then none else speaker }
        let s := { s with speaker }
        -- In the wide dialect a fault ends the commands of one line.
        let s := if s.jump = some .leaveLine || (s.isWide && s.jump = some .error) then { s with jump := none } else s
        if s.jump.isSome || atEnd then s else runFrom run isLast script fuel next s

/-- Runs a script in the state as it is. -/
def runScript (run : Runner) (isLast : Bool) (script : Octets) (s : State) : State :=
  let after := runFrom run isLast script (script.length + 1) (Script.Scan.ofScript s.dialect [] script) s
  { after with source := s.source, isLast := s.isLast }

/-! ## Signals and the end -/

/-- Does what a signal asks for. -/
def takeSignal (run : Runner) (signal : Nat) (s : State) : State :=
  match s.traps.lookup signal with
  | some [] => s
  | some commands =>
    let status := s.trapped.getD s.status
    let after := runScript run false commands
      { s with trapped := some status, guarded := false, indirection := s.indirection + 1 }
    let after := { after with trapped := s.trapped, guarded := s.guarded, indirection := s.indirection }
    if after.jump.isSome then after else after.ended status
  | none => if ((Signal.ofNumber? signal).bind Signal.description).isSome then s.kill signal else s

/-- Does what the signals that were sent to the process ask for. -/
def takeSignals (run : Runner) (s : State) : State :=
  if s.signals.isEmpty then s
  else
    let mine := (s.signals.filter fun e => e.1 = s.self).map Prod.snd
    let s := { s with signals := s.signals.filter fun e => e.1 ≠ s.self }
    (mine.mergeSort (· ≤ ·)).eraseReps.foldl (fun s signal => s.andThen (takeSignal run signal)) s

/-- The process ends: the commands set for the end run. -/
def finish (run : Runner) (s : State) : State :=
  match s.traps.lookup 0 with
  | some (c :: commands) =>
    if s.jump = some .killed then s
    else
      let status := s.status
      let s := { s with traps := dropKey 0 s.traps, trapped := some status, guarded := false, jump := none }
      let after := runScript run false (c :: commands) s
      if after.jump.isSome then after else after.ended status
  | _ => s

/-- Runs a process of its own to its end. -/
def runProcess (run : Runner) (f : State → State) (child : State) : State :=
  finish run (takeSignals run (f child))

/-! ## Processes beside others -/

/-- The end of a process that has not run yet, and what is then left of the
system. -/
def Task.outcome (run : Runner) (t : Task) (s : State) : State :=
  let start : State := { s with
    toProcess := t.process, clock := t.start, waiting := s.waiting.filter fun u => u.id ≠ t.id
    status := 0, jump := none, writeFault := none }
  runProcess run (fun s => (takeSignals run s).andThen (run t.body)) start

/-- The process that ends first among those that have not run, with what it
leaves. -/
def firstEnding (run : Runner) (s : State) : Option (Task × State) :=
  s.waiting.foldl (fun (best : Option (Task × State)) t =>
    let after := t.outcome run s
    match best with
    | some (_, other) => if after.clock < other.clock then some (t, after) else best
    | none => some (t, after)) none

/-- How a process has ended that has left a state. -/
def outcomeOf (s : State) : Outcome :=
  if s.jump = some .killed then ⟨s.status, true⟩ else ⟨s.status % 256, false⟩

/-- Runs the processes beside this one that end by a time, or all of them,
at most so many. -/
def settleUntil (run : Runner) (limit : Option Nat) : Nat → State → State
  | 0, s => s
  | fuel + 1, s =>
    match firstEnding run s with
    | none => s
    | some (t, after) =>
      if limit.all fun n => after.clock ≤ n then
        settleUntil run limit fuel { s with
          toSystem := { after.toSystem with
            clock := max s.clock after.clock
            outcomes := setKey t.id (outcomeOf after) after.outcomes } }
      else s

/-- The processes beside others that are run at most. -/
def taskLimit : Nat := 10000

/-- Runs the processes beside this one that have ended by now. -/
def settle (run : Runner) (s : State) : State :=
  if s.waiting.isEmpty then s else settleUntil run (some s.clock) taskLimit s

/-- Waits for a process beside this one; the status of one that is not
known is 127. -/
def waitFor (run : Runner) (id : Nat) (s : State) : State :=
  let s := match s.waiting.find? fun t => t.id = id with
    | some t => settleUntil run (some (max s.clock (t.outcome run s).clock)) taskLimit s
    | none => s
  match (s.jobs.find? fun j => j.process = id).bind s.outcome? with
  | some o =>
    let isNew := s.jobs.any fun j => j.process = id && !j.awaited
    let s := if o.killed && isNew then s.announce (o.status - 128) else s
    (s.markAwaited id).ended o.status
  | none => s.ended 127

/-- Waits for all processes beside this one. -/
def waitForAll (run : Runner) (s : State) : State :=
  let s := settleUntil run none taskLimit s
  { s with status := 0, jobs := s.jobs.map fun j => { j with awaited := true } }

/-- Starts a process beside this one. -/
def startTask (body : Command) (s : State) : State :=
  let child := s.forked.attach 0 (Stream.ofDevice .null true false)
  let id := child.self
  let parts := match body with
    | .pipeline commands => commands.length
    | _ => 1
  let task : Task := ⟨id, s.clock, body, child.toProcess⟩
  ({ s with toSystem := { child.toSystem with waiting := child.waiting ++ [task] } }.ended 0).addJob id parts

/-! ## Output as text -/

/-- Runs commands and takes their output. -/
def capture (run : Runner) : Capture := fun c s =>
  let s := settle run s
  let status := s.status
  let index := s.streams.size
  let child := { s.forked.attach 1 Stream.pipe with guarded := false, indirection := s.indirection + 1 }
  let s := s.reap (runProcess run (run c) child)
  (s.textOf index, { s with status, outputStatus := s.status })

end Shell

end Tangle
