import Tangle.Shell.Signal
/-!
# Jobs

An interpreter keeps a list of the processes that it has started beside
itself, the newest first. Each one has a number, the least that is free; the
number of a process that has ended and was waited for is free again.
-/

namespace Tangle

namespace Shell

namespace State

/-- How the process of a job ended, if it did. -/
def outcome? (s : State) (j : Job) : Option Outcome := s.outcomes.lookup j.process

/-- The job is over, and was waited for. -/
def isSettled (s : State) (j : Job) : Bool := (s.outcome? j).isSome && j.awaited

/-- The state without a job. -/
def dropJob (number : Nat) (s : State) : State := { s with jobs := s.jobs.filter fun j => j.number ≠ number }

/-- The least number that is free for a job, or that of a job that was
settled before. -/
def freeNumber (s : State) : Nat :=
  ((List.range (s.jobs.length + 1)).map (· + 1)).find? (fun n =>
    match s.jobs.find? fun j => j.number = n with
    | some j => s.isSettled j
    | none => true) |>.getD 1

/-- Takes the number of a job that was settled, if it is the next one to be
used. -/
def releaseNumber (s : State) : State := s.dropJob s.freeNumber

/-- Adds a job for a process. -/
def addJob (process parts : Nat) (s : State) : State :=
  let number := s.freeNumber
  let s := s.dropJob number
  { s with jobs := ⟨number, process, parts, false⟩ :: s.jobs, lastJob := some process }

/-- Notes that somebody has waited for the process of a job. -/
def markAwaited (process : Nat) (s : State) : State :=
  { s with jobs := s.jobs.map fun j => if j.process = process then { j with awaited := true } else j }

/-- The job that an operand such as `%1` names, or a complaint. -/
def jobOf (operand : Octets) (s : State) : Except String Job :=
  let unknown := "No such job: " ++ Octets.text operand
  match operand.drop 1 with
  | [] | ['+'] | ['%'] =>
    match s.jobs with
    | j :: _ => .ok j
    | [] => .error "No current job"
  | ['-'] =>
    match s.jobs with
    | _ :: j :: _ => .ok j
    | _ => .error "No previous job"
  | name =>
    match (Octets.nat? name).bind fun n => s.jobs.find? fun j => j.number = n with
    | some j => .ok j
    | none => .error unknown

/-- What is said of a job. -/
def jobLine (s : State) (j : Job) : Octets :=
  let mark := if s.jobs.head?.any fun k => k.number = j.number then "+"
    else if (s.jobs.drop 1).head?.any fun k => k.number = j.number then "-" else " "
  let course := match s.outcome? j with
    | none => "Running"
    | some ⟨status, true⟩ => ((Signal.ofNumber? (status - 128)).bind Signal.description).getD ""
    | some ⟨0, false⟩ => "Done"
    | some ⟨status, false⟩ => "Done(" ++ toString status ++ ")"
  let front := ("[" ++ toString j.number ++ "] " ++ mark ++ " " ++ course).toList
  front ++ List.replicate (33 - front.length) ' '
    ++ (List.replicate (j.parts - 1) " | ".toList).flatten ++ ['\n']

/-- Says what has become of a job; nothing more is known of one that is
over. -/
def showJob (s : State) (j : Job) : State :=
  let shown := s.print (s.jobLine j)
  if (s.outcome? j).isSome then shown.dropJob j.number else shown

end State

end Shell

end Tangle
