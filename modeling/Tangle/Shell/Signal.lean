import Tangle.Shell.State
/-!
# Signals

The signals that a process can send, by number and name, and what they do
where nothing else is wanted.
-/

namespace Tangle

namespace Shell

/-- A signal. -/
structure Signal where
  /-- The number. -/
  number : Nat
  /-- The name. -/
  name : String
  /-- What is said of a process that it ends; nothing if it ends none. -/
  description : Option String
deriving Repr, DecidableEq

namespace Signal

/-- The signals that have a name of their own. -/
def named : List Signal :=
  [⟨1, "HUP", some "Hangup"⟩, ⟨2, "INT", some ""⟩, ⟨3, "QUIT", some "Quit"⟩,
   ⟨4, "ILL", some "Illegal instruction"⟩, ⟨5, "TRAP", some "Trace/breakpoint trap"⟩,
   ⟨6, "ABRT", some "Aborted"⟩, ⟨7, "BUS", some "Bus error"⟩, ⟨8, "FPE", some "Floating point exception"⟩,
   ⟨9, "KILL", some "Killed"⟩, ⟨10, "USR1", some "User defined signal 1"⟩,
   ⟨11, "SEGV", some "Segmentation fault"⟩, ⟨12, "USR2", some "User defined signal 2"⟩,
   ⟨13, "PIPE", some ""⟩, ⟨14, "ALRM", some "Alarm clock"⟩, ⟨15, "TERM", some "Terminated"⟩,
   ⟨16, "STKFLT", some "Stack fault"⟩, ⟨17, "CHLD", none⟩, ⟨18, "CONT", none⟩, ⟨19, "STOP", none⟩,
   ⟨20, "TSTP", none⟩, ⟨21, "TTIN", none⟩, ⟨22, "TTOU", none⟩, ⟨23, "URG", none⟩,
   ⟨24, "XCPU", some "CPU time limit exceeded"⟩, ⟨25, "XFSZ", some "File size limit exceeded"⟩,
   ⟨26, "VTALRM", some "Virtual timer expired"⟩, ⟨27, "PROF", some "Profiling timer expired"⟩,
   ⟨28, "WINCH", none⟩, ⟨29, "IO", some "I/O possible"⟩, ⟨30, "PWR", some "Power failure"⟩,
   ⟨31, "SYS", some "Bad system call"⟩]

/-- The signals without a name of their own: they are counted from the
first or the last one. -/
def counted : List Signal :=
  [⟨32, "32", some "Unknown signal 32"⟩, ⟨33, "33", some "Unknown signal 33"⟩]
    ++ (List.range 31).map fun n =>
      let name := if n = 0 then "RTMIN" else if n = 30 then "RTMAX"
        else if n ≤ 15 then "RTMIN+" ++ toString n else "RTMAX-" ++ toString (30 - n)
      ⟨n + 34, name, some ("Real-time signal " ++ toString n)⟩

/-- All signals. -/
def all : List Signal := named ++ counted

/-- The signal of a number. -/
def ofNumber? (n : Nat) : Option Signal := all.find? fun s => s.number = n

/-- The signal of a name, in letters of either case. -/
def ofName? (name : Octets) : Option Signal :=
  all.find? fun s => s.name.toList = name.map Char.toUpper

/-- The number of a signal or of the end of a process, given as a number or
name. -/
def number? (s : Octets) : Option Nat :=
  match Octets.nat? s with
  | some n => if n ≤ 64 then some n else none
  | none => if s.map Char.toUpper = "EXIT".toList then some 0 else (ofName? s).map Signal.number

/-- The name of a signal, or of the end of a process. -/
def nameOf (n : Nat) : String := if n = 0 then "EXIT" else ((ofNumber? n).map Signal.name).getD (toString n)

end Signal

end Shell

end Tangle
