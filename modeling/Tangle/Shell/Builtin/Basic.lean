import Tangle.Shell.Arithmetic
import Tangle.Shell.Builtin.Synopsis
/-!
# Built-in commands

A built-in command takes its arguments and the state of the interpreter. A
fault that it cannot go on after is a jump; the interpreter ends by it after
a special command only. This file holds what the commands share: reading
their options and complaining.
-/

namespace Tangle

namespace Shell

/-- A built-in command. -/
abbrev Builtin := List Octets → State → State

namespace Builtin

/-- The command fails with `status` and a complaint. -/
def fail (status : Nat) (message : String) (s : State) : State :=
  { s.complainHere message with status }

/-- Says how the command is used. -/
def showSynopsis (s : State) : State :=
  let name := s.speaker.getD []
  (s.complain (Octets.text name ++ ": usage: " ++ synopsis name)).ended 2

/-- An option that was given, with its argument if it takes one. -/
abbrev Given := Char × Octets

/-- What is wrong with options. -/
inductive OptionFlaw where
  /-- There is no such option. -/
  | unknown (c : Char)
  /-- The option needs an argument. -/
  | noArgument (c : Char)

/-- The words of a complaint about options. -/
def OptionFlaw.message (dialect : Dialect) : OptionFlaw → String
  | .unknown c =>
    if dialect = .plain then "Illegal option -" ++ Octets.text [c] else "-" ++ Octets.text [c] ++ ": invalid option"
  | .noArgument c =>
    if dialect = .plain then "No arg for -" ++ Octets.text [c] ++ " option"
    else "-" ++ Octets.text [c] ++ ": option requires an argument"

/-- Complains about options. -/
def refuseOptions (flaw : OptionFlaw) (s : State) : State :=
  if s.isWide then showSynopsis (s.complainHere (flaw.message .wide)) else s.abort (flaw.message .plain)

/-- Reads options in front of operands. In `spec` a colon follows the letters
that take an argument. -/
def options (spec : String) : Nat → List Octets → Except OptionFlaw (List Given × List Octets)
  | 0, args => .ok ([], args)
  | fuel + 1, args =>
    match args with
    | ['-', '-'] :: rest => .ok ([], rest)
    | ('-' :: c :: letters) :: rest => letter fuel c letters rest
    | args => .ok ([], args)
where
  /-- Reads the option `c` and the letters after it. -/
  letter (fuel : Nat) (c : Char) (letters : Octets) (rest : List Octets) :
      Except OptionFlaw (List Given × List Octets) :=
    match fuel with
    | 0 => .ok ([], rest)
    | fuel + 1 =>
      let known := spec.toList
      if !known.contains c || c = ':' then .error (.unknown c)
      else if (known.dropWhile (· ≠ c)).drop 1 |>.head? |>.any (· = ':') then
        match letters, rest with
        | [], [] => .error (.noArgument c)
        | [], a :: rest => (options spec fuel rest).map fun (given, rest) => ((c, a) :: given, rest)
        | a, rest => (options spec fuel rest).map fun (given, rest) => ((c, a) :: given, rest)
      else
        match letters with
        | [] => (options spec fuel rest).map fun (given, rest) => ((c, []) :: given, rest)
        | d :: more => (letter fuel d more rest).map fun (given, rest) => ((c, []) :: given, rest)

/-- More than the number of steps that reading options takes. -/
def optionSteps (args : List Octets) : Nat := 2 * (args.flatten.length + args.length) + 2

/-- The command with its options read: those of the plain dialect, and
those of the wide one. -/
def withOptions (plain wide : String) (work : List Given → Builtin) : Builtin := fun args s =>
  match options (if s.isWide then wide else plain) (optionSteps args) args with
  | .ok (given, operands) => work given operands s
  | .error flaw => refuseOptions flaw s

/-- The option was given. -/
def has (given : List Given) (c : Char) : Bool := given.any fun g => g.1 = c

/-- A text in single quotes as interpreters list it: each run of quotes in it
stands between double ones. -/
def quoted (s : Octets) : Octets :=
  go (s.length + 1) s
where
  /-- Quotes a text in turns. -/
  go : Nat → Octets → Octets
    | 0, _ => []
    | fuel + 1, s =>
      let plain := s.takeWhile (· ≠ '\'')
      let rest := s.dropWhile (· ≠ '\'')
      let quotes := rest.takeWhile (· = '\'')
      let after := rest.dropWhile (· = '\'')
      ['\''] ++ plain ++ ['\'']
        ++ (if quotes.isEmpty then [] else ['"'] ++ quotes ++ ['"'])
        ++ (if after.isEmpty then [] else go fuel after)

/-- The argument of an option that was given, the last one if it was given
more than once. -/
def argumentOf? (given : List Given) (c : Char) : Option Octets :=
  ((given.filter fun g => g.1 = c).getLast?).map Prod.snd

/-- The number of an operand, or a complaint. -/
def count (s : Octets) : Except String Nat :=
  match Numeral.whole? (some 10) s with
  | some (.ofNat n) => if n < Nat.pow 2 31 then .ok n else .error ("Illegal number: " ++ Octets.text s)
  | _ => .error ("Illegal number: " ++ Octets.text s)

/-- The number of an operand in the wide dialect, or a complaint. -/
def wideCount (s : Octets) : Except String Int :=
  match Numeral.whole? (some 10) s with
  | some n => .ok n
  | none => .error (Octets.text s ++ ": numeric argument required")

/-- A name in quotes as complaints show it. -/
def named (name : Octets) : String := "\x60" ++ Octets.text name ++ "'"

/-- What an index between brackets stands for; nothing if it is at
fault. -/
def indexOf (name text : Octets) (s : State) : Option Index × State :=
  if s.isKeyed name then (some (.key text), s)
  else
    match s.calculate text with
    | (.ok n, s) => (some (.number n), s)
    | (.error (), s) => (none, s)

/-- The name and the index of an operand such as `a[1]`. -/
def splitIndex (operand : Octets) : Octets × Option Octets :=
  match operand.dropWhile (· ≠ '[') with
  | _ :: rest =>
    if rest.getLast? = some ']' then (operand.takeWhile (· ≠ '['), some rest.dropLast) else (operand, none)
  | [] => (operand, none)

/-- Gives a variable, or the element of an array that an operand names, a
text. -/
def store (operand text : Octets) (s : State) : State :=
  match splitIndex operand with
  | (name, some index) =>
    match indexOf name index s with
    | (some i, s) => s.setElement name i index text
    | (none, s) => s
  | (name, none) => s.setVariable name text

/-- The operand names a variable or an element of an array. -/
def isTarget (s : State) (operand : Octets) : Bool :=
  let (name, index) := splitIndex operand
  Script.isName name && (s.isWide || index.isNone)

end Builtin

end Shell

end Tangle
