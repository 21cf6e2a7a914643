import Tangle.Shell.Elements
import Tangle.Shell.Number
import Tangle.Text.Letter
/-!
# Programs of the system

A program of the system takes its arguments, the first of which is the name
that it was called by, and leaves output and a status (`Utility`). This file
holds what they share: reading options in any order among the operands,
naming things in complaints, and reading the files that operands name.
-/

namespace Tangle

namespace Shell

/-- Runs a program, found by its name or path, with arguments of which the
first is the name. -/
abbrev Caller := Octets → List Octets → State → Except Fault State

/-- What a program does with its arguments, given how it calls others. -/
abbrev Utility := Caller → List Octets → State → State

namespace Utility

/-! ## Names in complaints -/

/-- The escape of an octet that cannot be seen. -/
def controlEscape (c : Char) : Octets :=
  match c with
  | '\x07' => ['\\', 'a']
  | '\x08' => ['\\', 'b']
  | '\x0c' => ['\\', 'f']
  | '\n' => ['\\', 'n']
  | '\r' => ['\\', 'r']
  | '\t' => ['\\', 't']
  | '\x0b' => ['\\', 'v']
  | c =>
    let ds := Nat.toDigits 8 c.toNat
    '\\' :: List.replicate (3 - ds.length) '0' ++ ds

/-- The character cannot be seen, or is an octet that is no character. -/
def isHidden (c : Char) : Bool := Octets.isStray c || Text.isControl c

/-- The character between curved quotes. -/
def curlyChar (c : Char) : Octets :=
  if isHidden c then (Octets.ofChar c).flatMap controlEscape
  else if c = '\\' then ['\\', '\\']
  else if c = '’' then '\\' :: Octets.ofChar c
  else Octets.ofChar c

/-- A text between curved quotes. -/
def curly (s : Octets) : String := "‘" ++ Octets.text ((Octets.chars s).flatMap curlyChar) ++ "’"

/-- A character that a command would not take as it is. -/
def isShellSpecial (c : Char) : Bool :=
  isHidden c || " !\"$&'()*;<=>?[\\^\x60|".toList.contains c

/-- A text that needs quotes to be taken as it is. -/
def needsQuotes (s : Octets) : Bool :=
  s.isEmpty || (Octets.chars s).any isShellSpecial || s = ['\x7b'] || s = ['\x7d']
    || s.head? = some '#' || s.head? = some '~'

/-- The inside of a text in single quotes. `escaping` tells that the last
character was an escape. -/
def insideQuotes : Bool → List Char → Octets
  | escaping, [] => if escaping then ['\'', '\''] else []
  | escaping, c :: s =>
    if isHidden c then
      (if escaping then [] else ['\'', '$', '\'']) ++ (Octets.ofChar c).flatMap controlEscape ++ insideQuotes true s
    else
      (if escaping then ['\'', '\''] else [])
        ++ (if c = '\'' then ['\'', '\\', '\'', '\''] else Octets.ofChar c) ++ insideQuotes false s

/-- A text in quotes, as a command would take it. -/
def quoteOctets (s : Octets) : Octets :=
  let cs := Octets.chars s
  let isPlain := !cs.any isHidden
  if s.contains '\'' && isPlain && !s.any (fun c => "\"$\\\x60!".toList.contains c) then ['"'] ++ s ++ ['"']
  else
    let body := insideQuotes false cs
    ['\''] ++ (if body.drop (body.length - 2) = ['\'', '\''] && !isPlain then body.dropLast else body ++ ['\''])

/-- A text in quotes, for a complaint. -/
def quote (s : Octets) : String := Octets.text (quoteOctets s)

/-- A text in quotes if it needs them, for a complaint. -/
def quoteRare (s : Octets) : String := if needsQuotes s || s.contains ':' then quote s else Octets.text s

/-! ## Options -/

/-- The options that a program understands. -/
structure Spec where
  /-- The letters without an argument. -/
  flags : String
  /-- The letters with an argument. -/
  valued : String
  /-- The letters whose argument has to follow at once, if there is one. -/
  optional : String
  /-- The long names with the letters that they stand for. -/
  long : List (String × Char)
  /-- Options only stand in front of the operands. -/
  ordered : Bool
  /-- The status after a fault in the arguments. -/
  status : Nat

/-- Options of one letter each. -/
def Spec.letters (flags valued : String) : Spec := ⟨flags, valued, "", [], false, 1⟩

/-- What is wrong with arguments. -/
inductive Problem where
  /-- A value is wrong. -/
  | value (message : String)
  /-- They are not used as they have to be. -/
  | usage (message : String)
  /-- A word is not among those that can be chosen. -/
  | choice (message : String)

/-- The status after a problem, where others have the standard one. -/
def Problem.status (standard : Nat) : Problem → Nat
  | choice _ => 1
  | _ => standard

/-- The word that the argument of an option names by its start; `words` has
words of one meaning together. -/
def chooseWord (option : String) (words : List (List String)) (v : Octets) : Except Problem String :=
  let named (w : String) : Bool := w.toList = v
  let found : List (List String) := match words.filter fun ws => ws.any named with
    | [] => words.filter fun ws => ws.any fun w => v.isPrefixOf w.toList
    | exact => exact
  match found with
  | [w :: _] => .ok w
  | _ =>
    let listed := words.map fun ws => "\n  - " ++ String.intercalate ", " (List.map (fun w => "‘" ++ w ++ "’") ws)
    .error (.choice ((if found.isEmpty then "invalid" else "ambiguous") ++ " argument " ++ curly v ++ " for ‘" ++ option
      ++ "’\nValid arguments are:" ++ String.join listed))

/-- A program that was called. -/
structure Invoked where
  /-- The name by which it was called. -/
  name : String
  /-- The options with their arguments. -/
  options : List (Char × Octets)
  /-- The operands. -/
  operands : List Octets

namespace Invoked

/-- The option was given. -/
def has (i : Invoked) (c : Char) : Bool := i.options.any fun o => o.1 = c

/-- The argument of the option, as it was given last. -/
def value? (i : Invoked) (c : Char) : Option Octets :=
  ((i.options.filter fun o => o.1 = c).getLast?).map Prod.snd

/-- The last given of some options. -/
def last? (i : Invoked) (letters : String) : Option Char :=
  ((i.options.filter fun o => letters.toList.contains o.1).getLast?).map Prod.fst

/-- The program complains; its status is one at the end. -/
def complain (i : Invoked) (message : String) (s : State) : State :=
  { s.complain (i.name ++ ": " ++ message) with status := 1 }

/-- The programs that have their names in front of the hint at help too. -/
def namedHints : List String := ["cmp", "diff"]

/-- The program complains about its arguments and ends. -/
def refuse (i : Invoked) (message : String) (s : State) : State :=
  let hint := "Try '" ++ i.name ++ " --help' for more information."
  (i.complain message s).complain (if namedHints.contains i.name then i.name ++ ": " ++ hint else hint)

/-- The program complains about its arguments, for which there is help if the
fault is in their use. -/
def reject (i : Invoked) (p : Problem) (s : State) : State :=
  match p with
  | .value message => i.complain message s
  | .usage message => i.refuse message s
  | .choice message => i.refuse message s

/-- The complaint that names an operand. -/
def complainOf (i : Invoked) (operand : Octets) (fault : Fault) (s : State) : State :=
  i.complain (quoteRare operand ++ ": " ++ faultText fault) s

end Invoked

/-- The options of arguments, up to one that is not understood, and the
operands or the complaint about that option. -/
abbrev Arguments := List (Char × Octets) × Except String (List Octets)

/-- Arguments with an option in front. -/
def Arguments.withOption (o : Char × Octets) (a : Arguments) : Arguments := (o :: a.1, a.2)

/-- Arguments with an operand in front. -/
def Arguments.withOperand (operand : Octets) (a : Arguments) : Arguments :=
  (a.1, a.2.map fun operands => operand :: operands)

/-- Arguments that end with a complaint. -/
def Arguments.wrong (message : String) : Arguments := ([], .error message)

/-- Reads arguments: options, and operands among them. -/
def readArguments (spec : Spec) : Nat → List Octets → Arguments
  | 0, args => ([], .ok args)
  | _ + 1, [] => ([], .ok [])
  | fuel + 1, a :: rest =>
    let withOption (o : Char × Octets) (rest : List Octets) : Arguments := (readArguments spec fuel rest).withOption o
    match a with
    | ['-', '-'] => ([], .ok rest)
    | '-' :: '-' :: body =>
      let name := body.takeWhile (· ≠ '=')
      let value := (body.drop name.length).drop 1
      let hasValue := body.contains '='
      let found : List (String × Char) := match spec.long.filter fun l => l.1.toList = name with
        | [] => spec.long.filter fun l => name.isPrefixOf l.1.toList
        | exact => exact
      let isOne := (found.map Prod.snd).eraseDups.length = 1
      match found with
      | [] => .wrong ("unrecognized option '--" ++ Octets.text body ++ "'")
      | (long, c) :: _ =>
        if !isOne then
          let names := found.map fun l => " '--" ++ l.1 ++ "'"
          .wrong ("option '--" ++ Octets.text body ++ "' is ambiguous; possibilities:" ++ String.join names)
        else if spec.valued.toList.contains c then
          if hasValue then withOption (c, value) rest
          else
            match rest with
            | v :: rest => withOption (c, v) rest
            | [] => .wrong ("option '--" ++ long ++ "' requires an argument")
        else if hasValue && !spec.optional.toList.contains c then
          .wrong ("option '--" ++ long ++ "' doesn't allow an argument")
        else withOption (c, value) rest
    | '-' :: c :: letters =>
      if spec.valued.toList.contains c then
        match letters, rest with
        | [], [] => .wrong ("option requires an argument -- '" ++ Octets.text [c] ++ "'")
        | [], v :: rest => withOption (c, v) rest
        | v, rest => withOption (c, v) rest
      else if spec.optional.toList.contains c then withOption (c, letters) rest
      else if spec.flags.toList.contains c then
        withOption (c, []) (if letters.isEmpty then rest else ('-' :: letters) :: rest)
      else .wrong ("invalid option -- '" ++ Octets.text [c] ++ "'")
    | operand =>
      if spec.ordered then ([], .ok (operand :: rest)) else (readArguments spec fuel rest).withOperand operand

/-- The arguments of a call. -/
def argumentsOf (spec : Spec) (argv : List Octets) : Arguments :=
  readArguments spec (argv.flatten.length + argv.length + 1) (argv.drop 1)

/-- The program with its options read. -/
def withOptions (spec : Spec) (work : Invoked → State → State) : Utility := fun _ argv s =>
  let name := Octets.text (argv.head?.getD [])
  match argumentsOf spec argv with
  | (options, .ok operands) => work ⟨name, options, operands⟩ (s.ended 0)
  | (_, .error problem) => { (Invoked.mk name [] []).refuse problem s with status := spec.status }

/-- The program with its options turned into a setting. What is wrong with an
option is told before what is not understood behind it. -/
def withSetting {α : Type} (spec : Spec) (setting : List (Char × Octets) → Except Problem α)
    (work : Invoked → α → State → State) : Utility := fun call argv s =>
  let i : Invoked := ⟨Octets.text (argv.head?.getD []), [], []⟩
  match setting (argumentsOf spec argv).1 with
  | .error problem => { i.reject problem s with status := problem.status spec.status }
  | .ok v => withOptions spec (fun i s => work i v s) call argv s

/-- The program without options. -/
def simple (work : List Octets → State → State) : Utility := fun _ argv s => work argv s

/-- Works on operands in order; there has to be one. -/
def Invoked.each (i : Invoked) (kind : String) (work : Octets → State → State) (s : State) : State :=
  if i.operands.isEmpty then i.refuse ("missing " ++ kind) s
  else i.operands.foldl (fun s o => work o s) s

/-! ## Files -/

/-- The content that an operand names; `-` is standard input. -/
def content (operand : Octets) (s : State) : Except Fault Octets × State :=
  if operand = ['-'] then s.readAll 0
  else
    match s.openStream (State.path operand) .forReading with
    | (.error fault, s) => (.error fault, s)
    | (.ok stream, s) => s.readStream stream

/-- The contents that operands name, or standard input if there are none;
complains about those that cannot be read. -/
def contents (complain : Octets → Fault → State → State) (operands : List Octets) (s : State) :
    List (Octets × Octets) × State :=
  (if operands.isEmpty then [['-']] else operands).foldl (fun (acc, s) operand =>
    match content operand s with
    | (.ok text, s) => (acc ++ [(operand, text)], s)
    | (.error fault, s) => (acc, complain operand fault s))
    ([], s)

/-- What operands stand for: without any, standard input. -/
def Invoked.inputs (i : Invoked) : List Octets := if i.operands.isEmpty then [['-']] else i.operands

/-- Works on the text of each input in turn, with a progress that is kept
from one to the next. -/
def Invoked.through {α : Type} (i : Invoked) (refuse : Octets → Fault → State → State)
    (work : Octets → Octets → α → State → α × State) (start : α) (s : State) : α × State :=
  i.inputs.foldl (fun (progress, s) operand =>
    match content operand s with
    | (.ok text, s) => work operand text progress s
    | (.error fault, s) => (progress, refuse operand fault s)) (start, s)

/-- Prints what becomes of each input in turn. -/
def Invoked.printing {α : Type} (i : Invoked) (show' : α → Octets → Octets × α) (start : α) (s : State) : State :=
  (i.through i.complainOf (fun _ text progress s =>
    let (output, progress) := show' progress text
    (progress, s.print output)) start s).2

/-- Writes a text to a file, over what was there. -/
def writeFile (file text : Octets) (mode : WriteMode) (s : State) : Except Fault State :=
  match s.openStream (State.path file) (.forWriting mode) with
  | (.error fault, _) => .error fault
  | (.ok stream, s) =>
    let after := { s with writeFault := none }.writeStream stream text
    match after.writeFault with
    | some fault => .error fault
    | none => .ok { after with writeFault := s.writeFault }

/-- Lines with their ends. -/
def endedLines : Octets → List Octets
  | [] => []
  | '\n' :: s => ['\n'] :: endedLines s
  | c :: s =>
    match endedLines s with
    | l :: ls => (c :: l) :: ls
    | [] => [[c]]

/-- The lines of a text, each with the fact that it has an end. -/
def linesWithEnds (lineEnd : Char) (t : Octets) : List (Octets × Bool) :=
  if t.isEmpty then []
  else
    let pieces := Octets.splitOn lineEnd t
    let ended := t.getLast? = some lineEnd
    pieces.dropLast.map (·, true) ++ (if ended then [] else pieces.drop (pieces.length - 1) |>.map (·, false))

/-- A number filled up with blanks at its left. -/
def padLeft (width : Nat) (s : Octets) : Octets := List.replicate (width - s.length) ' ' ++ s

/-- The decimal digits of a number. -/
def decimal (n : Nat) : Octets := (toString n).toList

end Utility

end Shell

end Tangle
