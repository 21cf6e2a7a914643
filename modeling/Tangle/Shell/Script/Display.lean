import Tangle.Shell.Script.Grammar
import Tangle.Shell.Quoting
/-!
# Showing functions

A function is shown as a definition that reads back (`Display.definition`):
each command on a line of its own, the commands inside others indented, and
words as they are written. For that its text is read once more with words
kept as they are.
-/

namespace Tangle

namespace Shell

namespace Script

namespace Display

/-- The blanks in front of a line that stands so deep. -/
def indent (depth : Nat) : Octets := List.replicate (4 * depth) ' '

/-- A new line that stands so deep. -/
def line (depth : Nat) : Octets := '\n' :: indent depth

/-- Commands with the sign that ends them, unless they end by themselves. -/
def ended (text : Octets) : Octets :=
  match text.getLast? with
  | some '&' | some '\n' => text
  | _ => text ++ [';']

/-- A word as it is written. -/
def word (w : Word) : Octets := (w.unquote).1

/-- Words as they are written. -/
def words (ws : List Word) : Octets := List.intercalate [' '] (ws.map word)

/-- What stands in front of the sign of a redirection, if it usually changes
the descriptor `standard`. -/
def descriptor (standard : Option Nat) : Descriptor → Octets
  | .number n => if standard = some n then [] else (toString n).toList
  | .named name => ['\x7b'] ++ name ++ ['\x7d']

/-- A redirection; a text that follows is not part of it. -/
def redirection : Redirection → Octets
  | .mk d direction target _ =>
    let t := word target
    let isNumber := !t.isEmpty && t.all Char.isDigit
    let sign := (directionSpelling direction).toList
    match direction with
    | .read | .hereWord => descriptor (some 0) d ++ sign ++ [' '] ++ t
    | .here =>
      let quoted := (Word.unquote target).2
      descriptor (some 0) d ++ sign ++ if quoted then Quoting.single t else t
    | .duplicateInput => descriptor (if isNumber || t = ['-'] then none else some 0) d ++ sign ++ t
    | .duplicateOutput =>
      if isNumber || t = ['-'] then descriptor none d ++ sign ++ t
      else if d = .number 1 then "&> ".toList ++ t
      else descriptor none d ++ sign ++ t
    | .writeBoth | .extendBoth => sign ++ [' '] ++ t
    | .write | .replace | .extend | .update => descriptor (some 1) d ++ sign ++ [' '] ++ t

/-- The texts of the redirections that take some, each with the line that
ends it. -/
def following (texts : List (Nat × Word)) (rs : List Redirection) : Octets :=
  rs.flatMap fun r =>
    match r with
    | .mk _ .here target n => word ((texts.lookup n).getD []) ++ word target ++ ['\n']
    | _ => []

/-- Redirections after a blank, with the texts that they take. -/
def redirections (texts : List (Nat × Word)) (rs : List Redirection) : Octets :=
  let bodies := following texts rs
  rs.flatMap (fun r => ' ' :: redirection r) ++ if bodies.isEmpty then [] else '\n' :: bodies

/-- An element of an array as it is written. -/
def element : Option Word × Word → Octets
  | (some index, w) => ['['] ++ word index ++ [']', '='] ++ word w
  | (none, w) => word w

/-- An assignment as it is written. -/
def assignment : Assignment → Octets
  | .value name index appends w =>
    let place : Octets := match index with
      | some i => ['['] ++ word i ++ [']']
      | none => []
    name ++ place ++ (if appends then ['+', '='] else ['=']) ++ word w
  | .array _ name appends elements =>
    name ++ (if appends then ['+', '='] else ['=']) ++ ['('] ++ List.intercalate [' '] (elements.map element) ++ [')']

/-- The words of a simple command with its assignments: an array among its
operands takes the place of its name. -/
def simpleWords (assignments : List Assignment) (ws : List Word) : List Octets :=
  let isOperand (a : Assignment) : Bool := a matches .array true ..
  let arrays := (assignments.filter isOperand).map fun a =>
    match a with
    | .array _ name _ _ => (name, assignment a)
    | .value name _ _ _ => (name, assignment a)
  (assignments.filter fun a => !isOperand a).map assignment ++ ws.map fun w => (arrays.lookup (word w)).getD (word w)

/-- A condition between doubled brackets. -/
def test : Test → Octets
  | .filled w => "-n ".toList ++ word w
  | .unary operator w => operator ++ [' '] ++ word w
  | .binary operator a b => word a ++ [' '] ++ operator ++ [' '] ++ word b
  | .negation t => "! ".toList ++ if isJoined t then grouped (test t) else test t
  | .both a b =>
    (if a matches .either .. then grouped (test a) else test a) ++ " && ".toList
      ++ if b matches .either .. then grouped (test b) else test b
  | .either a b => test a ++ " || ".toList ++ test b
where
  /-- The condition consists of others. -/
  isJoined : Test → Bool
    | .both .. | .either .. => true
    | _ => false
  /-- A condition in parentheses. -/
  grouped (text : Octets) : Octets := "( ".toList ++ text ++ " )".toList

mutual

/-- A command whose first line is indented already and whose other lines
stand so deep. -/
def command (texts : List (Nat × Word)) (depth : Nat) : Command → Octets
  | .simple _ as ws rs =>
    let front := List.intercalate [' '] (simpleWords as ws)
    let rest := redirections texts rs
    if front.isEmpty then rest.drop 1 else front ++ rest
  | .pipeline cs => piped texts depth cs
  | .negate c => "! ".toList ++ command texts depth c
  | .both a b => command texts depth a ++ " && ".toList ++ command texts depth b
  | .either a b => command texts depth a ++ " || ".toList ++ command texts depth b
  | .sequence [c] => ['\x7b', ' '] ++ line (depth + 1) ++ command texts (depth + 1) c ++ line depth ++ ['\x7d']
  | .sequence cs => inOrder texts depth cs
  | .background _ c => command texts depth c ++ " &".toList
  | .conditional t yes no =>
    let other : Octets := match no with
      | some c => line depth ++ "else".toList ++ line (depth + 1) ++ ended (command texts (depth + 1) c)
      | none => []
    "if ".toList ++ ended (command texts depth t) ++ " then".toList ++ line (depth + 1)
      ++ ended (command texts (depth + 1) yes) ++ other ++ line depth ++ "fi".toList
  | .loop untilSuccess t body =>
    (if untilSuccess then "until " else "while ").toList ++ ended (command texts depth t) ++ " do".toList
      ++ line (depth + 1) ++ ended (command texts (depth + 1) body) ++ line depth ++ "done".toList
  | .each _ name ws body =>
    "for ".toList ++ name ++ " in ".toList ++ words ws ++ [';'] ++ line depth ++ "do".toList ++ line (depth + 1)
      ++ ended (command texts (depth + 1) body) ++ line depth ++ "done".toList
  | .choose _ name ws body =>
    "select ".toList ++ name ++ " in ".toList ++ words ws ++ [';'] ++ line depth ++ "do".toList ++ line (depth + 1)
      ++ ended (command texts (depth + 1) body) ++ line depth ++ "done".toList
  | .count _ start t next body =>
    "for ((".toList ++ word start ++ "; ".toList ++ word t ++ "; ".toList ++ word next ++ "))".toList ++ line depth
      ++ "do".toList ++ line (depth + 1) ++ ended (command texts (depth + 1) body) ++ line depth ++ "done".toList
  | .select _ w arms => "case ".toList ++ word w ++ " in ".toList ++ armsOf texts depth arms ++ line depth ++ "esac".toList
  | .isolated _ body => "( ".toList ++ command texts depth body ++ " )".toList
  | .define _ name body _ => "function ".toList ++ name ++ " () ".toList ++ line depth ++ bodyOf texts depth body
  | .redirected _ c rs => command texts depth c ++ redirections texts rs
  | .calculate _ e => "((".toList ++ word e ++ "))".toList
  | .test _ t => "[[ ".toList ++ test t ++ " ]]".toList
  | .timed brief c => (if brief then "time -p " else "time ").toList ++ command texts depth c

/-- The body of a function in braces, which it may have itself. -/
def bodyOf (texts : List (Nat × Word)) (depth : Nat) : Command → Octets
  | .sequence [c] => opening depth ++ command texts (depth + 1) c ++ line depth ++ ['\x7d']
  | .redirected _ (.sequence [c]) rs =>
    opening depth ++ command texts (depth + 1) c ++ line depth ++ ['\x7d'] ++ redirections texts rs
  | c => opening depth ++ command texts (depth + 1) c ++ line depth ++ ['\x7d']
where
  /-- The brace in front of a body. -/
  opening (depth : Nat) : Octets := ['\x7b', ' '] ++ line (depth + 1)

/-- Commands with a sign for a pipe in between. -/
def piped (texts : List (Nat × Word)) (depth : Nat) : List Command → Octets
  | [] => []
  | [c] => command texts depth c
  | c :: cs => command texts depth c ++ " | ".toList ++ piped texts depth cs

/-- Commands in order, each on a line of its own but for those that follow
one that runs beside them. -/
def inOrder (texts : List (Nat × Word)) (depth : Nat) : List Command → Octets
  | [] => []
  | [c] => command texts depth c
  | .background l c :: cs => command texts depth (.background l c) ++ [' '] ++ inOrder texts depth cs
  | c :: cs =>
    let text := command texts depth c
    (if text.getLast? = some '\n' then text else text ++ [';']) ++ line depth ++ inOrder texts depth cs

/-- The arms of a selection. -/
def armsOf (texts : List (Nat × Word)) (depth : Nat) : List (List Word × Command × ArmEnd) → Octets
  | [] => []
  | (patterns, body, ending) :: arms =>
    let sign := match ending with
      | .stop => ";;"
      | .through => ";&"
      | .again => ";;&"
    let commands : Octets := match body with
      | .sequence [] => ['\n']
      | c => line (depth + 2) ++ command texts (depth + 2) c
    line (depth + 1) ++ List.intercalate " | ".toList (patterns.map word) ++ [')'] ++ commands ++ line (depth + 1) ++ sign.toList ++ armsOf texts depth arms

end

/-- The definition of a function whose body is written so. -/
def definition (groups : Bool) (name text : Octets) : Octets :=
  let reader := Script.command (lists depthLimit) stepLimit .later
  let front := (if (reserved? true name).isSome then "function ".toList else []) ++ name ++ " () \n".toList
  match reader.run { Scan.ofScript .wide [] text with verbatim := true, groups } with
  | .ok (body, scan) => front ++ bodyOf scan.texts 0 body ++ ['\n']
  | .error _ => front ++ text ++ ['\n']

end Display

end Script

end Shell

end Tangle
