import Tangle.Shell.Builtin.Variables
import Tangle.Shell.Pattern
/-!
# Reading input

The built-in commands that read a line into variables, or lines into an
array. A backslash protects the next character, unless that is not wanted.
-/

namespace Tangle

namespace Shell

namespace Builtin

/-! ## Lines -/

/-- A line up to its end: its characters, each with a mark if a backslash
protects it, whether it had an end, and how many characters it took. -/
def markedLine (raw : Bool) (delimiter : Char) : Octets → List (Bool × Char) × Bool × Nat
  | [] => ([], false, 0)
  | c :: s =>
    if c = delimiter then ([], true, 1)
    else if c = '\\' && !raw then
      match s with
      | [] => ([], false, 1)
      | d :: s =>
        let (line, complete, n) := markedLine raw delimiter s
        (if d = '\n' then line else (true, d) :: line, complete, n + 2)
    else
      let (line, complete, n) := markedLine raw delimiter s
      (if c = '\x00' then line else (false, c) :: line, complete, n + 1)

/-- The character separates fields there. -/
def isSeparator (separators : Octets) (m : Bool × Char) : Bool := !m.1 && separators.contains m.2

/-- The character is a blank that separates fields there. -/
def isSoftSeparator (separators : Octets) (m : Bool × Char) : Bool :=
  isSeparator separators m && (m.2 = ' ' || m.2 = '\t' || m.2 = '\n')

/-- What follows a separator with the blanks around it. -/
def afterSeparator (separators : Octets) (line : List (Bool × Char)) : List (Bool × Char) :=
  let rest := line.dropWhile (isSoftSeparator separators)
  match rest with
  | m :: more =>
    if isSeparator separators m then more.dropWhile (isSoftSeparator separators) else rest
  | [] => []

/-- The fields of a line for so many variables; the last one gets the
rest. -/
def lineFields (separators : Octets) : Nat → List (Bool × Char) → List Octets
  | 0, _ => []
  | 1, line =>
    let field := line.takeWhile fun m => !isSeparator separators m
    let rest := afterSeparator separators (line.dropWhile fun m => !isSeparator separators m)
    let kept := if rest.isEmpty then field else (line.reverse.dropWhile (isSoftSeparator separators)).reverse
    [kept.map Prod.snd]
  | n + 1, line =>
    let field := line.takeWhile fun m => !isSeparator separators m
    field.map Prod.snd
      :: lineFields separators n (afterSeparator separators (line.dropWhile fun m => !isSeparator separators m))

/-- Gives the fields of a line to variables. -/
def assignFields (names : List Octets) (line : List (Bool × Char)) (s : State) : State :=
  let separators := s.separators
  let values := lineFields separators names.length (line.dropWhile (isSoftSeparator separators))
  (names.zip (values ++ List.replicate names.length [])).foldl (fun s (name, value) =>
    if s.jump.isSome then s else withTarget name (store name value) s) s

/-- All the fields of a line, at most so many. -/
def allLineFields (separators : Octets) : Nat → List (Bool × Char) → List Octets
  | 0, _ => []
  | _ + 1, [] => []
  | fuel + 1, line =>
    let field := line.takeWhile fun m => !isSeparator separators m
    field.map Prod.snd
      :: allLineFields separators fuel (afterSeparator separators (line.dropWhile fun m => !isSeparator separators m))

/-- Reads a line into variables. -/
def readLine : Builtin :=
  withOptions "p:r" "" fun given names s =>
    if names.isEmpty then s.abort "arg count"
    else
      let text := ((s.readable 0).toOption).getD []
      let (line, complete, n) := markedLine (has given 'r') '\n' text
      let s := assignFields names line (s.consume 0 n)
      if s.jump.isSome then s else s.ended (if complete then 0 else 1)

/-- What one reading takes from a text. -/
structure Taken where
  /-- The characters, each with a mark if it is protected. -/
  line : List (Bool × Char)
  /-- There was an end, or as many characters as were wanted. -/
  complete : Bool
  /-- The number of characters that were used up. -/
  used : Nat

/-- The text of the first characters, of which each may have several
bytes. -/
def takeCharacters : Nat → Octets → Octets
  | 0, _ => []
  | _, [] => []
  | n + 1, c :: s =>
    let rest := s.takeWhile Pattern.isContinuation
    let tail := takeCharacters n (s.drop rest.length)
    if 0xC0 ≤ c.toNat then c :: rest ++ tail else c :: takeCharacters n s

/-- The number of characters of a text. -/
def characterCount (text : Octets) : Nat := (text.filter fun c => !Pattern.isContinuation c).length

/-- What is taken from a text: a line, or at most `limit` characters of it,
or exactly so many whatever they are. -/
def takeInput (raw : Bool) (delimiter : Char) (limit exact : Option Nat) (text : Octets) : Taken :=
  match exact, limit with
  | some n, _ =>
    let front := takeCharacters n text
    let (line, _, _) := markedLine true '\x00' (front.filter (· ≠ '\x00'))
    ⟨line.map fun m => (true, m.2), characterCount front = n, front.length⟩
  | none, some n =>
    let front := takeCharacters n text
    let (line, complete, used) := markedLine raw delimiter front
    ⟨line, complete || characterCount front = n, used⟩
  | none, none =>
    let (line, complete, used) := markedLine raw delimiter text
    ⟨line, complete, used⟩

/-- Reads a line, or a part of one, into variables or an array. -/
def readInput : Builtin :=
  withOptions "" "rsea:d:i:n:N:p:t:u:" fun given names s =>
    let descriptor := ((argumentOf? given 'u').bind Octets.nat?).getD 0
    let number (c : Char) : Option Nat := (argumentOf? given c).bind Octets.nat?
    let badCount := ['n', 'N'].find? fun c => (argumentOf? given c).isSome && (number c).isNone
    let badTime := (argumentOf? given 't').any fun t =>
      t.isEmpty || !t.all fun c => c.isDigit || c = '.'
    match (names.find? fun n => !isTarget s n), badCount with
    | some n, _ => fail 1 (named n ++ ": not a valid identifier") s
    | none, some c => fail 1 (Octets.text ((argumentOf? given c).getD []) ++ ": invalid number") s
    | none, none =>
      if badTime then fail 1 (Octets.text ((argumentOf? given 't').getD []) ++ ": invalid timeout specification") s
      else if (argumentOf? given 't').any (fun t => t.all fun c => c = '0' || c = '.') && (s.stream? descriptor).isSome then
        s.ended 0
      else if (s.stream? descriptor).isNone then
        fail 1 (toString descriptor ++ ": invalid file descriptor: Bad file descriptor") s
      else
        let delimiter := ((argumentOf? given 'd').map fun d => d.head?.getD '\x00').getD '\n'
        match s.readable descriptor with
        | .error fault => fail 1 ("read error: " ++ toString descriptor ++ ": " ++ faultText fault) s
        | .ok text =>
          let taken := takeInput (has given 'r') delimiter (number 'n') (number 'N') text
          let s := s.consume descriptor taken.used
          let separators := s.separators
          let s : State := match argumentOf? given 'a', names with
            | some array, _ =>
              let fields := allLineFields separators (taken.line.length + 1)
                (taken.line.dropWhile (isSoftSeparator separators))
              withName array (fun s => s.setValue array (.numbered fields)) s
            | none, [] => s.setVariable "REPLY".toList (taken.line.map Prod.snd)
            | none, names => assignFields names taken.line s
          if s.jump.isSome then { s with status := 1 } else s.ended (if taken.complete then 0 else 1)

/-- Reads a line into variables. -/
def read : Builtin := fun args s => if s.isWide then readInput args s else readLine args s

/-! ## All lines -/

/-- The pieces of a text, each with the delimiter at its end. -/
def endedPieces (delimiter : Char) : Octets → List Octets
  | [] => []
  | c :: s =>
    if c = delimiter then [c] :: endedPieces delimiter s
    else
      match endedPieces delimiter s with
      | p :: ps => (c :: p) :: ps
      | [] => [[c]]

/-- Reads lines into an array. -/
def readLines : Builtin :=
  withOptions "" "d:n:O:s:tu:C:c:" fun given operands s =>
    let array := operands.head?.getD "MAPFILE".toList
    let number (c : Char) : Option Nat := (argumentOf? given c).bind Octets.nat?
    let descriptor := (number 'u').getD 0
    let delimiter := ((argumentOf? given 'd').map fun d => d.head?.getD '\x00').getD '\n'
    if !Script.isName array then fail 1 (named array ++ ": not a valid identifier") s
    else if (s.lookupVariable array).constant then fail 1 (Octets.text array ++ ": readonly variable") s
    else
      match s.readable descriptor with
      | .error _ => fail 1 (toString descriptor ++ ": invalid file descriptor: Bad file descriptor") s
      | .ok text =>
        let pieces := endedPieces delimiter text
        let skipped := (number 's').getD 0
        let wanted := match number 'n' with
          | none | some 0 => pieces
          | some n => pieces.take (skipped + n)
        let s := s.consume descriptor wanted.flatten.length
        let lines := (wanted.drop skipped).map fun p =>
          (if has given 't' && p.getLast? = some delimiter then p.dropLast else p).filter (· ≠ '\x00')
        let start := (number 'O').getD 0
        let former := if (number 'O').isSome then s.indexedElements array else []
        let elements := (lines.zip (List.range lines.length)).foldl (fun es (l, i) => insertElement (start + i) l es) former
        (s.setValue array (.indexed elements)).ended 0

end Builtin

end Shell

end Tangle
