import Tangle.Shell.Sed.Script
/-!
# Escapes in scripts

A backslash with a letter stands for a character, by its name or by its
number (`Sed.escape?`). The characters that escapes stand for are put into the
texts of a script before these get their meaning.
-/

namespace Tangle

namespace Shell

namespace Sed

/-- The control character that an escape letter stands for. -/
def control? (c : Char) : Option Char :=
  match c with
  | 'a' => some '\x07'
  | 'f' => some '\x0c'
  | 'n' => some '\n'
  | 'r' => some '\r'
  | 't' => some '\t'
  | 'v' => some '\x0b'
  | _ => none

/-- The base of a number after an escape letter, and the most digits that it
has. -/
def base? (c : Char) : Option (Nat × Nat) :=
  match c with
  | 'd' => some (10, 3)
  | 'o' => some (8, 3)
  | 'x' => some (16, 2)
  | _ => none

/-- The value of a digit in some base. -/
def digitValue? (base : Nat) (c : Char) : Option Nat :=
  let v := if c.isDigit then some (c.toNat - 48)
    else if 'a' ≤ c.toLower && c.toLower ≤ 'f' then some (c.toLower.toNat - 87) else none
  v.bind fun n => if n < base then some n else none

/-- What an escape stands for. -/
inductive Escape where
  /-- A character. -/
  | char (c : Char)
  /-- A control character that must not be made by another escape. -/
  | recursive
deriving Repr, DecidableEq

/-- What the escape after a backslash stands for, and what follows; nothing
if the character after the backslash has no such meaning. -/
def escape? : Octets → Option (Escape × Octets)
  | [] => none
  | 'c' :: s =>
    match s with
    | [] => none
    | '\\' :: '\\' :: rest => some (.char (Char.ofNat ('\\'.toNat ^^^ 64)), rest)
    | '\\' :: _ => some (.recursive, s)
    | c :: rest => some (.char (Char.ofNat (c.toUpper.toNat ^^^ 64)), rest)
  | c :: s =>
    match control? c, base? c with
    | some d, _ => some (.char d, s)
    | none, some (base, count) =>
      let digits := (s.take count).takeWhile fun d => (digitValue? base d).isSome
      if digits.isEmpty then some (.char c, s)
      else
        let n := digits.foldl (fun n d => n * base + (digitValue? base d).getD 0) 0
        some (.char (Char.ofNat (n % 256)), s.drop digits.length)
    | none, none => none

/-- The text of a class between brackets, after the opening one, up to and
with the closing one, if it is closed. -/
def class? (s : Octets) : Option Octets :=
  let front : Octets := match s with
    | '^' :: ']' :: _ => ['^', ']']
    | ']' :: _ => [']']
    | '^' :: _ => ['^']
    | _ => []
  (upTo (s.length + 1) (s.drop front.length)).map (front ++ ·)
where
  /-- The text up to the closing bracket. -/
  upTo : Nat → Octets → Option Octets
    | 0, _ => none
    | _ + 1, [] => none
    | _ + 1, ']' :: _ => some [']']
    | fuel + 1, '[' :: c :: s =>
      if c = ':' || c = '.' || c = '=' then
        let inside := s.takeWhile (· ≠ ']')
        if s.length = inside.length then none
        else (upTo fuel (s.drop (inside.length + 1))).map ('[' :: c :: inside ++ ']' :: ·)
      else (upTo fuel (c :: s)).map ('[' :: ·)
    | fuel + 1, c :: s => (upTo fuel s).map (c :: ·)

/-- A text with what its escapes stand for in their place. A character for
which `isMarked` holds keeps a backslash; classes in brackets are left alone
if `keepsClasses` is set. Nothing comes of an escape within another one. -/
def unescaped? (keepsClasses : Bool) (isMarked : Char → Bool) : Nat → Octets → Option Octets
  | 0, _ => some []
  | _ + 1, [] => some []
  | fuel + 1, '[' :: s =>
    let text := if keepsClasses then (class? s).getD [] else []
    (unescaped? keepsClasses isMarked fuel (s.drop text.length)).map ('[' :: text ++ ·)
  | fuel + 1, '\\' :: s =>
    match escape? s with
    | some (.char c, rest) =>
      (unescaped? keepsClasses isMarked fuel rest).map ((if isMarked c then ['\\', c] else [c]) ++ ·)
    | some (.recursive, _) => none
    | none =>
      match s with
      | [] | ['c'] => some ['\\']
      | c :: rest => (unescaped? keepsClasses isMarked fuel rest).map (['\\', c] ++ ·)
  | fuel + 1, c :: s => (unescaped? keepsClasses isMarked fuel s).map (c :: ·)

/-- A text without the backslashes before its characters. -/
def withoutBackslashes : Octets → Octets
  | '\\' :: c :: s => c :: withoutBackslashes s
  | c :: s => c :: withoutBackslashes s
  | [] => []

end Sed

end Shell

end Tangle
