import Tangle.Shell.Quoting
import Tangle.Shell.State
/-!
# Elements of arrays

Arrays hold texts by numbers, or by keys. A number below zero counts back
from behind the last element. A variable with a text counts as an array with
one element.
-/

namespace Tangle

namespace Shell

/-- What selects an element of an array. -/
inductive Index where
  /-- A number. -/
  | number (n : Int)
  /-- A key. -/
  | key (k : Octets)
deriving Repr, DecidableEq

/-- The place of a key among the keys of an array: its elements are spread
over so many places by a checksum of their keys. -/
def keyRank (key : Octets) : Nat :=
  (key.foldl (fun (n : UInt32) c => (n * 16777619) ^^^ c.toNat.toUInt32) 2166136261).toNat % 1024

/-- The elements of an array with keys in the order in which they are
listed; among those of one place the newest comes first. -/
def inKeyOrder (elements : List (Octets × Octets)) : List (Octets × Octets) :=
  elements.reverse.mergeSort fun a b => keyRank a.1 ≤ keyRank b.1

/-- Elements with one set. -/
def insertElement (n : Nat) (text : Octets) : List (Nat × Octets) → List (Nat × Octets)
  | [] => [(n, text)]
  | e :: es =>
    if n < e.1 then (n, text) :: e :: es
    else if n = e.1 then (n, text) :: es
    else e :: insertElement n text es

/-- A value as it is written in a declaration. -/
def Value.declared : Value → Octets
  | .text t => Quoting.declared t
  | .indexed es =>
    ['('] ++ List.intercalate [' '] (es.map fun (n, v) => '[' :: (toString n).toList ++ [']', '='] ++ Quoting.declared v)
      ++ [')']
  | .keyed es =>
    let key (k : Octets) : Octets :=
      if Quoting.needsQuotes k then Quoting.double k else if Quoting.hasHidden k then Quoting.escaped k else k
    ['('] ++ (inKeyOrder es).flatMap (fun (k, v) => '[' :: key k ++ [']', '='] ++ Quoting.declared v ++ [' ']) ++ [')']

namespace State

/-- The elements of a variable by their numbers. -/
def indexedElements (s : State) (name : Octets) : List (Nat × Octets) :=
  match (s.lookupVariable name).value with
  | some (.indexed es) => es
  | some (.text t) => [(0, t)]
  | _ => []

/-- The values of an array, or of a variable as an array of one, by their
numbers or keys. -/
def elements (s : State) (name : Octets) : List (Octets × Octets) :=
  match (s.lookupVariable name).value with
  | none => []
  | some (.text v) => [(['0'], v)]
  | some (.indexed es) => es.map fun (n, v) => ((toString n).toList, v)
  | some (.keyed es) => inKeyOrder es

/-- The elements of a variable are found by keys. -/
def isKeyed (s : State) (name : Octets) : Bool :=
  match (s.lookupVariable name).value with
  | some (.keyed _) => true
  | _ => false

/-- The place of an element of which the number is given. -/
def position? (s : State) (name : Octets) (n : Int) : Option Nat :=
  let stop : Int := (((s.indexedElements name).getLast?.map fun e => e.1 + 1).getD 0 : Nat)
  let n := if n < 0 then stop + n else n
  if n < 0 then none else some n.toNat

/-- An element of a variable. -/
def element? (s : State) (name : Octets) (i : Index) : Option Octets :=
  match i, (s.lookupVariable name).value with
  | .key k, some (.keyed es) => es.lookup k
  | .number n, some (.keyed es) => es.lookup (toString n).toList
  | .number n, _ => (s.position? name n).bind fun n => (s.indexedElements name).lookup n
  | .key _, _ => none

/-- Sets an element of a variable; `shown` is the index as it is written. -/
def setElement (name : Octets) (i : Index) (shown text : Octets) (s : State) : State :=
  let refuse := s.abort (Octets.text name ++ "[" ++ Octets.text shown ++ "]: bad array subscript")
  match i, (s.lookupVariable name).value with
  | .key k, some (.keyed es) => if k.isEmpty then refuse else s.setValue name (.keyed (setKey k text es))
  | .number n, some (.keyed es) => s.setValue name (.keyed (setKey (toString n).toList text es))
  | .number n, _ =>
    match s.position? name n with
    | some n => s.setValue name (.indexed (insertElement n text (s.indexedElements name)))
    | none => refuse
  | .key _, _ => refuse

/-- Removes an element of a variable. -/
def unsetElement (name : Octets) (i : Index) (s : State) : State :=
  let v := s.lookupVariable name
  match i, v.value with
  | .key k, some (.keyed es) => s.putVariable name { v with value := some (.keyed (dropKey k es)) }
  | .number n, some (.indexed es) =>
    match s.position? name n with
    | some n => s.putVariable name { v with value := some (.indexed (dropKey n es)) }
    | none => s
  | _, _ => s

/-- Gives a variable a text, or the first element of an array. -/
def setVariable (name text : Octets) (s : State) : State :=
  match (s.lookupVariable name).value with
  | some (.indexed es) => s.setValue name (.indexed (insertElement 0 text es))
  | some (.keyed es) => s.setValue name (.keyed (setKey ['0'] text es))
  | _ => s.setValue name (.text text)

end State

end Shell

end Tangle
