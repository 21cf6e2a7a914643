/-!
# Paths

A path is kept as it was spelled, because diagnostics show that spelling.
Its meaning is the list of its components (`Path.components`): repeated
separators and inner `.` segments do not count, a leading `.` does, and
`..` is never cancelled. Comparison, stripping a base and walking up to the
parent all go by components; joining only puts the spellings together.
-/

namespace Tangle

/-- A path, absolute or relative, as it was spelled. -/
structure Path where
  /-- The spelling. -/
  text : String
deriving Repr, DecidableEq, Inhabited

namespace Path

/-- One component of a path. -/
inductive Component where
  /-- The root directory, in front of an absolute path. -/
  | root
  /-- The directory itself, in front of a relative path. -/
  | current
  /-- The directory above. -/
  | parent
  /-- A named entry. -/
  | name (s : String)
deriving Repr, DecidableEq

/-- The segments of a text between slashes. -/
def segments : List Char → List (List Char)
  | [] => [[]]
  | '/' :: rest => [] :: segments rest
  | c :: rest =>
    match segments rest with
    | [] => [[c]]
    | s :: ss => (c :: s) :: ss

/-- Segments put together with slashes. -/
def unsegments (ss : List (List Char)) : String :=
  String.intercalate "/" (ss.map String.ofList)

/-- The component in front of the body, and the segments of the body. -/
def split (p : Path) : Option Component × List (List Char) :=
  match p.text.toList with
  | [] => (none, [])
  | '/' :: body => (some .root, segments body)
  | ['.'] => (some .current, [])
  | '.' :: '/' :: body => (some .current, [] :: segments body)
  | body => (none, segments body)

/-- The component that a segment of the body stands for, if any. -/
def component? : List Char → Option Component
  | [] => none
  | ['.'] => none
  | ['.', '.'] => some .parent
  | s => some (.name (String.ofList s))

/-- The component that a segment stands for counts. -/
def isInsignificant (segment : List Char) : Bool :=
  (component? segment).isNone

/-- The components of a path. -/
def components (p : Path) : List Component :=
  p.split.1.toList ++ p.split.2.filterMap component?

/-- The path starts at the root. -/
def isAbsolute (p : Path) : Bool :=
  p.text.toList.head? = some '/'

/-- The spelling of the component in front of the body. -/
def leadText : Option Component → String
  | some .root => "/"
  | some .current => "."
  | _ => ""

/-- `p` seen from `base`: `p` itself if it is absolute, else `p` after
`base`, with a slash between them unless `base` is empty or ends in one. -/
def join (base p : Path) : Path :=
  if p.isAbsolute then p
  else if base.text.isEmpty || base.text.toList.getLast? = some '/' then ⟨base.text ++ p.text⟩
  else ⟨base.text ++ "/" ++ p.text⟩

/-- Segments without the insignificant ones at their end. -/
def trimEnd (ss : List (List Char)) : List (List Char) :=
  (ss.reverse.dropWhile isInsignificant).reverse

/-- The path without its last component; nothing is above the root or the
empty path. -/
def parent? (p : Path) : Option Path :=
  let (lead, ss) := p.split
  match trimEnd ss with
  | [] =>
    match lead with
    | some .current => some ⟨""⟩
    | _ => none
  | s :: rest => some ⟨leadText lead ++ unsegments (trimEnd (s :: rest).dropLast)⟩

/-- A path and the paths above it, at most `n` of them. -/
def ancestorsUpTo : Nat → Path → List Path
  | 0, p => [p]
  | n + 1, p =>
    match p.parent? with
    | some q => p :: ancestorsUpTo n q
    | none => [p]

/-- A path and all paths above it, nearest first. -/
def ancestors (p : Path) : List Path :=
  ancestorsUpTo p.components.length p

/-- Drops segments up to and including the `n`-th that counts. -/
def dropSignificant : Nat → List (List Char) → List (List Char)
  | 0, ss => ss
  | _ + 1, [] => []
  | n + 1, s :: ss => if isInsignificant s then dropSignificant (n + 1) ss else dropSignificant n ss

/-- The path relative to `base`, if the components of `base` are its first
ones. -/
def stripPrefix? (p base : Path) : Option Path :=
  let (lead, ss) := p.split
  if base.components.isPrefixOf p.components then
    match base.components.length, lead with
    | 0, _ => some ⟨leadText lead ++ unsegments (trimEnd ss)⟩
    | n + 1, some _ => some ⟨unsegments ((trimEnd (dropSignificant n ss)).dropWhile isInsignificant)⟩
    | n + 1, none => some ⟨unsegments ((trimEnd (dropSignificant (n + 1) ss)).dropWhile isInsignificant)⟩
  else none

/-- The rank of a component's kind. -/
def Component.rank : Component → Nat
  | .root => 0
  | .current => 1
  | .parent => 2
  | .name _ => 3

/-- Components are ordered by kind, names by their characters. -/
def Component.compare : Component → Component → Ordering
  | .name a, .name b => Ord.compare a b
  | a, b => Ord.compare a.rank b.rank

/-- Lists of components are ordered lexicographically. -/
def compareComponents : List Component → List Component → Ordering
  | [], [] => .eq
  | [], _ :: _ => .lt
  | _ :: _, [] => .gt
  | a :: as, b :: bs => (a.compare b).then (compareComponents as bs)

/-- Paths are ordered by their components. -/
def compare (p q : Path) : Ordering :=
  compareComponents p.components q.components

end Path

end Tangle
