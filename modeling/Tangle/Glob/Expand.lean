import Tangle.Glob.Pattern
import Tangle.Disk.View
/-!
# Expanding patterns

A pattern is expanded component by component against what a process sees
of the files (`Glob.expand`). A component without wildcards is only looked
up; one with wildcards is compared with the entries of the directory
reached so far, and also with `.` and `..` if it starts with a dot; `**`
offers everything below that directory, through links too. The paths found
are spelled as the pattern leads to them, except that a leading `.` is left
out. A directory that cannot be listed is a fault among them.
-/

namespace Tangle

namespace Glob

/-- The directory where a relative pattern starts. -/
def here : Path := ⟨"."⟩

/-- The path is the current directory, however spelled. -/
def isHere (p : Path) : Bool := p.components = here.components

/-- The entry `name` of a directory. -/
def entryPath (directory : Path) (name : String) : Path :=
  if isHere directory then ⟨name⟩ else directory.join ⟨name⟩

/-- A path that a search has come to. -/
structure Spot where
  /-- The path. -/
  path : Path
  /-- It is a directory. -/
  isDirectory : Bool
deriving Repr, DecidableEq

/-- What a search comes to: spots, and faults where it was stopped. -/
abbrev Finds := List (Except Fault Spot)

/-- The spot that a path leads to. -/
def spotAt (view : View) (path : Path) : Spot := ⟨path, view.isDirectory path⟩

/-- The entries of a directory with their names. A link counts as what it
leads to. -/
def children (view : View) (directory : Path) : Except Fault (List (String × Spot)) :=
  (view.list directory).map fun entries => entries.map fun e =>
    let path := entryPath directory e.name
    (e.name, ⟨path, e.isDirectory.getD (view.isDirectory path)⟩)

/-- What is found among the entries of a directory. A spot that is none has
no entries. -/
def among (view : View) (p : Spot) (finds : List (String × Spot) → Finds) : Finds :=
  if p.isDirectory then
    match children view p.path with
    | .error fault => [.error fault]
    | .ok entries => finds entries
  else []

/-- The most directories that lie one below the other. Each makes a path
longer, so what lies deeper has a path that is too long. -/
def depthLimit : Nat := Node.pathLimit + 1

/-- What is found below a directory, at most `depth` levels down: at each
spot what `finds` says, and then what is below that. -/
def below (view : View) (finds : String → Spot → Finds) : Nat → Spot → Finds
  | 0, p => if p.isDirectory then [.error .nameTooLong] else []
  | depth + 1, p =>
    among view p fun entries => entries.flatMap fun (name, q) => finds name q ++ below view finds depth q

/-- The special entries that a component matches. It has to start with a
dot itself. -/
def specials (ts : List Token) : List String :=
  if ts.head? = some (.char '.') then ["..", "."].filter fun s => matchTokens ts s.toList else []

/-- What components lead to from a spot, in the order in which it is
found. -/
def search (view : View) : List Component → Spot → Finds
  | [], p => [.ok p]
  | .literal s :: rest, p =>
    let next := entryPath p.path s
    let special := s = "." || s = ".."
    if if special then p.isDirectory else view.isThere next then search view rest (spotAt view next) else []
  | .wild ts :: rest, p =>
    among view p fun entries =>
      (specials ts).flatMap (fun s => search view rest (spotAt view (p.path.join ⟨s⟩)))
      ++ entries.flatMap fun (name, q) => if matchTokens ts name.toList then search view rest q else []
  | .deep :: .deep :: rest, p => search view (.deep :: rest) p
  | [.deep], p => below view (fun _ q => if q.isDirectory then [.ok q] else []) depthLimit p
  | .deep :: c :: rest, p =>
    below view (fun name q => if c.accepts name then search view rest q else []) depthLimit p

/-- What a pattern matches: the paths, and the faults of directories that
cannot be listed. -/
def expand (view : View) (pattern : String) : Except Flaw (List (Except Fault Path)) := do
  let compiled ← compile pattern
  let found := search view compiled.components (spotAt view (if compiled.absolute then ⟨"/"⟩ else here))
  let kept := found.filter fun
    | .ok p => !compiled.directories || p.isDirectory
    | .error _ => true
  return kept.map fun e => e.map Spot.path

end Glob

end Tangle
