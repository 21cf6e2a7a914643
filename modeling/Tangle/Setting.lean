import Tangle.Config.Search
import Tangle.Glob.Expand
/-!
# Settings of a run

A run is set in a base directory with a configuration. Relative paths are
seen from the base directory, and the configured patterns select the
documents below it (`Setting.documents`): the regular files that match, in
the order of their paths, each once, spelled from the base directory where
they lie below it. Which files these are is up to what the process sees of
them (`Setting.documentsIn`).
-/

namespace Tangle

/-- A configuration in force in a base directory. -/
structure Setting where
  /-- The configuration. -/
  config : Config
  /-- The base directory. -/
  base : Path
deriving Repr, DecidableEq

namespace Setting

/-- The setting of the current directory, given as `base`. -/
def ofDirectory (disk : Node) (cwd : Place) (base : Path) : Except Error Setting :=
  (Config.forDirectory disk cwd base).map fun config => ⟨config, base⟩

/-- The path as seen from the base directory. -/
def resolve (s : Setting) (p : Path) : Path := s.base.join p

/-- The files that a pattern matches, spelled from the base directory where
they lie below it. The first directory that cannot be listed is the error. -/
def matching (s : Setting) (view : View) (pattern : String) : Except Error (List Path) :=
  match Glob.expand view (s.base.join ⟨pattern⟩).text with
  | .error flaw => .error (.glob flaw.message)
  | .ok entries =>
    match entries.mapM id with
    | .error fault => .error (.io fault)
    | .ok found => .ok ((found.filter view.isFile).map fun p => (p.stripPrefix? s.base).getD p)

/-- A sorted list of paths without those that equal the one before them. -/
def dropRepeats : List Path → List Path
  | [] => []
  | p :: ps =>
    match dropRepeats ps with
    | [] => [p]
    | q :: qs => if p.components = q.components then p :: qs else p :: q :: qs

/-- The documents that the configured patterns select among the files that a
process sees. -/
def documentsIn (s : Setting) (view : View) : Except Error (List Path) := do
  let found ← s.config.sourcePatterns.mapM (s.matching view)
  return dropRepeats (found.flatten.mergeSort fun p q => (p.compare q).isLE)

/-- The documents that the configured patterns select on a disk, seen by the
superuser. -/
def documents (s : Setting) (disk : Node) (cwd : Place) : Except Error (List Path) :=
  s.documentsIn (disk.view cwd)

end Setting

end Tangle
