import Tangle.Config.Toml
import Tangle.Disk.Walk
/-!
# Finding and reading configuration files

The configuration of a directory is the nearest configuration file in the
directory or above it, by the spelling of its path. In one directory the
plain name wins over the hidden one.
-/

namespace Tangle

namespace Config

/-- The names of configuration files, the preferred one first. -/
def fileNames : List String := ["snip.toml", ".snip.toml"]

/-- The paths where the configuration of `start` is looked for, in order. -/
def candidates (start : Path) : List Path :=
  start.ancestors.flatMap fun directory => fileNames.map fun name => directory.join ⟨name⟩

/-- The configuration file of a directory. -/
def find? (disk : Node) (cwd : Place) (start : Path) : Option Path :=
  (candidates start).find? (disk.isFileAt cwd)

/-- Reads a configuration file. -/
def ofFile (disk : Node) (cwd : Place) (path : Path) : Except Error Config :=
  match disk.readAt cwd path with
  | .error fault => .error (.read path fault)
  | .ok content =>
    match Utf8.text? content with
    | none => .error (.read path .notText)
    | some text => ofToml text

/-- The configuration of a directory. -/
def forDirectory (disk : Node) (cwd : Place) (start : Path) : Except Error Config :=
  match find? disk cwd start with
  | none => .ok .standard
  | some path => ofFile disk cwd path

end Config

end Tangle
