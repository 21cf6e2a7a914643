import Tangle.CommandLine.Arguments
import Tangle.Run
/-!
# Running the program

What the program does when it is called with arguments
(`CommandLine.run`): what it prints, what becomes of the disk, and the
status with which it ends.
-/

namespace Tangle

namespace CommandLine

/-- The name and version of the program. -/
def versionText : String := "snip 0.1.0\n"

/-- What is said when arguments are refused. -/
def usageText : String := "usage\n"

/-- The configuration file to begin with. -/
def initialConfig : String :=
  "# Documents tangled when \x60snip tangle\x60 is given no files\n"
    ++ "source_patterns = [\"BUILD.md\"]\n"
    ++ "\n"
    ++ "# Options: \"execute\" (default), \"preview\"\n"
    ++ "mode = \"execute\"\n"
    ++ "\n"
    ++ "# Indentation of run blocks printed in preview mode\n"
    ++ "preview_indent = 4\n"
    ++ "\n"
    ++ "# Treat blockquotes outside File/Run blocks as prose instead of an error\n"
    ++ "lenient_blockquotes = false\n"
    ++ "\n"
    ++ "# Scissor lines: <dashes> dashes, glyph, <dashes> dashes\n"
    ++ "[scissors]\n"
    ++ "dashes = 8\n"
    ++ "start = \"8<\"\n"
    ++ "end = \">8\"\n"
    ++ "\n"
    ++ "# Interpreter receiving each run block as its final argument\n"
    ++ "# [shell]\n"
    ++ "# program = \"bash\"\n"
    ++ "# args = [\"-e\", \"-c\"]\n"

/-- The summary of a run. -/
def summary (mode : Mode) (r : Report) : String :=
  if r.isEmpty then "Nothing to tangle.\n"
  else
    match mode with
    | .preview => String.join ("Would produce:\n" :: r.describe.map fun line => "  " ++ line ++ "\n")
    | .execute =>
      "Tangled " ++ toString r.files.entries.length ++ " files, ran " ++ toString r.runs ++ " blocks.\n"

/-- Tangles documents, or the selected ones if there are none, and prints a
summary. -/
def tangle (quiet : Bool) (documents : List Path) (s : Setting) : Action World Unit :=
  fun w =>
    let (result, w) := if documents.isEmpty then s.tangleSelected w else s.tangle documents w
    match result with
    | .error e => (.error e, w)
    | .ok report => (.ok (), if quiet then w else w.print (summary s.config.mode report))

/-- Prints the program of a document. -/
def extract (document : Path) (s : Setting) : Action World Unit :=
  fun w =>
    match s.extract document w with
    | .error e => (.error e, w)
    | .ok text => (.ok (), w.print text)

/-- The configuration in force, under the directory that it is for. -/
def renderConfig (s : Setting) : String :=
  "# snip configuration for " ++ s.base.text ++ "\n" ++ s.config.toToml

/-- Writes a configuration file to begin with into a directory, unless it is
there. -/
def writeInitialConfig (base : Path) : Action World Unit :=
  fun w =>
    let path := base.join ⟨"snip.toml"⟩
    if w.disk.existsAt w.cwd path then (.error (.config (.fileExists path)), w)
    else
      match w.disk.openFile w.cwd path .truncate with
      | (.error fault, disk) => (.error (.io fault), { w with disk })
      | (.ok place, disk) =>
        let w := { w with disk := disk.edit (fun _ => Utf8.ofString initialConfig) place }
        (.ok (), w.print ("Created " ++ path.text ++ "\n"))

/-- Does what a command asks for. -/
def perform (s : Setting) : Command → Action World Unit
  | .tangle preview quiet documents =>
    tangle quiet documents (if preview then { s with config := s.config.inPreview } else s)
  | .extract document => extract document s
  | .config => fun w => (.ok (), w.print (renderConfig s))
  | .init => writeInitialConfig s.base

/-- The setting of a request: the base directory is the current one unless
another is given, and the configuration that of the base directory unless
a file is given. -/
def Request.setting (r : Request) (w : World) : Except Error Setting :=
  let base := r.directory.getD w.cwdPath
  let config := match r.configFile with
    | some path => Config.ofFile w.disk w.cwd path
    | none => Config.forDirectory w.disk w.cwd base
  config.map fun c => ⟨{ c with mode := r.mode.getD c.mode }, base⟩

/-- Runs the program: the status with which it ends, and the world after
it. -/
def run (args : List String) (w : World) : Nat × World :=
  match read args with
  | .version => (0, w.print versionText)
  | .refused => (2, w.printError usageText)
  | .request r =>
    match r.setting w with
    | .error e => (1, w.printError ("Error reading configuration: " ++ e.message ++ "\n"))
    | .ok s =>
      match perform s r.command w with
      | (.ok (), w) => (0, w)
      | (.error e, w) => (e.exitStatus, w.printError ("Error: " ++ e.message ++ "\n"))

end CommandLine

end Tangle
