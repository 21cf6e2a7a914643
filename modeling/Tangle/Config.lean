/-!
# Configuration

What a tangling run is configured with (`Config`), and the partial form
in which configuration files and callers give it (`Config.Update`). An
update replaces whole fields: a marker or interpreter setting that is
given replaces the former one entirely.
-/

namespace Tangle

/-- Whether blocks take effect or are only shown. -/
inductive Mode where
  /-- Files are written and run blocks are run. -/
  | execute
  /-- Run blocks are printed, and no file is touched. -/
  | preview
deriving Repr, DecidableEq, Inhabited

namespace Mode

/-- The name of a mode. -/
def name : Mode → String
  | execute => "execute"
  | preview => "preview"

/-- The mode with this name. -/
def ofName? (s : String) : Option Mode :=
  if s = "execute" then some execute
  else if s = "preview" then some preview
  else none

/-- Blocks take effect in this mode. -/
def executes : Mode → Bool
  | execute => true
  | preview => false

end Mode

/-- The shape of the lines that delimit program ranges: a glyph between
two runs of dashes. -/
structure Markers where
  /-- The length of each run of dashes. -/
  dashes : Nat
  /-- The glyph that opens a range. -/
  opening : String
  /-- The glyph that closes a range. -/
  closing : String
deriving Repr, DecidableEq

namespace Markers

/-- Eight dashes around a pair of scissors. -/
def standard : Markers := ⟨8, "8<", ">8"⟩

end Markers

/-- The command interpreter of run blocks. A block's text follows the
arguments as one more. -/
structure Interpreter where
  /-- The program. -/
  program : String
  /-- The arguments before the block's text. -/
  args : List String
deriving Repr, DecidableEq

namespace Interpreter

/-- The shell. -/
def standard : Interpreter := ⟨"sh", ["-c"]⟩

/-- Program and arguments, separated by spaces. -/
def describe (i : Interpreter) : String :=
  String.intercalate " " (i.program :: i.args)

end Interpreter

/-- The configuration of a tangling run. -/
structure Config where
  /-- Patterns of the documents to tangle when none is named. -/
  sourcePatterns : List String
  /-- Whether blocks take effect. -/
  mode : Mode
  /-- Spaces in front of each line of a run block that is shown. -/
  previewIndent : Nat
  /-- Quoted lines outside every block are prose. -/
  lenient : Bool
  /-- The markers of program ranges. -/
  scissors : Markers
  /-- The interpreter of run blocks. -/
  shell : Interpreter
deriving Repr, DecidableEq

namespace Config

/-- The configuration where nothing is configured. -/
def standard : Config :=
  ⟨[], .execute, 4, false, .standard, .standard⟩

/-- The configuration in preview mode. -/
def inPreview (c : Config) : Config :=
  { c with mode := .preview }

/-- A configuration of which any field may be missing. -/
structure Update where
  /-- The source patterns, if given. -/
  sourcePatterns : Option (List String)
  /-- The mode, if given. -/
  mode : Option Mode
  /-- The preview's indentation, if given. -/
  previewIndent : Option Nat
  /-- The leniency, if given. -/
  lenient : Option Bool
  /-- The markers, if given. -/
  scissors : Option Markers
  /-- The interpreter, if given. -/
  shell : Option Interpreter
deriving Repr, DecidableEq

namespace Update

/-- The update that gives nothing. -/
def empty : Update := ⟨none, none, none, none, none, none⟩

/-- The configuration with the given fields in place of those of `base`. -/
def applyTo (u : Update) (base : Config) : Config where
  sourcePatterns := u.sourcePatterns.getD base.sourcePatterns
  mode := u.mode.getD base.mode
  previewIndent := u.previewIndent.getD base.previewIndent
  lenient := u.lenient.getD base.lenient
  scissors := u.scissors.getD base.scissors
  shell := u.shell.getD base.shell

end Update

end Config

end Tangle
