import Tangle.Path
import Tangle.Fault
/-!
# Errors

An error says what went wrong (`Error`), how that reads
(`Error.message`), which document line it points at (`Error.location?`)
and with which status the program ends because of it
(`Error.exitStatus`, never zero). Only defects of a document have a
location, and only these take a document's path (`Error.inDocument`).
-/

namespace Tangle

/-- A line of a document. -/
structure Location where
  /-- The document, where known. -/
  document : Option Path
  /-- The line's number. -/
  line : Nat
deriving Repr, DecidableEq

namespace Location

/-- The text of a location. -/
def display (l : Location) : String :=
  match l.document with
  | some path => path.text ++ ":" ++ toString l.line
  | none => "line " ++ toString l.line

end Location

/-- What is wrong with a document at some line. -/
inductive Defect where
  /-- A closing scissor marker outside every range. -/
  | closeWithoutOpen
  /-- A line that is not quoted inside the fence opened at line `opened`. -/
  | unquotedInFence (opened : Nat)
  /-- A quoted line after a header that is neither header nor fence. -/
  | strayAfterHeader
  /-- A quoted line that belongs to no block. -/
  | strayQuote
  /-- Reported from elsewhere. -/
  | reported (text : String)
  /-- A file header that names no file. -/
  | headerWithoutName
  /-- A scissor range that is open at the end. -/
  | openRange
  /-- A fence that is open at the end. -/
  | openFence
deriving Repr, DecidableEq

namespace Defect

/-- The text of a defect. -/
def message : Defect → String
  | closeWithoutOpen => "scissor end marker without a matching start"
  | unquotedInFence opened => "unquoted line inside the fence opened at line " ++ toString opened
  | strayAfterHeader => "quoted line between a header and its fence is neither a header nor a fence"
  | strayQuote => "quoted line outside any File or Run block"
  | reported text => text
  | headerWithoutName => "file header has no `name`"
  | openRange => "scissor range is never closed"
  | openFence => "fence is never closed"

end Defect

/-- A wrong order of operations on an output file. -/
inductive Misuse where
  /-- Opened while open. -/
  | alreadyOpen
  /-- Written while not open. -/
  | writeUnopened
  /-- Closed while not open. -/
  | closeUnopened
  /-- Reported from elsewhere. -/
  | reported (text : String)
deriving Repr, DecidableEq

namespace Misuse

/-- The text of a misuse. -/
def message : Misuse → String
  | alreadyOpen => "already open"
  | writeUnopened => "write to a file that is not open"
  | closeUnopened => "close of a file that is not open"
  | reported text => text

end Misuse

/-- Why the request cannot be met as configured. -/
inductive Unconfigured where
  /-- No document is named or matched. -/
  | noDocuments
  /-- The configuration file to be made is there. -/
  | fileExists (path : Path)
  /-- Reported from elsewhere. -/
  | reported (text : String)
deriving Repr, DecidableEq

namespace Unconfigured

/-- The text of a configuration problem. -/
def message : Unconfigured → String
  | noDocuments => "No documents to tangle (pass files or set source_patterns)"
  | fileExists path => path.text ++ " already exists"
  | reported text => text

end Unconfigured

/-- Why an operation failed. -/
inductive Error where
  /-- A document has a defect. -/
  | defect (location : Location) (defect : Defect)
  /-- A run block ended with a status other than zero. -/
  | runFailed (status : Int) (startLine endLine : Nat)
  /-- The interpreter of run blocks could not be started. -/
  | spawn (program : String) (fault : Fault)
  /-- A file could not be read. -/
  | read (path : Path) (fault : Fault)
  /-- An output file was misused. -/
  | sink (path : Path) (misuse : Misuse)
  /-- Another file operation failed. -/
  | io (fault : Fault)
  /-- The request cannot be met as configured. -/
  | config (problem : Unconfigured)
  /-- A configuration file does not parse. -/
  | toml (reason : String)
  /-- A source pattern is malformed. -/
  | glob (reason : String)
  /-- A marker pattern is too large. -/
  | pattern (reason : String)
  /-- Reported from elsewhere. -/
  | other (text : String)
deriving Repr, DecidableEq

namespace Error

/-- A defect at a line of a document not yet known. -/
def atLine (line : Nat) (d : Defect) : Error :=
  .defect ⟨none, line⟩ d

/-- The text of an error. -/
def message : Error → String
  | defect l d => "Malformed source at " ++ l.display ++ ": " ++ d.message
  | runFailed status startLine endLine =>
    "Run block at lines " ++ toString startLine ++ "-" ++ toString endLine
      ++ " failed with exit status " ++ toString status
  | spawn program fault => "Failed to spawn '" ++ program ++ "': " ++ fault.message
  | read path fault => "Cannot read " ++ path.text ++ ": " ++ fault.message
  | sink path misuse => "Output error for " ++ path.text ++ ": " ++ misuse.message
  | io fault => "I/O error: " ++ fault.message
  | config problem => "Configuration error: " ++ problem.message
  | toml reason => "TOML parse error: " ++ reason
  | glob reason => "Glob pattern error: " ++ reason
  | pattern reason => "Regex error: " ++ reason
  | other text => text

/-- The error is a defect of a document. -/
def isDefect : Error → Bool
  | defect _ _ => true
  | _ => false

/-- The line that the error points at. -/
def location? : Error → Option Location
  | defect l _ => some l
  | _ => none

/-- The error as one of this document, if it is a defect of a document
not yet known. -/
def inDocument (path : Path) : Error → Error
  | defect l d => defect ⟨some (l.document.getD path), l.line⟩ d
  | e => e

/-- The status with which the program ends: that of the failed run block
if it fits a byte and is not zero, else one. -/
def exitStatus : Error → Nat
  | runFailed status _ _ => if 0 < status ∧ status < 256 then status.toNat else 1
  | _ => 1

end Error

end Tangle
