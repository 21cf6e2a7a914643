import Tangle.Config
import Tangle.Error
import Tangle.Toml.Document
/-!
# Configurations as TOML

How a configuration is read from a TOML document (`Config.Update.ofToml`)
and written as one (`Config.toToml`). Reading ignores keys without a
meaning. A group of settings can also be given as an array of its values
in order, and the mode as a table whose only key, with nothing under it,
names it. Writing puts an array of two or more texts on lines of its own.
-/

namespace Tangle

namespace Config

open Toml (Value)

/-- The greatest number that a setting can have in a file. -/
def numberLimit : Nat := Nat.pow 2 63 - 1

/-- A setting that is a natural number. -/
def readNat : Value → Option Nat
  | .integer n => if 0 ≤ n then some n.toNat else none
  | _ => none

/-- A setting that is a text. -/
def readString : Value → Option String
  | .string s => some s
  | _ => none

/-- A setting that is a truth value. -/
def readBool : Value → Option Bool
  | .boolean b => some b
  | _ => none

/-- A setting that is a list of texts. -/
def readStrings : Value → Option (List String)
  | .array vs => vs.mapM readString
  | _ => none

/-- Nothing stands in the table or array. -/
def isVoid : Value → Bool
  | .array [] => true
  | .table [] => true
  | _ => false

/-- A setting that is a mode. -/
def readMode : Value → Option Mode
  | .string s => Mode.ofName? s
  | .table [(name, v)] => if isVoid v then Mode.ofName? name else none
  | _ => none

/-- The setting with this key, or at this place in an array, of a group of
settings. The outer level tells whether the value is a group at all. -/
def member (group : Value) (key : String) (index : Nat) : Option (Option Value) :=
  match group with
  | .table entries => some (entries.lookup key)
  | .array vs => some vs[index]?
  | .moment => some none
  | _ => none

/-- A member of a group of settings, which is `standard` if it is not
given. -/
def readMember {α : Type} (read : Value → Option α) (standard : α) (group : Value) (key : String)
    (index : Nat) : Option α :=
  match member group key index with
  | none => none
  | some none => some standard
  | some (some v) => read v

/-- A group of settings that is a pair of markers. -/
def readMarkers (v : Value) : Option Markers := do
  let dashes ← readMember readNat Markers.standard.dashes v "dashes" 0
  let opening ← readMember readString Markers.standard.opening v "start" 1
  let closing ← readMember readString Markers.standard.closing v "end" 2
  some ⟨dashes, opening, closing⟩

/-- A group of settings that is an interpreter. -/
def readInterpreter (v : Value) : Option Interpreter := do
  let program ← readMember readString Interpreter.standard.program v "program" 0
  let args ← readMember readStrings Interpreter.standard.args v "args" 1
  some ⟨program, args⟩

/-- A setting at the top of a document, if it is given. -/
def readSetting {α : Type} (read : Value → Option α) (entries : List (String × Value)) (key : String) :
    Except String (Option α) :=
  match entries.lookup key with
  | none => .ok none
  | some v =>
    match read v with
    | some a => .ok (some a)
    | none => .error ("unsuitable value for " ++ key)

/-- The update that the values of a document give. -/
def Update.ofValues (entries : List (String × Value)) : Except String Update := do
  let sourcePatterns ← readSetting readStrings entries "source_patterns"
  let mode ← readSetting readMode entries "mode"
  let previewIndent ← readSetting readNat entries "preview_indent"
  let lenient ← readSetting readBool entries "lenient_blockquotes"
  let scissors ← readSetting readMarkers entries "scissors"
  let shell ← readSetting readInterpreter entries "shell"
  return ⟨sourcePatterns, mode, previewIndent, lenient, scissors, shell⟩

/-- The update that a document gives. -/
def Update.ofToml (text : String) : Except Error Update :=
  match Toml.read text with
  | .error (line, flaw) => .error (.toml ("line " ++ toString line ++ ": " ++ flaw.message))
  | .ok entries =>
    match Update.ofValues entries with
    | .ok update => .ok update
    | .error reason => .error (.toml reason)

/-- The configuration that a document gives. -/
def ofToml (text : String) : Except Error Config :=
  (Update.ofToml text).map fun update => update.applyTo .standard

/-- A list of texts as a TOML array. -/
def writeStrings : List String → List Char
  | [] => ['[', ']']
  | [s] => '[' :: Toml.quote s ++ [']']
  | ss => '[' :: ss.flatMap (fun s => "\n    ".toList ++ Toml.quote s ++ [',']) ++ ['\n', ']']

/-- A line that gives a setting. -/
def writeSetting (key : String) (value : List Char) : List Char :=
  key.toList ++ " = ".toList ++ value ++ ['\n']

/-- A number as it is written. -/
def writeNat (n : Nat) : List Char := (toString n).toList

/-- The configuration as a TOML document. -/
def toToml (c : Config) : String :=
  String.ofList <|
    writeSetting "source_patterns" (writeStrings c.sourcePatterns)
    ++ writeSetting "mode" (Toml.quote c.mode.name)
    ++ writeSetting "preview_indent" (writeNat c.previewIndent)
    ++ writeSetting "lenient_blockquotes" (if c.lenient then "true".toList else "false".toList)
    ++ "\n[scissors]\n".toList
    ++ writeSetting "dashes" (writeNat c.scissors.dashes)
    ++ writeSetting "start" (Toml.quote c.scissors.opening)
    ++ writeSetting "end" (Toml.quote c.scissors.closing)
    ++ "\n[shell]\n".toList
    ++ writeSetting "program" (Toml.quote c.shell.program)
    ++ writeSetting "args" (writeStrings c.shell.args)

end Config

end Tangle
