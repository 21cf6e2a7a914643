import Tangle.Toml.Moment
import Tangle.Toml.Quoted
import Tangle.Toml.Table
/-!
# TOML documents

The grammar of values, keys, headers and documents (`Toml.read`). Values
nest at most `nestingLimit` deep, which also bounds the recursion; a
document is read entry by entry, and the first entry that is malformed or
conflicts with an earlier one is reported by its line.
-/

namespace Tangle

namespace Toml

/-- Values may nest this deep, and keys have fewer parts than this. -/
def nestingLimit : Nat := 80

/-- A character of a key without quotes. -/
def isBare (c : Char) : Bool :=
  isDecimal c || ('a' ≤ c && c ≤ 'z') || ('A' ≤ c && c ≤ 'Z') || c = '_' || c = '-'

/-- Reads one part of a key. -/
def keyPart (s : List Char) : Option (String × List Char) :=
  match s with
  | '"' :: _ | '\'' :: _ => (lineString s).map fun (text, rest) => (String.ofList text, rest)
  | _ =>
    match s.takeWhile isBare with
    | [] => none
    | word => some (String.ofList word, s.dropWhile isBare)

/-- Reads the parts of a dotted key, with the blanks around each. -/
def keyParts : Nat → Reader (List String)
  | 0, _ => none
  | fuel + 1, s => do
    let (part, s) ← keyPart (skipSpaces s)
    match skipSpaces s with
    | '.' :: s =>
      let (parts, s) ← keyParts fuel s
      some (part :: parts, s)
    | s => some ([part], s)

/-- Reads a key: all parts but the last, and the last. -/
def key (s : List Char) : Option ((List String × String) × List Char) := do
  let (parts, s) ← keyParts nestingLimit s
  guard (parts.length < nestingLimit)
  let last ← parts.getLast?
  some ((parts.dropLast, last), s)

/-- Reads values up to a closing bracket, separated by commas, of which one
may stand behind the last. -/
def arrayBody (value : Reader Value) : Nat → Reader (List Value)
  | 0, _ => none
  | fuel + 1, s =>
    match skipGap false s with
    | ']' :: s => some ([], s)
    | s => do
      let (v, s) ← value s
      match skipGap false s with
      | ',' :: s =>
        let (vs, s) ← arrayBody value fuel s
        some (v :: vs, s)
      | ']' :: s => some ([v], s)
      | _ => none

/-- Reads a key, an equals sign and a value. -/
def pair (value : Reader Value) (s : List Char) :
    Option ((List String × String × Value) × List Char) := do
  let ((path, last), s) ← key s
  match s with
  | '=' :: s =>
    let (v, s) ← value (skipSpaces s)
    some ((path, last, v), s)
  | _ => none

/-- Reads keys with values up to a closing brace, separated by commas, and
adds them to the items read so far. -/
def inlineBody (value : Reader Value) : Nat → Items → Reader Items
  | 0, _, _ => none
  | fuel + 1, items, s => do
    let ((path, last, v), s) ← pair value s
    let items ← items.addValue path last v
    match skipSpaces s with
    | ',' :: s => inlineBody value fuel items s
    | '\x7d' :: s => some (items, s)
    | _ => none

/-- Reads a table in braces after the opening one. -/
def inlineTable (value : Reader Value) (s : List Char) : Option (Value × List Char) :=
  match skipSpaces s with
  | '\x7d' :: s => some (.table [], s)
  | s => (inlineBody value (s.length + 1) [] s).map fun (items, s) => (.table (closeEntries items), s)

/-- Reads a value that holds no other. -/
def scalar (s : List Char) : Option (Value × List Char) :=
  match s with
  | '"' :: _ | '\'' :: _ => (string s).map fun (text, rest) => (.string (String.ofList text), rest)
  | 't' :: 'r' :: 'u' :: 'e' :: rest => some (.boolean true, rest)
  | 'f' :: 'a' :: 'l' :: 's' :: 'e' :: rest => some (.boolean false, rest)
  | _ => (moment s).or (number s)

/-- Reads a value in which values nest less than `depth` deep. -/
def value : Nat → Reader Value
  | 0, _ => none
  | depth + 1, s =>
    match s with
    | '[' :: s =>
      if depth = 0 then none
      else (arrayBody (value depth) (s.length + 1) s).map fun (vs, s) => (.array vs, s)
    | '\x7b' :: s => if depth = 0 then none else inlineTable (value depth) s
    | s => scalar s

/-- What is wrong with a document. -/
inductive Flaw where
  /-- An entry does not follow the grammar. -/
  | malformed
  /-- A key or a header is given twice. -/
  | conflict
deriving Repr, DecidableEq

/-- The text of a flaw. -/
def Flaw.message : Flaw → String
  | .malformed => "malformed entry"
  | .conflict => "key given twice"

/-- The table that entries are added to, and all items so far. -/
structure Progress where
  /-- The keys of the last header. -/
  current : List String
  /-- All items of the document so far. -/
  items : Items

/-- Reads a header after its opening bracket. -/
def header (p : Progress) (s : List Char) : Except Flaw (Progress × List Char) :=
  match s with
  | '[' :: s =>
    match key s with
    | some ((path, last), ']' :: ']' :: s) =>
      match restOfLine? s, p.items.addElement path last with
      | none, _ => .error .malformed
      | some _, none => .error .conflict
      | some s, some items => .ok (⟨path ++ [last], items⟩, s)
    | _ => .error .malformed
  | s =>
    match key s with
    | some ((path, last), ']' :: s) =>
      match restOfLine? s, p.items.addTable path last with
      | none, _ => .error .malformed
      | some _, none => .error .conflict
      | some s, some items => .ok (⟨path ++ [last], items⟩, s)
    | _ => .error .malformed

/-- Reads a key with its value on a line. -/
def assignment (p : Progress) (s : List Char) : Except Flaw (Progress × List Char) :=
  match pair (value nestingLimit) s with
  | none => .error .malformed
  | some ((path, last, v), s) =>
    match restOfLine? s, p.items.under .step (fun _ items => items.addValue path last v) p.current .header with
    | none, _ => .error .malformed
    | some _, none => .error .conflict
    | some s, some items => .ok (⟨p.current, items⟩, s)

/-- Reads one entry: a header, or a key with its value. -/
def entry (p : Progress) (s : List Char) : Except Flaw (Progress × List Char) :=
  match s with
  | '[' :: s => header p s
  | s => assignment p s

/-- Reads entries to the end of the text. An error comes with the length of
the text from the faulty entry on. -/
def entries : Nat → Progress → List Char → Except (Nat × Flaw) Progress
  | 0, _, s => .error (s.length, .malformed)
  | fuel + 1, p, s =>
    match skipGap false s with
    | [] => .ok p
    | s =>
      match entry p s with
      | .error flaw => .error (s.length, flaw)
      | .ok (p, rest) => entries fuel p rest

/-- The text without a byte order mark at its front. -/
def skipMark : List Char → List Char
  | c :: s => if c = '\ufeff' then s else c :: s
  | [] => []

/-- The values of a document, or the line of its first flaw. -/
def read (text : String) : Except (Nat × Flaw) (List (String × Value)) :=
  let s := skipMark text.toList
  match entries (s.length + 1) ⟨[], []⟩ s with
  | .ok p => .ok (closeEntries p.items)
  | .error (left, flaw) => .error (((s.take (s.length - left)).count '\n') + 1, flaw)

end Toml

end Tangle
