import Tangle.Text.Utf8
/-!
# The tree of files

A disk is a tree of directories and files, among them links and devices. The entries of a directory are
kept in ascending order of their names, so that listing a directory, or
walking all that lies below it (`Node.descendants`), needs no sorting.
-/

namespace Tangle

/-- A device: a file whose reading and writing is no matter of content. -/
inductive Device where
  /-- Nothing to read, and forgets what is written. -/
  | null
  /-- Nothing but zeros to read. -/
  | zero
  /-- No room to write. -/
  | full
  /-- What the process that opens it has under a descriptor. -/
  | descriptor (n : Nat)
deriving Repr, DecidableEq

/-- What a file or a directory has besides its content. -/
structure Attributes where
  /-- The permission bits. -/
  mode : Nat
  /-- When it was changed last, in nanoseconds since the start of 1970. -/
  modified : Int
  /-- The number that all names of a file have in common, if it has more
  than one. -/
  shared : Option Nat
deriving Repr, DecidableEq

namespace Attributes

/-- When the files were made that are there from the start. -/
def firstChange : Int := 1750000000000000000

/-- The attributes of what is there from the start. -/
def ofMode (mode : Nat) : Attributes := ⟨mode, firstChange, none⟩

end Attributes

/-- An entry of a disk. -/
inductive Node where
  /-- A regular file. -/
  | file (content : Bytes) (attributes : Attributes)
  /-- A directory with its entries in ascending order of names. -/
  | directory (entries : List (String × Node)) (attributes : Attributes)
  /-- A symbolic link, which stands for the path it holds. -/
  | link (target : String)
  /-- A device. -/
  | device (d : Device)
  /-- A program that belongs to the system, by its name. -/
  | program (name : String)

/-- The names that lead from the root to an entry. -/
abbrev Place := List String

namespace Node

/-- The permission bits of a new directory. -/
def newDirectoryMode : Nat := 0o755

/-- A directory without entries. -/
def emptyDirectory : Node := .directory [] (.ofMode newDirectoryMode)

instance : Inhabited Node := ⟨emptyDirectory⟩

/-- The node is a directory. -/
def isDirectory : Node → Bool
  | directory _ _ => true
  | _ => false

/-- The node is a regular file. -/
def isFile : Node → Bool
  | file _ _ => true
  | program _ => true
  | _ => false

/-- The node is a symbolic link. -/
def isLink : Node → Bool
  | link _ => true
  | _ => false

/-- The attributes of a node that has some. -/
def attributes? : Node → Option Attributes
  | file _ a => some a
  | directory _ a => some a
  | _ => none

/-- When a node was changed last. -/
def modified (n : Node) : Int := (n.attributes?.map Attributes.modified).getD Attributes.firstChange

/-- The node with other attributes. -/
def withAttributes (f : Attributes → Attributes) : Node → Node
  | file content a => file content (f a)
  | directory es a => directory es (f a)
  | n => n

/-- The permission bits of a node. -/
def mode : Node → Nat
  | file _ a => a.mode
  | directory _ a => a.mode
  | device _ => 0o666
  | link _ => 0o777
  | _ => 0o755

/-- The node is a file that can be called. -/
def isExecutable (n : Node) : Bool :=
  n.isFile && n.mode &&& 0o111 ≠ 0

/-- The entries of a directory; a file has none. -/
def entries : Node → List (String × Node)
  | directory es _ => es
  | _ => []

/-- The bytes that reading a node yields; a directory has none. -/
def content? : Node → Option Bytes
  | file content _ => some content
  | directory _ _ => none
  | _ => some []

/-- The node at a place below this one. -/
def get? (n : Node) : Place → Option Node
  | [] => some n
  | name :: rest =>
    match n.entries.lookup name with
    | some child => child.get? rest
    | none => none

/-- Entries with one set, in its place among the names. -/
def setEntry (name : String) (new : Node) : List (String × Node) → List (String × Node)
  | [] => [(name, new)]
  | (key, old) :: rest =>
    if key = name then (name, new) :: rest
    else if name < key then (name, new) :: (key, old) :: rest
    else (key, old) :: setEntry name new rest

/-- The tree with the node `new` put at a place whose directory exists. -/
def put : (n new : Node) → Place → Node
  | _, new, [] => new
  | directory es a, new, name :: rest =>
    directory (setEntry name (put ((es.lookup name).getD emptyDirectory) new rest) es) a
  | n, _, _ :: _ => n

/-- The tree without the node at a place. -/
def erase : Node → Place → Node
  | directory es a, [name] => directory (es.filter fun e => e.1 ≠ name) a
  | directory es a, name :: rest =>
    match es.lookup name with
    | some child => directory (setEntry name (erase child rest) es) a
    | none => directory es a
  | n, _ => n

/-- The number that the names of a file have in common. -/
def shared? (n : Node) : Option Nat := n.attributes?.bind Attributes.shared

mutual

/-- The tree with every file of a number changed. -/
def mapShared (number : Nat) (f : Node → Node) : Node → Node
  | directory es a => directory (mapSharedIn number f es) a
  | file content a => if a.shared = some number then f (file content a) else file content a
  | n => n

/-- The entries with every file of a number changed. -/
def mapSharedIn (number : Nat) (f : Node → Node) : List (String × Node) → List (String × Node)
  | [] => []
  | (name, node) :: rest => (name, mapShared number f node) :: mapSharedIn number f rest

end

/-- The tree with the node at a place changed, under all its names. -/
def modify (f : Node → Node) (place : Place) (n : Node) : Node :=
  match n.get? place with
  | some old =>
    match old.shared? with
    | some number => n.mapShared number f
    | none => n.put (f old) place
  | none => n

/-- The tree with the bytes of the file at a place changed. -/
def edit (f : Bytes → Bytes) (place : Place) (n : Node) : Node :=
  match n.get? place with
  | some (file _ _) =>
    n.modify (fun
      | file content a => file (f content) a
      | other => other) place
  | _ => n

mutual

/-- All nodes below a node with the names that lead to them, each
directory before its entries. -/
def descendants : Node → List (Place × Node)
  | directory es _ => descendantsIn es
  | _ => []

/-- The nodes in a list of entries and below them. -/
def descendantsIn : List (String × Node) → List (Place × Node)
  | [] => []
  | (name, node) :: rest =>
    ([name], node) :: (descendants node).map (fun e => (name :: e.1, e.2)) ++ descendantsIn rest

end

/-- The node and all nodes below it. -/
def family (n : Node) : List Node := n :: n.descendants.map Prod.snd

/-- The number of names of a file that has a number. -/
def nameCount (number : Nat) (root : Node) : Nat :=
  (root.family.filter fun n => n.shared? = some number).length

/-- A number that no file has. -/
def freshNumber (root : Node) : Nat :=
  (root.family.filterMap shared?).foldl max 0 + 1

/-- The tree in which the file at a place has another name. -/
def share (place other : Place) (root : Node) : Node :=
  match root.get? place with
  | some (file content a) =>
    let number := a.shared.getD root.freshNumber
    let node := file content { a with shared := some number }
    (root.put node place).put node other
  | some n => root.put n other
  | none => root

end Node

end Tangle
