import Tangle.Disk.Node
import Tangle.Path
import Tangle.Fault
/-!
# Finding a path

A path denotes a place on the disk from a current directory. The walk goes
segment by segment: `.` stays, `..` goes up, a name goes down, and each
step but the last has to arrive at a directory (`Node.find`). The last
segment may name an entry that is not there yet. A link stands for the path
it holds, seen from the directory where it lies, and so many links may be
followed on the way and no more.
-/

namespace Tangle

/-- Where a path leads. -/
structure Found where
  /-- The place. -/
  place : Place
  /-- What is there. -/
  node : Option Node
  /-- The path asks for a directory, as by a slash at its end. -/
  asDirectory : Bool

/-- Where a walk arrives. -/
structure Arrival extends Found where
  /-- The number of links that were followed on the way. -/
  links : Nat

/-- What is there, if it is a directory or none is asked for. -/
def Found.existing (found : Found) : Except Fault Node :=
  match found.node with
  | none => .error .notFound
  | some node => if found.asDirectory && !node.isDirectory then .error .notADirectory else .ok node

namespace Node

/-- The longest name of an entry, in bytes. -/
def nameLimit : Nat := 255

/-- The longest path, in bytes. -/
def pathLimit : Nat := 4095

/-- The most links that are followed on the way of one path. -/
def linkLimit : Nat := 40

/-- Walks the segments of a path from a directory, after `links` links were
followed. `follow` finds what the link in a directory leads to; the last
segment is only followed if `through` is set, or if a slash comes after it. -/
def walk (follow : Nat → Place → String → Except Fault Arrival) (through : Bool) (root : Node) :
    Nat → Place → List (List Char) → Except Fault Arrival
  | links, place, [] => .ok ⟨⟨place, root.get? place, true⟩, links⟩
  | links, place, [] :: rest => walk follow through root links place rest
  | links, place, ['.'] :: rest => walk follow through root links place rest
  | links, place, ['.', '.'] :: rest => walk follow through root links place.dropLast rest
  | links, place, segment :: rest =>
    if (Utf8.encode segment).length > nameLimit then .error .nameTooLong
    else
      let entry := place ++ [String.ofList segment]
      match root.get? entry, rest with
      | some (.link target), [] =>
        if through then follow links place target else .ok ⟨⟨entry, some (.link target), false⟩, links⟩
      | node, [] => .ok ⟨⟨entry, node, false⟩, links⟩
      | some (.link target), rest => do
        let found ← follow links place target
        match found.node with
        | some (.directory _ _) => walk follow through root found.links found.place rest
        | some _ => .error .notADirectory
        | none => .error .notFound
      | some (.directory _ _), rest => walk follow through root links entry rest
      | some node, rest =>
        if rest.all List.isEmpty then .ok ⟨⟨entry, some node, true⟩, links⟩ else .error .notADirectory
      | none, rest => if rest.all List.isEmpty then .ok ⟨⟨entry, none, true⟩, links⟩ else .error .notFound

/-- Finds what a link leads to, at most `depth` links one inside the other,
after `links` others were followed. -/
def follow (root : Node) : Nat → Nat → Place → String → Except Fault Arrival
  | 0, _, _, _ => .error .tooManyLinks
  | depth + 1, links, place, target =>
    let path : Path := ⟨target⟩
    if links ≥ linkLimit then .error .tooManyLinks
    else
      root.walk (root.follow depth) true (links + 1) (if path.isAbsolute then [] else place)
        (Path.segments target.toList)

/-- What a path denotes from the current directory `cwd`; a link at its end
is followed if `through` is set. -/
def findEntry (through : Bool) (root : Node) (cwd : Place) (path : Path) : Except Fault Found :=
  let text := path.text.toList
  if text.contains '\x00' then .error .nulInPath
  else if text.isEmpty then .error .notFound
  else if (Utf8.encode text).length > pathLimit then .error .nameTooLong
  else
    let start := if path.isAbsolute then [] else cwd
    match root.get? start with
    | some (directory _ _) =>
      (root.walk (root.follow linkLimit) through 0 start (Path.segments text)).map Arrival.toFound
    | _ => .error .notFound

/-- What a path denotes from the current directory `cwd`. -/
def find (root : Node) (cwd : Place) (path : Path) : Except Fault Found :=
  root.findEntry true cwd path

/-- The node that a path denotes. -/
def lookup (root : Node) (cwd : Place) (path : Path) : Except Fault Node :=
  match root.find cwd path with
  | .error fault => .error fault
  | .ok found => found.existing

/-- The entry that a path denotes; a link is its own entry. -/
def lookupEntry (root : Node) (cwd : Place) (path : Path) : Except Fault Node :=
  match root.findEntry false cwd path with
  | .error fault => .error fault
  | .ok found => found.existing

/-- The path denotes a regular file. -/
def isFileAt (root : Node) (cwd : Place) (path : Path) : Bool :=
  match root.lookup cwd path with
  | .ok node => node.isFile
  | .error _ => false

/-- The path denotes a directory. -/
def isDirectoryAt (root : Node) (cwd : Place) (path : Path) : Bool :=
  match root.lookup cwd path with
  | .ok node => node.isDirectory
  | .error _ => false

/-- The path denotes something. -/
def existsAt (root : Node) (cwd : Place) (path : Path) : Bool :=
  match root.lookup cwd path with
  | .ok _ => true
  | .error _ => false

/-- The bytes of the file that a path denotes. -/
def readAt (root : Node) (cwd : Place) (path : Path) : Except Fault Bytes :=
  match root.lookup cwd path with
  | .error fault => .error fault
  | .ok node =>
    match node.content? with
    | some content => .ok content
    | none => .error .isADirectory

/-- The most segments of a path that is listed. -/
def listingDepth : Nat := 100

/-- What can be reached below a directory by its entries, through links
too: the path of each entry with the bytes of the file, or with nothing if
it is a directory. A link that leads nowhere is an empty file. -/
def listing (root : Node) (cwd : Place) : Nat → String → List (String × Option Bytes)
  | 0, _ => []
  | depth + 1, path =>
    let names := match root.lookup cwd ⟨if path.isEmpty then "." else path⟩ with
      | .ok node => node.entries.map Prod.fst
      | .error _ => []
    names.flatMap fun name =>
      let inner := if path.isEmpty then name else path ++ "/" ++ name
      if root.isDirectoryAt cwd ⟨inner⟩ then (inner, none) :: listing root cwd depth inner
      else [(inner, some ((root.readAt cwd ⟨inner⟩).toOption.getD []))]

end Node

end Tangle
