import Tangle.Shell.Files
import Tangle.Shell.Moment
import Tangle.Shell.Permission
import Tangle.Shell.Utility.Size
/-!
# What is known of files

What listings and other reports tell of a file besides its name: its kind,
the number of its names, its own number, and its time.
-/

namespace Tangle

namespace Shell

namespace Utility

/-- The letter of the kind of a file. -/
def kindMark : Node → Char
  | .directory _ _ => 'd'
  | .link _ => 'l'
  | .device _ => 'c'
  | _ => '-'

/-- The kind and the permission bits of a file. -/
def modeRow (node : Node) : Octets := kindMark node :: Permission.row node.mode

/-- What a file is called by its kind. -/
def kindName (node : Node) : String :=
  match node with
  | .directory _ _ => "directory"
  | .link _ => "symbolic link"
  | .device _ => "character special file"
  | n => if (n.content?.getD []).isEmpty then "regular empty file" else "regular file"

/-- The number of names of a file. -/
def nameCountOf (node : Node) (s : State) : Nat :=
  match node with
  | .directory es _ => 2 + (es.filter fun e => e.2.isDirectory).length
  | node => match node.shared? with
    | some number => s.disk.nameCount number
    | none => 1

/-- The number of the file at a place, which all its names have in
common. -/
def fileNumber (place : Place) (s : State) : Nat :=
  let all := s.disk.descendants
  let index := match (s.disk.get? place).bind Node.shared? with
    | some number => all.findIdx? fun e => e.2.shared? = some number
    | none => all.findIdx? fun e => e.1 = place
  match index with
  | some n => 1000 + n
  | none => 2

/-- The major and the minor number of a device. -/
def deviceNumbers : Device → Nat × Nat
  | .null => (1, 3)
  | .zero => (1, 5)
  | .full => (1, 7)
  | .descriptor _ => (0, 0)

/-- A point in time in a format. -/
def formatTime (nanoseconds : Int) (format : Octets) : Octets :=
  let t := Moment.ofNanoseconds nanoseconds
  Calendar.write (some t.nanoseconds) t.seconds (format.length + 12) format

end Utility

end Shell

end Tangle
