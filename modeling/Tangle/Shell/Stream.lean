import Tangle.Shell.Octets
import Tangle.Disk.Store
/-!
# Open streams

What a descriptor leads to. A stream is shared by all descriptors that were
made from each other, with one position for all of them. Commands of a
pipeline run one after the other, so a pipe is a text that is written first
and used up afterwards, and so are texts that a script holds.
-/

namespace Tangle

namespace Shell

/-- What is read and written through a stream. -/
inductive Target where
  /-- A text that lies between its writers and its readers. -/
  | text
  /-- A text that is kept like a file, and can be opened again. -/
  | kept
  /-- What another stream keeps. -/
  | again (stream : Nat)
  /-- A file. -/
  | file (place : Place)
  /-- A directory. -/
  | directory
  /-- A device. -/
  | device (d : Device)
deriving Repr, DecidableEq

/-- An open stream. -/
structure Stream where
  /-- What it leads to. -/
  target : Target
  /-- The text that has not been read. -/
  unread : Octets
  /-- The pieces of text written since, the last one first. -/
  written : List Octets
  /-- Where a file is read and written. -/
  position : Nat
  /-- Whatever is written goes to the end. -/
  appends : Bool
  /-- It is open for reading. -/
  reads : Bool
  /-- It is open for writing. -/
  writes : Bool
  /-- Where a text that is kept goes on, if not at its end. -/
  resumes : Option Nat

namespace Stream

/-- A stream at its start. -/
def start (target : Target) (appends reads writes : Bool) : Stream :=
  ⟨target, [], [], 0, appends, reads, writes, none⟩

/-- A text to be read. -/
def ofText (s : Octets) : Stream := { start .text false true false with unread := s }

/-- A text to be written and read. -/
def pipe : Stream := start .text true true true

/-- A text to be written and kept. -/
def keeper : Stream := start .kept false false true

/-- A file that was opened. -/
def ofFile (place : Place) (appends reads writes : Bool) : Stream := start (.file place) appends reads writes

/-- A device that was opened. -/
def ofDevice (d : Device) (reads writes : Bool) : Stream := start (.device d) false reads writes

/-- A directory that was opened. -/
def ofDirectory : Stream := start .directory false true false

/-- The text that can be read. -/
def text (st : Stream) : Octets := st.unread ++ st.written.reverse.flatten

/-- The text with the pieces put together. -/
def gathered (st : Stream) : Stream := { st with unread := st.text, written := [] }

end Stream

/-- A text with another one written from `offset` on, over what was there
and after zeros if it ends before. -/
def overwritten {α : Type} (zero : α) (offset : Nat) (new old : List α) : List α :=
  old.take offset ++ List.replicate (offset - old.length) zero ++ new ++ old.drop (offset + new.length)

namespace Stream

/-- Where the next text goes in one that is kept. -/
def resumption (st : Stream) : Nat := st.resumes.getD st.text.length

/-- The stream with a text written to it. -/
def extended (text : Octets) (st : Stream) : Stream :=
  match st.resumes with
  | none => { st with written := text :: st.written }
  | some n => { st with unread := overwritten '\x00' n text st.text, written := [], resumes := some (n + text.length) }

/-- The stream after its text has been made empty by somebody else. -/
def emptied (st : Stream) : Stream := { st with unread := [], written := [], resumes := some st.resumption }

/-- The stream after somebody else has written to its text from `offset`
on, or at the end. -/
def changed (offset : Option Nat) (text : Octets) (st : Stream) : Stream :=
  let old := st.text
  { st with
    unread := overwritten '\x00' (offset.getD old.length) text old, written := [], resumes := some st.resumption }

end Stream

end Shell

end Tangle
