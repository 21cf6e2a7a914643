import Tangle.Sink
import Tangle.Table
import Tangle.Disk.Store
/-!
# The sink on a file store

The sink that writes real output files, below a base directory of any file
store. An open file has a handle with a write buffer: written bytes reach
the file when the buffer has no room for more, and at the latest when the
file is closed, and only then a fault shows. An appending handle always writes at the end of the file,
a truncating one where it stopped.
-/

namespace Tangle

/-- An open output file. -/
structure Handle (κ : Type) where
  /-- The file. -/
  file : κ
  /-- How it was opened. -/
  mode : WriteMode
  /-- Where a truncating handle writes next. -/
  offset : Nat
  /-- The bytes that have not reached the file. -/
  buffer : Bytes
deriving Repr, DecidableEq

namespace Handle

variable {φ κ : Type}

/-- The room of a write buffer, in bytes. -/
def room : Nat := 8192

/-- Content with `bytes` written from `offset` on, over what was there and
after zeros if it ends before. -/
def overwrite (offset : Nat) (bytes content : Bytes) : Bytes :=
  content.take offset ++ List.replicate (offset - content.length) 0 ++ bytes
    ++ content.drop (offset + bytes.length)

/-- Writes bytes to the file at once. -/
def emit (store : Store φ κ) (bytes : Bytes) (h : Handle κ) (s : φ) : Except Fault Unit × Handle κ × φ :=
  match h.mode with
  | .append =>
    let (r, s) := store.edit h.file (· ++ bytes) s
    (r, h, s)
  | .truncate =>
    match store.edit h.file (overwrite h.offset bytes) s with
    | (.ok (), s) => (.ok (), { h with offset := h.offset + bytes.length }, s)
    | (.error fault, s) => (.error fault, h, s)

/-- Empties the buffer into the file. What cannot be written stays. -/
def flush (store : Store φ κ) (h : Handle κ) (s : φ) : Except Fault Unit × Handle κ × φ :=
  if h.buffer.isEmpty then (.ok (), h, s)
  else
    match emit store h.buffer h s with
    | (.ok (), h, s) => (.ok (), { h with buffer := [] }, s)
    | failed => failed

/-- Writes bytes through the buffer: it is emptied first if they do not fit
beside its content, and passed by if they would fill it alone. -/
def write (store : Store φ κ) (bytes : Bytes) (h : Handle κ) (s : φ) : Except Fault Unit × Handle κ × φ :=
  match if h.buffer.length + bytes.length > room then flush store h s else (.ok (), h, s) with
  | (.error fault, h, s) => (.error fault, h, s)
  | (.ok (), h, s) =>
    if bytes.length ≥ room then emit store bytes h s
    else (.ok (), { h with buffer := h.buffer ++ bytes }, s)

/-- Writes a line with its end. -/
def writeLine (store : Store φ κ) (text : Bytes) (h : Handle κ) (s : φ) : Except Fault Unit × Handle κ × φ :=
  match h.write store text s with
  | (.ok (), h, s) => h.write store [lineFeed] s
  | failed => failed

end Handle

/-- The open output files by name. -/
abbrev Handles (κ : Type) := Table (Handle κ)

namespace Handles

variable {φ κ : Type}

/-- A file is open under the name. -/
def isOpen (handles : Handles κ) (name : String) : Bool :=
  (handles.get? name).isSome

/-- Empties all buffers, as when the sink is dropped. -/
def flushAll (store : Store φ κ) (handles : Handles κ) (s : φ) : φ :=
  handles.entries.foldl (fun s e => (e.2.flush store s).2.2) s

end Handles

namespace Sink

variable {φ κ : Type}

/-- The sink that writes files of a store below `base`. -/
def files (store : Store φ κ) (base : Path) : Sink (Handles κ × φ) where
  openFile name mode := fun (handles, s) =>
    let path := base.join ⟨name⟩
    if handles.isOpen name then (.error (.sink path .alreadyOpen), handles, s)
    else
      let made := match path.parent? with
        | some above => store.makeDirectories above s
        | none => (.ok (), s)
      match made with
      | (.error fault, s) => (.error (.io fault), handles, s)
      | (.ok (), s) =>
        match store.openFile path mode s with
        | (.error fault, s) => (.error (.io fault), handles, s)
        | (.ok file, s) => (.ok (), ⟨handles.entries ++ [(name, ⟨file, mode, 0, []⟩)]⟩, s)
  write name text := fun (handles, s) =>
    match handles.get? name with
    | none => (.error (.sink (base.join ⟨name⟩) .writeUnopened), handles, s)
    | some h =>
      let (r, h, s) := h.writeLine store text s
      (r.mapError Error.io, handles.alter name h (fun _ => h), s)
  closeFile name := fun (handles, s) =>
    match handles.get? name with
    | none => (.error (.sink (base.join ⟨name⟩) .closeUnopened), handles, s)
    | some h =>
      let (r, _, s) := h.flush store s
      (r.mapError Error.io, handles.erase name, s)

end Sink

end Tangle
