import Tangle.Sink.Memory
import Tangle.Proofs.Pass.Calls
/-!
# A pass into memory

The sink in memory serves a call whose file is in order: one that is not
open is opened, and one that is open is written and closed. Each call
changes its own file (`Table.get?_alter_self`) and leaves every other as
it was, so the lines of a block extend the content of its file and nothing
else.
-/

namespace Tangle

namespace Tangler

variable {ε : Type}

/-- The tangler that writes to memory, beside an executor. -/
def inMemory (lenient : Bool) (scissors : Scissors) (executor : Executor ε) :
    Tangler (MemoryFiles × ε) :=
  ⟨lenient, scissors, Sink.memory.onFirst, executor.onSecond⟩

variable {lenient : Bool} {scissors : Scissors} {executor : Executor ε} {files : MemoryFiles} {e : ε}
variable {name : String} {mode : WriteMode} {written : List Bytes}

theorem perform_open (h : files.isOpen name = false) :
    (inMemory lenient scissors executor).perform (.openFile name mode) (files, e) =
      (.ok (), files.alter name MemoryFiles.fresh (MemoryFiles.opened mode), e) := by
  simp [perform, inMemory, Sink.onFirst, Action.onFirst, Sink.memory, h]

theorem perform_write {text : Bytes} (h : files.isOpen name = true) :
    (inMemory lenient scissors executor).perform (.write name text) (files, e) =
      (.ok (), files.alter name MemoryFiles.fresh (MemoryFiles.extended text), e) := by
  simp [perform, inMemory, Sink.onFirst, Action.onFirst, Sink.memory, h]

theorem perform_close (h : files.isOpen name = true) :
    (inMemory lenient scissors executor).perform (.closeFile name) (files, e) =
      (.ok (), files.alter name MemoryFiles.fresh MemoryFiles.closed, e) := by
  simp [perform, inMemory, Sink.onFirst, Action.onFirst, Sink.memory, h]

theorem perform_run {block : RunBlock} (h : (executor.run block e).1 = .ok ()) :
    (inMemory lenient scissors executor).perform (.run block) (files, e) =
      (.ok (), files, (executor.run block e).2) := by
  simp [perform, inMemory, Executor.onSecond, Action.onSecond, h]

theorem perform_open_twice (h : files.isOpen name = true) :
    (inMemory lenient scissors executor).perform (.openFile name mode) (files, e) =
      (.error (.sink ⟨name⟩ .alreadyOpen), files, e) := by
  simp [perform, inMemory, Sink.onFirst, Action.onFirst, Sink.memory, h]

theorem perform_write_unopened {text : Bytes} (h : files.isOpen name = false) :
    (inMemory lenient scissors executor).perform (.write name text) (files, e) =
      (.error (.sink ⟨name⟩ .writeUnopened), files, e) := by
  simp [perform, inMemory, Sink.onFirst, Action.onFirst, Sink.memory, h]

theorem perform_close_unopened (h : files.isOpen name = false) :
    (inMemory lenient scissors executor).perform (.closeFile name) (files, e) =
      (.error (.sink ⟨name⟩ .closeUnopened), files, e) := by
  simp [perform, inMemory, Sink.onFirst, Action.onFirst, Sink.memory, h]

theorem perform_run_error {block : RunBlock} {err : Error} (h : (executor.run block e).1 = .error err) :
    (inMemory lenient scissors executor).perform (.run block) (files, e) =
      (.error err, files, (executor.run block e).2) := by
  simp [perform, inMemory, Executor.onSecond, Action.onSecond, h]

theorem isOpen_of_get? {file : MemoryFile} (h : files.get? name = some file) :
    files.isOpen name = file.isOpen := by
  rw [MemoryFiles.isOpen, h, Option.any_some]

theorem isOpen_alter_self (f : MemoryFile → MemoryFile) :
    MemoryFiles.isOpen (files.alter name MemoryFiles.fresh f) name =
      (f ((files.get? name).getD MemoryFiles.fresh)).isOpen :=
  isOpen_of_get? (Table.get?_alter_self files)

theorem isOpen_alter_of_ne (f : MemoryFile → MemoryFile) {other : String} (h : other ≠ name) :
    MemoryFiles.isOpen (files.alter name MemoryFiles.fresh f) other = files.isOpen other := by
  rw [MemoryFiles.isOpen, Table.get?_alter_of_ne _ h, MemoryFiles.isOpen]

variable (lenient scissors executor e)

/-- **Lines are written to an open file**, the last one in front. -/
theorem succeeds_writes (texts : List Bytes) (h : files.get? name = some ⟨written, true⟩) :
    ∃ files' : MemoryFiles, (inMemory lenient scissors executor).Succeeds
        (texts.map (.write name)) (files, e) (files', e) ∧
      files'.get? name = some ⟨(texts.map (· ++ [lineFeed])).reverse ++ written, true⟩ ∧
      ∀ other, other ≠ name → files'.get? other = files.get? other := by
  induction texts generalizing files written with
  | nil => exact ⟨files, succeeds_nil, h, fun _ _ => rfl⟩
  | cons text texts ih =>
    have hstep : (files.alter name MemoryFiles.fresh (MemoryFiles.extended text)).get? name =
        some ⟨(text ++ [lineFeed]) :: written, true⟩ := by
      rw [Table.get?_alter_self, h]
      rfl
    obtain ⟨files', hsucc, hget, hother⟩ := ih hstep
    refine ⟨files', succeeds_cons (perform_write (isOpen_of_get? h)) hsucc, ?_, fun other hne => ?_⟩
    · rw [hget, List.map_cons, List.reverse_cons, List.append_assoc]
      rfl
    · rw [hother other hne, Table.get?_alter_of_ne _ hne]

/-- **A block is written to a file that is not open**: after the content
that it extends, or as all of the content. -/
theorem succeeds_file (mode : WriteMode) (texts : List Bytes) (h : files.isOpen name = false) :
    ∃ files' : MemoryFiles, (inMemory lenient scissors executor).Succeeds
        (.openFile name mode :: (texts.map (.write name) ++ [.closeFile name])) (files, e)
        (files', e) ∧
      files'.isOpen name = false ∧
      files'.content? name = some ((if mode = .append then (files.content? name).getD [] else []) ++
        texts.flatMap (· ++ [lineFeed])) ∧
      ∀ other, other ≠ name → files'.get? other = files.get? other := by
  -- what opening keeps of the file is what the mode says
  have hopened : ∃ before, (files.alter name MemoryFiles.fresh (MemoryFiles.opened mode)).get? name =
      some ⟨before, true⟩ ∧ before.reverse.flatten =
        if mode = .append then (files.content? name).getD [] else [] := by
    rw [Table.get?_alter_self, MemoryFiles.content?]
    cases mode with
    | truncate => exact ⟨[], rfl, rfl⟩
    | append =>
      refine ⟨((files.get? name).getD MemoryFiles.fresh).written, rfl, ?_⟩
      cases files.get? name <;> rfl
  obtain ⟨before, hget, hbefore⟩ := hopened
  obtain ⟨files', hsucc, hget', hother⟩ := succeeds_writes lenient scissors executor e
    texts hget
  have hclosed : (files'.alter name MemoryFiles.fresh MemoryFiles.closed).get? name =
      some ⟨(texts.map (· ++ [lineFeed])).reverse ++ before, false⟩ := by
    rw [Table.get?_alter_self, hget']
    rfl
  refine ⟨_, succeeds_cons (perform_open h) (hsucc.append
    (succeeds_cons (perform_close (isOpen_of_get? hget')) succeeds_nil)), isOpen_of_get? hclosed, ?_,
    fun other hne => ?_⟩
  · rw [MemoryFiles.content?, hclosed, Option.map_some, MemoryFile.content, List.reverse_append,
      List.reverse_reverse, List.flatten_append, hbefore, List.flatMap_def]
  · rw [Table.get?_alter_of_ne _ hne, hother other hne, Table.get?_alter_of_ne _ hne]

end Tangler

end Tangle
