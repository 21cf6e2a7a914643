import Tangle.Proofs.Sink.Handle
import Tangle.Proofs.Sink.Contents
import Mathlib.Data.Set.Function
/-!
# The sink on a file store does what the sink in memory shows

A preview writes to memory what a run writes to a file store. Here the two
are given the same calls (`Sink.Call`) in any order, one after another and
whatever becomes of each (`Sink.callAll`), on a store that is a map from
files to bytes. They give the same answers, and they stay in agreement
(`Sink.Agrees`): what is recorded under a name is what its file holds, and
while the file is open, what its handle still keeps back.

A call keeps this (`Kept.call`), by what each sink does with it: the sink on
the store by its handles (`Handle.Reaches`), the one in memory by
`Effect.leave`. Files of different names must not be the same, as nothing
that is written to one may show in another.
-/

namespace Tangle

/-- The error of a sink below a base directory: the file is named by its
path from there. -/
def Error.below (base : Path) : Error → Error
  | sink path misuse => sink (base.join path) misuse
  | e => e

namespace Sink

/-- A call of a sink. -/
inductive Call where
  /-- To open a file. -/
  | openFile (name : String) (mode : WriteMode)
  /-- To write a line. -/
  | write (name : String) (text : Bytes)
  /-- To close a file. -/
  | closeFile (name : String)

/-- The name of the file that a call is about. -/
def Call.name : Call → String
  | openFile name _ => name
  | write name _ => name
  | closeFile name => name

variable {σ : Type}

/-- Makes a call. -/
def call (sink : Sink σ) : Call → Action σ Unit
  | .openFile name mode => sink.openFile name mode
  | .write name text => sink.write name text
  | .closeFile name => sink.closeFile name

/-- The state after calls in order, whatever became of each. -/
def callAll (sink : Sink σ) (calls : List Call) (s : σ) : σ :=
  calls.foldl (fun s c => (sink.call c s).2) s

variable {φ κ : Type} {store : Store φ κ} {file : Path → κ} {bytes : φ → κ → Option Bytes}
variable {base : Path} {names : Set String} {handles handles' : Handles κ} {s s' : φ}
variable {files files' : MemoryFiles} {h : Handle κ} {name n : String} {mode : WriteMode}
variable {text total : Bytes} {c : Call}

/-- **The two sinks agree** on the names that files are written under. -/
structure Agrees (file : Path → κ) (bytes : φ → κ → Option Bytes) (base : Path) (names : Set String)
    (handles : Handles κ) (s : φ) (files : MemoryFiles) : Prop where
  /-- The same files are open. -/
  isOpen : ∀ name, handles.isOpen name = files.isOpen name
  /-- A file is there where something is recorded, be it nothing. -/
  isSome : ∀ n ∈ names, (bytes s (file (base.join ⟨n⟩))).isSome = (files.content? n).isSome
  /-- A file that is not open holds what is recorded. -/
  closed : ∀ n ∈ names, files.isOpen n = false →
    bytes s (file (base.join ⟨n⟩)) = files.content? n
  /-- One that is open holds the first of it, and its handle the rest. -/
  opened : ∀ n h, handles.get? n = some h → ∃ written,
    bytes s (file (base.join ⟨n⟩)) = some written ∧ files.content? n = some (written ++ h.buffer)

/-- What each call keeps: beyond the agreement, that a handle is one of the
file of its name. -/
structure Kept (file : Path → κ) (bytes : φ → κ → Option Bytes) (base : Path) (names : Set String)
    (handles : Handles κ) (s : φ) (files : MemoryFiles) : Prop where
  isOpen : ∀ name, handles.isOpen name = files.isOpen name
  closed : ∀ n ∈ names, files.isOpen n = false →
    bytes s (file (base.join ⟨n⟩)) = files.content? n
  opened : ∀ n h, handles.get? n = some h → n ∈ names ∧ h.file = file (base.join ⟨n⟩) ∧
    ∃ total, files.content? n = some total ∧ h.Reaches bytes s total

/-! ## What the sink on a store does -/

theorem files_open_twice (hopen : handles.isOpen name = true) :
    (Sink.files store base).openFile name mode (handles, s) =
      (.error (.sink (base.join ⟨name⟩) .alreadyOpen), handles, s) := by
  simp [Sink.files, hopen]

theorem files_write_unopened (hget : handles.get? name = none) :
    (Sink.files store base).write name text (handles, s) =
      (.error (.sink (base.join ⟨name⟩) .writeUnopened), handles, s) := by
  simp [Sink.files, hget]

theorem files_close_unopened (hget : handles.get? name = none) :
    (Sink.files store base).closeFile name (handles, s) =
      (.error (.sink (base.join ⟨name⟩) .closeUnopened), handles, s) := by
  simp [Sink.files, hget]

section Map

variable [DecidableEq κ]

/-- **A file is opened** with the directories above it. -/
theorem files_open_spec (hmap : store.IsMap file bytes) (hopen : handles.isOpen name = false) :
    ∃ s', (Sink.files store base).openFile name mode (handles, s) =
        (.ok (), ⟨handles.entries ++ [(name, ⟨file (base.join ⟨name⟩), mode, 0, []⟩)]⟩, s') ∧
      bytes s' = Function.update (bytes s) (file (base.join ⟨name⟩))
        (some (if mode = .append then (bytes s (file (base.join ⟨name⟩))).getD [] else [])) := by
  cases hparent : (base.join ⟨name⟩).parent? with
  | none =>
    obtain ⟨s', hopens, hbytes⟩ := hmap.opens (base.join ⟨name⟩) mode s
    refine ⟨s', ?_, hbytes⟩
    simp [Sink.files, hopen, hparent, hopens]
  | some above =>
    obtain ⟨s₁, hmade, hsame⟩ := hmap.makes above s
    obtain ⟨s', hopens, hbytes⟩ := hmap.opens (base.join ⟨name⟩) mode s₁
    refine ⟨s', ?_, by rw [hbytes, hsame]⟩
    simp [Sink.files, hopen, hparent, hmade, hopens]

/-- **A line is written** through the handle of the file. -/
theorem files_write_spec (base : Path) (text : Bytes) (hmap : store.IsMap file bytes)
    (hget : handles.get? name = some h) (hreach : h.Reaches bytes s total) :
    ∃ h' s', (Sink.files store base).write name text (handles, s) =
        (.ok (), handles.alter name h' (fun _ => h'), s') ∧
      h.Extends bytes s h' s' (total ++ (text ++ [lineFeed])) := by
  obtain ⟨h', s', hwrite, hext⟩ := Handle.writeLine_spec hmap hreach text
  refine ⟨h', s', ?_, hext⟩
  simp only [Sink.files, hget, hwrite]
  rfl

/-- **A file is closed** and holds all that was written. -/
theorem files_close_spec (base : Path) (hmap : store.IsMap file bytes)
    (hget : handles.get? name = some h) (hreach : h.Reaches bytes s total) :
    ∃ s', (Sink.files store base).closeFile name (handles, s) = (.ok (), handles.erase name, s') ∧
      bytes s' = Function.update (bytes s) h.file (some total) := by
  obtain ⟨h', s', hflush, hempty, hext⟩ := Handle.flush_spec hmap hreach
  obtain ⟨written, ⟨hbytes, -⟩, htotal⟩ := hext.reaches
  refine ⟨s', by simp only [Sink.files, hget, hflush]; rfl, funext fun k => ?_⟩
  by_cases hk : k = h.file
  · rw [hempty, List.append_nil] at htotal
    rw [hk, Function.update_self, ← hext.file, hbytes, htotal]
  · rw [Function.update_of_ne hk, hext.others k hk]

end Map

/-! ## What a call keeps -/

/-- **What is said of a name holds again** after a call about another: no
two names have the same file. -/
theorem Kept.change (hk : Kept file bytes base names handles s files)
    (hinj : Set.InjOn (fun n => file (base.join ⟨n⟩)) names) (hname : name ∈ names)
    (hbytes : ∀ k, k ≠ file (base.join ⟨name⟩) → bytes s' k = bytes s k)
    (hhandles : ∀ n, n ≠ name → handles'.get? n = handles.get? n)
    (hfiles : ∀ n, n ≠ name → files'.get? n = files.get? n)
    (hopen : handles'.isOpen name = files'.isOpen name)
    (hclosed : files'.isOpen name = false → bytes s' (file (base.join ⟨name⟩)) = files'.content? name)
    (hopened : ∀ h, handles'.get? name = some h → h.file = file (base.join ⟨name⟩) ∧
      ∃ total, files'.content? name = some total ∧ h.Reaches bytes s' total) :
    Kept file bytes base names handles' s' files' := by
  have hother : ∀ n ∈ names, n ≠ name →
      bytes s' (file (base.join ⟨n⟩)) = bytes s (file (base.join ⟨n⟩)) := fun n hn hne =>
    hbytes _ fun heq => hne (hinj hn hname heq)
  refine ⟨fun n => ?_, fun n hn hno => ?_, fun n h hget => ?_⟩
  · by_cases hne : n = name
    · rw [hne, hopen]
    · have hsame := hk.isOpen n
      rw [Handles.isOpen, MemoryFiles.isOpen] at hsame ⊢
      rw [hhandles n hne, hfiles n hne, hsame]
  · by_cases hne : n = name
    · subst hne
      exact hclosed hno
    · rw [MemoryFiles.isOpen, hfiles n hne] at hno
      rw [hother n hn hne, hk.closed n hn hno, MemoryFiles.content?, MemoryFiles.content?, hfiles n hne]
  · by_cases hne : n = name
    · subst hne
      exact ⟨hname, hopened h hget⟩
    · obtain ⟨hn, hfile, total, hcontent, hreach⟩ := hk.opened n h (hhandles n hne ▸ hget)
      refine ⟨hn, hfile, total, ?_, hreach.congr ?_⟩
      · rw [MemoryFiles.content?, hfiles n hne, ← MemoryFiles.content?, hcontent]
      · rw [hfile, hother n hn hne]

/-- A name that is open has a handle. -/
theorem exists_handle (hk : Kept file bytes base names handles s files)
    (hopen : files.isOpen name = true) : ∃ h, handles.get? name = some h :=
  Option.isSome_iff_exists.1 ((hk.isOpen name).trans hopen)

/-- Where no file is there yet, nothing is recorded and nothing open. -/
theorem kept_start (hfresh : ∀ n ∈ names, bytes s (file (base.join ⟨n⟩)) = none) :
    Kept file bytes base names .empty s .empty :=
  ⟨fun _ => rfl, fun n hn _ => hfresh n hn, fun _ _ hget => by cases hget⟩

/-- What is kept is an agreement. -/
theorem Kept.agrees (hk : Kept file bytes base names handles s files) :
    Agrees file bytes base names handles s files := by
  have hopened : ∀ n h, handles.get? n = some h → ∃ written,
      bytes s (file (base.join ⟨n⟩)) = some written ∧
        files.content? n = some (written ++ h.buffer) := by
    intro n h hget
    obtain ⟨-, hfile, total, hcontent, written, ⟨hbytes, -⟩, rfl⟩ := hk.opened n h hget
    exact ⟨written, hfile ▸ hbytes, hcontent⟩
  refine ⟨hk.isOpen, fun n hn => ?_, hk.closed, hopened⟩
  cases hopen : files.isOpen n with
  | false => rw [hk.closed n hn hopen]
  | true =>
    obtain ⟨h, hget⟩ := exists_handle hk hopen
    obtain ⟨written, hbytes, hcontent⟩ := hopened n h hget
    rw [hbytes, hcontent]
    rfl

section Map

variable [DecidableEq κ]

/-- A file that was opened is open in both, with the same bytes. -/
theorem Kept.openFile (hmap : store.IsMap file bytes) (hk : Kept file bytes base names handles s files)
    (hinj : Set.InjOn (fun n => file (base.join ⟨n⟩)) names) (hname : name ∈ names)
    (hopen : files.isOpen name = false) (mode : WriteMode) :
    ∃ handles' s', (Sink.files store base).openFile name mode (handles, s) = (.ok (), handles', s') ∧
      Kept file bytes base names handles' s'
        (files.alter name MemoryFiles.fresh (MemoryFiles.opened mode)) := by
  have hclosed : handles.isOpen name = false := (hk.isOpen name).trans hopen
  have hnone : handles.get? name = none := by
    simpa [Handles.isOpen] using hclosed
  obtain ⟨s', hcall, hbytes⟩ := files_open_spec hmap hclosed
  refine ⟨_, s', hcall, hk.change hinj hname (fun k hk => ?_) (fun n hn => ?_)
    (fun n hn => Table.get?_alter_of_ne _ hn) ?_ (fun h => ?_) fun h hget => ?_⟩
  · rw [hbytes, Function.update_of_ne hk]
  · rw [Table.get?_concat hnone, if_neg hn]
  · rw [Tangler.isOpen_alter_self, Handles.isOpen, Table.get?_concat hnone, if_pos rfl]
    cases mode <;> rfl
  · rw [Tangler.isOpen_alter_self] at h
    cases mode <;> cases h
  · -- the handle is new, and what is recorded is what opening left in the file
    rw [Table.get?_concat hnone, if_pos rfl] at hget
    cases hget
    have hrecorded : MemoryFiles.content? (files.alter name MemoryFiles.fresh (MemoryFiles.opened mode)) name =
        some (if mode = .append then (files.content? name).getD [] else []) := by
      rw [MemoryFiles.content?_opened]
      cases mode <;> simp [Effect.leave]
    refine ⟨rfl, _, hrecorded, _, ⟨?_, fun hmode => ?_⟩, List.append_nil _⟩
    · rw [hbytes, Function.update_self, hk.closed name hname hopen]
    · cases hmode
      rfl

/-- A line that was written is recorded and written through the handle. -/
theorem Kept.write (hmap : store.IsMap file bytes) (hk : Kept file bytes base names handles s files)
    (hinj : Set.InjOn (fun n => file (base.join ⟨n⟩)) names) (hname : name ∈ names)
    (hopen : files.isOpen name = true) (text : Bytes) :
    ∃ handles' s', (Sink.files store base).write name text (handles, s) = (.ok (), handles', s') ∧
      Kept file bytes base names handles' s'
        (files.alter name MemoryFiles.fresh (MemoryFiles.extended text)) := by
  obtain ⟨h, hget⟩ := exists_handle hk hopen
  obtain ⟨-, hfile, total, hcontent, hreach⟩ := hk.opened name h hget
  obtain ⟨h', s', hcall, hext⟩ := files_write_spec base text hmap hget hreach
  have hstays : MemoryFiles.isOpen (files.alter name MemoryFiles.fresh (MemoryFiles.extended text)) name =
      true := by
    obtain ⟨f, hf, hfopen⟩ := (Option.any_eq_true _ _).1 hopen
    rw [Tangler.isOpen_alter_self, hf]
    exact hfopen
  refine ⟨_, s', hcall, hk.change hinj hname (fun k hk => ?_) (fun n hn => ?_)
    (fun n hn => Table.get?_alter_of_ne _ hn) ?_ (fun h => ?_) fun h hget => ?_⟩
  · exact hext.others k (hfile ▸ hk)
  · exact Table.get?_alter_of_ne _ hn
  · rw [hstays, Handles.isOpen, Table.get?_alter_self]
    rfl
  · rw [hstays] at h
    cases h
  · rw [Table.get?_alter_self] at hget
    cases hget
    refine ⟨hext.file.trans hfile, _, ?_, hext.reaches⟩
    rw [MemoryFiles.content?_extended, hcontent, Effect.leave, if_pos rfl, Option.getD_some]

/-- A file that was closed holds what is recorded. -/
theorem Kept.closeFile (hmap : store.IsMap file bytes) (hk : Kept file bytes base names handles s files)
    (hinj : Set.InjOn (fun n => file (base.join ⟨n⟩)) names) (hname : name ∈ names)
    (hopen : files.isOpen name = true) :
    ∃ handles' s', (Sink.files store base).closeFile name (handles, s) = (.ok (), handles', s') ∧
      Kept file bytes base names handles' s'
        (files.alter name MemoryFiles.fresh MemoryFiles.closed) := by
  obtain ⟨h, hget⟩ := exists_handle hk hopen
  obtain ⟨-, hfile, total, hcontent, hreach⟩ := hk.opened name h hget
  obtain ⟨s', hcall, hbytes⟩ := files_close_spec base hmap hget hreach
  refine ⟨_, s', hcall, hk.change hinj hname (fun k hk => ?_) (fun n hn => ?_)
    (fun n hn => Table.get?_alter_of_ne _ hn) ?_ (fun _ => ?_) fun h hget => ?_⟩
  · rw [hbytes, hfile, Function.update_of_ne hk]
  · rw [Table.get?_erase, if_neg hn]
  · rw [Tangler.isOpen_alter_self, Handles.isOpen, Table.get?_erase, if_pos rfl]
    rfl
  · rw [hbytes, hfile, Function.update_self, MemoryFiles.content?_closed hopen, hcontent]
  · rw [Table.get?_erase, if_pos rfl] at hget
    cases hget

/-- **A call is answered alike**, and keeps the two sinks in agreement. -/
theorem Kept.call (hmap : store.IsMap file bytes) (hk : Kept file bytes base names handles s files)
    (hinj : Set.InjOn (fun n => file (base.join ⟨n⟩)) names) (hc : c.name ∈ names) :
    ∃ handles' s', (Sink.files store base).call c (handles, s) =
        ((Sink.memory.call c files).1.mapError (Error.below base), handles', s') ∧
      Kept file bytes base names handles' s' (Sink.memory.call c files).2 := by
  have hget : ∀ name, files.isOpen name = false → handles.get? name = none := fun name hopen => by
    simpa [Handles.isOpen] using (hk.isOpen name).trans hopen
  cases c with
  | openFile name mode =>
    have hname : name ∈ names := hc
    cases hopen : files.isOpen name with
    | true =>
      rw [Sink.call, Sink.call, files_open_twice ((hk.isOpen name).trans hopen)]
      simp only [Sink.memory, hopen]
      exact ⟨handles, s, rfl, hk⟩
    | false =>
      obtain ⟨handles', s', hcall, hk'⟩ := hk.openFile hmap hinj hname hopen mode
      rw [Sink.call, Sink.call, hcall]
      simp only [Sink.memory, hopen]
      exact ⟨handles', s', rfl, hk'⟩
  | write name text =>
    have hname : name ∈ names := hc
    cases hopen : files.isOpen name with
    | true =>
      obtain ⟨handles', s', hcall, hk'⟩ := hk.write hmap hinj hname hopen text
      rw [Sink.call, Sink.call, hcall]
      simp only [Sink.memory, hopen]
      exact ⟨handles', s', rfl, hk'⟩
    | false =>
      rw [Sink.call, Sink.call, files_write_unopened (hget name hopen)]
      simp only [Sink.memory, hopen]
      exact ⟨handles, s, rfl, hk⟩
  | closeFile name =>
    have hname : name ∈ names := hc
    cases hopen : files.isOpen name with
    | true =>
      obtain ⟨handles', s', hcall, hk'⟩ := hk.closeFile hmap hinj hname hopen
      rw [Sink.call, Sink.call, hcall]
      simp only [Sink.memory, hopen]
      exact ⟨handles', s', rfl, hk'⟩
    | false =>
      rw [Sink.call, Sink.call, files_close_unopened (hget name hopen)]
      simp only [Sink.memory, hopen]
      exact ⟨handles, s, rfl, hk⟩

/-- Calls in order keep the two sinks in agreement. -/
theorem Kept.callAll (hmap : store.IsMap file bytes) (hinj : Set.InjOn (fun n => file (base.join ⟨n⟩)) names)
    (hk : Kept file bytes base names handles s files) (calls : List Call)
    (hcalls : ∀ c ∈ calls, c.name ∈ names) :
    Kept file bytes base names ((Sink.files store base).callAll calls (handles, s)).1
      ((Sink.files store base).callAll calls (handles, s)).2 (Sink.memory.callAll calls files) := by
  induction calls generalizing handles s files with
  | nil => exact hk
  | cons c calls ih =>
    obtain ⟨hc, hcalls⟩ := List.forall_mem_cons.1 hcalls
    obtain ⟨handles', s', hcall, hk'⟩ := hk.call hmap hinj hc
    have hrest := ih hk' hcalls
    rw [Sink.callAll, List.foldl_cons, hcall]
    exact hrest

/-- **What is written is what a preview shows.** The store is a map from
files to bytes, the names have files of their own, and none of these is
there at the start. Then after any calls the two sinks agree, and the next
call is answered alike: it succeeds in both, or is refused for the same
reason in both. -/
theorem files_agree (hmap : store.IsMap file bytes)
    (hinj : Set.InjOn (fun n => file (base.join ⟨n⟩)) names)
    (hfresh : ∀ n ∈ names, bytes s (file (base.join ⟨n⟩)) = none) (calls : List Call)
    (hcalls : ∀ c ∈ calls, c.name ∈ names) :
    Agrees file bytes base names ((Sink.files store base).callAll calls (.empty, s)).1
        ((Sink.files store base).callAll calls (.empty, s)).2 (Sink.memory.callAll calls .empty) ∧
      ∀ c : Call, c.name ∈ names →
        ((Sink.files store base).call c ((Sink.files store base).callAll calls (.empty, s))).1 =
          (Sink.memory.call c (Sink.memory.callAll calls .empty)).1.mapError (Error.below base) := by
  have hk := (kept_start hfresh).callAll hmap hinj calls hcalls
  refine ⟨hk.agrees, fun c hc => ?_⟩
  obtain ⟨handles', s', hcall, -⟩ := hk.call hmap hinj hc
  exact congrArg Prod.fst hcall

end Map

/-- Two files, one of which is still open after it was written again. -/
def sampleCalls : List Call :=
  [.openFile "a" .truncate, .write "a" [0x78], .openFile "b" .append, .closeFile "b", .closeFile "a",
    .write "b" [0x7A], .openFile "a" .append, .write "a" [0x79]]

/-- What they leave on a store of paths alone. -/
def sampleState : Handles (List Path.Component) × (List Path.Component → Option Bytes) :=
  (Sink.files Store.flat ⟨"out"⟩).callAll sampleCalls (.empty, fun _ => none)

/-- The second line of `a` is recorded, and kept back from the file; `b` is
there and empty, and `a` cannot be opened again. -/
theorem agree_sample : ∃ h written, sampleState.1.get? "a" = some h ∧ h.buffer = [0x79, 0x0A] ∧
    sampleState.2 [.name "out", .name "a"] = some written ∧
    (Sink.memory.callAll sampleCalls .empty).content? "a" = some (written ++ h.buffer) ∧
    sampleState.2 [.name "out", .name "b"] = some [] ∧
    ((Sink.files Store.flat ⟨"out"⟩).call (.openFile "a" .truncate) sampleState).1 =
      .error (.sink ⟨"out/a"⟩ .alreadyOpen) := by
  have hinj : Set.InjOn (fun n : String => Path.components (Path.join ⟨"out"⟩ ⟨n⟩)) {"a", "b"} := by
    rintro n (rfl | rfl) m (rfl | rfl) h
    · rfl
    · exact absurd h (by decide)
    · exact absurd h (by decide)
    · rfl
  obtain ⟨hagree, hanswer⟩ := files_agree (s := fun _ => none) Store.isMap_flat hinj (fun _ _ => rfl)
    sampleCalls (by simp [sampleCalls, Call.name])
  have hget : sampleState.1.get? "a" = some ⟨[.name "out", .name "a"], .append, 0, [0x79, 0x0A]⟩ := by
    decide
  obtain ⟨written, hwritten, hcontent⟩ := hagree.opened "a" _ hget
  exact ⟨_, written, hget, rfl, hwritten, hcontent, hagree.closed "b" (Or.inr rfl) (by decide),
    hanswer (.openFile "a" .truncate) (Or.inl rfl)⟩

end Sink

end Tangle
