import Tangle.Proofs.Sink.Agreement
import Mathlib.Data.List.Induction
/-!
# What the sink in memory remembers

The sink in memory is given calls in any order, whatever becomes of each.
What it holds then can be told from the calls that it granted
(`Sink.granted`): which files are open (`Call.Holds`), what is recorded
under a name (`Call.Records`) and in which order the files came
(`Call.arrivals`). A call that is refused leaves no trace, and one about a
file leaves every other file alone.

One more call is granted or not (`granted_concat`), so the induction is on
the calls from the last one back. What a granted call does to its file is
what its effect does (`content?_change`).
-/

namespace Tangle

namespace Sink

namespace Call

/-- The call as an effect. -/
def effect : Call → Effect
  | openFile name mode => .openFile name mode
  | write name text => .write name text
  | closeFile name => .closeFile name

/-- The name that a call opens. -/
def opens? : Call → Option String
  | openFile name _ => some name
  | _ => none

/-- The bytes that a call adds under a name. -/
def adds (name : String) : Call → Bytes
  | write n text => if n = name then text ++ [lineFeed] else []
  | _ => []

/-- **The name is open** after these calls: it was opened, and not closed
since. -/
def Holds (done : List Call) (name : String) : Prop :=
  ∃ before mode after, done = before ++ openFile name mode :: after ∧ closeFile name ∉ after

/-- **What is recorded under a name** after these calls: nothing if it was
never opened, and else what was written since the last opening that
truncates, or since the first one where none does. -/
inductive Records (done : List Call) (name : String) : Option Bytes → Prop
  /-- It was never opened. -/
  | never : (∀ mode, openFile name mode ∉ done) → Records done name none
  /-- It was truncated, and not again. -/
  | truncated {before after : List Call} : done = before ++ openFile name .truncate :: after →
      openFile name .truncate ∉ after → Records done name (some (after.flatMap (adds name)))
  /-- It was opened first here, and never truncated. -/
  | appended {before after : List Call} {mode : WriteMode} :
      done = before ++ openFile name mode :: after → (∀ mode, openFile name mode ∉ before) →
      openFile name .truncate ∉ done → Records done name (some (after.flatMap (adds name)))

/-- The names in the order of their first opening. -/
def arrivals (done : List Call) : List String :=
  (done.filterMap opens?).eraseDups

end Call

variable {σ : Type}

/-- **The calls that are granted**, of calls made in order whatever becomes
of each. -/
def granted (sink : Sink σ) : List Call → σ → List Call
  | [], _ => []
  | c :: calls, s =>
    match sink.call c s with
    | (.ok (), s') => c :: granted sink calls s'
    | (.error _, s') => granted sink calls s'

variable {sink : Sink σ} {s : σ} {calls done : List Call} {c : Call} {name n : String} {mode : WriteMode}
variable {files files' : MemoryFiles} {text : Bytes}

theorem callAll_concat : sink.callAll (calls ++ [c]) s = (sink.call c (sink.callAll calls s)).2 := by
  rw [callAll, List.foldl_append]
  rfl

theorem granted_cons_of_ok {s' : σ} (h : sink.call c s = (.ok (), s')) :
    sink.granted (c :: calls) s = c :: sink.granted calls s' := by
  simp only [granted, h]

theorem granted_cons_of_error {s' : σ} {err : Error} (h : sink.call c s = (.error err, s')) :
    sink.granted (c :: calls) s = sink.granted calls s' := by
  simp only [granted, h]

/-- One more call is granted or not. -/
theorem granted_concat : sink.granted (calls ++ [c]) s = sink.granted calls s ++
    if (sink.call c (sink.callAll calls s)).1 = .ok () then [c] else [] := by
  induction calls generalizing s with
  | nil =>
    rw [List.nil_append, callAll, List.foldl_nil]
    rcases h : sink.call c s with ⟨_ | ⟨⟩, s'⟩
    · rw [granted_cons_of_error h, if_neg (by simp)]
      rfl
    · rw [granted_cons_of_ok h, if_pos rfl]
      rfl
  | cons d calls ih =>
    have hall : sink.callAll (d :: calls) s = sink.callAll calls (sink.call d s).2 := rfl
    rw [List.cons_append, hall]
    rcases h : sink.call d s with ⟨_ | ⟨⟩, s'⟩
    · rw [granted_cons_of_error h, granted_cons_of_error h, ih]
    · rw [granted_cons_of_ok h, granted_cons_of_ok h, ih, List.cons_append]

/-! ## One call of the sink in memory -/

namespace Call

/-- The call is about a file that is open. -/
def needsOpen : Call → Bool
  | openFile _ _ => false
  | _ => true

/-- What the call is refused for. -/
def misuse : Call → Misuse
  | openFile _ _ => .alreadyOpen
  | write _ _ => .writeUnopened
  | closeFile _ => .closeUnopened

/-- What the call does to its file. -/
def change : Call → MemoryFile → MemoryFile
  | openFile _ mode => MemoryFiles.opened mode
  | write _ text => MemoryFiles.extended text
  | closeFile _ => MemoryFiles.closed

end Call

/-- **A call is granted where its file is as it needs it**, and changes that
file alone; else it is refused and changes nothing. -/
theorem memory_call (c : Call) (files : MemoryFiles) : Sink.memory.call c files =
    if files.isOpen c.name = c.needsOpen then (.ok (), files.alter c.name MemoryFiles.fresh c.change)
    else (.error (.sink ⟨c.name⟩ c.misuse), files) := by
  cases c with
  | openFile name mode =>
    cases h : files.isOpen name <;>
      simp [call, Sink.memory, Call.name, Call.needsOpen, Call.change, Call.misuse, h]
  | write name text =>
    cases h : files.isOpen name <;>
      simp [call, Sink.memory, Call.name, Call.needsOpen, Call.change, Call.misuse, h]
  | closeFile name =>
    cases h : files.isOpen name <;>
      simp [call, Sink.memory, Call.name, Call.needsOpen, Call.change, Call.misuse, h]

theorem memory_call_of_granted (h : files.isOpen c.name = c.needsOpen) :
    Sink.memory.call c files = (.ok (), files.alter c.name MemoryFiles.fresh c.change) := by
  rw [memory_call, if_pos h]

theorem memory_call_of_refused (h : files.isOpen c.name ≠ c.needsOpen) :
    Sink.memory.call c files = (.error (.sink ⟨c.name⟩ c.misuse), files) := by
  rw [memory_call, if_neg h]

/-- What is recorded after a call that is granted. -/
theorem content?_change (h : files.isOpen c.name = c.needsOpen) :
    MemoryFiles.content? (files.alter c.name MemoryFiles.fresh c.change) name =
      c.effect.leave name (files.content? name) := by
  cases c with
  | openFile n mode => exact MemoryFiles.content?_opened mode
  | write n text => exact MemoryFiles.content?_extended text
  | closeFile n => exact MemoryFiles.content?_closed h

/-- The names after it. -/
theorem names_change (h : files.isOpen c.name = c.needsOpen) :
    Table.names (files.alter c.name MemoryFiles.fresh c.change) = c.effect.arrive files.names := by
  cases c with
  | openFile n mode => exact Table.names_alter files
  | write n text => exact MemoryFiles.names_alter_of_isOpen h _
  | closeFile n => exact MemoryFiles.names_alter_of_isOpen h _

/-- The file is open after it, unless it closed that. -/
theorem isOpen_change (h : files.isOpen c.name = c.needsOpen) :
    MemoryFiles.isOpen (files.alter c.name MemoryFiles.fresh c.change) c.name = true ↔
      c ≠ .closeFile c.name := by
  rw [Tangler.isOpen_alter_self]
  cases c with
  | openFile n mode => cases mode <;> simp [Call.change, MemoryFiles.opened]
  | write n text =>
    obtain ⟨file, hget, hopen⟩ := (Option.any_eq_true _ _).1 h
    have hself : (files.get? (Call.write n text).name).getD MemoryFiles.fresh = file := by
      rw [hget, Option.getD_some]
    simp [hself, Call.change, MemoryFiles.extended, hopen]
  | closeFile n => simp [Call.change, MemoryFiles.closed, Call.name]

/-! ## What is told by the calls granted -/

namespace Call

/-- After one more call a name is open if that opened it, or did not close
it. -/
theorem holds_concat : Holds (done ++ [c]) name ↔
    (∃ mode, c = openFile name mode) ∨ (Holds done name ∧ c ≠ closeFile name) := by
  constructor
  · rintro ⟨before, mode, after, heq, hno⟩
    rcases List.eq_nil_or_concat after with rfl | ⟨after, last, rfl⟩
    · obtain ⟨-, hlast⟩ := List.append_inj' heq rfl
      exact Or.inl ⟨mode, List.singleton_injective hlast⟩
    · have hsplit : done ++ [c] = (before ++ openFile name mode :: after) ++ [last] :=
        heq.trans (by simp)
      obtain ⟨rfl, hlast⟩ := List.append_inj' hsplit rfl
      obtain rfl := List.singleton_injective hlast
      rw [List.concat_eq_append, List.mem_append, not_or] at hno
      exact Or.inr ⟨⟨before, mode, after, rfl, hno.1⟩, fun h => hno.2 (by simp [h])⟩
  · rintro (⟨mode, rfl⟩ | ⟨⟨before, mode, after, rfl, hno⟩, hc⟩)
    · exact ⟨done, mode, [], rfl, List.not_mem_nil⟩
    · refine ⟨before, mode, after ++ [c], by simp, ?_⟩
      rw [List.mem_append, List.mem_singleton, not_or]
      exact ⟨hno, Ne.symm hc⟩

/-- A name that is open was opened. -/
theorem Holds.opened (h : Holds done name) : ∃ mode, openFile name mode ∈ done := by
  obtain ⟨before, mode, after, rfl, -⟩ := h
  exact ⟨mode, by simp⟩

/-- One more call that does not open a name that never was. -/
theorem Records.never_concat (h : Records done name none) (hc : ∀ mode, c ≠ openFile name mode) :
    Records (done ++ [c]) name none := by
  cases h with
  | never hno =>
    refine .never fun mode hmem => ?_
    rcases List.mem_append.1 hmem with hmem | hmem
    · exact hno mode hmem
    · exact hc mode (List.mem_singleton.1 hmem).symm

/-- One that does not truncate adds its bytes. -/
theorem Records.concat {bytes : Bytes} (h : Records done name (some bytes))
    (hc : c ≠ openFile name .truncate) : Records (done ++ [c]) name (some (bytes ++ c.adds name)) := by
  have hlater : ∀ after : List Call, after.flatMap (adds name) ++ c.adds name =
      (after ++ [c]).flatMap (adds name) := fun after => by
    rw [List.flatMap_append, List.flatMap_singleton]
  cases h with
  | @truncated before after heq hno =>
    rw [hlater]
    have hmore : done ++ [c] = before ++ openFile name .truncate :: (after ++ [c]) := by rw [heq]; simp
    refine .truncated hmore ?_
    rw [List.mem_append, List.mem_singleton, not_or]
    exact ⟨hno, Ne.symm hc⟩
  | @appended before after mode heq hfirst hno =>
    rw [hlater]
    have hmore : done ++ [c] = before ++ openFile name mode :: (after ++ [c]) := by rw [heq]; simp
    refine .appended hmore hfirst ?_
    rw [List.mem_append, List.mem_singleton, not_or]
    exact ⟨hno, Ne.symm hc⟩

/-- The names after one more call. -/
theorem arrivals_concat : arrivals (done ++ [c]) = c.effect.arrive (arrivals done) := by
  have hkept : ∀ d : Call, d.opens? = none → arrivals (done ++ [d]) = arrivals done := fun d hd => by
    rw [arrivals, List.filterMap_append, List.filterMap_cons_none hd, List.filterMap_nil,
      List.append_nil, arrivals]
  cases c with
  | openFile n mode =>
    have hsplit : arrivals (done ++ [openFile n mode]) =
        arrivals done ++ ([n].removeAll (done.filterMap opens?)).eraseDups := by
      rw [arrivals, List.filterMap_append, List.eraseDups_append]
      rfl
    have hadd : ∀ names : List String, ([n].removeAll names).eraseDups = if n ∈ names then [] else [n] := by
      intro names
      by_cases hn : n ∈ names <;> simp [List.removeAll, hn, List.eraseDups_cons]
    have hmem : n ∈ arrivals done ↔ n ∈ done.filterMap opens? := List.mem_eraseDups
    rw [hsplit, hadd, effect, Effect.arrive]
    by_cases hn : n ∈ done.filterMap opens?
    · rw [if_pos hn, if_pos (hmem.2 hn), List.append_nil]
    · rw [if_neg hn, if_neg (mt hmem.1 hn)]
  | write n text => exact hkept _ rfl
  | closeFile n => exact hkept _ rfl

end Call

/-! ## All calls -/

/-- **What the calls granted tell** of the sink in memory. -/
structure Told (done : List Call) (files : MemoryFiles) : Prop where
  isOpen : ∀ name, files.isOpen name = true ↔ Call.Holds done name
  records : ∀ name, Call.Records done name (files.content? name)
  names : files.names = Call.arrivals done

/-- What is recorded after a call that is granted. -/
theorem Told.records_change (h : Told done files) (hc : files.isOpen c.name = c.needsOpen) (name : String) :
    Call.Records (done ++ [c]) name (c.effect.leave name (files.content? name)) := by
  have hrecords := h.records name
  by_cases ht : c = .openFile name .truncate
  · subst ht
    have hleave : (Call.openFile name .truncate).effect.leave name (files.content? name) = some [] :=
      if_pos rfl
    have hnone : [] = ([] : List Call).flatMap (Call.adds name) := rfl
    rw [hleave, hnone]
    exact .truncated rfl List.not_mem_nil
  cases hf : c.effect.fills name with
  | false =>
    -- a call about another file, or one that closes this one
    have hopens : ∀ mode, c ≠ .openFile name mode := fun mode hmode => by
      simp [hmode, Call.effect, Effect.fills] at hf
    have hadds : c.adds name = [] := by
      cases c with
      | write n text => exact if_neg (by simpa [Call.effect, Effect.fills] using hf)
      | openFile n mode => rfl
      | closeFile n => rfl
    rw [Effect.leave_of_not_fills hf]
    cases hbefore : files.content? name with
    | none => exact (hbefore ▸ hrecords).never_concat hopens
    | some bytes =>
      have hmore := (hbefore ▸ hrecords).concat ht
      rwa [hadds, List.append_nil] at hmore
  | true =>
    have hte : c.effect ≠ .openFile name .truncate := fun he => ht (by
      cases c <;> simp_all [Call.effect])
    have hout : c.effect.output name = c.adds name := by cases c <;> rfl
    rw [Effect.leave_of_fills hf hte, hout]
    cases hbefore : files.content? name with
    | some bytes => exact (hbefore ▸ hrecords).concat ht
    | none =>
      -- what was never opened is not open, so it is opened now
      cases hbefore ▸ hrecords with
      | never hno =>
        cases c with
        | openFile n mode =>
          obtain rfl : n = name := by simpa [Call.effect, Effect.fills] using hf
          refine Call.Records.appended (show done ++ [_] = done ++ _ :: [] from rfl) hno fun hmem => ?_
          rcases List.mem_append.1 hmem with hmem | hmem
          · exact hno .truncate hmem
          · exact ht (List.mem_singleton.1 hmem).symm
        | write n text =>
          obtain rfl : n = name := by simpa [Call.effect, Effect.fills] using hf
          obtain ⟨mode, hmem⟩ := ((h.isOpen n).1 hc).opened
          exact absurd hmem (hno mode)
        | closeFile n => cases hf

/-- **A call keeps what is told**, be it granted or not. -/
theorem Told.call (h : Told done files) (c : Call) :
    Told (done ++ if (Sink.memory.call c files).1 = .ok () then [c] else []) (Sink.memory.call c files).2 := by
  by_cases hc : files.isOpen c.name = c.needsOpen
  · rw [memory_call_of_granted hc, if_pos rfl]
    refine ⟨fun name => ?_, fun name => ?_, ?_⟩
    · rw [Call.holds_concat]
      by_cases hn : name = c.name
      · subst hn
        rw [isOpen_change hc, ← h.isOpen]
        cases c with
        | openFile n mode => simp [Call.name]
        | write n text =>
          have hopen : files.isOpen n = true := hc
          simp [Call.name, hopen]
        | closeFile n => simp [Call.name]
      · rw [Tangler.isOpen_alter_of_ne _ hn, h.isOpen]
        have hopens : ¬ ∃ mode, c = .openFile name mode := by
          rintro ⟨mode, rfl⟩
          exact hn rfl
        have hcloses : c ≠ .closeFile name := fun hclose => hn (by rw [hclose]; rfl)
        simp [hopens, hcloses]
    · rw [content?_change hc]
      exact h.records_change hc name
    · rw [names_change hc, h.names, Call.arrivals_concat]
  · rw [memory_call_of_refused hc, if_neg (by simp), List.append_nil]
    exact h

/-- **So do calls in order**, since the sink was empty. -/
theorem told (calls : List Call) : Told (Sink.memory.granted calls .empty) (Sink.memory.callAll calls .empty) := by
  induction calls using List.reverseRecOn with
  | nil =>
    refine ⟨fun name => iff_of_false (fun h => by cases h) ?_,
      fun name => .never fun mode h => (by cases h), rfl⟩
    rintro ⟨before, mode, after, h, -⟩
    exact absurd h (by simp [granted])
  | append_singleton calls c ih =>
    rw [granted_concat, callAll_concat]
    exact ih.call c

/-- **What a history of calls leaves**, and what the sink answers then. -/
structure Remembers (done : List Call) (files : MemoryFiles) : Prop where
  /-- The files that are open. -/
  isOpen : ∀ name, files.isOpen name = true ↔ Call.Holds done name
  /-- A file is opened unless it is open. -/
  openFile : ∀ name mode, (∃ err, (Sink.memory.call (.openFile name mode) files).1 = .error err) ↔
    Call.Holds done name
  /-- One that is not open cannot be written. -/
  write : ∀ name text, (∃ err, (Sink.memory.call (.write name text) files).1 = .error err) ↔
    ¬ Call.Holds done name
  /-- And cannot be closed. -/
  closeFile : ∀ name, (∃ err, (Sink.memory.call (.closeFile name) files).1 = .error err) ↔
    ¬ Call.Holds done name
  /-- A call that is refused leaves everything as it was. -/
  refused : ∀ c err, (Sink.memory.call c files).1 = .error err → (Sink.memory.call c files).2 = files
  /-- What is recorded under each name. -/
  records : ∀ name, Call.Records done name (files.content? name)
  /-- A call changes no file but its own. -/
  others : ∀ c name, name ≠ c.name →
    (Sink.memory.call c files).2.content? name = files.content? name ∧
      (Sink.memory.call c files).2.isOpen name = files.isOpen name
  /-- The names in their order. -/
  names : files.names = Call.arrivals done
  /-- A call loses no name and moves none. -/
  kept : ∀ c, files.names <+: (Sink.memory.call c files).2.names

/-- A call is refused where its file is not as it needs it. -/
theorem memory_refused_iff : (∃ err, (Sink.memory.call c files).1 = .error err) ↔
    files.isOpen c.name ≠ c.needsOpen := by
  by_cases hc : files.isOpen c.name = c.needsOpen
  · rw [memory_call_of_granted hc]
    simp [hc]
  · rw [memory_call_of_refused hc]
    exact iff_of_true ⟨_, rfl⟩ hc

/-- **The sink in memory remembers its history**: after any calls since it
was empty it is told by those that it granted. -/
theorem memory_remembers (calls : List Call) :
    Remembers (Sink.memory.granted calls .empty) (Sink.memory.callAll calls .empty) := by
  have h := told calls
  refine {
    isOpen := h.isOpen
    openFile := fun name mode => ?opens
    write := fun name text => ?writes
    closeFile := fun name => ?closes
    refused := fun c err herr => ?refused
    records := h.records
    others := fun c name hne => ?others
    names := h.names
    kept := fun c => ?kept }
  case opens =>
    rw [memory_refused_iff, ← h.isOpen]
    exact Bool.ne_false_iff
  case writes =>
    rw [memory_refused_iff, ← h.isOpen]
    exact Iff.rfl
  case closes =>
    rw [memory_refused_iff, ← h.isOpen]
    exact Iff.rfl
  case refused =>
    rw [memory_call_of_refused (memory_refused_iff.1 ⟨err, herr⟩)]
  case others =>
    by_cases hc : (Sink.memory.callAll calls .empty).isOpen c.name = c.needsOpen
    · rw [memory_call_of_granted hc, MemoryFiles.content?_alter, if_neg (Ne.symm hne)]
      exact ⟨rfl, Tangler.isOpen_alter_of_ne _ hne⟩
    · rw [memory_call_of_refused hc]
      exact ⟨rfl, rfl⟩
  case kept =>
    by_cases hc : (Sink.memory.callAll calls .empty).isOpen c.name = c.needsOpen
    · rw [memory_call_of_granted hc, names_change hc]
      exact Effect.prefix_arrive
    · simp only [memory_call_of_refused hc, List.prefix_rfl]

/-- A file that was written, truncated and not closed; and a second one. -/
example :
    let calls := [.openFile "b" .append, .write "b" [0x78], .closeFile "b", .openFile "a" .truncate,
      .openFile "b" .truncate, .openFile "b" .append, .write "b" [0x79]]
    (Sink.memory.callAll calls .empty).names = ["b", "a"] ∧
      (Sink.memory.callAll calls .empty).content? "b" = some [0x79, 0x0A] ∧
      (Sink.memory.granted calls .empty).length = 6 := by
  decide

end Sink

end Tangle
