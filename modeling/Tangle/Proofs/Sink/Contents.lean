import Tangle.Proofs.Sink.Memory
/-!
# What effects leave in memory

The sink in memory keeps the bytes of each file and the order in which the
files came. Both can be told from the effects alone: an effect leaves the
bytes under a name as `Effect.leave` says, and a name that is new comes
last when its file is opened (`Effect.arrive`). Effects that are called in
order leave what those that succeeded do, one after another
(`issue_contents`).

Where a file is truncated on the way, what it held before does not matter
(`leaveAll_of_truncated`); where it is not, all that is written comes after
it (`leaveAll_of_not_truncated`). So doing the effects again changes a file
exactly if it is written and never truncated (`leaveAll_again_iff`), and no
effects done again move a name (`arriveAll_again`).
-/

namespace Tangle

namespace Effect

/-- The bytes under a name after an effect, where there were `before`. -/
def leave (name : String) (before : Option Bytes) : Effect → Option Bytes
  | openFile n .truncate => if n = name then some [] else before
  | openFile n .append => if n = name then some (before.getD []) else before
  | write n text => if n = name then some (before.getD [] ++ (text ++ [lineFeed])) else before
  | closeFile _ => before
  | run _ => before

/-- The bytes under a name after effects in order. -/
def leaveAll (name : String) (effects : List Effect) (before : Option Bytes) : Option Bytes :=
  effects.foldl (leave name) before

/-- The names of all files after an effect, in order of arrival. -/
def arrive (names : List String) : Effect → List String
  | openFile n _ => if n ∈ names then names else names ++ [n]
  | _ => names

/-- The names of all files after effects in order. -/
def arriveAll (effects : List Effect) (names : List String) : List String :=
  effects.foldl arrive names

/-- The bytes that an effect writes to the file of a name. -/
def output (name : String) : Effect → Bytes
  | write n text => if n = name then text ++ [lineFeed] else []
  | _ => []

variable {name n : String} {e : Effect} {effects : List Effect} {before : Option Bytes}
variable {names : List String} {mode : WriteMode}

/-! ## Bytes -/

/-- **A file that is truncated** is left the same whatever it held. -/
theorem leaveAll_of_truncated (h : openFile name .truncate ∈ effects) (b b' : Option Bytes) :
    leaveAll name effects b = leaveAll name effects b' := by
  induction effects generalizing b b' with
  | nil => cases h
  | cons e effects ih =>
    rcases List.mem_cons.1 h with rfl | h
    · simp [leaveAll, leave]
    · exact ih h _ _

theorem leave_of_not_fills (h : e.fills name = false) : leave name before e = before := by
  cases e with
  | openFile n mode => cases mode <;> exact if_neg (by simpa [fills] using h)
  | write n text => exact if_neg (by simpa [fills] using h)
  | closeFile n => rfl
  | run block => rfl

theorem output_of_not_fills (h : e.fills name = false) : output name e = [] := by
  cases e with
  | write n text => exact if_neg (by simpa [fills] using h)
  | openFile n mode => rfl
  | closeFile n => rfl
  | run block => rfl

/-- An effect on a file that does not truncate it keeps what is there. -/
theorem leave_of_fills (h : e.fills name = true) (ht : e ≠ openFile name .truncate) :
    leave name before e = some (before.getD [] ++ output name e) := by
  cases e with
  | openFile n mode =>
    obtain rfl : n = name := by simpa [fills] using h
    cases mode with
    | truncate => exact absurd rfl ht
    | append => simp [leave, output]
  | write n text =>
    obtain rfl : n = name := by simpa [fills] using h
    simp [leave, output]
  | closeFile n => cases h
  | run block => cases h

/-- **A file that is not truncated** keeps what it held, and all that is
written comes after it. -/
theorem leaveAll_of_not_truncated (h : openFile name .truncate ∉ effects) (before : Option Bytes) :
    leaveAll name effects before = if effects.any (fills name) then
      some (before.getD [] ++ effects.flatMap (output name)) else before := by
  induction effects generalizing before with
  | nil => rfl
  | cons e effects ih =>
    rw [List.mem_cons, not_or] at h
    have hrest : leaveAll name (e :: effects) before = leaveAll name effects (leave name before e) := rfl
    rw [hrest, ih h.2, List.any_cons, List.flatMap_cons]
    cases hf : e.fills name with
    | false => rw [leave_of_not_fills hf, output_of_not_fills hf, Bool.false_or, List.nil_append]
    | true =>
      rw [leave_of_fills hf (Ne.symm h.1), Bool.true_or, if_pos rfl, Option.getD_some, List.append_assoc]
      split
      · rfl
      · rename_i hany
        have hnone : effects.flatMap (output name) = [] := List.flatMap_eq_nil_iff.2 fun e' he' =>
          output_of_not_fills (by simpa using List.any_eq_false.1 (by simpa using hany) e' he')
        rw [hnone, List.append_nil]

/-- Nothing is written to a file but by a write. -/
theorem flatMap_output_eq_nil_iff :
    effects.flatMap (output name) = [] ↔ ∀ text, write name text ∉ effects := by
  rw [List.flatMap_eq_nil_iff]
  constructor
  · intro h text hmem
    have hout : output name (write name text) = [] := h _ hmem
    simp [output] at hout
  · intro h e he
    cases e with
    | write n text => exact if_neg fun (hn : n = name) => h text (hn ▸ he)
    | openFile n mode => rfl
    | closeFile n => rfl
    | run block => rfl

/-- **Effects done again leave the same bytes** exactly if a file that they
write is truncated among them. -/
theorem leaveAll_again_iff :
    leaveAll name effects (leaveAll name effects before) = leaveAll name effects before ↔
      ∀ text, write name text ∈ effects → openFile name .truncate ∈ effects := by
  by_cases ht : openFile name .truncate ∈ effects
  · exact iff_of_true (leaveAll_of_truncated ht _ _) fun _ _ => ht
  · rw [leaveAll_of_not_truncated ht, leaveAll_of_not_truncated ht]
    have hout : effects.flatMap (output name) = [] ↔
        ∀ text, write name text ∈ effects → openFile name .truncate ∈ effects := by
      simp only [flatMap_output_eq_nil_iff, ht, imp_false]
    rw [← hout]
    split
    · -- what is written stands twice after what was there
      simp
    · rename_i hany
      refine iff_of_true rfl (List.flatMap_eq_nil_iff.2 fun e he => output_of_not_fills ?_)
      simpa using List.any_eq_false.1 (by simpa using hany) e he

/-! ## Names -/

/-- A name that is new comes last. -/
theorem prefix_arrive : names <+: arrive names e := by
  cases e with
  | openFile n mode =>
    rw [arrive]
    split
    · exact List.prefix_rfl
    · exact List.prefix_append _ _
  | write n text => exact List.prefix_rfl
  | closeFile n => exact List.prefix_rfl
  | run block => exact List.prefix_rfl

theorem subset_arrive : names ⊆ arrive names e := prefix_arrive.subset

theorem subset_arriveAll : names ⊆ arriveAll effects names := by
  induction effects generalizing names with
  | nil => exact List.Subset.refl _
  | cons e effects ih => exact List.Subset.trans subset_arrive ih

/-- A file that is opened has a name. -/
theorem mem_arriveAll (h : openFile n mode ∈ effects) : n ∈ arriveAll effects names := by
  induction effects generalizing names with
  | nil => cases h
  | cons e effects ih =>
    rcases List.mem_cons.1 h with rfl | h
    · have harrive : n ∈ arrive names (openFile n mode) := by
        rw [arrive]
        split
        · assumption
        · simp
      have hrest : arrive names (openFile n mode) ⊆
          arriveAll effects (arrive names (openFile n mode)) := subset_arriveAll
      exact hrest harrive
    · exact ih h

/-- Where all names are there, they stay as they are. -/
theorem arriveAll_eq_self (h : ∀ n mode, openFile n mode ∈ effects → n ∈ names) :
    arriveAll effects names = names := by
  induction effects with
  | nil => rfl
  | cons e effects ih =>
    have he : arrive names e = names := by
      cases e with
      | openFile n mode => exact if_pos (h n mode List.mem_cons_self)
      | write n text => rfl
      | closeFile n => rfl
      | run block => rfl
    have hrest : arriveAll (e :: effects) names = arriveAll effects (arrive names e) := rfl
    rw [hrest, he]
    exact ih fun n mode hmem => h n mode (List.mem_cons_of_mem _ hmem)

/-- **Effects done again move no name.** -/
theorem arriveAll_again : arriveAll effects (arriveAll effects names) = arriveAll effects names :=
  arriveAll_eq_self fun _ _ h => mem_arriveAll h

end Effect

namespace MemoryFiles

variable {files : MemoryFiles} {name n : String}

theorem content?_alter (f : MemoryFile → MemoryFile) :
    content? (files.alter n fresh f) name =
      if n = name then some (f ((files.get? n).getD fresh)).content else files.content? name := by
  by_cases h : n = name
  · subst h
    rw [if_pos rfl, content?, Table.get?_alter_self, Option.map_some]
  · rw [if_neg h, content?, Table.get?_alter_of_ne _ (Ne.symm h), content?]

/-- A name that is new has no bytes. -/
theorem content_getD : ((files.get? n).getD fresh).content = (files.content? n).getD [] := by
  rw [content?]
  cases files.get? n <;> rfl

theorem content_extended (text : Bytes) (file : MemoryFile) :
    (extended text file).content = file.content ++ (text ++ [lineFeed]) := by
  rw [extended, MemoryFile.content, List.reverse_cons, List.flatten_append, List.flatten_singleton,
    MemoryFile.content]

/-- What is open has a name, and bytes. -/
theorem exists_of_isOpen (h : files.isOpen n = true) :
    n ∈ files.names ∧ ∃ bytes, files.content? n = some bytes := by
  obtain ⟨file, hget, -⟩ := (Option.any_eq_true _ _).1 h
  exact ⟨Table.mem_names_iff.2 (by rw [hget]; rfl), file.content, by rw [content?, hget]; rfl⟩

/-! ## What a call does to them -/

theorem content?_opened (mode : WriteMode) :
    content? (files.alter n fresh (opened mode)) name =
      Effect.leave name (files.content? name) (.openFile n mode) := by
  rw [content?_alter]
  cases mode with
  | truncate => rfl
  | append =>
    rw [Effect.leave]
    by_cases hn : n = name
    · subst hn
      rw [if_pos rfl, if_pos rfl, ← content_getD]
      rfl
    · rw [if_neg hn, if_neg hn]

theorem content?_extended (text : Bytes) :
    content? (files.alter n fresh (extended text)) name =
      Effect.leave name (files.content? name) (.write n text) := by
  rw [content?_alter, content_extended, content_getD, Effect.leave]
  by_cases hn : n = name
  · rw [if_pos hn, if_pos hn, hn]
  · rw [if_neg hn, if_neg hn]

theorem content?_closed (h : files.isOpen n = true) :
    content? (files.alter n fresh closed) name = files.content? name := by
  obtain ⟨-, bytes, hbytes⟩ := exists_of_isOpen h
  have hkept : (closed ((files.get? n).getD fresh)).content = bytes :=
    content_getD.trans (by rw [hbytes, Option.getD_some])
  rw [content?_alter, hkept]
  split
  · rename_i hn
    rw [← hn, hbytes]
  · rfl

/-- A file that is open keeps its place. -/
theorem names_alter_of_isOpen (h : files.isOpen n = true) (f : MemoryFile → MemoryFile) :
    Table.names (files.alter n fresh f) = files.names := by
  rw [Table.names_alter, if_pos (exists_of_isOpen h).1]

end MemoryFiles

namespace Tangler

open MemoryFiles

variable {ε : Type} (lenient : Bool) (scissors : Scissors) (executor : Executor ε)

/-- **A call leaves what its effect does**, or it fails and leaves the files
as they are. -/
theorem perform_cases (effect : Effect) (files : MemoryFiles) (e : ε) :
    (∃ err e', (inMemory lenient scissors executor).perform effect (files, e) =
        (.error err, files, e')) ∨
      ∃ files' e', (inMemory lenient scissors executor).perform effect (files, e) =
          (.ok (), files', e') ∧
        (∀ name, content? files' name = effect.leave name (files.content? name)) ∧
        files'.names = effect.arrive files.names := by
  cases effect with
  | openFile n mode =>
    cases hopen : files.isOpen n with
    | true => exact Or.inl ⟨_, _, perform_open_twice hopen⟩
    | false => exact Or.inr ⟨_, _, perform_open hopen, fun _ => content?_opened mode,
        Table.names_alter files⟩
  | write n text =>
    cases hopen : files.isOpen n with
    | true => exact Or.inr ⟨_, _, perform_write hopen, fun _ => content?_extended text,
        names_alter_of_isOpen hopen _⟩
    | false => exact Or.inl ⟨_, _, perform_write_unopened hopen⟩
  | closeFile n =>
    cases hopen : files.isOpen n with
    | true => exact Or.inr ⟨_, _, perform_close hopen, fun _ => content?_closed hopen,
        names_alter_of_isOpen hopen _⟩
    | false => exact Or.inl ⟨_, _, perform_close_unopened hopen⟩
  | run block =>
    rcases hrun : (executor.run block e).1 with err | ⟨⟩
    · exact Or.inl ⟨_, _, perform_run_error hrun⟩
    · exact Or.inr ⟨_, _, perform_run hrun, fun _ => rfl, rfl⟩

/-- **Calls in order leave what those that succeeded do.** -/
theorem issue_contents (effects : List Effect) (files : MemoryFiles) (e : ε) :
    (∀ name, content? ((inMemory lenient scissors executor).issue effects (files, e)).state.1 name =
      Effect.leaveAll name ((inMemory lenient scissors executor).issue effects (files, e)).done
        (files.content? name)) ∧
      ((inMemory lenient scissors executor).issue effects (files, e)).state.1.names =
        Effect.arriveAll ((inMemory lenient scissors executor).issue effects (files, e)).done
          files.names := by
  induction effects generalizing files e with
  | nil => exact ⟨fun _ => rfl, rfl⟩
  | cons effect effects ih =>
    rcases perform_cases lenient scissors executor effect files e with
      ⟨err, e', hp⟩ | ⟨files', e', hp, hbytes, hnames⟩
    · rw [issue_cons_of_error hp]
      exact ⟨fun _ => rfl, rfl⟩
    · obtain ⟨hbytes', hnames'⟩ := ih files' e'
      rw [issue_cons_of_ok hp]
      refine ⟨fun name => ?_, ?_⟩
      · exact (hbytes' name).trans (congrArg _ (hbytes name))
      · exact hnames'.trans (congrArg _ hnames)

end Tangler

end Tangle
