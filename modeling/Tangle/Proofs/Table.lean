import Tangle.Table
import Mathlib.Data.List.Basic
/-!
# Looking up in an altered table

`alter` changes what is found under one name, and nothing else. The names
stay where they are, and one that is new comes last.
-/

namespace Tangle

namespace Table

variable {α : Type} {name other : String} {fresh : α} {f : α → α}

theorem lookup_cons_eq (key : String) (value : α) (rest : List (String × α)) :
    ((key, value) :: rest).lookup other = if other = key then some value else rest.lookup other := by
  rw [List.lookup_cons]
  by_cases h : other = key
  · rw [beq_iff_eq.2 h, if_pos h]
  · rw [beq_false_of_ne h, if_neg h]

theorem lookup_alterEntries (entries : List (String × α)) :
    (alterEntries name fresh f entries).lookup other =
      if other = name then some (f ((entries.lookup name).getD fresh)) else entries.lookup other := by
  induction entries with
  | nil => exact lookup_cons_eq name (f fresh) []
  | cons entry rest ih =>
    obtain ⟨key, value⟩ := entry
    rw [alterEntries]
    by_cases hkey : key = name
    · subst hkey
      rw [if_pos rfl, lookup_cons_eq, lookup_cons_eq, lookup_cons_eq, if_pos rfl]
      by_cases h : other = key
      · rw [if_pos h, if_pos h, Option.getD_some]
      · rw [if_neg h, if_neg h, if_neg h]
    · rw [if_neg hkey, lookup_cons_eq, ih, lookup_cons_eq, lookup_cons_eq, if_neg (Ne.symm hkey)]
      by_cases h : other = name
      · rw [if_pos h, if_pos h, if_neg (h ▸ Ne.symm hkey)]
      · rw [if_neg h, if_neg h]

/-- **Under the name altered, the value is changed**, from the fresh one if
there was none. -/
@[simp] theorem get?_alter_self (t : Table α) :
    (t.alter name fresh f).get? name = some (f ((t.get? name).getD fresh)) := by
  rw [get?, alter, lookup_alterEntries, if_pos rfl, get?]

/-- **Under another name, it is not.** -/
theorem get?_alter_of_ne (t : Table α) (h : other ≠ name) :
    (t.alter name fresh f).get? other = t.get? other := by
  rw [get?, alter, lookup_alterEntries, if_neg h, get?]

/-- A name that is new is found under its value, and no other under another. -/
theorem get?_concat {value : α} {t : Table α} (h : t.get? name = none) :
    (⟨t.entries ++ [(name, value)]⟩ : Table α).get? other =
      if other = name then some value else t.get? other := by
  rw [get?] at h
  rw [get?, List.lookup_append, lookup_cons_eq, List.lookup_nil, get?]
  by_cases ho : other = name
  · rw [if_pos ho, if_pos ho, ho, h, Option.none_or]
  · rw [if_neg ho, if_neg ho, Option.or_none]

/-- A name that is taken out is not found, and every other as before. -/
theorem get?_erase (t : Table α) :
    (t.erase name).get? other = if other = name then none else t.get? other := by
  rw [get?, erase, get?]
  induction t.entries with
  | nil => simp
  | cons entry rest ih =>
    obtain ⟨key, value⟩ := entry
    rw [List.filter_cons, lookup_cons_eq]
    by_cases hkey : key = name
    · rw [if_neg (by simp [hkey]), ih]
      by_cases ho : other = name
      · rw [if_pos ho, if_pos ho]
      · rw [if_neg ho, if_neg ho, if_neg (hkey ▸ ho)]
    · rw [if_pos (by simp [hkey]), lookup_cons_eq, ih]
      by_cases ho : other = name
      · rw [if_pos ho, if_pos ho, if_neg (fun h => hkey (h.symm.trans ho))]
      · rw [if_neg ho, if_neg ho]

/-- A name has a value under it. -/
theorem mem_names_iff {t : Table α} : name ∈ t.names ↔ (t.get? name).isSome = true := by
  rw [names, get?]
  induction t.entries with
  | nil => simp
  | cons entry rest ih =>
    obtain ⟨key, value⟩ := entry
    rw [List.map_cons, List.mem_cons, ih, lookup_cons_eq]
    by_cases h : name = key
    · simp [h]
    · simp [h]

/-- **No name moves.** -/
theorem names_alter (t : Table α) :
    (t.alter name fresh f).names = if name ∈ t.names then t.names else t.names ++ [name] := by
  rw [names, alter, names]
  induction t.entries with
  | nil => rfl
  | cons entry rest ih =>
    obtain ⟨key, value⟩ := entry
    rw [alterEntries]
    by_cases h : key = name
    · simp [h]
    · rw [if_neg h, List.map_cons, ih]
      by_cases hrest : name ∈ rest.map Prod.fst
      · simp [hrest]
      · simp [hrest, Ne.symm h]

end Table

end Tangle
