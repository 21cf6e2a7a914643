import Tangle.Proofs.Path
/-!
# Walking up a path

The path above another one has all its steps but the last
(`Above`, `above_of_parent?`), and there is none above a path without
steps, unless a dot is dropped first. So the paths above one are found
by walking up until nothing is left (`ancestors_eq`), and no spelling
grows on the way.
-/

namespace Tangle

namespace Path

variable {p q : Path} {s : List Char} {ss ts : List (List Char)}

/-! ## Spellings -/

theorem toList_unsegments (ss : List (List Char)) : (unsegments ss).toList = ['/'].intercalate ss := by
  simp [unsegments, String.toList_intercalate]

/-- Fewer segments are spelled as the beginning of more. -/
theorem unsegments_prefix (h : ss <+: ts) : (unsegments ss).toList <+: (unsegments ts).toList := by
  rw [toList_unsegments, toList_unsegments]
  induction ss generalizing ts with
  | nil => exact List.nil_prefix
  | cons s ss ih =>
    obtain ⟨rest, rfl⟩ := h
    rw [List.cons_append]
    cases ss with
    | nil =>
      cases rest with
      | nil => exact List.prefix_rfl
      | cons t rest =>
        rw [List.nil_append, List.intercalate_cons_cons, List.append_assoc]
        simp
    | cons t ss =>
      rw [List.cons_append, List.intercalate_cons_cons, List.intercalate_cons_cons, List.prefix_append_right_inj]
      exact ih ⟨rest, rfl⟩

/-- A path is spelled as it is taken apart. -/
theorem toList_split (p : Path) : (leadText p.split.1 ++ unsegments p.split.2).toList = p.text.toList := by
  have hsegs : ∀ s, (unsegments (segments s)).toList = s := fun s => by
    rw [toList_unsegments, segments_eq_splitOn, List.intercalate_splitOn]
  rw [String.toList_append]
  rcases split_cases p with ⟨ht, h⟩ | ⟨body, ht, h⟩ | ⟨ht, h⟩ | ⟨body, ht, h⟩ | ⟨s, rest, hs, -, h⟩
  · rw [h, ht]
    rfl
  · rw [h, ht, hsegs]
    simp [leadText]
  · rw [h, ht]
    rfl
  · obtain ⟨first, rest, hfirst⟩ := List.exists_cons_of_ne_nil (segments_ne_nil body)
    have hbody := hsegs body
    rw [toList_unsegments, hfirst] at hbody
    rw [h, ht, toList_unsegments, hfirst, List.intercalate_cons_cons, hbody]
    simp [leadText]
  · rw [h, ← hs, hsegs]
    rfl

/-! ## The path above -/

/-- **`q` is above `p`**: it starts where `p` does, its steps are those of `p`
but for the last, and it is a beginning of its spelling. -/
structure Above (q p : Path) : Prop where
  isAbsolute : q.isAbsolute = p.isAbsolute
  steps : q.steps = p.steps.dropLast
  shorter : q.components.length < p.components.length
  text : q.text.toList <+: p.text.toList

theorem length_components (p : Path) : p.components.length = p.lead.toList.length + p.steps.length := by
  have hsteps := congrArg List.length (map_spell_filterMap fun s => isInsignificant_of_mem_steps (p := p))
  rw [List.length_map] at hsteps
  rw [components_eq, List.length_append, hsteps]

theorem significant_dropLast (h : EndsInStep ss) : significant ss.dropLast = (significant ss).dropLast := by
  obtain ⟨s, hlast, hs⟩ := h
  obtain ⟨front, rfl⟩ := List.getLast?_eq_some_iff.1 hlast
  rw [significant_append, List.dropLast_concat]
  simp [significant, hs]

/-- **Walking up drops the last step**, or the dot that stands alone. -/
theorem above_of_parent? (h : p.parent? = some q) : Above q p := by
  rw [parent?] at h
  simp only at h
  have hsteps : p.steps = significant (trimEnd p.split.2) := by
    rw [significant_trimEnd, significant_split]
  split at h
  · rename_i htrim
    split at h
    · rename_i hlead
      cases h
      have hlead : p.lead = some .current := hlead
      rw [htrim] at hsteps
      refine ⟨?_, by rw [hsteps]; rfl, ?_, List.nil_prefix⟩
      · have habs : p.isAbsolute = false := isAbsolute_eq_false_iff.2 (by rw [hlead]; simp)
        rw [habs]
        rfl
      · rw [length_components p, hlead]
        exact Nat.lt_add_right _ Nat.one_pos
    · cases h
  · rename_i s rest htrim
    cases h
    have hend : EndsInStep (trimEnd p.split.2) := endsInStep_trimEnd (by rw [htrim]; simp)
    have hfront : (s :: rest).dropLast <+: p.split.2 :=
      (List.dropLast_prefix _).trans (htrim ▸ trimEnd_front _)
    obtain ⟨hlead, hkept⟩ := parts_front p hfront
    rw [← htrim, significant_dropLast hend, ← hsteps, htrim] at hkept
    refine ⟨isAbsolute_congr hlead, hkept, ?_, ?_⟩
    · have hne : p.steps ≠ [] := fun hnil => by
        obtain ⟨t, ht, hcounts⟩ := hend.exists_mem
        have hmem := mem_significant.2 ⟨ht, hcounts⟩
        rw [← hsteps, hnil] at hmem
        cases hmem
      rw [length_components, length_components, hlead, hkept, List.length_dropLast]
      have hpos := List.length_pos_iff.2 hne
      omega
    · rw [← toList_split p, String.toList_append, String.toList_append, List.prefix_append_right_inj]
      exact unsegments_prefix ((trimEnd_front _).trans hfront)

/-- Nothing is above a path only if it has no step. -/
theorem steps_of_parent?_eq_none (h : p.parent? = none) : p.steps = [] := by
  rw [parent?] at h
  simp only at h
  split at h
  · rename_i htrim
    rw [← significant_split, ← significant_trimEnd, htrim]
    rfl
  · cases h

/-- A path is no longer than its components allow it to go up. -/
theorem parent?_of_components_eq_nil (h : p.components = []) : p.parent? = none := by
  cases hparent : p.parent? with
  | none => rfl
  | some q =>
    have hshorter := (above_of_parent? hparent).shorter
    rw [h] at hshorter
    cases hshorter

theorem ancestorsUpTo_of_none (h : p.parent? = none) (n : Nat) : ancestorsUpTo n p = [p] := by
  cases n with
  | zero => rfl
  | succ n => rw [ancestorsUpTo, h]

/-- There is always room to walk up as far as possible. -/
theorem ancestorsUpTo_eq {m n : Nat} (hm : p.components.length ≤ m) (hn : p.components.length ≤ n) :
    ancestorsUpTo m p = ancestorsUpTo n p := by
  induction m generalizing n p with
  | zero =>
    have hnone := parent?_of_components_eq_nil (List.length_eq_zero_iff.1 (Nat.le_zero.1 hm))
    rw [ancestorsUpTo_of_none hnone, ancestorsUpTo_of_none hnone]
  | succ m ih =>
    cases hparent : p.parent? with
    | none => rw [ancestorsUpTo_of_none hparent, ancestorsUpTo_of_none hparent]
    | some q =>
      have hshorter := (above_of_parent? hparent).shorter
      obtain ⟨n, rfl⟩ : ∃ k, n = k + 1 := ⟨n - 1, by omega⟩
      rw [ancestorsUpTo, ancestorsUpTo, hparent]
      exact congrArg (p :: ·) (ih (by omega) (by omega))

/-- **The paths above**: the path itself and, one by one, those above it. -/
theorem ancestors_eq (p : Path) : p.ancestors = p :: (p.parent?.map ancestors).getD [] := by
  cases hparent : p.parent? with
  | none => exact ancestorsUpTo_of_none hparent _
  | some q =>
    have hshorter := (above_of_parent? hparent).shorter
    obtain ⟨n, hn⟩ : ∃ k, p.components.length = k + 1 := ⟨p.components.length - 1, by omega⟩
    rw [ancestors, hn, ancestorsUpTo, hparent]
    exact congrArg (p :: ·) (ancestorsUpTo_eq (by omega) (Nat.le_refl _))

end Path

end Tangle
