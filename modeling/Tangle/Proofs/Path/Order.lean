import Tangle.Setting
import Mathlib.Data.List.Basic
/-!
# The order of paths

Paths are ordered by their components, so two of them stand at one place
in the order exactly if their components are the same (`compare_eq_iff`).
A sorted list of paths ascends strictly once its repeats are dropped
(`pairwise_dropRepeats`).
-/

namespace Tangle

namespace Path

namespace Component

/-- The text of a name. -/
def label : Component → String
  | .name s => s
  | _ => ""

/-- Components are compared by kind, and then by their names. -/
theorem compare_eq : Component.compare = compareLex (compareOn rank) (compareOn label) := by
  funext a b
  cases a <;> cases b <;> rfl

instance : Std.TransCmp Component.compare := by
  rw [compare_eq]
  infer_instance

instance : Std.LawfulEqCmp Component.compare where
  eq_of_compare {a b} h := by
    rw [compare_eq, compareLex_eq_eq, compareOn, compareOn, Std.LawfulEqOrd.compare_eq_iff_eq,
      Std.LawfulEqOrd.compare_eq_iff_eq] at h
    cases a <;> cases b <;> simp_all [rank, label]

end Component

theorem compareComponents_eq : compareComponents = List.compareLex Component.compare := by
  funext as bs
  induction as generalizing bs with
  | nil => cases bs <;> rfl
  | cons a as ih =>
    cases bs with
    | nil => rfl
    | cons b bs => rw [compareComponents, List.compareLex_cons_cons, ih]

instance : Std.TransCmp compareComponents := by
  rw [compareComponents_eq]
  infer_instance

instance : Std.LawfulEqCmp compareComponents := by
  rw [compareComponents_eq]
  infer_instance

variable {p q r : Path} {ps : List Path}

instance : Std.TransCmp Path.compare where
  eq_swap {p q} :=
    show compareComponents p.components q.components = (compareComponents q.components p.components).swap from
      Std.OrientedCmp.eq_swap
  isLE_trans {p _ r} hpq hqr :=
    show (compareComponents p.components r.components).isLE from Std.TransCmp.isLE_trans hpq hqr

/-- **One place in the order is one list of components.** -/
theorem compare_eq_iff : p.compare q = .eq ↔ p.components = q.components := by
  rw [Path.compare, Std.LawfulEqCmp.compare_eq_iff_eq]

/-- The place in the order does not depend on the spelling. -/
theorem compare_congr (h : p.components = q.components) : p.compare r = q.compare r := by
  rw [Path.compare, h, Path.compare]

/-- Sorted paths ascend. -/
theorem pairwise_sorted (ps : List Path) :
    (ps.mergeSort fun p q => (p.compare q).isLE).Pairwise fun p q => (p.compare q).isLE = true := by
  refine List.pairwise_mergeSort (fun p q r => Std.TransCmp.isLE_trans) (fun p q => ?_) ps
  have hswap : q.compare p = (p.compare q).swap := Std.OrientedCmp.eq_swap
  rw [hswap, Bool.or_eq_true]
  cases p.compare q <;> simp

end Path

namespace Setting

open Tangle.Path

variable {p q : Path} {ps : List Path}

/-! ## Without repeats -/

theorem mem_of_mem_dropRepeats (h : p ∈ dropRepeats ps) : p ∈ ps := by
  induction ps with
  | nil => cases h
  | cons q ps ih =>
    rw [dropRepeats] at h
    split at h
    · exact List.mem_singleton.1 h ▸ List.mem_cons_self
    · rename_i r rs hdrop
      split at h
      · rcases List.mem_cons.1 h with rfl | h
        · exact List.mem_cons_self
        · exact List.mem_cons_of_mem _ (ih (hdrop ▸ List.mem_cons_of_mem _ h))
      · rcases List.mem_cons.1 h with rfl | h
        · exact List.mem_cons_self
        · exact List.mem_cons_of_mem _ (ih (hdrop ▸ h))

/-- **What ascends, ascends strictly without its repeats.** -/
theorem pairwise_dropRepeats (h : ps.Pairwise fun p q => (p.compare q).isLE = true) :
    (dropRepeats ps).Pairwise fun p q => p.compare q = .lt := by
  induction ps with
  | nil => exact .nil
  | cons p ps ih =>
    obtain ⟨hfirst, hrest⟩ := List.pairwise_cons.1 h
    have hdropped := ih hrest
    rw [dropRepeats]
    split
    · exact List.pairwise_singleton _ _
    · rename_i q qs hdrop
      rw [hdrop] at hdropped
      obtain ⟨hq, hqs⟩ := List.pairwise_cons.1 hdropped
      split
      · rename_i heq
        exact List.pairwise_cons.2 ⟨fun r hr => compare_congr heq ▸ hq r hr, hqs⟩
      · rename_i hne
        have hpq : p.compare q = .lt := by
          have hle := hfirst q (mem_of_mem_dropRepeats (hdrop ▸ List.mem_cons_self))
          cases hcmp : p.compare q with
          | lt => rfl
          | eq => exact absurd (compare_eq_iff.1 hcmp) hne
          | gt => rw [hcmp] at hle; cases hle
        refine List.pairwise_cons.2 ⟨fun r hr => ?_, hdropped⟩
        rcases List.mem_cons.1 hr with rfl | hr
        · exact hpq
        · exact Std.TransCmp.lt_trans hpq (hq r hr)

end Setting

end Tangle
