import Tangle.Disk.Walk
import Tangle.Proofs.Path
/-!
# What a path denotes

Where a path leads depends on its steps alone, as long as it ends in one:
empty segments and dots on the way change nothing (`walk_significant`), so
two spellings of the same steps denote the same (`findEntry_congr`). A path
that ends otherwise asks for a directory (`walk_asDirectory`).

Without links the place is known before the disk is (`walk_place`): each
name goes down and each `..` up (`Node.land`).
-/

namespace Tangle

namespace Node

open Tangle.Path

variable {follow : Nat → Place → String → Except Fault Arrival} {through : Bool} {root : Node} {place cwd : Place}
variable {links : Nat} {s : List Char} {ss rest : List (List Char)} {found : Found} {arrival : Arrival} {p q : Path}

/-! ## One segment -/

/-- A segment that does not count is passed over. -/
theorem walk_of_insignificant (h : isInsignificant s = true) :
    walk follow through root links place (s :: rest) = walk follow through root links place rest := by
  rcases isInsignificant_iff.1 h with rfl | rfl <;> rw [walk]

theorem walk_parent :
    walk follow through root links place (['.', '.'] :: rest) = walk follow through root links place.dropLast rest := by
  rw [walk]

/-- **A name goes down**, where more segments follow and the entry lets
them. -/
theorem walk_name (hs : isInsignificant s = false) (hparent : s ≠ ['.', '.']) (hne : rest ≠ []) :
    walk follow through root links place (s :: rest) =
      if (Utf8.encode s).length > nameLimit then .error .nameTooLong
      else
        match root.get? (place ++ [String.ofList s]) with
        | some (.directory _ _) => walk follow through root links (place ++ [String.ofList s]) rest
        | some (.link target) =>
          (follow links place target).bind fun found =>
            match found.node with
            | some (.directory _ _) => walk follow through root found.links found.place rest
            | some _ => .error .notADirectory
            | none => .error .notFound
        | node =>
          if rest.all List.isEmpty then .ok ⟨⟨place ++ [String.ofList s], node, true⟩, links⟩
          else .error (if node.isSome then .notADirectory else .notFound) := by
  obtain ⟨hnil, hdot⟩ := isInsignificant_eq_false_iff.1 hs
  obtain ⟨t, rest, rfl⟩ := List.exists_cons_of_ne_nil hne
  rw [walk]
  · split
    · rfl
    · dsimp only
      cases root.get? (place ++ [String.ofList s]) with
      | none => rfl
      | some node => cases node <;> rfl
  · exact fun h => hnil h
  · exact fun h => hdot h
  · exact fun h => hparent h

/-- At the end a name denotes its entry, or what the link there leads to. -/
theorem walk_last (hs : isInsignificant s = false) (hparent : s ≠ ['.', '.']) :
    walk follow through root links place [s] =
      if (Utf8.encode s).length > nameLimit then .error .nameTooLong
      else
        match root.get? (place ++ [String.ofList s]) with
        | some (.link target) =>
          if through then follow links place target
          else .ok ⟨⟨place ++ [String.ofList s], some (.link target), false⟩, links⟩
        | node => .ok ⟨⟨place ++ [String.ofList s], node, false⟩, links⟩ := by
  obtain ⟨hnil, hdot⟩ := isInsignificant_eq_false_iff.1 hs
  rw [walk]
  · split
    · rfl
    · dsimp only
      cases root.get? (place ++ [String.ofList s]) with
      | none => rfl
      | some node => cases node <;> rfl
  · exact fun h => hnil h
  · exact fun h => hdot h
  · exact fun h => hparent h

/-! ## The steps decide -/

theorem endsInStep_of_cons (h : EndsInStep (s :: ss)) (hne : ss ≠ []) : EndsInStep ss :=
  (endsInStep_cons hne).1 h

/-- Segments that end in a step are not all empty, and neither are the
steps. -/
theorem steps_of_endsInStep (h : EndsInStep ss) : significant ss ≠ [] ∧
    ss.all List.isEmpty = false ∧ (significant ss).all List.isEmpty = false := by
  obtain ⟨s, hmem, hs⟩ := h.exists_mem
  have hsig : s ∈ significant ss := mem_significant.2 ⟨hmem, hs⟩
  have hempty : s.isEmpty = false := by
    cases s with
    | nil => cases hs
    | cons c s => rfl
  exact ⟨List.ne_nil_of_mem hsig, List.all_eq_false.2 ⟨s, hmem, by simp [hempty]⟩,
    List.all_eq_false.2 ⟨s, hsig, by simp [hempty]⟩⟩

/-- **What does not count on the way changes nothing.** -/
theorem walk_significant (h : EndsInStep ss) :
    walk follow through root links place ss = walk follow through root links place (significant ss) := by
  induction ss generalizing links place with
  | nil =>
    obtain ⟨s, hs, -⟩ := h
    cases hs
  | cons s ss ih =>
    cases hs : isInsignificant s with
    | true =>
      have hne : ss ≠ [] := fun hnil => by
        rw [hnil, endsInStep_singleton, hs] at h
        cases h
      rw [walk_of_insignificant hs, ih (endsInStep_of_cons h hne), significant.eq_def (s :: ss),
        List.filter_cons_of_neg (by simp [hs]), significant]
    | false =>
      have hsig : significant (s :: ss) = s :: significant ss :=
        List.filter_cons_of_pos (by simp [hs])
      rw [hsig]
      by_cases hne : ss = []
      · rw [hne]
        rfl
      have hend := endsInStep_of_cons h hne
      by_cases hparent : s = ['.', '.']
      · rw [hparent, walk_parent, walk_parent, ih hend]
      · obtain ⟨hsne, hall, hsall⟩ := steps_of_endsInStep hend
        rw [walk_name hs hparent hne, walk_name hs hparent hsne, hall, hsall, ih hend]
        simp only [ih hend]

/-- **Otherwise a directory is asked for.** -/
theorem walk_asDirectory (h : ¬ EndsInStep ss) (hok : walk follow through root links place ss = .ok arrival) :
    arrival.asDirectory = true := by
  induction ss generalizing links place with
  | nil =>
    cases hok
    rfl
  | cons s ss ih =>
    have hrest : ¬ EndsInStep ss := fun hend => h ((endsInStep_cons (fun hnil => by
      obtain ⟨t, ht, -⟩ := hend
      rw [hnil] at ht
      cases ht)).2 hend)
    cases hs : isInsignificant s with
    | true =>
      rw [walk_of_insignificant hs] at hok
      exact ih hrest hok
    | false =>
      have hne : ss ≠ [] := fun hnil => h (by rw [hnil, endsInStep_singleton, hs])
      by_cases hparent : s = ['.', '.']
      · rw [hparent, walk_parent] at hok
        exact ih hrest hok
      · rw [walk_name hs hparent hne] at hok
        split at hok
        · cases hok
        split at hok
        · exact ih hrest hok
        · rename_i target _
          cases hf : follow links place target with
          | error fault =>
            rw [hf] at hok
            cases hok
          | ok found' =>
            rw [hf] at hok
            simp only [Except.bind] at hok
            split at hok
            · exact ih hrest hok
            · cases hok
            · cases hok
        · split at hok
          · cases hok
            rfl
          · cases hok

/-! ## Two spellings -/

/-- **Two spellings denote the same** if their steps and their starts are
the same, both end in a step, and neither is too long. -/
theorem findEntry_congr (habs : p.isAbsolute = q.isAbsolute) (hsteps : p.steps = q.steps)
    (hp : EndsInStep (segments p.text.toList)) (hq : EndsInStep (segments q.text.toList))
    (hplen : (Utf8.encode p.text.toList).length ≤ pathLimit)
    (hqlen : (Utf8.encode q.text.toList).length ≤ pathLimit) :
    root.findEntry through cwd p = root.findEntry through cwd q := by
  have hempty : ∀ r : Path, EndsInStep (segments r.text.toList) → r.text.toList.isEmpty = false := by
    intro r hr
    cases htext : r.text.toList with
    | nil =>
      rw [htext, segments, endsInStep_singleton] at hr
      cases hr
    | cons c text => rfl
  have hnul : p.text.toList.contains '\x00' = q.text.toList.contains '\x00' := by
    rw [Bool.eq_iff_iff, List.contains_iff_mem, List.contains_iff_mem, mem_text_iff (by decide) (by decide),
      mem_text_iff (by decide) (by decide), hsteps]
  have hwalk : significant (segments p.text.toList) = significant (segments q.text.toList) := hsteps
  rw [findEntry, findEntry]
  simp only [hnul, hempty p hp, hempty q hq, habs]
  rw [if_neg (Nat.not_lt.2 hplen), if_neg (Nat.not_lt.2 hqlen), walk_significant hp, walk_significant hq,
    hwalk]

/-! ## Files and directories -/

theorem findEntry_of_ok (h : root.findEntry through cwd p = .ok found) :
    (Utf8.encode p.text.toList).length ≤ pathLimit ∧ p.text ≠ "" ∧
      ∃ arrival, arrival.toFound = found ∧ walk (root.follow linkLimit) through root 0
        (if p.isAbsolute then [] else cwd) (segments p.text.toList) = .ok arrival := by
  rw [findEntry] at h
  dsimp only at h
  split at h
  · cases h
  split at h
  · cases h
  split at h
  · cases h
  rename_i hempty hlen
  refine ⟨Nat.not_lt.1 hlen, fun htext => hempty (by rw [htext]; rfl), ?_⟩
  split at h
  · cases hwalk : walk (root.follow linkLimit) through root 0 (if p.isAbsolute then [] else cwd)
      (segments p.text.toList) with
    | error fault =>
      rw [hwalk] at h
      cases h
    | ok arrival =>
      rw [hwalk] at h
      cases h
      exact ⟨arrival, rfl, rfl⟩
  · cases h

/-- What is denoted is there, and it is a directory if one is asked for. -/
theorem lookup_eq_ok_iff {node : Node} : root.lookup cwd p = .ok node ↔
    ∃ found, root.find cwd p = .ok found ∧ found.node = some node ∧
      (found.asDirectory = true → node.isDirectory = true) := by
  rw [lookup]
  cases hfind : root.find cwd p with
  | error fault => simp
  | ok found =>
    simp only [Except.ok.injEq, exists_eq_left', Found.existing]
    cases found.node with
    | none => simp
    | some n =>
      dsimp only
      split
      · rename_i hdir
        rw [Bool.and_eq_true, Bool.not_eq_true'] at hdir
        refine iff_of_false (by simp) fun ⟨heq, himp⟩ => ?_
        cases heq
        rw [himp hdir.1] at hdir
        cases hdir.2
      · rename_i hdir
        rw [Bool.and_eq_true, Bool.not_eq_true', not_and, Bool.not_eq_false] at hdir
        rw [Except.ok.injEq, Option.some.injEq]
        exact ⟨fun h => ⟨h, h ▸ hdir⟩, And.left⟩

/-- A regular file is no directory. -/
theorem isDirectory_of_isFile {node : Node} (h : node.isFile = true) : node.isDirectory = false := by
  cases node <;> first | rfl | cases h

theorem isFileAt_iff : root.isFileAt cwd p = true ↔ ∃ found node, root.find cwd p = .ok found ∧
    found.node = some node ∧ node.isFile = true ∧ found.asDirectory = false := by
  rw [isFileAt]
  constructor
  · intro h
    split at h
    · rename_i node hlookup
      obtain ⟨found, hfind, hnode, hdir⟩ := lookup_eq_ok_iff.1 hlookup
      refine ⟨found, node, hfind, hnode, h, ?_⟩
      rw [← Bool.not_eq_true]
      intro has
      rw [isDirectory_of_isFile h] at hdir
      cases hdir has
    · cases h
  · rintro ⟨found, node, hfind, hnode, hfile, has⟩
    rw [lookup_eq_ok_iff.2 ⟨found, hfind, hnode, fun h => by rw [has] at h; cases h⟩]
    exact hfile

/-- A file is denoted by a path that ends in a step. -/
theorem endsInStep_of_isFileAt (h : root.isFileAt cwd p = true) : EndsInStep (segments p.text.toList) := by
  by_contra hend
  obtain ⟨found, -, hfind, -, -, has⟩ := isFileAt_iff.1 h
  obtain ⟨-, -, arrival, rfl, hwalk⟩ := findEntry_of_ok hfind
  rw [walk_asDirectory hend hwalk] at has
  cases has

/-- A file can be read. -/
theorem readAt_of_isFileAt (h : root.isFileAt cwd p = true) : ∃ content, root.readAt cwd p = .ok content := by
  obtain ⟨found, node, hfind, hnode, hfile, has⟩ := isFileAt_iff.1 h
  rw [readAt, lookup_eq_ok_iff.2 ⟨found, hfind, hnode, fun h => by rw [has] at h; cases h⟩]
  cases node with
  | file content a => exact ⟨content, rfl⟩
  | program name => exact ⟨[], rfl⟩
  | directory es a => cases hfile
  | link target => cases hfile
  | device d => cases hfile

/-! ## Without links -/

/-- There is no link on the disk. -/
def LinkFree (root : Node) : Prop := ∀ place target, root.get? place ≠ some (.link target)

theorem family_subset {es : List (String × Node)} {name : String} {child : Node}
    (h : (name, child) ∈ es) : child.family ⊆ (descendantsIn es).map Prod.snd := by
  induction es with
  | nil => cases h
  | cons entry es ih =>
    obtain ⟨key, node⟩ := entry
    rw [descendantsIn, List.map_append, List.map_cons, List.map_map]
    rcases List.mem_cons.1 h with heq | h
    · cases heq
      intro n hn
      exact List.mem_append_left _ (by simpa [family] using hn)
    · exact List.subset_append_of_subset_right _ (ih h)

/-- What is at a place is in the family. -/
theorem mem_family_of_get? {n : Node} (h : root.get? place = some n) : n ∈ root.family := by
  induction place generalizing root with
  | nil =>
    cases h
    exact List.mem_cons_self
  | cons name rest ih =>
    rw [get?] at h
    cases hlookup : root.entries.lookup name with
    | none =>
      rw [hlookup] at h
      cases h
    | some child =>
      rw [hlookup] at h
      cases root with
      | directory es a =>
        obtain ⟨front, back, hes, -⟩ := List.lookup_eq_some_iff.1 hlookup
        have hmem : (name, child) ∈ es := by
          have hes' : es = front ++ (name, child) :: back := hes
          simp [hes']
        exact List.mem_cons_of_mem _ (family_subset hmem (ih h))
      | file content a => cases hlookup
      | link target => cases hlookup
      | device d => cases hlookup
      | program n => cases hlookup

/-- A disk without links can be told by looking through it. -/
theorem linkFree_of_family (h : root.family.all (fun n => !n.isLink) = true) : root.LinkFree := by
  intro place target hget
  have hlink := List.all_eq_true.1 h _ (mem_family_of_get? hget)
  cases hlink

/-- Where a segment leads from a place. -/
def land (place : Place) (s : List Char) : Place :=
  match component? s with
  | some (.name n) => place ++ [n]
  | some .parent => place.dropLast
  | _ => place

theorem land_of_insignificant (h : isInsignificant s = true) : land place s = place := by
  rcases isInsignificant_iff.1 h with rfl | rfl <;> rfl

theorem land_name (hs : isInsignificant s = false) (hparent : s ≠ ['.', '.']) :
    land place s = place ++ [String.ofList s] := by
  rw [land, component?_of_name hs hparent]

/-- Only the steps lead anywhere. -/
theorem foldl_land_significant (ss : List (List Char)) (place : Place) :
    (significant ss).foldl land place = ss.foldl land place := by
  induction ss generalizing place with
  | nil => rfl
  | cons s ss ih =>
    cases hs : isInsignificant s with
    | true =>
      rw [significant, List.filter_cons_of_neg (by simp [hs]), List.foldl_cons, land_of_insignificant hs]
      exact ih place
    | false =>
      rw [significant, List.filter_cons_of_pos (by simp [hs]), List.foldl_cons, List.foldl_cons]
      exact ih _

theorem foldl_land_of_empty (h : ss.all List.isEmpty = true) : ss.foldl land place = place := by
  induction ss with
  | nil => rfl
  | cons s ss ih =>
    rw [List.all_cons, Bool.and_eq_true, List.isEmpty_iff] at h
    rw [List.foldl_cons, land_of_insignificant (isInsignificant_iff.2 (Or.inl h.1)), ih h.2]

/-- Names go down. -/
theorem foldl_land_names (h : ∀ s ∈ ss, isInsignificant s = false ∧ s ≠ ['.', '.']) (place : Place) :
    ss.foldl land place = place ++ ss.map String.ofList := by
  induction ss generalizing place with
  | nil => simp
  | cons s ss ih =>
    obtain ⟨hs, hparent⟩ := h s List.mem_cons_self
    rw [List.foldl_cons, land_name hs hparent, ih fun t ht => h t (List.mem_cons_of_mem _ ht), List.map_cons,
      List.append_assoc, List.singleton_append]

/-- **Without links the place is where the segments lead.** -/
theorem walk_place (hfree : root.LinkFree) (h : walk follow through root links place ss = .ok arrival) :
    arrival.place = ss.foldl land place ∧ arrival.node = root.get? arrival.place := by
  induction ss generalizing place with
  | nil =>
    cases h
    exact ⟨rfl, rfl⟩
  | cons s ss ih =>
    rw [List.foldl_cons]
    cases hs : isInsignificant s with
    | true =>
      rw [walk_of_insignificant hs] at h
      rw [land_of_insignificant hs]
      exact ih h
    | false =>
      by_cases hparent : s = ['.', '.']
      · rw [hparent, walk_parent] at h
        rw [hparent]
        exact ih h
      rw [land_name hs hparent]
      by_cases hne : ss = []
      · rw [hne, walk_last hs hparent] at h
        split at h
        · cases h
        split at h
        · exact absurd ‹_› (hfree _ _)
        · cases h
          rw [hne]
          exact ⟨rfl, rfl⟩
      rw [walk_name hs hparent hne] at h
      split at h
      · cases h
      split at h
      · exact ih h
      · exact absurd ‹_› (hfree _ _)
      · split at h
        · rename_i hempty
          cases h
          rw [foldl_land_of_empty hempty]
          exact ⟨rfl, rfl⟩
        · cases h

/-- Where a path leads, seen from a directory. -/
def landing (cwd : Place) (p : Path) : Place :=
  p.steps.foldl land (if p.isAbsolute then [] else cwd)

theorem find_place (hfree : root.LinkFree) (h : root.find cwd p = .ok found) :
    found.place = landing cwd p ∧ found.node = root.get? (landing cwd p) := by
  obtain ⟨-, -, arrival, rfl, hwalk⟩ := findEntry_of_ok h
  obtain ⟨hplace, hnode⟩ := walk_place hfree hwalk
  rw [← foldl_land_significant] at hplace
  exact ⟨hplace, hnode.trans (congrArg _ hplace)⟩

/-- **A directory is no file**, however it is spelled. -/
theorem isFileAt_eq_false_of_directory (hfree : root.LinkFree) (habs : p.isAbsolute = q.isAbsolute)
    (hsteps : p.steps = q.steps) (h : root.isDirectoryAt cwd p = true) : root.isFileAt cwd q = false := by
  rw [← Bool.not_eq_true]
  intro hfile
  obtain ⟨found, node, hfind, hnode, hfile, -⟩ := isFileAt_iff.1 hfile
  rw [isDirectoryAt] at h
  split at h
  · rename_i node' hlookup
    obtain ⟨found', hfind', hnode', -⟩ := lookup_eq_ok_iff.1 hlookup
    have hsame : landing cwd p = landing cwd q := by rw [landing, landing, habs, hsteps]
    rw [(find_place hfree hfind').2, hsame, ← (find_place hfree hfind).2, hnode] at hnode'
    cases hnode'
    rw [isDirectory_of_isFile hfile] at h
    cases h
  · cases h

end Node

end Tangle
