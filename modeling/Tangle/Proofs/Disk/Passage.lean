import Tangle.Proofs.Disk.Walk
/-!
# Passing through directories

A walk that ends in a directory has passed through directories only
(`passes_of_walk`), and where it passed, it passes again: a name behind the
same steps, or behind fewer of them, is looked up where they lead
(`walk_of_passes`, `find_join`).
-/

namespace Tangle

namespace Node

open Tangle.Path

variable {follow : Nat → Place → String → Except Fault Arrival} {through : Bool} {root : Node} {place cwd : Place}
variable {links : Nat} {s : List Char} {ss ts : List (List Char)} {arrival : Arrival} {p q : Path} {name : String}

/-- A directory is at the place. -/
def holdsDirectory (root : Node) (place : Place) : Bool := (root.get? place).any isDirectory

/-- A regular file is at the place. -/
def holdsFile (root : Node) (place : Place) : Bool := (root.get? place).any isFile

/-- **The steps pass**: each name on the way is that of a directory, and not
too long. -/
def Passes (root : Node) : Place → List (List Char) → Prop
  | _, [] => True
  | place, s :: ss =>
    (∀ name, component? s = some (.name name) →
      (Utf8.encode s).length ≤ nameLimit ∧ root.holdsDirectory (place ++ [name]) = true) ∧
    Passes root (land place s) ss

/-! ## Parts of a way -/

theorem passes_append : Passes root place (ss ++ ts) ↔
    Passes root place ss ∧ Passes root (ss.foldl land place) ts := by
  induction ss generalizing place with
  | nil => simp [Passes]
  | cons s ss ih => rw [List.cons_append, Passes, Passes, ih, List.foldl_cons, and_assoc]

theorem passes_cons_of_insignificant (h : isInsignificant s = true) :
    Passes root place (s :: ss) ↔ Passes root place ss := by
  rw [Passes, land_of_insignificant h, and_iff_right]
  intro name hname
  rw [isInsignificant, hname] at h
  cases h

theorem passes_parent : Passes root place (['.', '.'] :: ss) ↔ Passes root place.dropLast ss := by
  have hland : land place ['.', '.'] = place.dropLast := rfl
  rw [Passes, hland, and_iff_right]
  intro name hname
  cases hname

theorem passes_name (hs : isInsignificant s = false) (hparent : s ≠ ['.', '.']) :
    Passes root place (s :: ss) ↔ ((Utf8.encode s).length ≤ nameLimit ∧
      root.holdsDirectory (place ++ [String.ofList s]) = true) ∧ Passes root (place ++ [String.ofList s]) ss := by
  rw [Passes, land_name hs hparent, component?_of_name hs hparent]
  simp

/-- Only the steps have to pass. -/
theorem passes_significant : Passes root place (significant ss) ↔ Passes root place ss := by
  induction ss generalizing place with
  | nil => rfl
  | cons s ss ih =>
    cases hs : isInsignificant s with
    | true =>
      rw [passes_cons_of_insignificant hs, ← ih, significant.eq_def (s :: ss), List.filter_cons_of_neg (by simp [hs]),
        significant]
    | false =>
      have hsig : significant (s :: ss) = s :: significant ss := List.filter_cons_of_pos (by simp [hs])
      rw [hsig, Passes, Passes, ih]

/-! ## Walks -/

theorem holdsDirectory_iff : root.holdsDirectory place = true ↔ ∃ es a, root.get? place = some (.directory es a) := by
  rw [holdsDirectory]
  cases root.get? place with
  | none => simp
  | some node => cases node <;> simp [isDirectory]

/-- **A walk to a directory passes.** -/
theorem passes_of_walk (hfree : root.LinkFree) (h : walk follow through root links place ss = .ok arrival)
    (hdir : root.holdsDirectory arrival.place = true) : Passes root place ss := by
  obtain ⟨es, a, hnode⟩ := holdsDirectory_iff.1 hdir
  rw [(walk_place hfree h).1] at hnode
  induction ss generalizing place with
  | nil => trivial
  | cons s ss ih =>
    rw [List.foldl_cons] at hnode
    cases hs : isInsignificant s with
    | true =>
      rw [walk_of_insignificant hs] at h
      rw [land_of_insignificant hs] at hnode
      exact (passes_cons_of_insignificant hs).2 (ih h hnode)
    | false =>
      by_cases hparent : s = ['.', '.']
      · subst hparent
        rw [walk_parent] at h
        exact passes_parent.2 (ih h hnode)
      rw [land_name hs hparent] at hnode
      rw [passes_name hs hparent]
      by_cases hne : ss = []
      · subst hne
        rw [walk_last hs hparent] at h
        split at h
        · cases h
        · exact ⟨⟨Nat.not_lt.1 ‹_›, holdsDirectory_iff.2 ⟨es, a, hnode⟩⟩, trivial⟩
      rw [walk_name hs hparent hne] at h
      split at h
      · cases h
      rename_i hlen
      split at h
      · rename_i hentry
        exact ⟨⟨Nat.not_lt.1 hlen, holdsDirectory_iff.2 ⟨_, _, hentry⟩⟩, ih h hnode⟩
      · exact absurd ‹_› (hfree _ _)
      · rename_i hentry _
        split at h
        · -- what follows is empty, so this is the entry that the walk ends at
          rename_i hempty
          rw [foldl_land_of_empty hempty] at hnode
          exact absurd hnode (hentry _ _)
        · cases h

/-- **Where steps pass, the walk goes on** from where they lead. -/
theorem walk_of_passes (h : Passes root place ss) (hne : ts ≠ []) :
    walk follow through root links place (ss ++ ts) = walk follow through root links (ss.foldl land place) ts := by
  induction ss generalizing place with
  | nil => rfl
  | cons t ss ih =>
    rw [List.cons_append, List.foldl_cons]
    cases ht : isInsignificant t with
    | true =>
      rw [walk_of_insignificant ht, land_of_insignificant ht, ih ((passes_cons_of_insignificant ht).1 h)]
    | false =>
      by_cases hparent : t = ['.', '.']
      · subst hparent
        rw [walk_parent, ih (passes_parent.1 h)]
        rfl
      obtain ⟨⟨hlen, hdir⟩, hrest⟩ := (passes_name ht hparent).1 h
      obtain ⟨es, a, hentry⟩ := holdsDirectory_iff.1 hdir
      rw [walk_name ht hparent (List.append_ne_nil_of_right_ne_nil ss hne), if_neg (Nat.not_lt.2 hlen), hentry,
        land_name ht hparent]
      exact ih hrest

/-! ## Directories that are entered -/

/-- Where a path starts from. -/
def origin (cwd : Place) (p : Path) : Place := if p.isAbsolute then [] else cwd

theorem landing_eq (cwd : Place) (p : Path) : landing cwd p = p.steps.foldl land (origin cwd p) := rfl

/-- **A path leads through directories**, or is empty: so the entries behind
it can be looked up. -/
structure Enters (root : Node) (cwd : Place) (p : Path) : Prop where
  start : root.holdsDirectory (origin cwd p) = true
  passes : Passes root (origin cwd p) p.steps
  clean : '\x00' ∉ p.text.toList

theorem find_of_isDirectoryAt (h : root.isDirectoryAt cwd p = true) :
    ∃ found, root.find cwd p = .ok found ∧ found.node.any isDirectory = true := by
  rw [isDirectoryAt] at h
  split at h
  · rename_i node hlookup
    obtain ⟨found, hfind, hnode, -⟩ := lookup_eq_ok_iff.1 hlookup
    exact ⟨found, hfind, by rw [hnode]; exact h⟩
  · cases h

/-- A directory is entered. -/
theorem enters_of_isDirectoryAt (hfree : root.LinkFree) (h : root.isDirectoryAt cwd p = true) : Enters root cwd p := by
  obtain ⟨found, hfind, hnode⟩ := find_of_isDirectoryAt h
  have hplace : root.holdsDirectory found.place = true := by
    rwa [(find_place hfree hfind).2, ← (find_place hfree hfind).1] at hnode
  have hpasses : Passes root (origin cwd p) p.steps := by
    obtain ⟨-, -, arrival, rfl, hwalk⟩ := findEntry_of_ok hfind
    exact passes_significant.2 (passes_of_walk hfree hwalk hplace)
  rw [find, findEntry] at hfind
  dsimp only at hfind
  split at hfind
  · cases hfind
  rename_i hclean
  split at hfind
  · cases hfind
  split at hfind
  · cases hfind
  split at hfind
  · rename_i hstart
    exact ⟨holdsDirectory_iff.2 ⟨_, _, hstart⟩, hpasses, by simpa using hclean⟩
  · cases hfind

/-- A name that an entry can have. -/
structure IsEntryName (name : String) : Prop where
  counts : isInsignificant name.toList = false
  notParent : name.toList ≠ ['.', '.']
  slash : '/' ∉ name.toList
  nul : '\x00' ∉ name.toList
  short : (Utf8.encode name.toList).length ≤ nameLimit

theorem segments_of_name (h : IsEntryName name) : segments name.toList = [name.toList] :=
  segments_of_notMem h.slash

theorem isAbsolute_of_name (h : IsEntryName name) : Path.isAbsolute ⟨name⟩ = false := by
  rw [isAbsolute, decide_eq_false_iff_not]
  exact fun hhead => h.slash (List.mem_of_head? hhead)

/-- The steps to a name behind a path. -/
theorem steps_join_name (h : IsEntryName name) (p : Path) :
    (p.join ⟨name⟩).isAbsolute = p.isAbsolute ∧ (p.join ⟨name⟩).steps = p.steps ++ [name.toList] ∧
      EndsInStep (segments (p.join ⟨name⟩).text.toList) := by
  have hsteps : Path.steps ⟨name⟩ = [name.toList] := by
    rw [steps, segments_of_name h]
    simp [significant, h.counts]
  have hends : EndsInStep (segments name.toList) := by
    rw [segments_of_name h, endsInStep_singleton, h.counts]
  by_cases hne : p.text = ""
  · have hjoin : p.join ⟨name⟩ = ⟨name⟩ := by
      rw [join, isAbsolute_of_name h, hne]
      simp
    have hempty : p = ⟨""⟩ := by rw [← hne]
    rw [hjoin, hsteps, hempty, isAbsolute_of_name h]
    exact ⟨rfl, rfl, hends⟩
  · obtain ⟨front, -, -, hsegs⟩ := segments_join (isAbsolute_of_name h) hne
    rw [steps_join (isAbsolute_of_name h) hne, hsteps, hsegs]
    exact ⟨isAbsolute_join (isAbsolute_of_name h) hne, rfl, hends.append front⟩

/-- **A name behind a path that is entered** denotes the entry where the path
leads. -/
theorem find_join (hfree : root.LinkFree) (h : Enters root cwd p) (hname : IsEntryName name)
    (hlen : (Utf8.encode (p.join ⟨name⟩).text.toList).length ≤ pathLimit) :
    root.find cwd (p.join ⟨name⟩) =
      .ok ⟨landing cwd p ++ [name], root.get? (landing cwd p ++ [name]), false⟩ := by
  obtain ⟨habs, hsteps, hends⟩ := steps_join_name hname p
  have hnul : (p.join ⟨name⟩).text.toList.contains '\x00' = false := by
    rw [← Bool.not_eq_true, List.contains_iff_mem, mem_text_iff (by decide) (by decide), hsteps]
    rintro ⟨s, hs, hmem⟩
    rcases List.mem_append.1 hs with hs | hs
    · exact h.clean ((mem_text_iff (by decide) (by decide)).2 ⟨s, hs, hmem⟩)
    · rw [List.mem_singleton.1 hs] at hmem
      exact hname.nul hmem
  have hempty : (p.join ⟨name⟩).text.toList.isEmpty = false := by
    rw [List.isEmpty_eq_false_iff]
    intro hnil
    rw [hnil, segments, endsInStep_singleton] at hends
    cases hends
  obtain ⟨es, a, hstart⟩ := holdsDirectory_iff.1 h.start
  rw [origin] at hstart
  have hwalk : walk (root.follow linkLimit) true root 0 (origin cwd p) (segments (p.join ⟨name⟩).text.toList) =
      .ok ⟨⟨landing cwd p ++ [name], root.get? (landing cwd p ++ [name]), false⟩, 0⟩ := by
    rw [walk_significant hends]
    change walk _ _ _ _ _ (p.join ⟨name⟩).steps = _
    rw [hsteps, walk_of_passes h.passes (by simp), ← landing_eq, walk_last hname.counts hname.notParent,
      if_neg (Nat.not_lt.2 hname.short), String.ofList_toList]
    split
    · exact absurd ‹_› (hfree _ _)
    · rfl
  rw [find, findEntry]
  simp only [hnul, hempty, habs]
  rw [if_neg (by simp), if_neg (by simp), if_neg (Nat.not_lt.2 hlen), hstart]
  exact congrArg (Except.map Arrival.toFound) hwalk

theorem isFileAt_join (hfree : root.LinkFree) (h : Enters root cwd p) (hname : IsEntryName name)
    (hlen : (Utf8.encode (p.join ⟨name⟩).text.toList).length ≤ pathLimit) :
    root.isFileAt cwd (p.join ⟨name⟩) = root.holdsFile (landing cwd p ++ [name]) := by
  rw [Bool.eq_iff_iff, isFileAt_iff, find_join hfree h hname hlen, holdsFile, Option.any_eq_true]
  constructor
  · rintro ⟨found, node, hfound, hnode, hfile, -⟩
    cases hfound
    exact ⟨node, hnode, hfile⟩
  · rintro ⟨node, hnode, hfile⟩
    exact ⟨_, node, rfl, hnode, hfile, rfl⟩

end Node

end Tangle
