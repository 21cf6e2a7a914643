import Mathlib.Data.List.Find
import Tangle.Config.Search
import Tangle.Proofs.Disk.Passage
import Tangle.Proofs.Path.Ancestors
/-!
# The nearest configuration file

The configuration of a directory is looked for in the directories that the
beginnings of its spelling lead to (`find?_eq`). Where the spelling goes
down only, these are the directory itself and those above it, as far as
the spelling reaches, so the nearest configuration file is found
(`find?_nearest`). A relative spelling reaches no further than the current
directory, and one that goes up passes by directories that do not lie above
the one it denotes (`nearest_missed`).
-/

namespace Tangle

open Tangle.Path Node

namespace Config

variable {disk : Node} {cwd level lower top bottom : Place} {start p q d : Path} {name : String}

/-! ## The files of a directory -/

/-- A configuration file is in the directory. -/
def Configures (disk : Node) (level : Place) : Prop := ∃ name ∈ fileNames, disk.holdsFile (level ++ [name]) = true

/-- The name of the configuration file of a directory. -/
def nameIn? (disk : Node) (level : Place) : Option String :=
  fileNames.find? fun name => disk.holdsFile (level ++ [name])

theorem nameIn?_eq_none_iff : nameIn? disk level = none ↔ ¬ Configures disk level := by
  rw [nameIn?, List.find?_eq_none, Configures]
  simp

/-- **The nearest configuration file** upward from the directory `bottom` as
far as `top`: it is in `level`, under the preferred name, and no directory
below `level` has one. -/
structure Nearest (disk : Node) (top bottom level : Place) (name : String) : Prop where
  above : top <+: level
  below : level <+: bottom
  held : disk.holdsFile (level ++ [name]) = true
  preferred : name = "snip.toml" ∨
    name = ".snip.toml" ∧ disk.holdsFile (level ++ ["snip.toml"]) = false
  nearest : ∀ lower, level <+: lower → lower <+: bottom → lower ≠ level → ¬ Configures disk lower

theorem Nearest.configures (h : Nearest disk top bottom level name) : Configures disk level := by
  refine ⟨name, ?_, h.held⟩
  rcases h.preferred with rfl | ⟨rfl, -⟩
  · exact List.mem_cons_self
  · exact List.mem_cons_of_mem _ List.mem_cons_self

theorem held_of_nameIn? (h : nameIn? disk level = some name) : name ∈ fileNames ∧
    disk.holdsFile (level ++ [name]) = true ∧
      (name = "snip.toml" ∨ name = ".snip.toml" ∧ disk.holdsFile (level ++ ["snip.toml"]) = false) := by
  refine ⟨List.mem_of_find?_eq_some h, @List.find?_some _ (fun name => disk.holdsFile (level ++ [name])) _ _ h, ?_⟩
  rw [nameIn?, fileNames, List.find?_cons] at h
  split at h
  · exact Or.inl (Option.some.inj h).symm
  · rename_i hplain
    rw [List.find?_cons] at h
    split at h
    · exact Or.inr ⟨(Option.some.inj h).symm, hplain⟩
    · cases h

theorem isEntryName_of_mem (h : name ∈ fileNames) : IsEntryName name := by
  rcases List.mem_cons.1 h with rfl | h
  · exact ⟨by decide, by decide, by decide, by decide, by decide⟩
  · rw [List.mem_singleton.1 h]
    exact ⟨by decide, by decide, by decide, by decide, by decide⟩

/-! ## What is looked at -/

/-- The bytes that a slash and the longest of the names take. -/
def nameRoom : Nat := 11

/-- **A directory can be looked at**: the path enters it, and leaves room for
the names. -/
structure Seen (disk : Node) (cwd : Place) (p : Path) : Prop where
  enters : Enters disk cwd p
  room : (Utf8.encode p.text.toList).length + nameRoom ≤ pathLimit

/-- What is above is seen as well. -/
theorem Seen.above (habove : Above q p) (h : Seen disk cwd p) : Seen disk cwd q := by
  obtain ⟨rest, hrest⟩ := habove.text
  have horigin : origin cwd q = origin cwd p := by rw [origin, origin, habove.isAbsolute]
  have hsteps : ∃ last, p.steps = q.steps ++ last := by
    rw [habove.steps]
    obtain ⟨last, hlast⟩ := List.dropLast_prefix p.steps
    exact ⟨last, hlast.symm⟩
  obtain ⟨last, hlast⟩ := hsteps
  refine ⟨⟨horigin ▸ h.enters.start, ?_, fun hnul => h.enters.clean ?_⟩, ?_⟩
  · rw [horigin]
    exact (passes_append.1 (hlast ▸ h.enters.passes)).1
  · rw [← hrest]
    exact List.mem_append_left _ hnul
  · have hroom := h.room
    rw [← hrest, Utf8.encode, List.flatMap_append, List.length_append] at hroom
    rw [Utf8.encode]
    omega

theorem Seen.length_join (h : Seen disk cwd p) (hname : name ∈ fileNames) :
    (Utf8.encode (p.join ⟨name⟩).text.toList).length ≤ pathLimit := by
  have hshort : (Utf8.encode name.toList).length + 1 ≤ nameRoom := by
    rcases List.mem_cons.1 hname with rfl | hname
    · decide
    · rw [List.mem_singleton.1 hname]
      decide
  have hroom := h.room
  rw [join, if_neg (by simp [isAbsolute_of_name (isEntryName_of_mem hname)])]
  simp only [Utf8.encode] at *
  split
  · rw [String.toList_append, List.flatMap_append, List.length_append]
    omega
  · rw [String.toList_append, String.toList_append, List.flatMap_append, List.flatMap_append, List.length_append,
      List.length_append]
    have hslash : ("/".toList.flatMap String.utf8EncodeChar).length = 1 := by decide
    omega

/-- The configuration file in a directory that is looked at. -/
def fileIn? (disk : Node) (cwd : Place) (d : Path) : Option Path :=
  (nameIn? disk (landing cwd d)).map fun name => d.join ⟨name⟩

/-- **The search goes upward**: what is not in the directory that a path leads
to is looked for from the path above. -/
theorem find?_eq (hfree : disk.LinkFree) (h : Seen disk cwd start) :
    find? disk cwd start = (fileIn? disk cwd start).or (start.parent?.bind (find? disk cwd)) := by
  have hhere : (fileNames.map fun name => start.join ⟨name⟩).find? (disk.isFileAt cwd) = fileIn? disk cwd start := by
    rw [List.find?_map, fileIn?, nameIn?]
    refine congrArg _ (List.find?_congr fun name hname => ?_)
    exact isFileAt_join hfree h.enters (isEntryName_of_mem hname) (h.length_join hname)
  rw [find?, candidates, ancestors_eq, List.flatMap_cons, List.find?_append, hhere]
  cases start.parent? with
  | none => rfl
  | some q => rfl

/-! ## Ways that go down -/

/-- Above a way that goes down is the directory itself or the one right
above it. -/
theorem landing_above (cwd : Place) (habove : Above q p) (hup : ['.', '.'] ∉ p.steps) :
    landing cwd p = landing cwd q ∨ ∃ name, landing cwd p = landing cwd q ++ [name] := by
  have horigin : origin cwd q = origin cwd p := by rw [origin, origin, habove.isAbsolute]
  rw [landing_eq, landing_eq, habove.steps, horigin]
  rcases List.eq_nil_or_concat p.steps with hnil | ⟨front, last, hsteps⟩
  · rw [hnil]
    exact Or.inl rfl
  · have hmem : last ∈ p.steps := by simp [hsteps]
    have hparent : last ≠ ['.', '.'] := fun h => hup (h ▸ hmem)
    rw [hsteps, List.concat_eq_append, List.dropLast_concat, List.foldl_append, List.foldl_cons, List.foldl_nil,
      land_name (isInsignificant_of_mem_steps hmem) hparent]
    exact Or.inr ⟨_, rfl⟩

theorem landing_prefix_of_above (habove : Above q p) (hup : ['.', '.'] ∉ p.steps) :
    landing cwd q <+: landing cwd p := by
  rcases landing_above cwd habove hup with h | ⟨name, h⟩
  · exact h ▸ List.prefix_rfl
  · rw [h]
    exact List.prefix_append _ _

/-- A directory above is the one that the way leads to, or above the one that
the way above leads to. -/
theorem eq_or_prefix_of_above (habove : Above q p) (hup : ['.', '.'] ∉ p.steps) (h : level <+: landing cwd p) :
    level = landing cwd p ∨ level <+: landing cwd q := by
  rcases landing_above cwd habove hup with hq | ⟨name, hq⟩
  · exact Or.inr (hq ▸ h)
  · rw [hq] at h ⊢
    exact List.prefix_concat_iff.1 h

/-- What the search comes to upward from `bottom` as far as `top`. -/
def Answers (disk : Node) (cwd top bottom : Place) : Option Path → Prop
  | none => ∀ level, top <+: level → level <+: bottom → ¬ Configures disk level
  | some p => ∃ level name, Nearest disk top bottom level name ∧
      (disk.find cwd p).map Found.place = .ok (level ++ [name])

/-- What is looked at and holds a file ends the search. -/
theorem answers_here (hfree : disk.LinkFree) (h : Seen disk cwd p) (hname : nameIn? disk (landing cwd p) = some name)
    (htop : top <+: landing cwd p) : Answers disk cwd top (landing cwd p) (some (p.join ⟨name⟩)) := by
  obtain ⟨hmem, hheld, hpreferred⟩ := held_of_nameIn? hname
  refine ⟨landing cwd p, name, ⟨htop, List.prefix_rfl, hheld, hpreferred, fun lower hlevel hlower hne => ?_⟩, ?_⟩
  · exact absurd (hlower.eq_of_length_le hlevel.length_le) hne
  · rw [find_join hfree h.enters (isEntryName_of_mem hmem) (h.length_join hmem)]
    rfl

/-- The search from above goes on for a directory that holds no file. -/
theorem Answers.above {answer : Option Path} (h : Answers disk cwd top (landing cwd q) answer) (habove : Above q p)
    (hup : ['.', '.'] ∉ p.steps) (hnone : ¬ Configures disk (landing cwd p)) :
    Answers disk cwd top (landing cwd p) answer := by
  cases answer with
  | none =>
    intro level htop hlevel
    rcases eq_or_prefix_of_above habove hup hlevel with rfl | hlevel
    · exact hnone
    · exact h level htop hlevel
  | some r =>
    obtain ⟨level, name, hnearest, hfound⟩ := h
    refine ⟨level, name, ⟨hnearest.above, hnearest.below.trans (landing_prefix_of_above habove hup), hnearest.held,
      hnearest.preferred, fun lower hlevel hlower hne => ?_⟩, hfound⟩
    rcases eq_or_prefix_of_above habove hup hlower with rfl | hlower
    · exact hnone
    · exact hnearest.nearest lower hlevel hlower hne

/-- **A search along a way that goes down answers**, as far as the way goes. -/
theorem answers_find? (hfree : disk.LinkFree) (h : Seen disk cwd p) (hup : ['.', '.'] ∉ p.steps) :
    Answers disk cwd (origin cwd p) (landing cwd p) (find? disk cwd p) := by
  have hnames : ∀ s ∈ p.steps, isInsignificant s = false ∧ s ≠ ['.', '.'] := fun s hs =>
    ⟨isInsignificant_of_mem_steps hs, fun heq => hup (heq ▸ hs)⟩
  -- by induction on how far there is to walk up
  induction hn : p.components.length using Nat.strongRecOn generalizing p with
  | ind n ih =>
    rw [find?_eq hfree h, fileIn?]
    cases hname : nameIn? disk (landing cwd p) with
    | some name =>
      refine answers_here hfree h hname ?_
      rw [landing_eq, foldl_land_names hnames]
      exact List.prefix_append _ _
    | none =>
      have hnone := nameIn?_eq_none_iff.1 hname
      cases hparent : p.parent? with
      | none =>
        have hland : landing cwd p = origin cwd p := by rw [landing_eq, steps_of_parent?_eq_none hparent]; rfl
        intro level htop hlevel
        rw [hland] at hnone hlevel
        rwa [hlevel.eq_of_length_le htop.length_le]
      | some q =>
        have habove := above_of_parent? hparent
        have hsub : ∀ s ∈ q.steps, s ∈ p.steps := fun s hs => List.dropLast_subset _ (habove.steps ▸ hs)
        have hq := ih _ (hn ▸ habove.shorter) (h.above habove) (fun hmem => hup (hsub _ hmem))
          (fun s hs => hnames s (hsub s hs)) rfl
        rw [origin, habove.isAbsolute] at hq
        exact hq.above habove hup hnone

/-- **The nearest configuration file is found**, for a directory that its path
goes down to. Let `bottom` be the place of the directory and `top` where
the path starts: the root, or the current directory for a relative path.
Nothing is found only if no directory from `bottom` up to `top` has a
configuration file, and what is found is the file of the nearest one. -/
theorem find?_nearest (hfree : disk.LinkFree) (hdir : disk.isDirectoryAt cwd start = true)
    (hup : ['.', '.'] ∉ start.steps)
    (hroom : (Utf8.encode start.text.toList).length + nameRoom ≤ pathLimit) :
    ∃ bottom, (disk.find cwd start).map Found.place = .ok bottom ∧
      (find? disk cwd start = none ↔
        ∀ level, origin cwd start <+: level → level <+: bottom → ¬ Configures disk level) ∧
      ∀ p, find? disk cwd start = some p → ∃ level name, Nearest disk (origin cwd start) bottom level name ∧
        (disk.find cwd p).map Found.place = .ok (level ++ [name]) := by
  obtain ⟨found, hfind, -⟩ := find_of_isDirectoryAt hdir
  have hanswers := answers_find? hfree ⟨enters_of_isDirectoryAt hfree hdir, hroom⟩ hup
  refine ⟨landing cwd start, by rw [hfind]; exact congrArg _ (find_place hfree hfind).1, ?_, fun p hp => ?_⟩
  · constructor
    · intro hnone
      rwa [hnone] at hanswers
    · intro hall
      by_contra hsome
      obtain ⟨p, hp⟩ := Option.ne_none_iff_exists'.1 hsome
      rw [hp] at hanswers
      obtain ⟨level, name, hnearest, -⟩ := hanswers
      exact hall level hnearest.above hnearest.below hnearest.configures
  · rwa [hp] at hanswers

/-- Configuration files at the root, in `w` and in `w/d/e`. -/
def layeredDisk : Node :=
  .directory [("snip.toml", .file [] (.ofMode 0o644)), ("w", .directory [(".snip.toml", .file [] (.ofMode 0o644)),
    ("d", .directory [("e", .directory [("snip.toml", .file [] (.ofMode 0o644))] (.ofMode 0o755))] (.ofMode 0o755))]
    (.ofMode 0o755))] (.ofMode 0o755)

/-- The nearest of two, from an absolute path: no directory below it has a
file, and the one above is passed by. -/
theorem layered_nearest :
    layeredDisk.LinkFree ∧ layeredDisk.isDirectoryAt ["w"] ⟨"/w/./d/"⟩ = true ∧
      ['.', '.'] ∉ Path.steps ⟨"/w/./d/"⟩ ∧
      (Utf8.encode (Path.text ⟨"/w/./d/"⟩).toList).length + nameRoom ≤ pathLimit ∧
      find? layeredDisk ["w"] ⟨"/w/./d/"⟩ = some ⟨"/w/.snip.toml"⟩ ∧
      ∃ level name, Nearest layeredDisk [] ["w", "d"] level name ∧
        (layeredDisk.find ["w"] ⟨"/w/.snip.toml"⟩).map Found.place = .ok (level ++ [name]) := by
  have hfree : layeredDisk.LinkFree := linkFree_of_family (by decide +kernel)
  have hdir : layeredDisk.isDirectoryAt ["w"] ⟨"/w/./d/"⟩ = true := by decide +kernel
  have hup : ['.', '.'] ∉ Path.steps ⟨"/w/./d/"⟩ := by decide +kernel
  have hroom : (Utf8.encode (Path.text ⟨"/w/./d/"⟩).toList).length + nameRoom ≤ pathLimit := by decide +kernel
  have hfound : find? layeredDisk ["w"] ⟨"/w/./d/"⟩ = some ⟨"/w/.snip.toml"⟩ := by decide +kernel
  obtain ⟨bottom, hbottom, -, hnearest⟩ := find?_nearest hfree hdir hup hroom
  have hplace : (layeredDisk.find ["w"] ⟨"/w/./d/"⟩).map Found.place = .ok ["w", "d"] := by decide +kernel
  cases hplace.symm.trans hbottom
  exact ⟨hfree, hdir, hup, hroom, hfound, hnearest _ hfound⟩

/-- **Upward by spelling is not upward on the disk**: the search for `w/d`,
spelled by way of `e`, takes the file in `e`, which is not above `w/d`. And
from the current directory nothing above it is looked at. -/
theorem nearest_missed :
    layeredDisk.LinkFree ∧ Configures layeredDisk ["w"] ∧
    ((layeredDisk.find ["w", "d"] ⟨"e/.."⟩).map Found.place = .ok ["w", "d"] ∧
      find? layeredDisk ["w", "d"] ⟨"e/.."⟩ = some ⟨"e/snip.toml"⟩ ∧
      (layeredDisk.find ["w", "d"] ⟨"e/snip.toml"⟩).map Found.place = .ok ["w", "d", "e", "snip.toml"] ∧
      ¬ ["w", "d", "e"] <+: ["w", "d"]) ∧
    (layeredDisk.find ["w", "d"] ⟨"."⟩).map Found.place = .ok ["w", "d"] ∧
      find? layeredDisk ["w", "d"] ⟨"."⟩ = none := by
  refine ⟨linkFree_of_family (by decide +kernel), ⟨".snip.toml", by decide, by decide⟩, ⟨?_, ?_, ?_, ?_⟩, ?_, ?_⟩ <;>
    decide +kernel

end Config

end Tangle
