import Tangle.Run
import Tangle.Proofs.Path.Order
import Tangle.Proofs.Disk.Walk
import Tangle.Proofs.Glob.Search
import Mathlib.Data.List.Forall2
/-!
# The documents selected are the ones loaded

A document is found as the base directory is put in front of a pattern, it
is listed without the base, and it is loaded with the base in front again.
This comes to the file that was found wherever the base is in front of the
path found, component by component, or the path is absolute (`Resolves`).

It takes a base that the search keeps (`Path.Plain`). A dot in front of a
base is left out of the paths found, so the base is not stripped, and it
is put in front a second time when the document is loaded
(`documents_misspelled`). And two paths listed are two spellings, which are two
files for certain only where they do not go up (`Path.Descends`).
-/

namespace Tangle

open Tangle.Path Node

variable {s : Setting} {view : View} {disk : Node} {cwd : Place} {p q r base : Path} {found paths : List Path}
variable {pattern : String} {entries : List (Except Fault Path)}

namespace Path

/-- **The base is kept by a search below it**: it is absolute, or it has no
step, or else no dot stands in front of it and no character in it is
special to patterns. -/
def Plain (base : Path) : Prop :=
  base.isAbsolute = true ∨ base.steps = [] ∨ base.lead = none ∧ Glob.Plain base.text.toList

/-- The path goes down only, without a dot in front. -/
def Descends (p : Path) : Prop := p.lead ≠ some .current ∧ ['.', '.'] ∉ p.steps

/-- Its steps are names, one below the other. -/
theorem Descends.foldl_land (h : p.Descends) (place : Place) :
    p.steps.foldl land place = place ++ p.steps.map String.ofList :=
  foldl_land_names (fun _ ht => ⟨isInsignificant_of_mem_steps ht, fun heq => h.2 (heq ▸ ht)⟩) place

/-- Names are told apart by their characters. -/
theorem map_ofList_inj {ss ts : List (List Char)} :
    ss.map String.ofList = ts.map String.ofList ↔ ss = ts :=
  (List.map_injective_iff.2 fun a b h => by simpa using congrArg String.toList h).eq_iff

end Path

namespace Setting

/-- The path leads where the other does, step by step, and to an entry. -/
structure Resolves (p q : Path) : Prop where
  isAbsolute : p.isAbsolute = q.isAbsolute
  steps : p.steps = q.steps
  ends : EndsInStep (segments p.text.toList)

/-! ## From the search to the load -/

/-- What is stripped is put in front again. -/
theorem resolves_of_stripPrefix (hfree : disk.LinkFree) (hdir : disk.isDirectoryAt cwd base = true)
    (hne : base.text ≠ "") (hfile : disk.isFileAt cwd q = true) (h : q.stripPrefix? base = some r) :
    Resolves (base.join r) q := by
  obtain ⟨hlead, hsteps⟩ := components_eq_iff.1 (components_join_of_stripPrefix h hne)
  obtain ⟨hcomponents, hnone⟩ := components_stripPrefix h
  have hrlead : r.lead = none := hnone (mt components_eq_nil_iff.1 hne)
  have hr : r.isAbsolute = false := isAbsolute_eq_false_iff.2 (by simp [hrlead])
  refine ⟨isAbsolute_congr hlead, hsteps, ?_⟩
  -- something is left, since the base is a directory and the path is a file
  have hleft : r.steps ≠ [] := fun hnil => by
    rw [components_eq r, hrlead, hnil] at hcomponents
    obtain ⟨hlead', hsteps'⟩ := components_eq_iff.1 (hcomponents.trans (List.append_nil _))
    rw [isFileAt_eq_false_of_directory hfree (isAbsolute_congr hlead'.symm) hsteps'.symm hdir] at hfile
    cases hfile
  obtain ⟨front, -, -, hsegs⟩ := segments_join hr hne
  rw [hsegs]
  exact (endsInStep_stripPrefix h hne hleft).append front

/-- **A path that is listed resolves to the one that was found.** -/
theorem resolves_of_expand (hplain : s.base.Plain) (hfree : disk.LinkFree)
    (hdir : disk.isDirectoryAt cwd s.base = true) (hne : s.base.text ≠ "")
    (h : Glob.expand (disk.view cwd) (s.base.join ⟨pattern⟩).text = .ok entries) (hq : .ok q ∈ entries)
    (hfile : disk.isFileAt cwd q = true) : Resolves (s.resolve ((q.stripPrefix? s.base).getD q)) q := by
  have hends := endsInStep_of_isFileAt hfile
  rw [resolve]
  cases hstrip : q.stripPrefix? s.base with
  | some r => exact resolves_of_stripPrefix hfree hdir hne hfile hstrip
  | none =>
    rw [Option.getD_none]
    cases habs : q.isAbsolute with
    | true =>
      rw [join, if_pos habs]
      exact ⟨rfl, rfl, hends⟩
    | false =>
      -- then the pattern is relative, and so is the base
      have hjoin : (s.base.join ⟨pattern⟩).isAbsolute = false := by
        rw [Bool.eq_false_iff]
        intro hjoin
        rw [Glob.isAbsolute_of_expand h hjoin hq] at habs
        cases habs
      have hbase : s.base.isAbsolute = false := by
        rw [Bool.eq_false_iff]
        intro hbase
        rw [Glob.isAbsolute_below hbase] at hjoin
        cases hjoin
      have hpattern : Path.isAbsolute ⟨pattern⟩ = false := by
        rw [Bool.eq_false_iff]
        intro hpattern
        rw [join, if_pos hpattern, hpattern] at hjoin
        cases hjoin
      rcases hplain with hplain | hplain | ⟨hlead, hplain⟩
      · rw [hbase] at hplain
        cases hplain
      · obtain ⟨front, -, -, hsegs⟩ := segments_join habs hne
        refine ⟨?_, by rw [steps_join habs hne, hplain, List.nil_append], ?_⟩
        · rw [isAbsolute_join habs hne, hbase, habs]
        · rw [hsegs]
          exact hends.append front
      · rcases Glob.prefix_of_expand h hlead hne hplain hpattern hq with habs' | hprefix
        · rw [habs] at habs'
          cases habs'
        · obtain ⟨r, hr⟩ := exists_stripPrefix_iff.2 hprefix
          rw [hstrip] at hr
          cases hr

/-- **Unless it is too long, it denotes the file found and is loaded from
it.** -/
theorem Resolves.loads (h : Resolves (s.resolve p) q) (hfile : disk.isFileAt cwd q = true)
    (hlen : (Utf8.encode (s.resolve p).text.toList).length ≤ pathLimit) :
    disk.find cwd (s.resolve p) = disk.find cwd q ∧
      ∃ content, disk.readAt cwd q = .ok content ∧ s.load disk cwd p = Document.ofBytes s.config p content := by
  obtain ⟨found, node, hfind, -⟩ := isFileAt_iff.1 hfile
  have hsame : disk.find cwd (s.resolve p) = disk.find cwd q :=
    findEntry_congr h.isAbsolute h.steps h.ends (endsInStep_of_isFileAt hfile) hlen (findEntry_of_ok hfind).1
  obtain ⟨content, hread⟩ := readAt_of_isFileAt hfile
  refine ⟨hsame, content, hread, ?_⟩
  have hread' : disk.readAt cwd (s.resolve p) = .ok content := by
    rw [readAt, lookup, hsame]
    exact hread
  rw [load, hread']

/-! ## The list -/

section Answers

variable {ε α β : Type} {f : α → Except ε β} {xs : List α} {ys : List β}

/-- **A list is answered** if its members are, one by one. -/
theorem mapM_eq_ok_iff : xs.mapM f = .ok ys ↔ List.Forall₂ (fun x y => f x = .ok y) xs ys := by
  induction xs generalizing ys with
  | nil =>
    rw [List.mapM_nil, List.forall₂_nil_left_iff]
    exact ⟨fun h => by cases h; rfl, fun h => by rw [h]; rfl⟩
  | cons x xs ih =>
    rw [List.mapM_cons, List.forall₂_cons_left_iff]
    cases hx : f x with
    | error e => exact iff_of_false (fun h => by cases h) fun ⟨y, _, h, _⟩ => by cases h
    | ok y =>
      simp only [← ih]
      cases hxs : xs.mapM f with
      | error e => exact iff_of_false (fun h => by cases h) fun ⟨_, _, _, h, _⟩ => by cases h
      | ok zs =>
        constructor
        · intro h
          cases h
          exact ⟨y, zs, rfl, rfl, rfl⟩
        · rintro ⟨_, _, hy, hzs, rfl⟩
          cases hy
          cases hzs
          rfl

/-- The answers are answers to the members. -/
theorem mem_of_mapM_ok {y : β} (h : xs.mapM f = .ok ys) (hy : y ∈ ys) : ∃ x ∈ xs, f x = .ok y := by
  induction mapM_eq_ok_iff.1 h with
  | nil => cases hy
  | cons hx hxs ih =>
    rcases List.mem_cons.1 hy with rfl | hy
    · exact ⟨_, List.mem_cons_self, hx⟩
    · obtain ⟨x, hx, hfx⟩ := ih (mapM_eq_ok_iff.2 hxs) hy
      exact ⟨x, List.mem_cons_of_mem _ hx, hfx⟩

/-- Answers without a fault among them. -/
theorem mapM_id_eq_ok_iff {answers : List (Except ε β)} : answers.mapM id = .ok ys ↔ answers = ys.map .ok := by
  rw [mapM_eq_ok_iff, ← List.forall₂_eq_eq_eq, List.forall₂_map_right_iff]
  rfl

end Answers

/-- **A pattern is answered** if every directory on the way can be listed. -/
theorem matching_eq_ok_iff : s.matching view pattern = .ok paths ↔
    ∃ found : List Path, Glob.expand view (s.base.join ⟨pattern⟩).text = .ok (found.map .ok) ∧
      paths = (found.filter view.isFile).map fun q => (q.stripPrefix? s.base).getD q := by
  rw [matching]
  cases hexpand : Glob.expand view (s.base.join ⟨pattern⟩).text with
  | error flaw => exact iff_of_false (fun h => by cases h) fun ⟨_, h, _⟩ => by cases h
  | ok entries =>
    dsimp only
    cases hfound : entries.mapM id with
    | error fault =>
      refine iff_of_false (fun h => by cases h) fun ⟨found, h, _⟩ => ?_
      rw [mapM_id_eq_ok_iff.2 (Except.ok.inj h)] at hfound
      cases hfound
    | ok found =>
      rw [mapM_id_eq_ok_iff.1 hfound]
      constructor
      · intro h
        cases h
        exact ⟨found, rfl, rfl⟩
      · rintro ⟨others, h, rfl⟩
        rw [List.map_injective_iff.2 (fun _ _ => Except.ok.inj) (Except.ok.inj h)]

/-- The documents are what the patterns match, sorted and without repeats. -/
theorem documentsIn_eq_ok_iff : s.documentsIn view = .ok paths ↔
    ∃ lists, s.config.sourcePatterns.mapM (s.matching view) = .ok lists ∧
      paths = dropRepeats (lists.flatten.mergeSort fun p q => (p.compare q).isLE) := by
  rw [documentsIn]
  cases s.config.sourcePatterns.mapM (s.matching view) with
  | error e => exact iff_of_false (fun h => by cases h) fun ⟨_, h, _⟩ => by cases h
  | ok lists =>
    constructor
    · intro h
      cases h
      exact ⟨lists, rfl, rfl⟩
    · rintro ⟨_, h, rfl⟩
      cases h
      rfl

/-- **What the documents are**: files that a pattern matches, stripped of the
base, in strictly ascending order. -/
theorem documents_spec (h : s.documentsIn view = .ok paths) :
    (paths.Pairwise fun p q => p.compare q = .lt) ∧
      ∀ p ∈ paths, ∃ pattern ∈ s.config.sourcePatterns, ∃ entries,
        Glob.expand view (s.base.join ⟨pattern⟩).text = .ok entries ∧
          ∃ q, .ok q ∈ entries ∧ view.isFile q = true ∧ p = (q.stripPrefix? s.base).getD q := by
  obtain ⟨lists, hmatching, rfl⟩ := documentsIn_eq_ok_iff.1 h
  refine ⟨pairwise_dropRepeats (pairwise_sorted _), fun p hp => ?_⟩
  obtain ⟨list, hlist, hp⟩ := List.mem_flatten.1 (List.mem_mergeSort.1 (mem_of_mem_dropRepeats hp))
  obtain ⟨pattern, hpattern, hmatch⟩ := mem_of_mapM_ok hmatching hlist
  obtain ⟨found, hfound, rfl⟩ := matching_eq_ok_iff.1 hmatch
  obtain ⟨q, hq, rfl⟩ := List.mem_map.1 hp
  obtain ⟨hq, hfile⟩ := List.mem_filter.1 hq
  exact ⟨pattern, hpattern, _, hfound, q, List.mem_map_of_mem hq, hfile, rfl⟩

/-! ## Two paths -/

/-- Where a path leads that is joined to a base. -/
theorem landing_resolve (hne : s.base.text ≠ "") (hp : p.Descends) :
    landing cwd (s.resolve p) =
      (if p.isAbsolute then [] else landing cwd s.base) ++ p.steps.map String.ofList := by
  rw [resolve]
  cases habs : p.isAbsolute with
  | true =>
    rw [join, if_pos habs, landing, habs, hp.foldl_land]
    rfl
  | false =>
    rw [landing, steps_join habs hne, isAbsolute_join habs hne, List.foldl_append, hp.foldl_land]
    rfl

/-- **Two paths that go down lead to two places**, seen from one start. -/
theorem landing_ne (hne : s.base.text ≠ "") (hp : p.Descends) (hq : q.Descends)
    (habs : p.isAbsolute = q.isAbsolute) (h : p.components ≠ q.components) :
    landing cwd (s.resolve p) ≠ landing cwd (s.resolve q) := by
  rw [landing_resolve hne hp, landing_resolve hne hq, habs, Ne, List.append_cancel_left_eq, map_ofList_inj]
  intro hsteps
  refine h (components_eq_iff.2 ⟨?_, hsteps⟩)
  rcases lead_cases p with hl | hl | hl
  · rcases lead_cases q with hl' | hl' | hl'
    · rw [hl, hl']
    · rw [isAbsolute_iff.2 hl'] at habs
      rw [isAbsolute_iff.1 habs] at hl
      cases hl
    · exact absurd hl' hq.1
  · rw [isAbsolute_iff.2 hl] at habs
    rw [hl, isAbsolute_iff.1 habs.symm]
  · exact absurd hl hp.1

/-- An absolute path that is listed does not lie below an absolute base. -/
theorem landing_ne_of_absolute (hne : s.base.text ≠ "") (hbase : s.base.isAbsolute = true)
    (hdescends : s.base.Descends) (hp : p.Descends) (hq : q.Descends) (hprel : p.isAbsolute = false)
    (hqabs : q.isAbsolute = true) (h : q = (r.stripPrefix? s.base).getD r) :
    landing cwd (s.resolve p) ≠ landing cwd (s.resolve q) := by
  have hplace : landing cwd s.base = s.base.steps.map String.ofList := by
    rw [landing, hbase, if_pos rfl, hdescends.foldl_land, List.nil_append]
  rw [landing_resolve hne hp, landing_resolve hne hq, hprel, hqabs, if_neg (by simp), if_pos rfl, hplace,
    List.nil_append, ← List.map_append, Ne, map_ofList_inj]
  intro hsteps
  have hprefix : s.base.components <+: q.components := by
    rw [components_eq, components_eq, isAbsolute_iff.1 hbase, isAbsolute_iff.1 hqabs, ← hsteps,
      List.filterMap_append, ← List.append_assoc]
    exact List.prefix_append _ _
  cases hstrip : r.stripPrefix? s.base with
  | none =>
    rw [hstrip, Option.getD_none] at h
    obtain ⟨r', hr'⟩ := exists_stripPrefix_iff.2 (h ▸ hprefix)
    rw [hstrip] at hr'
    cases hr'
  | some r' =>
    rw [hstrip, Option.getD_some] at h
    have hlead := (components_stripPrefix hstrip).2 (mt components_eq_nil_iff.1 hne)
    rw [h, isAbsolute_iff, hlead] at hqabs
    cases hqabs

/-! ## The documents -/

/-- **What the listed documents are good for.** -/
structure Loadable (s : Setting) (disk : Node) (cwd : Place) (paths : List Path) : Prop where
  /-- Each was found as a regular file, and this is what it denotes and is
  loaded from, unless its spelling is too long for a path. -/
  loaded : ∀ p ∈ paths, ∃ pattern ∈ s.config.sourcePatterns, ∃ entries,
    Glob.expand (disk.view cwd) (s.base.join ⟨pattern⟩).text = .ok entries ∧
      ∃ q, .ok q ∈ entries ∧ disk.isFileAt cwd q = true ∧
        ((Utf8.encode (s.resolve p).text.toList).length ≤ pathLimit →
          disk.find cwd (s.resolve p) = disk.find cwd q ∧
            ∃ content, disk.readAt cwd q = .ok content ∧
              s.load disk cwd p = Document.ofBytes s.config p content)
  /-- Two that go down are two files, if they are both relative or both
  absolute, or if the base is absolute and goes down. -/
  distinct : paths.Pairwise fun p q => p.Descends → q.Descends →
    (p.isAbsolute = q.isAbsolute ∨ s.base.isAbsolute = true ∧ s.base.Descends) →
      ∀ f g, disk.find cwd (s.resolve p) = .ok f → disk.find cwd (s.resolve q) = .ok g →
        f.place ≠ g.place

/-- **The documents selected are the ones loaded**, from a plain base
directory on a disk without links. -/
theorem documents_loadable (hfree : disk.LinkFree) (hplain : s.base.Plain)
    (hdir : disk.isDirectoryAt cwd s.base = true) (h : s.documents disk cwd = .ok paths) :
    Loadable s disk cwd paths := by
  have hne : s.base.text ≠ "" := fun htext => by
    rw [isDirectoryAt] at hdir
    split at hdir
    · rename_i node hlookup
      obtain ⟨found, hfind, -⟩ := lookup_eq_ok_iff.1 hlookup
      exact (findEntry_of_ok hfind).2.1 htext
    · cases hdir
  obtain ⟨hascending, hspec⟩ := documents_spec h
  refine ⟨fun p hp => ?_, ?_⟩
  · obtain ⟨pattern, hpattern, entries, hentries, q, hq, hfile, rfl⟩ := hspec p hp
    have hresolves := resolves_of_expand hplain hfree hdir hne hentries hq hfile
    exact ⟨pattern, hpattern, entries, hentries, q, hq, hfile, hresolves.loads hfile⟩
  · refine hascending.imp_of_mem fun {p q} hp hq hlt hpdown hqdown hstart f g hf hg => ?_
    have hcomponents : p.components ≠ q.components := fun heq => by
      rw [compare_eq_iff.2 heq] at hlt
      cases hlt
    rw [(find_place hfree hf).1, (find_place hfree hg).1]
    obtain ⟨-, -, -, -, p', -, -, hp'⟩ := hspec p hp
    obtain ⟨-, -, -, -, q', -, -, hq'⟩ := hspec q hq
    by_cases habs : p.isAbsolute = q.isAbsolute
    · exact landing_ne hne hpdown hqdown habs hcomponents
    · obtain ⟨hbase, hdescends⟩ := hstart.resolve_left habs
      cases hpabs : p.isAbsolute with
      | false =>
        have hqabs : q.isAbsolute = true := by simpa [hpabs] using habs
        exact landing_ne_of_absolute hne hbase hdescends hpdown hqdown hpabs hqabs hq'
      | true =>
        have hqrel : q.isAbsolute = false := by simpa [hpabs] using habs
        exact (landing_ne_of_absolute hne hbase hdescends hqdown hpdown hqrel hpabs hp').symm

/-- Where what was found is sorted, the documents are that without repeats. -/
theorem documents_of_sorted {lists : List (List Path)}
    (h : s.config.sourcePatterns.mapM (s.matching view) = .ok lists)
    (hsorted : lists.flatten.Pairwise fun p q => (p.compare q).isLE = true) :
    s.documentsIn view = .ok (dropRepeats lists.flatten) := by
  refine documentsIn_eq_ok_iff.2 ⟨lists, h, ?_⟩
  rw [List.mergeSort_of_pairwise hsorted]

/-- Two documents in a directory and one beside it. -/
def sampleDisk : Node :=
  .directory [("c.md", .file [0x63] (.ofMode 0o644)), ("d", .directory [("a.md", .file [0x61] (.ofMode 0o644)),
    ("b.md", .file [0x62] (.ofMode 0o644))] (.ofMode 0o755))] (.ofMode 0o755)

/-- The setting of the directory `d`, spelled `base`. -/
def sampleSetting (base : Path) (patterns : List String) : Setting :=
  ⟨{ Config.standard with sourcePatterns := patterns }, base⟩

theorem sample_loadable :
    (sampleSetting ⟨"d"⟩ ["/c.md", "*.md"]).documents sampleDisk [] =
        .ok [⟨"/c.md"⟩, ⟨"a.md"⟩, ⟨"b.md"⟩] ∧
      Loadable (sampleSetting ⟨"d"⟩ ["/c.md", "*.md"]) sampleDisk [] [⟨"/c.md"⟩, ⟨"a.md"⟩, ⟨"b.md"⟩] := by
  have hmatching : (sampleSetting ⟨"d"⟩ ["/c.md", "*.md"]).config.sourcePatterns.mapM
      ((sampleSetting ⟨"d"⟩ ["/c.md", "*.md"]).matching (sampleDisk.view [])) =
        .ok [[⟨"/c.md"⟩], [⟨"a.md"⟩, ⟨"b.md"⟩]] := by decide +kernel
  have hdocuments : (sampleSetting ⟨"d"⟩ ["/c.md", "*.md"]).documents sampleDisk [] =
      .ok [⟨"/c.md"⟩, ⟨"a.md"⟩, ⟨"b.md"⟩] :=
    (documents_of_sorted hmatching (by decide +kernel)).trans (by decide +kernel)
  have hplain : Path.Plain ⟨"d"⟩ := Or.inr (Or.inr ⟨by decide +kernel, by
    intro c hc
    obtain rfl : c = 'd' := by simpa using hc
    decide⟩)
  exact ⟨hdocuments, documents_loadable (linkFree_of_family (by decide +kernel)) hplain
    (by decide +kernel) hdocuments⟩

/-- **A document that is selected need not be found again.** With a dot in
front of the base, it lies in the base directory and is looked for in a
directory below that. And a document that two patterns spell in two ways is
listed twice. -/
theorem documents_misspelled :
    (sampleDisk.LinkFree ∧ sampleDisk.isDirectoryAt [] ⟨"./d"⟩ = true ∧
      sampleDisk.isFileAt [] ⟨"d/a.md"⟩ = true ∧
      (sampleSetting ⟨"./d"⟩ ["a.md"]).documents sampleDisk [] = .ok [⟨"d/a.md"⟩] ∧
      (sampleSetting ⟨"./d"⟩ ["a.md"]).resolve ⟨"d/a.md"⟩ = ⟨"./d/d/a.md"⟩ ∧
      (sampleSetting ⟨"./d"⟩ ["a.md"]).load sampleDisk [] ⟨"d/a.md"⟩ =
        .error (.read ⟨"d/a.md"⟩ .notFound)) ∧
    (sampleSetting ⟨"d"⟩ ["../d/a.md", "a.md"]).documents sampleDisk [] =
        .ok [⟨"../d/a.md"⟩, ⟨"a.md"⟩] ∧
      (sampleDisk.find [] ⟨"d/../d/a.md"⟩).map Found.place = .ok ["d", "a.md"] ∧
      (sampleDisk.find [] ⟨"d/a.md"⟩).map Found.place = .ok ["d", "a.md"] := by
  have hdotted : (sampleSetting ⟨"./d"⟩ ["a.md"]).config.sourcePatterns.mapM
      ((sampleSetting ⟨"./d"⟩ ["a.md"]).matching (sampleDisk.view [])) = .ok [[⟨"d/a.md"⟩]] := by decide +kernel
  have htwice : (sampleSetting ⟨"d"⟩ ["../d/a.md", "a.md"]).config.sourcePatterns.mapM
      ((sampleSetting ⟨"d"⟩ ["../d/a.md", "a.md"]).matching (sampleDisk.view [])) =
        .ok [[⟨"../d/a.md"⟩], [⟨"a.md"⟩]] := by decide +kernel
  constructor
  · exact ⟨linkFree_of_family (by decide +kernel), by decide +kernel, by decide +kernel,
      documents_of_sorted hdotted (List.pairwise_singleton _ _), by decide +kernel, by decide +kernel⟩
  · exact ⟨(documents_of_sorted htwice (by decide +kernel)).trans (by decide +kernel), by decide +kernel,
      by decide +kernel⟩

end Setting

end Tangle
