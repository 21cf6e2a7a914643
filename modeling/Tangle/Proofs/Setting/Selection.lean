import Tangle.Proofs.Setting.Documents
import Mathlib.Data.List.Sort
/-!
# What patterns select

Documents are listed if every pattern can be expanded (`Setting.Expands`),
and then they are known from what each pattern matches (`Setting.Selects`):
the regular files among the paths found, without the base directory where it
is in front of them. They are listed in strictly ascending order, and such a
list is determined by its members, so neither the order of the patterns nor
their repetition matters (`documents_unordered`).
-/

namespace Tangle

open Tangle.Path

variable {s t : Setting} {view : View} {p q base : Path} {ps paths : List Path}

namespace Setting

/-! ## Lists of fallible answers -/

section Answers

variable {ε α β : Type} {f : α → Except ε β} {xs : List α} {ys : List β} {x : α}

/-- The members are answered. -/
theorem answer_of_mapM_ok (h : xs.mapM f = .ok ys) (hx : x ∈ xs) : ∃ y ∈ ys, f x = .ok y := by
  induction mapM_eq_ok_iff.1 h with
  | nil => cases hx
  | cons hy hxs ih =>
    rcases List.mem_cons.1 hx with rfl | hx
    · exact ⟨_, List.mem_cons_self, hy⟩
    · obtain ⟨y, hy, hfx⟩ := ih (mapM_eq_ok_iff.2 hxs) hx
      exact ⟨y, List.mem_cons_of_mem _ hy, hfx⟩

/-- A list is answered if each of its members is. -/
theorem exists_mapM_ok_iff : (∃ ys, xs.mapM f = .ok ys) ↔ ∀ x ∈ xs, ∃ y, f x = .ok y := by
  constructor
  · rintro ⟨ys, h⟩ x hx
    obtain ⟨y, -, hy⟩ := answer_of_mapM_ok h hx
    exact ⟨y, hy⟩
  · intro h
    induction xs with
    | nil => exact ⟨[], rfl⟩
    | cons x xs ih =>
      obtain ⟨y, hy⟩ := h x List.mem_cons_self
      obtain ⟨ys, hys⟩ := ih fun z hz => h z (List.mem_cons_of_mem _ hz)
      exact ⟨y :: ys, mapM_eq_ok_iff.2 (.cons hy (mapM_eq_ok_iff.1 hys))⟩

end Answers

/-! ## What is listed -/

/-- The components of a path as seen from the base directory, where that is
in front of it. -/
def seenFrom (base p : Path) : List Component :=
  if base.components <+: p.components then p.components.drop base.components.length else p.components

/-- **The patterns select a file** that is listed with these components: a
regular file that one of them matches. -/
def Selects (s : Setting) (view : View) (listed : List Component) : Prop :=
  ∃ pattern ∈ s.config.sourcePatterns, ∃ entries,
    Glob.expand view (s.base.join ⟨pattern⟩).text = .ok entries ∧
      ∃ q, .ok q ∈ entries ∧ view.isFile q = true ∧ seenFrom s.base q = listed

/-- Stripping a base leaves what is seen from it. -/
theorem components_stripped (base p : Path) :
    ((p.stripPrefix? base).getD p).components = seenFrom base p := by
  rw [seenFrom]
  cases hstrip : p.stripPrefix? base with
  | none =>
    have hnot : ¬ base.components <+: p.components := fun h => by
      obtain ⟨r, hr⟩ := exists_stripPrefix_iff.2 h
      rw [hstrip] at hr
      cases hr
    rw [if_neg hnot, Option.getD_none]
  | some r =>
    rw [if_pos (exists_stripPrefix_iff.1 ⟨r, hstrip⟩), Option.getD_some, (components_stripPrefix hstrip).1,
      List.drop_left]

/-- Some document is left for each that was there. -/
theorem exists_mem_dropRepeats (h : p ∈ ps) : ∃ q ∈ dropRepeats ps, q.components = p.components := by
  induction ps with
  | nil => cases h
  | cons first ps ih =>
    rw [dropRepeats]
    rcases List.mem_cons.1 h with rfl | h
    · -- the first is always kept
      split
      · exact ⟨p, List.mem_cons_self, rfl⟩
      · split <;> exact ⟨p, List.mem_cons_self, rfl⟩
    · obtain ⟨q, hq, heq⟩ := ih h
      split
      · rename_i hnil
        rw [hnil] at hq
        cases hq
      · rename_i next rest hcons
        rw [hcons] at hq
        split
        · rename_i hsame
          rcases List.mem_cons.1 hq with rfl | hq
          · exact ⟨first, List.mem_cons_self, hsame.trans heq⟩
          · exact ⟨q, List.mem_cons_of_mem _ hq, heq⟩
        · exact ⟨q, List.mem_cons_of_mem _ hq, heq⟩

theorem exists_matching_iff {pattern : String} : (∃ list, s.matching view pattern = .ok list) ↔
    ∃ found : List Path, Glob.expand view (s.base.join ⟨pattern⟩).text = .ok (found.map .ok) := by
  simp only [matching_eq_ok_iff]
  constructor
  · rintro ⟨_, found, hfound, -⟩
    exact ⟨found, hfound⟩
  · rintro ⟨found, hfound⟩
    exact ⟨_, found, hfound, rfl⟩

/-- **The patterns can be expanded**, and no directory on the way refuses to
be listed. -/
def Expands (s : Setting) (view : View) : Prop :=
  ∀ pattern ∈ s.config.sourcePatterns, ∃ found : List Path,
    Glob.expand view (s.base.join ⟨pattern⟩).text = .ok (found.map .ok)

/-- **Documents are listed if the patterns can be expanded.** -/
theorem exists_documents_iff : (∃ paths, s.documentsIn view = .ok paths) ↔ s.Expands view := by
  simp only [Expands, ← exists_matching_iff, ← exists_mapM_ok_iff, documentsIn_eq_ok_iff]
  constructor
  · rintro ⟨_, lists, hlists, -⟩
    exact ⟨lists, hlists⟩
  · rintro ⟨lists, hlists⟩
    exact ⟨_, lists, hlists, rfl⟩

/-- **The documents listed are those selected.** -/
theorem exists_listed_iff (h : s.documentsIn view = .ok paths) (listed : List Component) :
    (∃ p ∈ paths, p.components = listed) ↔ s.Selects view listed := by
  constructor
  · rintro ⟨p, hp, rfl⟩
    obtain ⟨pattern, hpattern, entries, hentries, q, hq, hfile, rfl⟩ := (documents_spec h).2 p hp
    exact ⟨pattern, hpattern, entries, hentries, q, hq, hfile, (components_stripped s.base q).symm⟩
  · rintro ⟨pattern, hpattern, entries, hentries, q, hq, hfile, rfl⟩
    obtain ⟨lists, hmatching, rfl⟩ := documentsIn_eq_ok_iff.1 h
    obtain ⟨list, hlist, hmatch⟩ := answer_of_mapM_ok hmatching hpattern
    obtain ⟨found, hfound, rfl⟩ := matching_eq_ok_iff.1 hmatch
    rw [hfound] at hentries
    cases hentries
    obtain ⟨r, hr, heq⟩ := List.mem_map.1 hq
    cases heq
    have hmem : (q.stripPrefix? s.base).getD q ∈ lists.flatten.mergeSort fun p q => (p.compare q).isLE :=
      List.mem_mergeSort.2 (List.mem_flatten.2 ⟨_, hlist, List.mem_map.2 ⟨q, List.mem_filter.2 ⟨hr, hfile⟩, rfl⟩⟩)
    obtain ⟨p, hp, heq⟩ := exists_mem_dropRepeats hmem
    exact ⟨p, hp, heq.trans (components_stripped s.base q)⟩

/-! ## The order of the patterns -/

/-- Strictly ascending lists with the same members are the same. -/
theorem components_eq_of_ascending (hp : ps.Pairwise fun p q => p.compare q = .lt)
    (hpaths : paths.Pairwise fun p q => p.compare q = .lt)
    (h : ∀ listed, (∃ p ∈ ps, p.components = listed) ↔ ∃ p ∈ paths, p.components = listed) :
    ps.map components = paths.map components := by
  have hirrefl : Std.Irrefl fun a b => compareComponents a b = .lt := ⟨fun a h => by
    have hself : compareComponents a a = .eq := Std.ReflCmp.compare_self
    rw [hself] at h
    cases h⟩
  have hantisymm : Std.Antisymm fun a b => compareComponents a b = .lt := ⟨fun a b hab hba => by
    have hgt : compareComponents b a = .gt := Std.OrientedCmp.gt_of_lt hab
    rw [hgt] at hba
    cases hba⟩
  have hmap : ∀ {qs : List Path}, (qs.Pairwise fun p q => p.compare q = .lt) →
      (qs.map components).Pairwise fun a b => compareComponents a b = .lt := fun h => List.pairwise_map.2 h
  exact (hmap hp).eq_of_mem_iff (hmap hpaths) fun listed => by rw [List.mem_map, List.mem_map, h]

/-- Two settings with the same base directory and the same set of patterns. -/
structure SamePatterns (s t : Setting) : Prop where
  base : s.base = t.base
  patterns : ∀ pattern, pattern ∈ s.config.sourcePatterns ↔ pattern ∈ t.config.sourcePatterns

theorem SamePatterns.expands (h : SamePatterns s t) : s.Expands view ↔ t.Expands view := by
  simp only [Expands, h.base, h.patterns]

theorem SamePatterns.selects (h : SamePatterns s t) (listed : List Component) :
    s.Selects view listed ↔ t.Selects view listed := by
  simp only [Selects, h.base, h.patterns]

/-- **Neither the order nor the repetition of patterns matters**, whatever a
process sees of the files. Patterns that are the same as a set are answered
together, which they are if they can be expanded, and then they list the
same documents: exactly those selected, in strictly ascending order. -/
theorem documents_unordered (h : SamePatterns s t) :
    ((∃ paths, s.documentsIn view = .ok paths) ↔ s.Expands view) ∧
      ((∃ paths, s.documentsIn view = .ok paths) ↔ ∃ paths, t.documentsIn view = .ok paths) ∧
      ∀ ps paths, s.documentsIn view = .ok ps → t.documentsIn view = .ok paths →
        ps.map components = paths.map components ∧ (ps.Pairwise fun p q => p.compare q = .lt) ∧
          ∀ listed, (∃ p ∈ ps, p.components = listed) ↔ s.Selects view listed := by
  refine ⟨exists_documents_iff, ?_, fun ps paths hs ht => ?_⟩
  · rw [exists_documents_iff, exists_documents_iff, h.expands]
  · have hps := exists_listed_iff hs
    refine ⟨components_eq_of_ascending (documents_spec hs).1 (documents_spec ht).1 fun listed => ?_,
      (documents_spec hs).1, hps⟩
    rw [hps, exists_listed_iff ht, h.selects]

/-- Two documents in a directory, and one behind a link in it. -/
def linkedDisk : Node :=
  .directory [("d", .directory [("a.md", .file [0x61] (.ofMode 0o644)), ("b.md", .file [0x62] (.ofMode 0o644)),
    ("l", .link "../e")] (.ofMode 0o755)), ("e", .directory [("c.md", .file [0x63] (.ofMode 0o644))] (.ofMode 0o755))]
    (.ofMode 0o755)

/-- What a process sees there that may not list what is behind the link. -/
def guardedView : View :=
  { linkedDisk.view [] with
    list := fun p => if p = ⟨"d/l"⟩ then .error .permissionDenied else linkedDisk.listAt [] p }

/-- The patterns `**/*.md` and `a.md` overlap, and `d/a.md` is also found by
its absolute path. -/
def orderedSetting : Setting := sampleSetting ⟨"d"⟩ ["/d/a.md", "a.md", "**/*.md"]

/-- The same patterns, shuffled and with one repeated. -/
def shuffledSetting : Setting := sampleSetting ⟨"d"⟩ ["**/*.md", "/d/a.md", "**/*.md", "a.md"]

/-- They list the same, and no order helps where a directory refuses to be
listed. -/
theorem sample_unordered : SamePatterns orderedSetting shuffledSetting ∧
    (orderedSetting.documentsIn (linkedDisk.view []) = .ok [⟨"/d/a.md"⟩, ⟨"a.md"⟩, ⟨"b.md"⟩, ⟨"l/c.md"⟩] ∧
      ∃ paths, shuffledSetting.documentsIn (linkedDisk.view []) = .ok paths ∧
        [[.root, .name "d", .name "a.md"], [.name "a.md"], [.name "b.md"], [.name "l", .name "c.md"]] =
          paths.map components) ∧
    orderedSetting.documentsIn guardedView = .error (.io .permissionDenied) ∧
      ¬ ∃ paths, shuffledSetting.documentsIn guardedView = .ok paths := by
  have hsame : SamePatterns orderedSetting shuffledSetting := ⟨rfl, fun pattern => by
    simp only [orderedSetting, shuffledSetting, sampleSetting, List.mem_cons, List.not_mem_nil]
    tauto⟩
  have hmatching : orderedSetting.config.sourcePatterns.mapM (orderedSetting.matching (linkedDisk.view [])) =
      .ok [[⟨"/d/a.md"⟩], [⟨"a.md"⟩], [⟨"a.md"⟩, ⟨"b.md"⟩, ⟨"l/c.md"⟩]] := by decide +kernel
  have hlisted : orderedSetting.documentsIn (linkedDisk.view []) =
      .ok [⟨"/d/a.md"⟩, ⟨"a.md"⟩, ⟨"b.md"⟩, ⟨"l/c.md"⟩] :=
    (documents_of_sorted hmatching (by decide +kernel)).trans (by decide +kernel)
  have hrefused : orderedSetting.documentsIn guardedView = .error (.io .permissionDenied) := by decide +kernel
  obtain ⟨-, hboth, hpaths⟩ := @documents_unordered _ _ (linkedDisk.view []) hsame
  obtain ⟨paths, hshuffled⟩ := hboth.1 ⟨_, hlisted⟩
  refine ⟨hsame, ⟨hlisted, paths, hshuffled, .trans (by decide +kernel) (hpaths _ paths hlisted hshuffled).1⟩, hrefused,
    fun hlists => ?_⟩
  obtain ⟨others, hothers⟩ := (@documents_unordered _ _ guardedView hsame).2.1.2 hlists
  rw [hrefused] at hothers
  cases hothers

end Setting

end Tangle
