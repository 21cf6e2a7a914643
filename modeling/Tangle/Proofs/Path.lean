import Tangle.Path
import Mathlib.Data.List.Basic
/-!
# Paths by their components

What a path means are its components, and these can be told from two parts:
the component in front (`Path.lead`) and the segments that count
(`Path.steps`). Joining puts the steps of two paths one after the other
(`components_join`), and stripping a base takes the components of the base
off the front (`components_stripPrefix`), so the one undoes the other
whatever the spellings are (`components_join_of_stripPrefix`).
-/

namespace Tangle

namespace Path

variable {p q r base : Path} {s t : List Char} {ss : List (List Char)}

/-! ## Segments -/

theorem segments_cons {c : Char} (h : c ≠ '/') (s : List Char) :
    segments (c :: s) = match segments s with
      | [] => [[c]]
      | s :: ss => (c :: s) :: ss :=
  segments.eq_3 c s h

/-- Segments are what lies between slashes. -/
theorem segments_eq_splitOn (s : List Char) : segments s = s.splitOn '/' := by
  induction s with
  | nil => rfl
  | cons c s ih =>
    rw [List.splitOn_cons_eq_if_modifyHead, ← ih]
    by_cases hc : c = '/'
    · rw [hc, segments, if_pos (by rfl)]
    · rw [segments_cons hc, if_neg (by simpa using hc)]
      have hne : segments s ≠ [] := ih ▸ List.splitOn_ne_nil _ _
      cases hs : segments s with
      | nil => exact absurd hs hne
      | cons first rest => rfl

theorem segments_ne_nil (s : List Char) : segments s ≠ [] := by
  rw [segments_eq_splitOn]
  exact List.splitOn_ne_nil _ _

/-- **A slash parts the segments** before it from those after it. -/
theorem segments_append (s t : List Char) : segments (s ++ '/' :: t) = segments s ++ segments t := by
  rw [segments_eq_splitOn, List.splitOn_append_cons_self, segments_eq_splitOn, segments_eq_splitOn]

theorem segments_of_notMem (h : '/' ∉ s) : segments s = [s] := by
  rw [segments_eq_splitOn, List.splitOn_eq_singleton h]

/-- The first segment is empty in front of a slash alone. -/
theorem eq_nil_or_slash_of_segments (h : segments s = [] :: ss) : s = [] ∨ ∃ rest, s = '/' :: rest := by
  cases s with
  | nil => exact Or.inl rfl
  | cons c s =>
    by_cases hc : c = '/'
    · exact Or.inr ⟨s, by rw [hc]⟩
    · obtain ⟨first, rest, hs⟩ := List.exists_cons_of_ne_nil (segments_ne_nil s)
      rw [segments_cons hc, hs] at h
      cases h

/-- No segment has a slash. -/
theorem slash_notMem_of_mem_segments (h : t ∈ segments s) : '/' ∉ t := by
  induction s generalizing t with
  | nil =>
    rw [List.mem_singleton.1 h]
    exact List.not_mem_nil
  | cons c s ih =>
    by_cases hc : c = '/'
    · rw [hc, segments] at h
      rcases List.mem_cons.1 h with rfl | h
      · exact List.not_mem_nil
      · exact ih h
    · rw [segments_cons hc] at h
      obtain ⟨first, rest, hs⟩ := List.exists_cons_of_ne_nil (segments_ne_nil s)
      rw [hs] at h ih
      rcases List.mem_cons.1 h with rfl | h
      · exact fun hmem => (List.mem_cons.1 hmem).elim (fun heq => hc heq.symm) (ih List.mem_cons_self)
      · exact ih (List.mem_cons_of_mem _ h)

/-- What is not a slash is in a segment. -/
theorem mem_iff_exists_segment {c : Char} (hc : c ≠ '/') : c ∈ s ↔ ∃ t ∈ segments s, c ∈ t := by
  induction s with
  | nil => simp [segments]
  | cons d s ih =>
    by_cases hd : d = '/'
    · rw [hd, segments, List.mem_cons, or_iff_right hc, ih]
      simp
    · obtain ⟨first, rest, hs⟩ := List.exists_cons_of_ne_nil (segments_ne_nil s)
      rw [segments_cons hd, hs, List.mem_cons, ih, hs]
      simp [or_assoc]

theorem mem_of_mem_segments {c : Char} (ht : t ∈ segments s) (hc : c ∈ t) : c ∈ s :=
  (mem_iff_exists_segment fun h => slash_notMem_of_mem_segments ht (h ▸ hc)).2 ⟨t, ht, hc⟩

/-- **Segments put together are told apart again.** -/
theorem segments_unsegments (h : ∀ s ∈ ss, '/' ∉ s) (hne : ss ≠ []) :
    segments (unsegments ss).toList = ss := by
  have hchars : (unsegments ss).toList = ['/'].intercalate ss := by
    simp [unsegments, String.toList_intercalate]
  rw [hchars, segments_eq_splitOn, List.splitOn_intercalate _ h hne]

/-! ## Segments that count -/

theorem isInsignificant_iff : isInsignificant s = true ↔ s = [] ∨ s = ['.'] := by
  rw [isInsignificant, Option.isNone_iff_eq_none, component?.eq_def]
  split <;> simp_all

theorem isInsignificant_eq_false_iff : isInsignificant s = false ↔ s ≠ [] ∧ s ≠ ['.'] := by
  rw [Bool.eq_false_iff, Ne, isInsignificant_iff, not_or]

/-- The segments that count. -/
def significant (ss : List (List Char)) : List (List Char) :=
  ss.filter fun s => !isInsignificant s

theorem significant_append (ss ts : List (List Char)) :
    significant (ss ++ ts) = significant ss ++ significant ts :=
  List.filter_append ..

theorem mem_significant : s ∈ significant ss ↔ s ∈ ss ∧ isInsignificant s = false := by
  rw [significant, List.mem_filter, Bool.not_eq_true']

/-- Only those that count stand for a component. -/
theorem filterMap_significant (ss : List (List Char)) :
    (significant ss).filterMap component? = ss.filterMap component? := by
  induction ss with
  | nil => rfl
  | cons s ss ih =>
    rw [significant, List.filter_cons, List.filterMap_cons]
    cases hs : component? s with
    | none => rw [if_neg (by simp [isInsignificant, hs])]; exact ih
    | some c =>
      rw [if_pos (by simp [isInsignificant, hs]), List.filterMap_cons_some hs]
      exact congrArg (c :: ·) ih

theorem significant_dropWhile (ss : List (List Char)) :
    significant (ss.dropWhile isInsignificant) = significant ss := by
  induction ss with
  | nil => rfl
  | cons s ss ih =>
    rw [List.dropWhile_cons]
    split
    · rename_i hs
      rw [ih, significant, significant, List.filter_cons, if_neg (by simp [hs])]
    · rfl

theorem significant_trimEnd (ss : List (List Char)) : significant (trimEnd ss) = significant ss := by
  rw [trimEnd, significant, List.filter_reverse]
  change (significant (ss.reverse.dropWhile isInsignificant)).reverse = _
  rw [significant_dropWhile, significant, List.filter_reverse, List.reverse_reverse, significant]

theorem significant_dropSignificant (n : Nat) (ss : List (List Char)) :
    significant (dropSignificant n ss) = (significant ss).drop n := by
  induction ss generalizing n with
  | nil => cases n <;> simp [dropSignificant, significant]
  | cons s ss ih =>
    cases n with
    | zero => rfl
    | succ n =>
      rw [dropSignificant, significant.eq_def (s :: ss), List.filter_cons]
      cases hs : isInsignificant s with
      | true => rw [if_pos rfl, ih, if_neg (by simp), significant]
      | false => rw [if_neg (by simp), ih, if_pos (by simp), List.drop_succ_cons, significant]

/-- Dropping segments makes none. -/
theorem mem_of_mem_trimEnd (h : s ∈ trimEnd ss) : s ∈ ss := by
  rw [trimEnd, List.mem_reverse] at h
  exact List.mem_reverse.1 ((List.dropWhile_sublist _).subset h)

theorem mem_of_mem_dropSignificant {n : Nat} (h : s ∈ dropSignificant n ss) : s ∈ ss := by
  induction ss generalizing n with
  | nil => cases n <;> simp [dropSignificant] at h
  | cons t ss ih =>
    cases n with
    | zero => exact h
    | succ n =>
      rw [dropSignificant] at h
      split at h <;> exact List.mem_cons_of_mem _ (ih h)

/-- What counts is a name, or leads up. -/
theorem component?_of_name (hs : isInsignificant s = false) (hparent : s ≠ ['.', '.']) :
    component? s = some (.name (String.ofList s)) := by
  rw [component?]
  · rintro rfl
    cases hs
  · rintro rfl
    cases hs
  · exact fun h => hparent h

/-- The spelling of a component. -/
def spell : Component → List Char
  | .root => []
  | .current => ['.']
  | .parent => ['.', '.']
  | .name s => s.toList

/-- A segment is the spelling of its component. -/
theorem spell_of_component? {c : Component} (h : component? s = some c) : spell c = s := by
  rw [component?.eq_def] at h
  split at h <;> simp at h <;> subst h <;> simp [spell]

/-- Segments that count can be told from their components. -/
theorem map_spell_filterMap (h : ∀ s ∈ ss, isInsignificant s = false) :
    (ss.filterMap component?).map spell = ss := by
  induction ss with
  | nil => rfl
  | cons s ss ih =>
    obtain ⟨c, hc⟩ := Option.isSome_iff_exists.1
      (by simpa [isInsignificant] using h s List.mem_cons_self)
    rw [List.filterMap_cons_some hc, List.map_cons, spell_of_component? hc,
      ih fun t ht => h t (List.mem_cons_of_mem _ ht)]

/-- Each segment that counts has one component. -/
theorem filterMap_drop (h : ∀ s ∈ ss, isInsignificant s = false) (n : Nat) :
    (ss.drop n).filterMap component? = (ss.filterMap component?).drop n := by
  induction ss generalizing n with
  | nil => simp
  | cons s ss ih =>
    obtain ⟨c, hc⟩ := Option.isSome_iff_exists.1
      (by simpa [isInsignificant] using h s List.mem_cons_self)
    cases n with
    | zero => rfl
    | succ n =>
      rw [List.drop_succ_cons, ih fun t ht => h t (List.mem_cons_of_mem _ ht), List.filterMap_cons_some hc,
        List.drop_succ_cons]

/-- The component of a segment is neither the root nor the current directory. -/
theorem of_mem_filterMap {c : Component} (h : c ∈ ss.filterMap component?) : c ≠ .root ∧ c ≠ .current := by
  obtain ⟨s, -, hs⟩ := List.mem_filterMap.1 h
  rw [component?.eq_def] at hs
  split at hs <;> simp at hs <;> subst hs <;> simp

/-- The last of the segments counts. -/
def EndsInStep (ss : List (List Char)) : Prop :=
  ∃ s, ss.getLast? = some s ∧ isInsignificant s = false

theorem endsInStep_singleton : EndsInStep [s] ↔ isInsignificant s = false := by
  simp [EndsInStep]

theorem endsInStep_cons (hne : ss ≠ []) : EndsInStep (s :: ss) ↔ EndsInStep ss := by
  rw [EndsInStep, List.getLast?_cons_of_ne_nil hne, EndsInStep]

theorem EndsInStep.append (h : EndsInStep ss) (front : List (List Char)) : EndsInStep (front ++ ss) := by
  obtain ⟨s, hlast, hs⟩ := h
  exact ⟨s, by rw [List.getLast?_append, hlast, Option.some_or], hs⟩

/-- Segments that end in a step have one. -/
theorem EndsInStep.exists_mem (h : EndsInStep ss) : ∃ s ∈ ss, isInsignificant s = false := by
  obtain ⟨s, hlast, hs⟩ := h
  exact ⟨s, List.mem_of_getLast? hlast, hs⟩

/-- What is left of segments without those at the end that do not count. -/
theorem endsInStep_trimEnd (h : trimEnd ss ≠ []) : EndsInStep (trimEnd ss) := by
  refine ⟨_, List.getLast?_eq_some_getLast h, ?_⟩
  have hnot := List.head?_dropWhile_not isInsignificant ss.reverse
  rw [← List.getLast?_reverse, ← trimEnd, List.getLast?_eq_some_getLast h] at hnot
  simpa using hnot

/-! ## The parts of a path -/

/-- The component in front. -/
def lead (p : Path) : Option Component := p.split.1

/-- The segments that count. -/
def steps (p : Path) : List (List Char) := significant (segments p.text.toList)

/-- The component in front of segments. -/
def leadOf : List (List Char) → Option Component
  | [] :: _ :: _ => some .root
  | ['.'] :: _ => some .current
  | _ => none

theorem leadOf_eq_none (h : isInsignificant s = false) : leadOf (s :: ss) = none := by
  obtain ⟨hnil, hdot⟩ := isInsignificant_eq_false_iff.1 h
  rw [leadOf.eq_def]
  split <;> simp_all

/-- More segments change nothing in front, unless the first is empty and
there was no other. -/
theorem leadOf_append {ts : List (List Char)} (hne : ss ≠ []) (h : ss ≠ [[]]) :
    leadOf (ss ++ ts) = leadOf ss := by
  obtain ⟨s, ss, rfl⟩ := List.exists_cons_of_ne_nil hne
  by_cases hdot : s = ['.']
  · rw [hdot]
    rfl
  · by_cases hs : s = []
    · subst hs
      cases ss with
      | nil => exact absurd rfl h
      | cons t ss => rfl
    · have hcounts := isInsignificant_eq_false_iff.2 ⟨hs, hdot⟩
      rw [List.cons_append, leadOf_eq_none hcounts, leadOf_eq_none hcounts]

/-- **The ways to take a path apart.** Without a component in front, the
first segment counts. -/
theorem split_cases (p : Path) :
    (p.text.toList = [] ∧ p.split = (none, [])) ∨
      (∃ body, p.text.toList = '/' :: body ∧ p.split = (some .root, segments body)) ∨
      (p.text.toList = ['.'] ∧ p.split = (some .current, [])) ∨
      (∃ body, p.text.toList = '.' :: '/' :: body ∧ p.split = (some .current, [] :: segments body)) ∨
      ∃ s rest, segments p.text.toList = s :: rest ∧ isInsignificant s = false ∧
        p.split = (none, s :: rest) := by
  rw [split]
  split
  · rename_i htext
    exact Or.inl ⟨htext, rfl⟩
  · rename_i body htext
    exact Or.inr (Or.inl ⟨body, htext, rfl⟩)
  · rename_i htext
    exact Or.inr (Or.inr (Or.inl ⟨htext, rfl⟩))
  · rename_i body htext
    exact Or.inr (Or.inr (Or.inr (Or.inl ⟨body, htext, rfl⟩)))
  · rename_i hnil hroot hdot hcurrent
    obtain ⟨s, rest, hsegs⟩ := List.exists_cons_of_ne_nil (segments_ne_nil p.text.toList)
    refine Or.inr (Or.inr (Or.inr (Or.inr ⟨s, rest, hsegs, ?_, by rw [hsegs]⟩)))
    rw [isInsignificant_eq_false_iff]
    constructor <;> rintro rfl
    · exact (eq_nil_or_slash_of_segments hsegs).elim hnil fun ⟨body, hbody⟩ => hroot body hbody
    · cases htext : p.text.toList with
      | nil => exact hnil htext
      | cons c text =>
        by_cases hc : c = '/'
        · exact hroot text (hc ▸ htext)
        · obtain ⟨first, others, hfirst⟩ := List.exists_cons_of_ne_nil (segments_ne_nil text)
          rw [htext, segments_cons hc, hfirst] at hsegs
          obtain ⟨⟨rfl, rfl⟩, -⟩ : (c = '.' ∧ first = []) ∧ others = rest := by simpa using hsegs
          rcases eq_nil_or_slash_of_segments hfirst with rfl | ⟨body, rfl⟩
          · exact hdot htext
          · exact hcurrent body htext

theorem lead_eq (p : Path) : p.lead = leadOf (segments p.text.toList) := by
  rcases split_cases p with ⟨ht, h⟩ | ⟨body, ht, h⟩ | ⟨ht, h⟩ | ⟨body, ht, h⟩ | ⟨s, rest, hsegs, hs, h⟩
  · rw [lead, h, ht]
    rfl
  · obtain ⟨first, rest, hbody⟩ := List.exists_cons_of_ne_nil (segments_ne_nil body)
    rw [lead, h, ht, segments, hbody]
    rfl
  · rw [lead, h, ht]
    rfl
  · rw [lead, h, ht, show segments ('.' :: '/' :: body) = ['.'] :: segments body from
      segments_append ['.'] body]
    rfl
  · rw [lead, h, hsegs]
    exact (leadOf_eq_none hs).symm

/-- The steps are in the body. -/
theorem significant_split (p : Path) : significant p.split.2 = p.steps := by
  rcases split_cases p with ⟨ht, h⟩ | ⟨body, ht, h⟩ | ⟨ht, h⟩ | ⟨body, ht, h⟩ | ⟨s, rest, hsegs, hs, h⟩
  · rw [steps, h, ht]
    rfl
  · rw [steps, h, ht]
    rfl
  · rw [steps, h, ht]
    rfl
  · rw [steps, h, ht, show segments ('.' :: '/' :: body) = ['.'] :: segments body from
      segments_append ['.'] body]
    rfl
  · rw [steps, h, hsegs]

theorem slash_notMem_of_mem_split (h : s ∈ p.split.2) : '/' ∉ s := by
  rcases split_cases p with ⟨-, h'⟩ | ⟨body, -, h'⟩ | ⟨-, h'⟩ | ⟨body, -, h'⟩ | ⟨_, _, hsegs, -, h'⟩ <;>
    rw [h'] at h
  · cases h
  · exact slash_notMem_of_mem_segments h
  · cases h
  · rcases List.mem_cons.1 h with rfl | h
    · exact List.not_mem_nil
    · exact slash_notMem_of_mem_segments h
  · exact slash_notMem_of_mem_segments (hsegs ▸ h)

/-- **The components of a path** are that in front and those of the steps. -/
theorem components_eq (p : Path) : p.components = p.lead.toList ++ p.steps.filterMap component? := by
  rw [components, lead, ← significant_split, filterMap_significant]

theorem lead_cases (p : Path) : p.lead = none ∨ p.lead = some .root ∨ p.lead = some .current := by
  rw [lead_eq, leadOf.eq_def]
  split <;> simp

/-- What is neither a slash nor a dot is in a step. -/
theorem mem_text_iff {c : Char} (hslash : c ≠ '/') (hdot : c ≠ '.') :
    c ∈ p.text.toList ↔ ∃ s ∈ p.steps, c ∈ s := by
  rw [mem_iff_exists_segment hslash]
  refine exists_congr fun s => and_congr_left fun hs => ?_
  rw [steps, mem_significant, iff_self_and, isInsignificant_eq_false_iff]
  intro _
  constructor <;> rintro rfl
  · exact List.not_mem_nil hs
  · exact hdot (List.mem_singleton.1 hs)

theorem isInsignificant_of_mem_steps (h : s ∈ p.steps) : isInsignificant s = false :=
  (mem_significant.1 h).2

/-- The component in front is known among the components. -/
theorem lead_eq_filter (p : Path) :
    p.lead = p.components.head?.filter fun c => c = .root ∨ c = .current := by
  rw [components_eq]
  rcases lead_cases p with h | h | h
  · rw [h, Option.toList_none, List.nil_append]
    cases hs : p.steps.filterMap component? with
    | nil => rfl
    | cons c rest =>
      obtain ⟨hroot, hcurrent⟩ := of_mem_filterMap (hs ▸ List.mem_cons_self : c ∈ p.steps.filterMap component?)
      simp [Option.filter, hroot, hcurrent]
  · simp [Option.filter, h]
  · simp [Option.filter, h]

/-- **Equal components are equal parts.** -/
theorem components_eq_iff : p.components = q.components ↔ p.lead = q.lead ∧ p.steps = q.steps := by
  refine ⟨fun h => ?_, fun ⟨hlead, hsteps⟩ => by rw [components_eq, components_eq, hlead, hsteps]⟩
  have hlead : p.lead = q.lead := by rw [lead_eq_filter, h, ← lead_eq_filter]
  rw [components_eq, components_eq, hlead, List.append_cancel_left_eq] at h
  refine ⟨hlead, ?_⟩
  rw [← map_spell_filterMap fun s => isInsignificant_of_mem_steps (p := p), h,
    map_spell_filterMap fun s => isInsignificant_of_mem_steps (p := q)]

/-- A path is absolute if the root is in front of it. -/
theorem isAbsolute_iff : p.isAbsolute = true ↔ p.lead = some .root := by
  rw [isAbsolute, decide_eq_true_iff]
  rcases split_cases p with ⟨ht, h⟩ | ⟨body, ht, h⟩ | ⟨ht, h⟩ | ⟨body, ht, h⟩ | ⟨s, rest, hsegs, hs, h⟩
  · simp [lead, h, ht]
  · simp [lead, h, ht]
  · simp [lead, h, ht]
  · simp [lead, h, ht]
  · refine iff_of_false (fun hroot => ?_) (by simp [lead, h])
    obtain ⟨body, hbody⟩ := List.head?_eq_some_iff.1 hroot
    rw [hbody, segments] at hsegs
    rw [← (List.cons.inj hsegs).1] at hs
    cases hs

/-- With nothing in front, the first segment counts. -/
theorem first_counts (hlead : p.lead = none) (hne : p.text ≠ "") (h : segments p.text.toList = s :: ss) :
    isInsignificant s = false := by
  rcases split_cases p with ⟨ht, -⟩ | ⟨_, -, h'⟩ | ⟨-, h'⟩ | ⟨_, -, h'⟩ | ⟨t, rest, hsegs, ht, -⟩
  · exact absurd (by simpa using ht) hne
  · rw [lead, h'] at hlead; cases hlead
  · rw [lead, h'] at hlead; cases hlead
  · rw [lead, h'] at hlead; cases hlead
  · rw [h] at hsegs
    exact (List.cons.inj hsegs).1 ▸ ht

/-- A segment that counts is a path with its component. -/
theorem components_segment (hs : isInsignificant s = false) (hslash : '/' ∉ s) :
    lead ⟨String.ofList s⟩ = none ∧ components ⟨String.ofList s⟩ = [s].filterMap component? := by
  have hsegs : segments (String.ofList s).toList = [s] := by
    rw [String.toList_ofList, segments_of_notMem hslash]
  have hlead : lead ⟨String.ofList s⟩ = none := by
    rw [lead_eq, hsegs, leadOf_eq_none hs]
  rw [components_eq, hlead, steps, hsegs, filterMap_significant]
  exact ⟨rfl, rfl⟩

/-- Nothing but the empty path has no component. -/
theorem components_eq_nil_iff : p.components = [] ↔ p.text = "" := by
  constructor
  · intro h
    have hlead : p.split.1 = none := by
      cases hc : p.split.1 with
      | none => rfl
      | some c => rw [components, hc] at h; cases h
    rcases split_cases p with ⟨ht, -⟩ | ⟨_, -, h'⟩ | ⟨-, h'⟩ | ⟨_, -, h'⟩ | ⟨s, rest, -, hs, h'⟩
    · simpa using ht
    · rw [h'] at hlead; cases hlead
    · rw [h'] at hlead; cases hlead
    · rw [h'] at hlead; cases hlead
    · obtain ⟨c, hc⟩ := Option.isSome_iff_exists.1 (by simpa [isInsignificant] using hs)
      rw [components, h', List.filterMap_cons_some hc] at h
      cases h
  · intro h
    rw [components, split, h]
    rfl

theorem isAbsolute_eq_false_iff : p.isAbsolute = false ↔ p.lead ≠ some .root := by
  rw [Bool.eq_false_iff, Ne, isAbsolute_iff]

theorem isAbsolute_congr (h : p.lead = q.lead) : p.isAbsolute = q.isAbsolute := by
  rw [Bool.eq_iff_iff, isAbsolute_iff, isAbsolute_iff, h]

/-! ## Joining -/

/-- What joining does to the segments. -/
theorem segments_join (hr : r.isAbsolute = false) (hne : p.text ≠ "") :
    ∃ front, front ≠ [] ∧ (front = segments p.text.toList ∨ front ++ [[]] = segments p.text.toList) ∧
      segments (p.join r).text.toList = front ++ segments r.text.toList := by
  rw [join, hr, if_neg (by simp)]
  split
  · rename_i hlast
    have hlast : p.text.toList.getLast? = some '/' := by simpa [hne] using hlast
    obtain ⟨front, hfront⟩ := List.getLast?_eq_some_iff.1 hlast
    have hsegs : segments p.text.toList = segments front ++ [[]] := by
      rw [hfront]
      exact segments_append front []
    refine ⟨segments front, segments_ne_nil _, Or.inr hsegs.symm, ?_⟩
    rw [String.toList_append, hfront, List.append_assoc]
    exact segments_append front r.text.toList
  · refine ⟨_, segments_ne_nil _, Or.inl rfl, ?_⟩
    rw [String.toList_append, String.toList_append, List.append_assoc]
    exact segments_append p.text.toList r.text.toList

theorem steps_join (hr : r.isAbsolute = false) (hne : p.text ≠ "") :
    (p.join r).steps = p.steps ++ r.steps := by
  obtain ⟨front, -, hfront, hsegs⟩ := segments_join hr hne
  rw [steps, hsegs, significant_append, steps, steps]
  rcases hfront with rfl | hfront
  · rfl
  · rw [← hfront, significant_append]
    simp [significant, isInsignificant, component?]

theorem lead_join (hr : r.isAbsolute = false) (hne : p.text ≠ "") : (p.join r).lead = p.lead := by
  obtain ⟨front, hnil, hfront, hsegs⟩ := segments_join hr hne
  rw [lead_eq, hsegs, lead_eq]
  rcases hfront with rfl | hfront
  · refine leadOf_append hnil fun h => hne ?_
    rcases eq_nil_or_slash_of_segments h with htext | ⟨rest, htext⟩
    · simpa using htext
    · rw [htext, segments] at h
      exact absurd (List.cons.inj h).2 (segments_ne_nil rest)
  · rw [← hfront]
    by_cases hempty : front = [[]]
    · obtain ⟨first, rest, hr⟩ := List.exists_cons_of_ne_nil (segments_ne_nil r.text.toList)
      rw [hempty, hr]
      rfl
    · rw [leadOf_append hnil hempty, leadOf_append hnil hempty]

theorem isAbsolute_join (hr : r.isAbsolute = false) (hne : p.text ≠ "") :
    (p.join r).isAbsolute = p.isAbsolute :=
  isAbsolute_congr (lead_join hr hne)

/-- **Joining puts components together.** -/
theorem components_join (hr : r.isAbsolute = false) (hne : p.text ≠ "") :
    (p.join r).components = p.components ++ r.steps.filterMap component? := by
  rw [components_eq, lead_join hr hne, steps_join hr hne, List.filterMap_append, components_eq,
    List.append_assoc]

/-- What is joined to a path is not the empty path. -/
theorem text_join_ne (hr : r.isAbsolute = false) (hne : p.text ≠ "") : (p.join r).text ≠ "" := by
  intro htext
  have hnil := components_eq_nil_iff.2 htext
  rw [components_join hr hne, List.append_eq_nil_iff] at hnil
  exact hne (components_eq_nil_iff.1 hnil.1)

/-! ## Stripping -/

/-- A text of segments that count, or of none, has nothing in front. -/
theorem lead_unsegments (h : ∀ s ∈ ss, '/' ∉ s) (hhead : ∀ s, ss.head? = some s → isInsignificant s = false) :
    lead ⟨unsegments ss⟩ = none ∧ steps ⟨unsegments ss⟩ = significant ss := by
  cases ss with
  | nil => exact ⟨rfl, rfl⟩
  | cons s ss =>
    rw [lead_eq, steps, segments_unsegments h (List.cons_ne_nil s ss)]
    exact ⟨leadOf_eq_none (hhead s rfl), rfl⟩

theorem trimEnd_front (ss : List (List Char)) : trimEnd ss <+: ss := by
  rw [trimEnd, ← List.reverse_suffix, List.reverse_reverse]
  exact List.dropWhile_suffix _

/-- **The front of a path** has its lead, and the steps among the segments
that are kept. -/
theorem parts_front (p : Path) (h : ss <+: p.split.2) :
    lead ⟨leadText p.split.1 ++ unsegments (trimEnd ss)⟩ = p.lead ∧
      steps ⟨leadText p.split.1 ++ unsegments (trimEnd ss)⟩ = significant ss := by
  have hslash : ∀ s ∈ trimEnd ss, '/' ∉ s := fun s hs =>
    slash_notMem_of_mem_split (h.subset (mem_of_mem_trimEnd hs))
  have hunsegments : significant (segments (unsegments (trimEnd ss)).toList) = significant ss := by
    rw [← significant_trimEnd ss]
    cases htrim : trimEnd ss with
    | nil => rfl
    | cons s ss => rw [segments_unsegments (htrim ▸ hslash) (List.cons_ne_nil s ss)]
  -- what is kept begins as the body does
  have hhead : ∀ s, (trimEnd ss).head? = some s → p.split.2.head? = some s := fun s hs => by
    obtain ⟨rest, hrest⟩ := List.head?_eq_some_iff.1 hs
    obtain ⟨tail, htail⟩ := (trimEnd_front ss).trans h
    rw [← htail, hrest]
    rfl
  rw [← hunsegments, lead.eq_def p]
  rcases split_cases p with ⟨-, h'⟩ | ⟨body, -, h'⟩ | ⟨-, h'⟩ | ⟨body, -, h'⟩ | ⟨s, rest, -, hs, h'⟩
  · rw [h'] at h ⊢
    rw [List.prefix_nil.1 h]
    exact ⟨rfl, rfl⟩
  · have htext : (leadText (some .root) ++ unsegments (trimEnd ss)).toList =
        '/' :: (unsegments (trimEnd ss)).toList := String.toList_append ..
    rw [h', lead_eq, steps, htext, segments]
    obtain ⟨first, rest, hfirst⟩ := List.exists_cons_of_ne_nil (segments_ne_nil (unsegments (trimEnd ss)).toList)
    rw [hfirst]
    exact ⟨rfl, rfl⟩
  · rw [h'] at h ⊢
    rw [List.prefix_nil.1 h]
    exact ⟨rfl, rfl⟩
  · rw [h'] at hhead
    -- the text after the dot is empty, or starts with a slash
    obtain ⟨rest, hrest⟩ : ∃ rest, segments (unsegments (trimEnd ss)).toList = [] :: rest := by
      cases htrim : trimEnd ss with
      | nil => exact ⟨[], rfl⟩
      | cons s ss =>
        rw [segments_unsegments (htrim ▸ hslash) (List.cons_ne_nil s ss)]
        have hs := hhead s (by rw [htrim]; rfl)
        exact ⟨ss, by rw [← Option.some.inj hs]⟩
    have htext : (leadText (some .current) ++ unsegments (trimEnd ss)).toList =
        '.' :: (unsegments (trimEnd ss)).toList := String.toList_append ..
    rw [h', lead_eq, steps, htext, segments_cons (by decide), hrest]
    exact ⟨rfl, rfl⟩
  · have htext : leadText none ++ unsegments (trimEnd ss) = unsegments (trimEnd ss) := String.empty_append
    rw [h'] at hhead ⊢
    rw [htext]
    exact ⟨(lead_unsegments hslash fun t ht => Option.some.inj (hhead t ht) ▸ hs).1, rfl⟩

/-- A path without what does not count at its end. -/
theorem components_trimmed (p : Path) :
    components ⟨leadText p.split.1 ++ unsegments (trimEnd p.split.2)⟩ = p.components := by
  obtain ⟨hlead, hsteps⟩ := parts_front p List.prefix_rfl
  exact components_eq_iff.2 ⟨hlead, hsteps.trans (significant_split p)⟩

/-- What is left of the body when the first steps are taken off. -/
theorem components_dropped (p : Path) (n : Nat) :
    lead ⟨unsegments ((trimEnd (dropSignificant n p.split.2)).dropWhile isInsignificant)⟩ = none ∧
      components ⟨unsegments ((trimEnd (dropSignificant n p.split.2)).dropWhile isInsignificant)⟩ =
        (p.steps.filterMap component?).drop n := by
  have hslash : ∀ s ∈ (trimEnd (dropSignificant n p.split.2)).dropWhile isInsignificant, '/' ∉ s :=
    fun s h => slash_notMem_of_mem_split
      (mem_of_mem_dropSignificant (mem_of_mem_trimEnd ((List.dropWhile_sublist _).subset h)))
  obtain ⟨hlead, hsteps⟩ := lead_unsegments hslash fun s hs => by
    have hnot := List.head?_dropWhile_not isInsignificant (trimEnd (dropSignificant n p.split.2))
    rw [hs] at hnot
    simpa using hnot
  rw [significant_dropWhile, significant_trimEnd, significant_dropSignificant, significant_split] at hsteps
  refine ⟨hlead, ?_⟩
  rw [components_eq, hlead, hsteps, Option.toList_none, List.nil_append,
    filterMap_drop fun s => isInsignificant_of_mem_steps]

/-- It ends in a step, unless it is empty. -/
theorem endsInStep_dropped {n : Nat}
    (h : (trimEnd (dropSignificant n ss)).dropWhile isInsignificant ≠ []) (hslash : ∀ s ∈ ss, '/' ∉ s) :
    EndsInStep (segments
      (unsegments ((trimEnd (dropSignificant n ss)).dropWhile isInsignificant)).toList) := by
  have hsub := (List.dropWhile_suffix (l := trimEnd (dropSignificant n ss)) isInsignificant)
  rw [segments_unsegments (fun s hs => hslash s
    (mem_of_mem_dropSignificant (mem_of_mem_trimEnd (hsub.subset hs)))) h]
  obtain ⟨front, hfront⟩ := hsub
  obtain ⟨s, hlast, hs⟩ : EndsInStep (trimEnd (dropSignificant n ss)) := endsInStep_trimEnd fun hnil => by
    rw [hnil] at h
    exact h rfl
  rw [← hfront, List.getLast?_append_of_ne_nil _ h] at hlast
  exact ⟨s, hlast, hs⟩

/-- **Stripping takes the components of the base off the front.** What is
left has nothing in front, unless the base is nothing. -/
theorem components_stripPrefix (h : p.stripPrefix? base = some r) :
    p.components = base.components ++ r.components ∧ (base.components ≠ [] → r.lead = none) := by
  rw [stripPrefix?] at h
  simp only at h
  split at h
  · rename_i hprefix
    obtain ⟨tail, htail⟩ := List.isPrefixOf_iff_prefix.1 hprefix
    have hdrop : tail = p.components.drop base.components.length := by
      rw [← htail, List.drop_left]
    rw [← htail, List.append_cancel_left_eq, hdrop, components_eq p, lead]
    split at h
    · rename_i hlen
      cases h
      rw [hlen, components_trimmed, components_eq, lead]
      exact ⟨rfl, fun hne => absurd (List.length_eq_zero_iff.1 hlen) hne⟩
    · rename_i n c hlen hlead
      cases h
      rw [hlen, hlead, (components_dropped p n).2]
      exact ⟨rfl, fun _ => (components_dropped p n).1⟩
    · rename_i n hlen hlead
      cases h
      rw [hlen, hlead, (components_dropped p (n + 1)).2]
      exact ⟨rfl, fun _ => (components_dropped p (n + 1)).1⟩
  · cases h

/-- What is left ends in a step, if it has any. -/
theorem endsInStep_stripPrefix (h : p.stripPrefix? base = some r) (hne : base.text ≠ "") (hr : r.steps ≠ []) :
    EndsInStep (segments r.text.toList) := by
  have hdropped : ∀ n, r = ⟨unsegments ((trimEnd (dropSignificant n p.split.2)).dropWhile isInsignificant)⟩ →
      EndsInStep (segments r.text.toList) := fun n heq => by
    rw [heq] at hr ⊢
    exact endsInStep_dropped (fun hnil => hr (by rw [hnil]; rfl)) fun s => slash_notMem_of_mem_split
  rw [stripPrefix?] at h
  simp only at h
  split at h
  · split at h
    · exact absurd (components_eq_nil_iff.1 (List.length_eq_zero_iff.1 ‹_›)) hne
    · exact hdropped _ (Option.some.inj h).symm
    · exact hdropped _ (Option.some.inj h).symm
  · cases h

/-- It is possible where the base is in front, and only there. -/
theorem exists_stripPrefix_iff : (∃ r, p.stripPrefix? base = some r) ↔ base.components <+: p.components := by
  rw [stripPrefix?]
  simp only
  split
  · rename_i h
    refine iff_of_true ?_ (List.isPrefixOf_iff_prefix.1 h)
    split <;> exact ⟨_, rfl⟩
  · rename_i h
    exact iff_of_false (fun ⟨_, hr⟩ => by cases hr) fun hprefix => h (List.isPrefixOf_iff_prefix.2 hprefix)

/-- What stands in front of a path stands in front of what it begins. -/
theorem lead_eq_of_prefix (h : p.components <+: q.components) (hne : p.text ≠ "") : q.lead = p.lead := by
  obtain ⟨tail, htail⟩ := h
  obtain ⟨c, rest, hc⟩ := List.exists_cons_of_ne_nil (mt components_eq_nil_iff.1 hne)
  rw [lead_eq_filter, lead_eq_filter, ← htail, hc]
  rfl

/-- **Joining undoes stripping.** -/
theorem components_join_of_stripPrefix (h : p.stripPrefix? base = some r) (hne : base.text ≠ "") :
    (base.join r).components = p.components := by
  obtain ⟨hcomponents, hlead⟩ := components_stripPrefix h
  have hnone := hlead (mt components_eq_nil_iff.1 hne)
  have hr : r.isAbsolute = false := isAbsolute_eq_false_iff.2 (by simp [hnone])
  rw [components_join hr hne, hcomponents, components_eq r, hnone, Option.toList_none, List.nil_append]

end Path

end Tangle
