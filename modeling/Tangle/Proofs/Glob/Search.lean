import Tangle.Glob.Expand
import Tangle.Proofs.Path
/-!
# How the paths found are spelled

A search puts the names it passes after the path it starts from, so what
joining keeps holds of every path found (`search_closed`). An absolute
pattern finds absolute paths (`isAbsolute_of_expand`). A relative pattern
below a base is searched from the segments of the base, which are looked up
one by one if none has a wildcard, and finds paths with the components of
the base in front (`prefix_of_expand`).
-/

namespace Tangle

namespace Glob

variable {view : View} {p q r base : Path} {spot found : Spot} {cs : List Component} {name : String}
variable {entries : List (Except Fault Path)}

/-! ## Every path found is joined from the first -/

section Closed

variable {P : Path → Prop} (hjoin : ∀ p r, P p → P (p.join r)) (hhere : ∀ p, P p → isHere p = false)

include hjoin hhere

theorem entryPath_closed (hp : P p) : P (entryPath p name) := by
  rw [entryPath, if_neg (by simp [hhere p hp])]
  exact hjoin p _ hp

theorem children_closed {spots : List (String × Spot)} (hp : P p) (h : children view p = .ok spots)
    (hspot : (name, spot) ∈ spots) : P spot.path := by
  rw [children] at h
  cases hlist : view.list p with
  | error fault =>
    rw [hlist] at h
    cases h
  | ok es =>
    rw [hlist] at h
    cases h
    obtain ⟨e, -, heq⟩ := List.mem_map.1 hspot
    cases heq
    exact entryPath_closed hjoin hhere hp

theorem among_closed {finds : List (String × Spot) → Finds} (hp : P spot.path)
    (hfinds : ∀ spots, (∀ name q, (name, q) ∈ spots → P q.path) → .ok found ∈ finds spots → P found.path)
    (hfound : .ok found ∈ among view spot finds) : P found.path := by
  rw [among] at hfound
  split at hfound
  · split at hfound
    · cases List.mem_singleton.1 hfound
    · rename_i spots hspots
      exact hfinds spots (fun name q hq => children_closed hjoin hhere hp hspots hq) hfound
  · cases hfound

theorem below_closed {finds : String → Spot → Finds} {depth : Nat} (hp : P spot.path)
    (hfinds : ∀ name q, P q.path → .ok found ∈ finds name q → P found.path)
    (hfound : .ok found ∈ below view finds depth spot) : P found.path := by
  induction depth generalizing spot with
  | zero =>
    rw [below] at hfound
    split at hfound
    · cases List.mem_singleton.1 hfound
    · cases hfound
  | succ depth ih =>
    rw [below] at hfound
    refine among_closed hjoin hhere hp (fun spots hspots hfound => ?_) hfound
    obtain ⟨⟨name, q⟩, hq, hfound⟩ := List.mem_flatMap.1 hfound
    rcases List.mem_append.1 hfound with hfound | hfound
    · exact hfinds name q (hspots name q hq) hfound
    · exact ih (hspots name q hq) hfound

/-- **What joining keeps holds of every path found**, unless the search is
in the current directory. -/
theorem search_closed (hp : P spot.path) (hfound : .ok found ∈ search view cs spot) : P found.path := by
  fun_induction search view cs spot with
  | case1 p =>
    cases List.mem_singleton.1 hfound
    exact hp
  | case2 s rest p _ special _ ih => exact ih (entryPath_closed hjoin hhere hp) hfound
  | case3 => cases hfound
  | case4 ts rest p ihSpecial ihEntry =>
    refine among_closed hjoin hhere hp (fun spots hspots hfound => ?_) hfound
    rcases List.mem_append.1 hfound with hfound | hfound
    · obtain ⟨s, -, hfound⟩ := List.mem_flatMap.1 hfound
      exact ihSpecial s (hjoin p.path _ hp) hfound
    · obtain ⟨⟨name, q⟩, hq, hfound⟩ := List.mem_flatMap.1 hfound
      exact ihEntry q (hspots name q hq) (List.mem_ite_nil_right.1 hfound).2
  | case5 rest p ih => exact ih hp hfound
  | case6 p =>
    refine below_closed hjoin hhere hp (fun name q hq hfound => ?_) hfound
    cases List.mem_singleton.1 (List.mem_ite_nil_right.1 hfound).2
    exact hq
  | case7 c rest p _ ih =>
    exact below_closed hjoin hhere hp (fun name q hq hfound => ih q hq (List.mem_ite_nil_right.1 hfound).2) hfound

end Closed

/-! ## Absolute paths -/

theorem isHere_iff : isHere p = true ↔ p.lead = some .current ∧ p.steps = [] := by
  rw [isHere, decide_eq_true_iff, Path.components_eq_iff]
  rfl

theorem isAbsolute_below (h : p.isAbsolute = true) : (p.join r).isAbsolute = true := by
  cases hr : r.isAbsolute with
  | true =>
    rw [Path.join, if_pos hr]
    exact hr
  | false =>
    have hne : p.text ≠ "" := fun htext => by
      rw [Path.isAbsolute, htext] at h
      cases h
    rw [Path.isAbsolute_join hr hne, h]

/-- **From the root every path found is absolute.** -/
theorem isAbsolute_of_search (hp : spot.path.isAbsolute = true) (hfound : .ok found ∈ search view cs spot) :
    found.path.isAbsolute = true := by
  refine search_closed (P := fun p => p.isAbsolute = true) (fun p r => isAbsolute_below) (fun p hp => ?_) hp hfound
  rw [← Bool.not_eq_true, isHere_iff, Path.isAbsolute_iff.1 hp]
  simp

/-- **Below a named directory every path found is spelled so**, or it is
absolute. -/
theorem prefix_of_search (hlead : base.lead = none) (hne : base.text ≠ "")
    (hp : base.components <+: spot.path.components) (hfound : .ok found ∈ search view cs spot) :
    found.path.isAbsolute = true ∨ base.components <+: found.path.components := by
  refine search_closed (P := fun p => p.isAbsolute = true ∨ base.components <+: p.components)
    (fun p r hp => ?_) (fun p hp => ?_) (Or.inr hp) hfound
  · cases hr : r.isAbsolute with
    | true =>
      rw [Path.join, if_pos hr]
      exact Or.inl hr
    | false =>
      refine hp.imp isAbsolute_below fun hp => ?_
      have hpne : p.text ≠ "" := fun htext => by
        rw [Path.components_eq_nil_iff.2 htext, List.prefix_nil, Path.components_eq_nil_iff] at hp
        exact hne hp
      rw [Path.components_join hr hpne]
      exact hp.trans (List.prefix_append _ _)
  · rw [← Bool.not_eq_true, isHere_iff]
    rintro ⟨hcurrent, -⟩
    rcases hp with hp | hp
    · rw [Path.isAbsolute_iff, hcurrent] at hp
      cases hp
    · rw [Path.lead_eq_of_prefix hp hne, hlead] at hcurrent
      cases hcurrent

/-! ## Segments without wildcards -/

/-- No character is special to patterns. -/
def Plain (s : List Char) : Prop := ∀ c ∈ s, c ≠ '*' ∧ c ≠ '?' ∧ c ≠ '['

theorem tokensUpTo_plain {s : List Char} {n : Nat} {atStart : Bool} (h : Plain s) (hn : s.length ≤ n) :
    tokensUpTo n atStart s = .ok (s.map .char) := by
  induction s generalizing n atStart with
  | nil => cases n <;> rfl
  | cons c s ih =>
    obtain ⟨n, rfl⟩ : ∃ m, n = m + 1 := ⟨n - 1, by simp at hn; omega⟩
    obtain ⟨hstar, hany, hclass⟩ := h c List.mem_cons_self
    have hrest : Plain s := fun d hd => h d (List.mem_cons_of_mem _ hd)
    rw [tokensUpTo, ih hrest (by simpa using hn)]
    · rfl
    · exact fun _ hc _ => hstar hc
    · exact fun _ hc _ => hstar hc
    · exact hstar
    · exact hany
    · exact fun _ _ hc _ => hclass hc
    · exact fun _ _ hc _ => hclass hc
    · exact hclass

theorem literal?_chars (s : List Char) : literal? (s.map .char) = some s := by
  induction s with
  | nil => rfl
  | cons c s ih => rw [List.map_cons, literal?, ih, Option.map_some]

/-- **A segment without wildcards is looked up.** -/
theorem ofTokens_plain (s : List Char) : Component.ofTokens (s.map .char) = .literal (String.ofList s) := by
  rw [Component.ofTokens, literal?_chars]

theorem mapM_tokens_plain {ss : List (List Char)} (h : ∀ s ∈ ss, Plain s) :
    ss.mapM tokens = .ok (ss.map (·.map .char)) := by
  induction ss with
  | nil => rfl
  | cons s ss ih =>
    rw [List.mapM_cons, ih fun t ht => h t (List.mem_cons_of_mem _ ht), tokens,
      tokensUpTo_plain (h s List.mem_cons_self) (Nat.le_refl _)]
    rfl

/-- What a pattern is compiled to. -/
theorem compile_spec {pattern : String} {c : Compiled} (h : compile pattern = .ok c) :
    c.absolute = Path.isAbsolute ⟨pattern⟩ ∧
      (pattern ≠ "" → Path.isAbsolute ⟨pattern⟩ = false →
        ∃ parts, (dropLastEmpty (Path.segments pattern.toList)).mapM tokens = .ok parts ∧
          c.components = parts.map Component.ofTokens) := by
  rw [compile] at h
  cases htokens : tokens pattern.toList with
  | error flaw =>
    rw [htokens] at h
    cases h
  | ok ts =>
    rw [htokens] at h
    simp only [bind, Except.bind] at h
    split at h
    · cases h
    · rename_i parts hparts
      cases h
      rw [Path.isAbsolute]
      split at hparts
      · rename_i body htext
        rw [htext]
        exact ⟨rfl, fun _ h => by cases h⟩
      · rename_i hroot
        refine ⟨(decide_eq_false fun h => ?_).symm, fun hne _ => ⟨parts, hparts, ?_⟩⟩
        · obtain ⟨body, hbody⟩ := List.head?_eq_some_iff.1 h
          exact hroot body hbody
        · dsimp only
          rw [if_neg (by simpa using hne)]

theorem dropLastEmpty_append (front : List (List Char)) {rest : List (List Char)} (h : rest ≠ []) :
    ∃ rest', dropLastEmpty (front ++ rest) = front ++ rest' := by
  rw [dropLastEmpty]
  split
  · exact ⟨rest.dropLast, List.dropLast_append_of_ne_nil h⟩
  · exact ⟨rest, rfl⟩

/-- **The segments of the base come first** in what is searched. -/
theorem compile_join {c : Compiled} (hbase : base.isAbsolute = false) (hne : base.text ≠ "")
    (hplain : Plain base.text.toList) (hr : r.isAbsolute = false)
    (h : compile (base.join r).text = .ok c) : c.absolute = false ∧
      ∃ front cs, front ≠ [] ∧
        (front = Path.segments base.text.toList ∨ front ++ [[]] = Path.segments base.text.toList) ∧
        c.components = (front.map fun s => .literal (String.ofList s)) ++ cs := by
  obtain ⟨front, hnil, hfront, hsegs⟩ := Path.segments_join hr hne
  have hjoin : (base.join r).isAbsolute = false := (Path.isAbsolute_join hr hne).trans hbase
  have hsegment : ∀ s ∈ front, Plain s := fun s hs c hc => hplain c (by
    have hmem : s ∈ Path.segments base.text.toList := by
      rcases hfront with rfl | hfront
      · exact hs
      · exact hfront ▸ List.mem_append_left _ hs
    exact Path.mem_of_mem_segments hmem hc)
  obtain ⟨habs, hrelative⟩ := compile_spec h
  obtain ⟨parts, hparts, hcomponents⟩ := hrelative (Path.text_join_ne hr hne) hjoin
  refine ⟨habs.trans hjoin, front, ?_⟩
  obtain ⟨rest, hrest⟩ := dropLastEmpty_append front (Path.segments_ne_nil r.text.toList)
  rw [hsegs, hrest, List.mapM_append, mapM_tokens_plain hsegment] at hparts
  cases hlater : rest.mapM tokens with
  | error flaw =>
    rw [hlater] at hparts
    cases hparts
  | ok later =>
    rw [hlater] at hparts
    cases hparts
    refine ⟨later.map Component.ofTokens, hnil, hfront, ?_⟩
    rw [hcomponents, List.map_append, List.map_map]
    congr 1
    exact List.map_congr_left fun s _ => ofTokens_plain s

/-! ## What a search finds below a base -/

/-- **Segments that are looked up lead down one after another.** -/
theorem mem_search_literals {front : List (List Char)}
    (hfound : .ok found ∈ search view ((front.map fun s => .literal (String.ofList s)) ++ cs) spot) :
    ∃ last : Spot, last.path = front.foldl (fun p s => entryPath p (String.ofList s)) spot.path ∧
      .ok found ∈ search view cs last := by
  induction front generalizing spot with
  | nil => exact ⟨spot, rfl, hfound⟩
  | cons s front ih =>
    rw [List.map_cons, List.cons_append, search] at hfound
    exact ih (List.mem_ite_nil_right.1 hfound).2

/-- Below a directory that is not the current one the components add up. -/
theorem components_foldl_entryPath {front : List (List Char)} (hslash : ∀ s ∈ front, '/' ∉ s)
    (hlead : p.lead ≠ some .current) (hne : p.text ≠ "") :
    (front.foldl (fun p s => entryPath p (String.ofList s)) p).components =
      p.components ++ front.filterMap Path.component? := by
  induction front generalizing p with
  | nil => simp
  | cons s front ih =>
    have hs : Path.segments (String.ofList s).toList = [s] := by
      rw [String.toList_ofList, Path.segments_of_notMem (hslash s List.mem_cons_self)]
    have hrel : Path.isAbsolute ⟨String.ofList s⟩ = false := by
      rw [Path.isAbsolute, decide_eq_false_iff_not, String.toList_ofList]
      exact fun h => hslash s List.mem_cons_self (List.mem_of_head? h)
    have hhere : isHere p = false := by
      rw [Bool.eq_false_iff, Ne, isHere_iff]
      exact fun h => hlead h.1
    have hstep : entryPath p (String.ofList s) = p.join ⟨String.ofList s⟩ := by
      rw [entryPath, hhere, if_neg (by simp)]
    rw [List.foldl_cons, hstep, ih (fun t ht => hslash t (List.mem_cons_of_mem _ ht))
      (by rwa [Path.lead_join hrel hne]) (Path.text_join_ne hrel hne), Path.components_join hrel hne,
      Path.steps, hs, Path.filterMap_significant, List.append_assoc, ← List.filterMap_append]
    rfl

/-- What is found is searched for. -/
theorem mem_search_of_expand {pattern : String} (h : expand view pattern = .ok entries) (hq : .ok q ∈ entries) :
    ∃ c found, compile pattern = .ok c ∧ found.path = q ∧
      .ok found ∈ search view c.components (spotAt view (if c.absolute then ⟨"/"⟩ else here)) := by
  rw [expand] at h
  cases hc : compile pattern with
  | error flaw =>
    rw [hc] at h
    cases h
  | ok c =>
    rw [hc] at h
    cases h
    obtain ⟨e, he, hpath⟩ := List.mem_map.1 hq
    cases e with
    | error fault => cases hpath
    | ok found =>
      cases hpath
      exact ⟨c, found, rfl, rfl, (List.mem_filter.1 he).1⟩

/-- **An absolute pattern finds absolute paths.** -/
theorem isAbsolute_of_expand (h : expand view p.text = .ok entries) (hp : p.isAbsolute = true)
    (hq : .ok q ∈ entries) : q.isAbsolute = true := by
  obtain ⟨c, found, hc, rfl, hsearch⟩ := mem_search_of_expand h hq
  have habs : c.absolute = true := (compile_spec hc).1.trans hp
  rw [habs, if_pos rfl] at hsearch
  have hroot : Path.isAbsolute ⟨"/"⟩ = true := by decide
  exact @isAbsolute_of_search _ (spotAt view ⟨"/"⟩) _ _ hroot hsearch

/-- **A pattern below a base finds paths below it**, spelled with its
components, if nothing in the base is special to patterns and it does not
start with a dot. -/
theorem prefix_of_expand (h : expand view (base.join r).text = .ok entries) (hlead : base.lead = none)
    (hne : base.text ≠ "") (hplain : Plain base.text.toList) (hr : r.isAbsolute = false)
    (hq : .ok q ∈ entries) : q.isAbsolute = true ∨ base.components <+: q.components := by
  obtain ⟨c, found, hc, rfl, hsearch⟩ := mem_search_of_expand h hq
  have hbase : base.isAbsolute = false := Path.isAbsolute_eq_false_iff.2 (by simp [hlead])
  obtain ⟨habs, front, cs, hnil, hfront, hcomponents⟩ := compile_join hbase hne hplain hr hc
  rw [habs, if_neg (by simp), hcomponents] at hsearch
  obtain ⟨last, hlast, hsearch⟩ := mem_search_literals hsearch
  refine prefix_of_search hlead hne ?_ hsearch
  -- the search passes the segments of the base, so it is at the base then
  obtain ⟨s, front, rfl⟩ := List.exists_cons_of_ne_nil hnil
  obtain ⟨rest, hrest⟩ : ∃ rest, Path.segments base.text.toList = s :: rest := by
    rcases hfront with hfront | hfront
    · exact ⟨front, hfront.symm⟩
    · exact ⟨front ++ [[]], hfront.symm.trans (List.cons_append ..)⟩
  have hs : Path.isInsignificant s = false := Path.first_counts hlead hne hrest
  have hslash : ∀ t ∈ s :: front, '/' ∉ t := fun t ht => by
    have hmem : t ∈ Path.segments base.text.toList := by
      rcases hfront with hfront | hfront
      · exact hfront ▸ ht
      · exact hfront ▸ List.mem_append_left _ ht
    exact Path.slash_notMem_of_mem_segments hmem
  obtain ⟨hfirst, hcomponent⟩ := Path.components_segment hs (hslash s List.mem_cons_self)
  have hfirstne : String.ofList s ≠ "" := fun htext => by
    have hempty : s = [] := by simpa using congrArg String.toList htext
    rw [hempty] at hs
    cases hs
  have hhere : isHere here = true := by decide
  have hbasecs : base.components = (s :: front).filterMap Path.component? := by
    rw [Path.components_eq, hlead, Path.steps, Path.filterMap_significant]
    rcases hfront with hfront | hfront
    · rw [← hfront]
      rfl
    · rw [← hfront, List.filterMap_append]
      exact List.append_nil _
  have hbelow := components_foldl_entryPath (p := ⟨String.ofList s⟩)
    (fun t ht => hslash t (List.mem_cons_of_mem _ ht)) (by rw [hfirst]; simp) hfirstne
  rw [hlast, spotAt, List.foldl_cons, entryPath, hhere, if_pos rfl, hbelow, hbasecs, hcomponent,
    ← List.filterMap_append]
  exact List.prefix_rfl

end Glob

end Tangle
