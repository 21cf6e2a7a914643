import Tangle.Proofs.Toml.Numeral
import Tangle.Proofs.Toml.Quoted
import Tangle.Toml.Document
/-!
# Reading documents back

A document of settings on lines of their own, and of groups of settings
under headers (`Document`), reads as the table that it stands for
(`Document.read_write`), also behind a comment. What stands behind the keys may be any
text that denotes a value there (`Denotes`): a quoted text, a number, a
truth value, or an array of quoted texts.
-/

namespace Tangle

namespace Toml

variable {c : Char} {s w text rest : List Char} {v : Value} {depth fuel : Nat}

/-! ## Blanks and comments -/

/-- A character that blanks do not end with: it stands for itself. -/
def Opens (c : Char) : Prop := c ≠ '\n' ∧ c ≠ '\r' ∧ isSpace c = false ∧ c ≠ '#'

theorem skipGap_cons (h : Opens c) : skipGap false (c :: s) = c :: s := by
  obtain ⟨hline, hreturn, hspace, hcomment⟩ := h
  simp [skipGap, hline, hreturn, hspace, hcomment]

/-- A comment is skipped with the end of its line. -/
theorem skipGap_comment (h : ∀ c ∈ s, isPlain c = true) : skipGap true (s ++ '\n' :: rest) = skipGap false rest := by
  induction s with
  | nil => rfl
  | cons c s ih =>
    have hplain := h c List.mem_cons_self
    obtain ⟨hline, hreturn⟩ := ne_of_isPlain hplain
    rw [List.cons_append, skipGap, if_neg hline, if_neg (by simp [hreturn]), if_pos rfl, if_pos hplain,
      ih fun d hd => h d (List.mem_cons_of_mem _ hd)]

theorem skipSpaces_cons (h : isSpace c = false) : skipSpaces (c :: s) = c :: s := by
  rw [skipSpaces, List.dropWhile_cons_of_neg (by simp [h])]

/-! ## Keys -/

/-- A key that needs no quotes. -/
structure IsWord (w : List Char) : Prop where
  nonempty : w ≠ []
  allBare : w.all isBare = true

theorem IsWord.bare (h : IsWord w) : ∀ c ∈ w, isBare c = true := List.all_eq_true.1 h.allBare

theorem opens_of_isBare (h : isBare c = true) : Opens c := by
  refine ⟨?_, ?_, ?_, ?_⟩
  · rintro rfl
    exact absurd h (by decide)
  · rintro rfl
    exact absurd h (by decide)
  · rw [isSpace, ← Bool.not_eq_true, Bool.or_eq_true, decide_eq_true_eq, decide_eq_true_eq]
    rintro (rfl | rfl) <;> exact absurd h (by decide)
  · rintro rfl
    exact absurd h (by decide)

theorem takeWhile_word (h : IsWord w) (hrest : rest.head?.any isBare = false) :
    (w ++ rest).takeWhile isBare = w ∧ (w ++ rest).dropWhile isBare = rest := by
  rw [List.takeWhile_append_of_pos h.bare, List.dropWhile_append_of_pos h.bare]
  cases rest with
  | nil => simp
  | cons c rest => simp_all

theorem keyPart_word (h : IsWord w) (hrest : rest.head?.any isBare = false) :
    keyPart (w ++ rest) = some (String.ofList w, rest) := by
  obtain ⟨c, w', rfl⟩ := List.exists_cons_of_ne_nil h.nonempty
  obtain ⟨htake, hdrop⟩ := takeWhile_word h hrest
  have hc := h.bare c List.mem_cons_self
  rw [keyPart.eq_def]
  split
  · rename_i heq
    rw [(List.cons.inj heq).1] at hc
    exact absurd hc (by decide)
  · rename_i heq
    rw [(List.cons.inj heq).1] at hc
    exact absurd hc (by decide)
  · rw [htake, hdrop]

/-- A word is read as a key of one part. -/
theorem key_word (h : IsWord w) (hrest : rest.head?.any isBare = false) (hdot : (skipSpaces rest).head? ≠ some '.') :
    key (w ++ rest) = some (([], String.ofList w), skipSpaces rest) := by
  have hspaces : skipSpaces (w ++ rest) = w ++ rest := by
    obtain ⟨c, w', rfl⟩ := List.exists_cons_of_ne_nil h.nonempty
    exact skipSpaces_cons (opens_of_isBare (h.bare c List.mem_cons_self)).2.2.1
  have hparts : keyParts (79 + 1) (w ++ rest) = some ([String.ofList w], skipSpaces rest) := by
    rw [keyParts, hspaces, keyPart_word h hrest, Option.bind_eq_bind, Option.bind_some]
    dsimp only
    split
    · rename_i heq
      exact absurd (by rw [heq]; rfl) hdot
    · rfl
  rw [key, show nestingLimit = 79 + 1 from rfl, hparts]
  rfl

/-! ## Values -/

/-- **The text denotes the value**, when it stands behind an equals sign and a
blank, and the line ends after it. -/
def Denotes (text : List Char) (v : Value) : Prop :=
  ∀ rest, value nestingLimit (skipSpaces (' ' :: (text ++ '\n' :: rest))) = some (v, '\n' :: rest)

theorem denotes_of_cons (h : Opens c) (hvalue : ∀ rest, value nestingLimit (c :: (text ++ '\n' :: rest)) =
    some (v, '\n' :: rest)) : Denotes (c :: text) v := by
  intro rest
  rw [skipSpaces, List.dropWhile_cons_of_pos (by decide)]
  change value nestingLimit (skipSpaces (c :: (text ++ '\n' :: rest))) = _
  rw [skipSpaces_cons h.2.2.1]
  exact hvalue rest

theorem value_of_scalar (harray : c ≠ '[') (htable : c ≠ '\x7b') : value (depth + 1) (c :: s) = scalar (c :: s) := by
  rw [value]
  · exact fun _ heq => harray (List.cons.inj heq).1
  · exact fun _ heq => htable (List.cons.inj heq).1

/-- A quoted text starts with a quote. -/
theorem quote_eq_cons (s : String) : ∃ q body, quote s = q :: body ∧ (q = '"' ∨ q = '\'') := by
  rw [quote]
  rcases ofText_cases s.toList with h | h | ⟨h, -⟩ | ⟨h, -⟩ <;> rw [h]
  · exact ⟨_, _, rfl, Or.inl rfl⟩
  · exact ⟨_, _, rfl, Or.inl rfl⟩
  · exact ⟨_, _, rfl, Or.inr rfl⟩
  · exact ⟨_, _, rfl, Or.inr rfl⟩

theorem opens_of_quote (h : c = '"' ∨ c = '\'') : Opens c := by
  rcases h with rfl | rfl <;> exact ⟨by decide, by decide, by decide, by decide⟩

/-- A quoted text is read as a value. -/
theorem value_quote (s : String) (hdouble : rest.head? ≠ some '"') (hsingle : rest.head? ≠ some '\'') :
    value (depth + 1) (quote s ++ rest) = some (.string s, rest) := by
  have hstring := string_quote s hdouble hsingle
  obtain ⟨q, body, hquote, hq⟩ := quote_eq_cons s
  rw [hquote] at hstring ⊢
  rw [List.cons_append] at hstring ⊢
  have hscalar : scalar (q :: (body ++ rest)) =
      (string (q :: (body ++ rest))).map fun p => (.string (String.ofList p.1), p.2) := by
    rcases hq with rfl | rfl <;> rfl
  rw [value_of_scalar (by rcases hq with rfl | rfl <;> decide) (by rcases hq with rfl | rfl <;> decide), hscalar,
    hstring, Option.map_some, String.ofList_toList]

theorem denotes_quote (s : String) : Denotes (quote s) (.string s) := by
  obtain ⟨q, body, hquote, hq⟩ := quote_eq_cons s
  rw [hquote]
  refine denotes_of_cons (opens_of_quote hq) fun rest => ?_
  rw [← List.cons_append, ← hquote]
  exact value_quote s (by simp) (by simp)

theorem denotes_true : Denotes "true".toList (.boolean true) := by
  rw [show "true".toList = ['t', 'r', 'u', 'e'] from rfl]
  refine denotes_of_cons ⟨by decide, by decide, by decide, by decide⟩ fun rest => ?_
  rw [show nestingLimit = 79 + 1 from rfl, value_of_scalar (by decide) (by decide)]
  rfl

theorem denotes_false : Denotes "false".toList (.boolean false) := by
  rw [show "false".toList = ['f', 'a', 'l', 's', 'e'] from rfl]
  refine denotes_of_cons ⟨by decide, by decide, by decide, by decide⟩ fun rest => ?_
  rw [show nestingLimit = 79 + 1 from rfl, value_of_scalar (by decide) (by decide)]
  rfl

/-- A number is read as a value. -/
theorem denotes_number {n : Nat} (h : n < Nat.pow 2 63) : Denotes (Nat.toDigits 10 n) (.integer n) := by
  obtain ⟨d, ds, hds⟩ := List.exists_cons_of_ne_nil (@Nat.toDigits_ne_nil n 10)
  have hdigit : d.isDigit = true := isDigit_of_mem_toDigits (n := n) (hds ▸ List.mem_cons_self)
  have hne := fun c => @ne_of_isDigit c d hdigit
  rw [hds]
  refine denotes_of_cons ⟨hne _ rfl, hne _ rfl, ?_, hne _ rfl⟩ fun rest => ?_
  · rw [isSpace, ← Bool.not_eq_true, Bool.or_eq_true, decide_eq_true_eq, decide_eq_true_eq, not_or]
    exact ⟨hne _ rfl, hne _ rfl⟩
  · have hread : (moment (d :: (ds ++ '\n' :: rest))).or (number (d :: (ds ++ '\n' :: rest))) =
        some (.integer n, '\n' :: rest) := by
      rw [← List.cons_append, ← hds, moment_toDigits, number_toDigits h]
      rfl
    rw [show nestingLimit = 79 + 1 from rfl, value_of_scalar (hne _ rfl) (hne _ rfl), ← hread, scalar.eq_def]
    split
    · exact absurd (List.cons.inj ‹_›).1 (hne _ rfl)
    · exact absurd (List.cons.inj ‹_›).1 (hne _ rfl)
    · exact absurd (List.cons.inj ‹_›).1 (hne _ rfl)
    · exact absurd (List.cons.inj ‹_›).1 (hne _ rfl)
    · rfl

/-! ## Arrays of texts -/

theorem skipGap_quote (s : String) (rest : List Char) : skipGap false (quote s ++ rest) = quote s ++ rest := by
  obtain ⟨q, body, hquote, hq⟩ := quote_eq_cons s
  rw [hquote]
  exact skipGap_cons (opens_of_quote hq)

/-- A quoted text is read as an element, and what follows decides whether
there are more. -/
theorem arrayBody_quote {s : String} (hgap : skipGap false text = quote s ++ c :: rest) (hc : c = ',' ∨ c = ']') :
    arrayBody (value (depth + 1)) (fuel + 1) text =
      if c = ',' then (arrayBody (value (depth + 1)) fuel rest).map fun p => (.string s :: p.1, p.2)
      else some ([.string s], rest) := by
  have hvalue : value (depth + 1) (quote s ++ c :: rest) = some (.string s, c :: rest) :=
    value_quote s (by rcases hc with rfl | rfl <;> simp) (by rcases hc with rfl | rfl <;> simp)
  rw [arrayBody, hgap]
  split
  · rename_i heq
    obtain ⟨q, body, hquote, hq⟩ := quote_eq_cons s
    rw [hquote] at heq
    rcases hq with rfl | rfl <;> cases heq
  · have hstop : skipGap false (c :: rest) = c :: rest := by rcases hc with rfl | rfl <;> rfl
    rw [hvalue, Option.bind_eq_bind, Option.bind_some]
    dsimp only
    rw [hstop]
    rcases hc with rfl | rfl
    · rw [if_pos rfl]
      exact Option.map_eq_bind.symm
    · rw [if_neg (by decide)]
      rfl

/-- An element on a line of its own. -/
def elementLine (s : String) : List Char := '\n' :: ' ' :: ' ' :: ' ' :: ' ' :: (quote s ++ [','])

/-- Elements on lines of their own are read one by one. -/
theorem arrayBody_lines {ss : List String} (h : ss.length < fuel) (rest : List Char) :
    arrayBody (value (depth + 1)) fuel (ss.flatMap elementLine ++ '\n' :: ']' :: rest) =
      some (ss.map .string, rest) := by
  obtain ⟨fuel, rfl⟩ : ∃ n, fuel = n + 1 := ⟨fuel - 1, by omega⟩
  induction ss generalizing fuel with
  | nil => rfl
  | cons s ss ih =>
    obtain ⟨fuel, rfl⟩ : ∃ n, fuel = n + 1 := ⟨fuel - 1, by simp only [List.length_cons] at h; omega⟩
    have hindent : ∀ t, skipGap false ('\n' :: ' ' :: ' ' :: ' ' :: ' ' :: t) = skipGap false t := fun _ => rfl
    have hgap : skipGap false ((s :: ss).flatMap elementLine ++ '\n' :: ']' :: rest) =
        quote s ++ ',' :: (ss.flatMap elementLine ++ '\n' :: ']' :: rest) := by
      rw [List.flatMap_cons, elementLine]
      simp only [List.cons_append, List.append_assoc, List.nil_append]
      rw [hindent, skipGap_quote]
    rw [arrayBody_quote hgap (Or.inl rfl), if_pos rfl, ih fuel (Nat.lt_of_succ_lt_succ h)]
    rfl

/-- Brackets around what is read as elements denote an array. -/
theorem denotes_array {body : List Char} {vs : List Value}
    (h : ∀ rest, arrayBody (value 79) ((body ++ '\n' :: rest).length + 1) (body ++ '\n' :: rest) =
      some (vs, '\n' :: rest)) : Denotes ('[' :: body) (.array vs) := by
  refine denotes_of_cons ⟨by decide, by decide, by decide, by decide⟩ fun rest => ?_
  rw [show nestingLimit = 79 + 1 from rfl, value, if_neg (by decide), h, Option.map_some]

/-! ## Tables that grow -/

variable {key name : String} {items front sub : Items} {current : List String}

theorem lookup_eq_none {α : Type} {entries : List (String × α)} (h : name ∉ entries.map Prod.fst) :
    entries.lookup name = none :=
  List.lookup_eq_none_iff.2 fun _ he => bne_iff_ne.2 fun heq => h (heq ▸ List.mem_map_of_mem he)

/-- A value under a key of one part is added at the end. -/
theorem addValue_nil (h : key ∉ items.map Prod.fst) (v : Value) :
    items.addValue [] key v = some (items ++ [(key, .value v)]) := by
  simp [Items.addValue, Items.under, Items.addValue.add, lookup_eq_none h]

theorem addTable_nil (h : name ∉ items.map Prod.fst) :
    items.addTable [] name = some (items ++ [(name, .table .header [])]) := by
  simp [Items.addTable, Items.under, Items.addTable.add, lookup_eq_none h]

/-- A change to the table that came last changes nothing in front of it. -/
theorem under_last (h : name ∉ front.map Prod.fst) (change : Origin → Items → Option Items) :
    Items.under .step change [name] .header (front ++ [(name, .table .header sub)]) =
      (change .header sub).map fun sub => front ++ [(name, .table .header sub)] := by
  have hset : ∀ item, Items.set name item (front ++ [(name, .table .header sub)]) = front ++ [(name, item)] := by
    intro item
    have hfront : Items.set name item front = front := by
      refine (List.map_congr_left fun _ he => if_neg ?_).trans (List.map_id _)
      rintro rfl
      exact h (List.mem_map_of_mem he)
    rw [Items.set, List.map_append, ← Items.set, hfront]
    simp
  rw [Items.under, List.lookup_append, lookup_eq_none h, Option.none_or, List.lookup_cons_self]
  simp only [reduceCtorEq, false_and, if_false, hset]
  rfl

/-! ## Entries -/

theorem entries_entry {p q : Progress} (hgap : skipGap false s = text) (hne : text ≠ [])
    (hentry : entry p text = .ok (q, rest)) : entries (fuel + 1) p s = entries fuel q rest := by
  rw [entries, hgap]
  cases text with
  | nil => exact absurd rfl hne
  | cons c text =>
    dsimp only
    rw [hentry]

/-- A line that gives a key a value. -/
structure Line where
  /-- The key. -/
  key : String
  /-- What stands behind it. -/
  text : List Char
  /-- What that denotes. -/
  value : Value
  word : IsWord key.toList
  denotes : Denotes text value

namespace Line

/-- How the line is written. -/
def write (l : Line) : List Char := l.key.toList ++ ' ' :: '=' :: ' ' :: (l.text ++ ['\n'])

/-- What the line adds to its table. -/
def item (l : Line) : String × Item := (l.key, .value l.value)

end Line

/-- A line starts with its key. -/
theorem Line.write_eq_cons (l : Line) : ∃ c text, l.write = c :: text ∧ isBare c = true := by
  obtain ⟨c, w, hw⟩ := List.exists_cons_of_ne_nil l.word.nonempty
  exact ⟨c, _, by rw [Line.write, hw, List.cons_append], l.word.bare c (hw ▸ List.mem_cons_self)⟩

theorem Line.pair_write (l : Line) (rest : List Char) :
    pair (Toml.value nestingLimit) (l.write ++ rest) = some (([], l.key, l.value), '\n' :: rest) := by
  have hwrite : l.write ++ rest = l.key.toList ++ ' ' :: '=' :: ' ' :: (l.text ++ '\n' :: rest) := by
    simp [Line.write]
  rw [pair, hwrite, key_word l.word rfl (by simp [skipSpaces, isSpace]), String.ofList_toList, Option.bind_eq_bind,
    Option.bind_some]
  change (Toml.value nestingLimit (skipSpaces (' ' :: (l.text ++ '\n' :: rest)))).bind _ = _
  rw [l.denotes]
  rfl

/-- **A line adds its value to the table it belongs to.** -/
theorem entries_line (l : Line) (rest : List Char)
    (h : items.under .step (fun _ items => items.addValue [] l.key l.value) current .header = some sub) :
    entries (fuel + 1) ⟨current, items⟩ (l.write ++ rest) = entries fuel ⟨current, sub⟩ rest := by
  obtain ⟨c, text, hwrite, hbare⟩ := l.write_eq_cons
  have hpair := l.pair_write rest
  rw [hwrite, List.cons_append] at hpair ⊢
  refine entries_entry (skipGap_cons (opens_of_isBare hbare)) (List.cons_ne_nil _ _) ?_
  have hentry : entry ⟨current, items⟩ (c :: (text ++ rest)) = assignment ⟨current, items⟩ (c :: (text ++ rest)) := by
    rw [entry.eq_def]
    split
    · rename_i heq
      rw [(List.cons.inj heq).1] at hbare
      exact absurd hbare (by decide)
    · rfl
  rw [hentry, assignment, hpair]
  dsimp only
  rw [h]
  rfl

/-! ## Lines and groups -/

variable {wrap : Items → Items}

/-- **Where values are added**: under the last header, a value under a new
key comes behind all values of one table, which is a part of the whole. -/
def Adds (current : List String) (wrap : Items → Items) : Prop :=
  ∀ sub key v, key ∉ sub.map Prod.fst →
    (wrap sub).under .step (fun _ items => items.addValue [] key v) current .header =
      some (wrap (sub ++ [(key, .value v)]))

theorem adds_top : Adds [] id := fun _ _ v hkey => addValue_nil hkey v

theorem adds_group (h : name ∉ front.map Prod.fst) :
    Adds [name] fun sub => front ++ [(name, .table .header sub)] := fun sub key v hkey => by
  rw [under_last h, addValue_nil hkey, Option.map_some]

/-- **Lines add their values one by one.** -/
theorem entries_lines (hadds : Adds current wrap) {lines : List Line}
    (hdistinct : (sub.map Prod.fst ++ lines.map Line.key).Nodup)
    (hfuel : (lines.flatMap Line.write ++ rest).length < fuel) :
    ∃ left, rest.length < left ∧ entries fuel ⟨current, wrap sub⟩ (lines.flatMap Line.write ++ rest) =
      entries left ⟨current, wrap (sub ++ lines.map Line.item)⟩ rest := by
  induction lines generalizing sub fuel with
  | nil => exact ⟨fuel, hfuel, by simp⟩
  | cons l lines ih =>
    obtain ⟨fuel, rfl⟩ : ∃ n, fuel = n + 1 := ⟨fuel - 1, by omega⟩
    have hkey : l.key ∉ sub.map Prod.fst := fun hmem =>
      (List.nodup_append.1 hdistinct).2.2 _ hmem _ List.mem_cons_self rfl
    have hrest : ((sub ++ [l.item]).map Prod.fst ++ lines.map Line.key).Nodup := by
      simpa [Line.item] using hdistinct
    have hshorter : (lines.flatMap Line.write ++ rest).length < fuel := by
      obtain ⟨c, text, hwrite, -⟩ := l.write_eq_cons
      simp only [List.flatMap_cons, hwrite, List.length_append, List.length_cons] at hfuel ⊢
      omega
    obtain ⟨left, hleft, heq⟩ := ih hrest hshorter
    refine ⟨left, hleft, ?_⟩
    rw [List.flatMap_cons, List.append_assoc, entries_line l _ (hadds sub l.key l.value hkey)]
    exact heq.trans (by simp)

/-- Lines under a header. -/
structure Group where
  /-- The name in the header. -/
  name : String
  /-- The lines. -/
  lines : List Line
  word : IsWord name.toList
  distinct : (lines.map Line.key).Nodup

namespace Group

/-- How the header is written, with an empty line in front. -/
def header (g : Group) : List Char := '\n' :: '[' :: (g.name.toList ++ [']', '\n'])

/-- How the group is written. -/
def write (g : Group) : List Char := g.header ++ g.lines.flatMap Line.write

/-- The table that the group makes. -/
def item (g : Group) : String × Item := (g.name, .table .header (g.lines.map Line.item))

end Group

/-- **A header makes a table** that values are then added to. -/
theorem entries_header (g : Group) (h : g.name ∉ items.map Prod.fst) (rest : List Char) :
    entries (fuel + 1) ⟨current, items⟩ (g.header ++ rest) =
      entries fuel ⟨[g.name], items ++ [(g.name, .table .header [])]⟩ rest := by
  have hheader : g.header ++ rest = '\n' :: '[' :: (g.name.toList ++ ']' :: '\n' :: rest) := by
    simp [Group.header]
  rw [hheader]
  refine entries_entry rfl (List.cons_ne_nil _ _) ?_
  change Toml.header ⟨current, items⟩ (g.name.toList ++ ']' :: '\n' :: rest) = _
  have hkey : key (g.name.toList ++ ']' :: '\n' :: rest) = some (([], g.name), ']' :: '\n' :: rest) := by
    rw [key_word g.word rfl (by simp [skipSpaces, isSpace]), String.ofList_toList]
    rfl
  obtain ⟨c, w, hw⟩ := List.exists_cons_of_ne_nil g.word.nonempty
  have hbare := g.word.bare c (hw ▸ List.mem_cons_self)
  rw [Toml.header.eq_def]
  split
  · rename_i heq
    rw [hw] at heq
    rw [(List.cons.inj heq).1] at hbare
    exact absurd hbare (by decide)
  · rw [hkey]
    split
    · rename_i heq
      cases heq
      rw [addTable_nil h]
      rfl
    · rename_i hno
      exact absurd rfl (hno [] g.name ('\n' :: rest))

/-- **Groups make their tables one by one.** -/
theorem entries_groups {groups : List Group} (hdistinct : (items.map Prod.fst ++ groups.map Group.name).Nodup)
    (hfuel : (groups.flatMap Group.write).length < fuel) :
    ∃ last, entries fuel ⟨current, items⟩ (groups.flatMap Group.write) =
      .ok ⟨last, items ++ groups.map Group.item⟩ := by
  induction groups generalizing current items fuel with
  | nil =>
    obtain ⟨fuel, rfl⟩ : ∃ n, fuel = n + 1 := ⟨fuel - 1, by omega⟩
    exact ⟨current, by simp [entries, skipGap]⟩
  | cons g groups ih =>
    obtain ⟨fuel, rfl⟩ : ∃ n, fuel = n + 1 := ⟨fuel - 1, by omega⟩
    have hname : g.name ∉ items.map Prod.fst := fun hmem =>
      (List.nodup_append.1 hdistinct).2.2 _ hmem _ List.mem_cons_self rfl
    have hrest : ((items ++ [g.item]).map Prod.fst ++ groups.map Group.name).Nodup := by
      simpa [Group.item] using hdistinct
    have hshorter : (g.lines.flatMap Line.write ++ groups.flatMap Group.write).length < fuel := by
      simp only [List.flatMap_cons, Group.write, Group.header, List.length_append, List.length_cons] at hfuel ⊢
      omega
    obtain ⟨left, hleft, hlines⟩ := @entries_lines _ _ [] [g.name] _ (adds_group hname) g.lines
      (by simpa using g.distinct) hshorter
    obtain ⟨last, hgroups⟩ := @ih _ (items ++ [g.item]) [g.name] hrest hleft
    refine ⟨last, ?_⟩
    rw [List.flatMap_cons, Group.write, List.append_assoc, entries_header g hname, hlines, List.nil_append]
    exact hgroups.trans (by simp)

/-! ## Documents -/

/-- Lines, and groups of lines under headers, no two with one name. -/
structure Document where
  /-- The lines without a header. -/
  lines : List Line
  /-- The groups. -/
  groups : List Group
  distinct : (lines.map Line.key ++ groups.map Group.name).Nodup

/-- The values of lines. -/
def valuesOf (lines : List Line) : List (String × Value) := lines.map fun l => (l.key, l.value)

theorem closeEntries_lines (lines : List Line) : closeEntries (lines.map Line.item) = valuesOf lines := by
  induction lines with
  | nil => rfl
  | cons l lines ih => exact congrArg ((l.key, l.value) :: ·) ih

theorem closeEntries_append (items more : Items) :
    closeEntries (items ++ more) = closeEntries items ++ closeEntries more := by
  induction items with
  | nil => rfl
  | cons e items ih => rw [List.cons_append, closeEntries, ih, closeEntries, List.cons_append]

namespace Document

/-- How the document is written. -/
def write (d : Document) : List Char := d.lines.flatMap Line.write ++ d.groups.flatMap Group.write

/-- What the document says. -/
def values (d : Document) : List (String × Value) :=
  valuesOf d.lines ++ d.groups.map fun g => (g.name, .table (valuesOf g.lines))

/-- **A document is read** entry by entry to the end. -/
theorem entries_write (d : Document) (h : d.write.length < fuel) :
    ∃ last items, entries fuel ⟨[], []⟩ d.write = .ok ⟨last, items⟩ ∧ closeEntries items = d.values := by
  obtain ⟨hlines, -, -⟩ := List.nodup_append.1 d.distinct
  obtain ⟨left, hleft, htop⟩ := @entries_lines _ _ [] [] id adds_top d.lines (by simpa using hlines) h
  have hkeys : (d.lines.map Line.item).map Prod.fst = d.lines.map Line.key := by simp [Line.item]
  obtain ⟨last, hgroups⟩ := @entries_groups left (d.lines.map Line.item) [] d.groups (hkeys ▸ d.distinct) hleft
  refine ⟨last, _, htop.trans hgroups, ?_⟩
  have hgroup : ∀ groups : List Group, closeEntries (groups.map Group.item) =
      groups.map fun g => (g.name, .table (valuesOf g.lines)) := by
    intro groups
    induction groups with
    | nil => rfl
    | cons g groups ih =>
      rw [List.map_cons, Group.item, closeEntries, Item.close, closeEntries_lines, ih, List.map_cons]
  rw [closeEntries_append, closeEntries_lines, hgroup, values]

/-- **A document reads back**, behind a comment. -/
theorem read_write (d : Document) {comment : List Char} (h : ∀ c ∈ comment, isPlain c = true) :
    read (String.ofList ('#' :: (comment ++ '\n' :: d.write))) = .ok d.values := by
  have hmark : skipMark ('#' :: (comment ++ '\n' :: d.write)) = '#' :: (comment ++ '\n' :: d.write) := by
    rw [skipMark, if_neg (by decide)]
  have hgap : skipGap false ('#' :: (comment ++ '\n' :: d.write)) = skipGap false d.write := skipGap_comment h
  have hentries : ∀ n, entries (n + 1) ⟨[], []⟩ ('#' :: (comment ++ '\n' :: d.write)) =
      entries (n + 1) ⟨[], []⟩ d.write := fun n => by rw [entries, hgap, entries]
  obtain ⟨last, items, hread, hvalues⟩ := @entries_write (('#' :: (comment ++ '\n' :: d.write)).length + 1) d
    (by simp only [List.length_cons, List.length_append]; omega)
  rw [read, String.toList_ofList, hmark, hentries, hread]
  exact congrArg _ hvalues

end Document

end Toml

end Tangle
