import Tangle.Scissors.Pattern
import Mathlib.Data.List.Basic
/-!
# Marker patterns and the lines they take

A pattern takes a text that falls into one part for each piece, and the
matcher finds such parts whenever there are some (`accepts_iff_takes`).
For a marker pattern they put together to the marker's line and blanks
after it: a glyph of dashes or of blanks makes several divisions possible,
but never another text (`takes_pattern_iff`).

The written form of a pattern is a text of its own, and `Says` is what
such texts mean: a plain character, an escaped one, or the class of
blanks, once, counted, or starred. The written form of every pattern says
what the pattern takes (`reads_source_iff`), so that escaping loses
nothing and lets nothing else through.
-/

namespace Tangle

namespace Pattern

variable {p : Pattern} {text rest : List Char} {n : Nat} {P : Char → Prop}

/-- The texts that a piece takes. -/
def Piece.Takes : Piece → List Char → Prop
  | .dashes n, text => text = List.replicate n '-'
  | .literal t, text => text = t
  | .blanks, text => ∀ c ∈ text, Text.isBlank c

/-- The texts that fall into one part for each piece, in order. -/
def Takes : Pattern → List Char → Prop
  | [], text => text = []
  | piece :: p, text => ∃ front rest, text = front ++ rest ∧ piece.Takes front ∧ Takes p rest

/-! ## The matcher finds the parts -/

theorem dropDashes_eq_some_iff : dropDashes n text = some rest ↔ text = List.replicate n '-' ++ rest := by
  induction n generalizing text with
  | zero => simp [dropDashes]
  | succ n ih =>
    rw [List.replicate_succ, List.cons_append]
    cases text with
    | nil => simp [dropDashes]
    | cons c text =>
      by_cases hc : c = '-'
      · rw [hc, dropDashes, ih, List.cons_inj_right]
      · refine iff_of_false ?_ fun h => hc (List.cons.inj h).1
        rw [dropDashes]
        · simp
        · exact fun _ h => hc (List.cons.inj h).1

theorem skipBlanks_iff {f : List Char → Bool} : skipBlanks f text = true ↔
    ∃ front rest, text = front ++ rest ∧ (∀ c ∈ front, Text.isBlank c) ∧ f rest = true := by
  induction text with
  | nil =>
    rw [skipBlanks]
    constructor
    · exact fun h => ⟨[], [], rfl, by simp, h⟩
    · rintro ⟨front, rest, heq, -, h⟩
      rwa [(List.append_eq_nil_iff.1 heq.symm).2] at h
  | cons c text ih =>
    rw [skipBlanks, Bool.or_eq_true, Bool.and_eq_true, ih]
    constructor
    · rintro (h | ⟨hc, front, rest, rfl, hfront, h⟩)
      · exact ⟨[], c :: text, rfl, by simp, h⟩
      · exact ⟨c :: front, rest, rfl, List.forall_mem_cons.2 ⟨hc, hfront⟩, h⟩
    · rintro ⟨front, rest, heq, hfront, h⟩
      cases front with
      | nil => exact Or.inl (heq ▸ h)
      | cons d front =>
        obtain ⟨rfl, rfl⟩ := List.cons.inj heq
        obtain ⟨hc, hfront⟩ := List.forall_mem_cons.1 hfront
        exact Or.inr ⟨hc, front, rest, rfl, hfront, h⟩

/-- **The matcher accepts what the pattern takes**: it misses no way to
divide a text among the pieces. -/
theorem accepts_iff_takes : accepts p text = true ↔ Takes p text := by
  induction p generalizing text with
  | nil => rw [accepts, Takes, List.isEmpty_iff]
  | cons piece p ih =>
    rw [Takes]
    cases piece with
    | dashes n =>
      rw [accepts]
      cases hdrop : dropDashes n text with
      | none =>
        refine iff_of_false (by simp) ?_
        rintro ⟨front, rest, heq, rfl, -⟩
        rw [dropDashes_eq_some_iff.2 heq] at hdrop
        cases hdrop
      | some rest =>
        obtain rfl := dropDashes_eq_some_iff.1 hdrop
        constructor
        · exact fun h => ⟨_, rest, rfl, rfl, ih.1 h⟩
        · rintro ⟨front, rest', heq, rfl, h⟩
          rw [List.append_cancel_left heq]
          exact ih.2 h
    | literal t =>
      rw [accepts, Bool.and_eq_true, List.isPrefixOf_iff_prefix]
      constructor
      · rintro ⟨⟨rest, rfl⟩, h⟩
        rw [List.drop_left] at h
        exact ⟨t, rest, rfl, rfl, ih.1 h⟩
      · rintro ⟨front, rest, rfl, rfl, h⟩
        refine ⟨List.prefix_append _ _, ?_⟩
        rw [List.drop_left]
        exact ih.2 h
    | blanks =>
      rw [accepts, skipBlanks_iff]
      simp only [ih, Piece.Takes]

/-! ## What a written pattern says -/

/-- The characters that are not themselves where they stand unescaped. -/
def operators : List Char :=
  ['\\', '.', '+', '*', '?', '(', ')', '|', '[', ']', '\x7b', '\x7d', '^', '$']

/-- **What stands for one character**, and for which ones. -/
inductive Single : List Char → (Char → Prop) → Prop
  /-- A plain character is itself. -/
  | plain {c : Char} : c ∉ operators → Single [c] (· = c)
  /-- So is a special one after a backslash. -/
  | escaped {c : Char} : c ∈ special → Single ['\\', c] (· = c)
  /-- A backslash and an `s` are any blank. -/
  | blank : Single ['\\', 's'] (Text.isBlank ·)

/-- **What a written pattern says of a text**, from some place in it to
the end of the line. -/
inductive Says : List Char → List Char → Prop
  /-- A dollar is the end of the line. -/
  | stop : Says ['$'] []
  /-- A character as written, and the rest. -/
  | once {a source text : List Char} {P : Char → Prop} {c : Char} :
      Single a P → P c → Says source text → Says (a ++ source) (c :: text)
  /-- A number in braces repeats what precedes it as often as it says. -/
  | counted {a source front text : List Char} {P : Char → Prop} {n : Nat} :
      Single a P → front.length = n → (∀ c ∈ front, P c) → Says source text →
      Says (a ++ '\x7b' :: ((toString n).toList ++ '\x7d' :: source)) (front ++ text)
  /-- A star repeats what precedes it any number of times. -/
  | starred {a source front text : List Char} {P : Char → Prop} :
      Single a P → (∀ c ∈ front, P c) → Says source text → Says (a ++ '*' :: source) (front ++ text)

/-- A written pattern for whole lines: a caret is the start of the line. -/
def Reads (source text : List Char) : Prop := ∃ body, source = '^' :: body ∧ Says body text

variable {a b source source' : List Char} {Q : Char → Prop}

/-- A text that does not go on with a sign of repetition. -/
def Fresh (source : List Char) : Prop := ∀ c ∈ source.head?, c ≠ '*' ∧ c ≠ '\x7b'

/-- What stands for one character can be read in one way only. -/
theorem Single.unique (ha : Single a P) (hb : Single b Q) (h : a ++ source = b ++ source') :
    a = b ∧ P = Q ∧ source = source' := by
  cases ha with
  | plain hc =>
    cases hb with
    | plain => simp_all
    | escaped => exact absurd (List.cons.inj h).1 fun hc' => hc (hc' ▸ by decide)
    | blank => exact absurd (List.cons.inj h).1 fun hc' => hc (hc' ▸ by decide)
  | escaped hc =>
    cases hb with
    | plain hc' => exact absurd (List.cons.inj h).1 fun h => hc' (h ▸ by decide)
    | escaped => simp_all
    | blank => exact absurd (List.cons.inj (List.cons.inj h).2).1 fun h => absurd (h ▸ hc) (by decide)
  | blank =>
    cases hb with
    | plain hc' => exact absurd (List.cons.inj h).1 fun h => hc' (h ▸ by decide)
    | escaped hc' =>
      exact absurd (List.cons.inj (List.cons.inj h).2).1 fun h => absurd (h ▸ hc') (by decide)
    | blank => simp_all

theorem Single.fresh (h : Single a P) : Fresh (a ++ source) := by
  rintro c hc
  cases h with
  | plain hop =>
    cases hc
    exact ⟨fun h => hop (h ▸ by decide), fun h => hop (h ▸ by decide)⟩
  | escaped | blank =>
    cases hc
    decide

theorem Says.fresh (h : Says source text) : Fresh source := by
  cases h with
  | stop => rintro c ⟨⟩; decide
  | once ha | counted ha | starred ha => exact ha.fresh

/-- The end of the line stands for no character. -/
theorem Single.ne_stop (h : Single a P) : a ++ source ≠ ['$'] := by
  intro heq
  cases h with
  | plain hc => exact hc ((List.cons.inj heq).1 ▸ by decide)
  | escaped | blank => exact absurd (List.cons.inj heq).1 (by decide)

theorem says_stop_iff : Says ['$'] text ↔ text = [] := by
  refine ⟨fun h => ?_, fun h => h ▸ .stop⟩
  generalize hs : ['$'] = source at h
  cases h with
  | stop => rfl
  | once ha | counted ha | starred ha => exact absurd hs.symm ha.ne_stop

/-- **What follows what stands for one character** decides how often it is
said: a number in braces, a star, or neither. -/
theorem says_append (ha : Single a P) (h : Says (a ++ source) text) :
    (∃ c rest, text = c :: rest ∧ P c ∧ Says source rest) ∨
    (∃ n source' front rest, source = '\x7b' :: ((toString n).toList ++ '\x7d' :: source') ∧
      text = front ++ rest ∧ front.length = n ∧ (∀ c ∈ front, P c) ∧ Says source' rest) ∨
    ∃ source' front rest, source = '*' :: source' ∧ text = front ++ rest ∧ (∀ c ∈ front, P c) ∧
      Says source' rest := by
  generalize hs : a ++ source = whole at h
  cases h with
  | stop => exact absurd hs ha.ne_stop
  | once hb hc h =>
    obtain ⟨-, rfl, rfl⟩ := ha.unique hb hs
    exact Or.inl ⟨_, _, rfl, hc, h⟩
  | counted hb hlen hall h =>
    obtain ⟨-, rfl, rfl⟩ := ha.unique hb hs
    exact Or.inr (Or.inl ⟨_, _, _, _, rfl, rfl, hlen, hall, h⟩)
  | starred hb hall h =>
    obtain ⟨-, rfl, rfl⟩ := ha.unique hb hs
    exact Or.inr (Or.inr ⟨_, _, _, rfl, rfl, hall, h⟩)

theorem says_once_iff (ha : Single a P) (hs : Fresh source) : Says (a ++ source) text ↔
    ∃ c rest, text = c :: rest ∧ P c ∧ Says source rest := by
  constructor
  · intro h
    rcases says_append ha h with h | ⟨n, source', front, rest, rfl, -⟩ | ⟨source', front, rest, rfl, -⟩
    · exact h
    · exact absurd rfl (hs _ rfl).2
    · exact absurd rfl (hs _ rfl).1
  · rintro ⟨c, rest, rfl, hc, h⟩
    exact .once ha hc h

/-- A number in braces ends where its closing brace stands. -/
theorem count_unique {m n : Nat} (h : (toString m).toList ++ '\x7d' :: source =
    (toString n).toList ++ '\x7d' :: source') : m = n ∧ source = source' := by
  have hdigits : ∀ n : Nat, (toString n).toList = Nat.toDigits 10 n := fun n => by simp
  -- a closing brace is no digit, so the digits are what stands before the first
  have hcut : ∀ (n : Nat) (source : List Char),
      (Nat.toDigits 10 n ++ '\x7d' :: source).takeWhile Char.isDigit = Nat.toDigits 10 n := by
    intro n source
    rw [List.takeWhile_append_of_pos fun c hc =>
      Nat.isDigit_of_mem_toDigits (by decide) (by decide) hc]
    simp [Char.isDigit]
  rw [hdigits, hdigits] at h
  have htext : Nat.toDigits 10 m = Nat.toDigits 10 n := by
    rw [← hcut m source, h, hcut]
  have hnumber := congrArg (Nat.ofDigitChars 10 · 0) htext
  rw [htext] at h
  simp only [Nat.ofDigitChars_toDigits (show 1 < 10 by decide) (Nat.le_refl 10)] at hnumber
  exact ⟨hnumber, (List.cons.inj (List.append_cancel_left h)).2⟩

theorem says_counted_iff (ha : Single a P) :
    Says (a ++ '\x7b' :: ((toString n).toList ++ '\x7d' :: source)) text ↔
      ∃ front rest, text = front ++ rest ∧ front.length = n ∧ (∀ c ∈ front, P c) ∧ Says source rest := by
  constructor
  · intro h
    rcases says_append ha h with ⟨c, rest, -, -, h⟩ | ⟨m, source', front, rest, heq, htext, hlen, hall, h⟩ |
      ⟨source', front, rest, heq, -⟩
    · exact absurd rfl (h.fresh _ rfl).2
    · obtain ⟨rfl, rfl⟩ := count_unique (List.cons.inj heq).2
      exact ⟨front, rest, htext, hlen, hall, h⟩
    · exact absurd (List.cons.inj heq).1 (by decide)
  · rintro ⟨front, rest, rfl, hlen, hall, h⟩
    exact .counted ha hlen hall h

theorem says_starred_iff (ha : Single a P) : Says (a ++ '*' :: source) text ↔
    ∃ front rest, text = front ++ rest ∧ (∀ c ∈ front, P c) ∧ Says source rest := by
  constructor
  · intro h
    rcases says_append ha h with ⟨c, rest, -, -, h⟩ | ⟨m, source', front, rest, heq, -⟩ |
      ⟨source', front, rest, heq, htext, hall, h⟩
    · exact absurd rfl (h.fresh _ rfl).1
    · exact absurd (List.cons.inj heq).1 (by decide)
    · rw [(List.cons.inj heq).2]
      exact ⟨front, rest, htext, hall, h⟩
  · rintro ⟨front, rest, rfl, hall, h⟩
    exact .starred ha hall h

/-! ## The written form of a pattern -/

/-- A character, escaped where it is special, stands for itself. -/
theorem single_escape (c : Char) : Single (escape [c]) (· = c) := by
  by_cases hc : c ∈ special
  · rw [escape, List.flatMap_singleton, if_pos hc]
    exact .escaped hc
  · rw [escape, List.flatMap_singleton, if_neg hc]
    have hsub : operators.all (· ∈ special) = true := by decide
    exact .plain fun h => hc (by simpa using List.all_eq_true.1 hsub c h)

theorem escape_cons (c : Char) (t : List Char) : escape (c :: t) = escape [c] ++ escape t := by
  simp [escape]

theorem fresh_escape {t : List Char} (hs : Fresh source) : Fresh (escape t ++ source) := by
  cases t with
  | nil => exact hs
  | cons c t =>
    rw [escape_cons, List.append_assoc]
    exact (single_escape c).fresh

/-- **An escaped text says itself.** -/
theorem says_escape_iff {t : List Char} (hs : Fresh source) : Says (escape t ++ source) text ↔
    ∃ rest, text = t ++ rest ∧ Says source rest := by
  induction t generalizing text with
  | nil => exact ⟨fun h => ⟨text, rfl, h⟩, fun ⟨rest, heq, h⟩ => heq ▸ h⟩
  | cons c t ih =>
    rw [escape_cons, List.append_assoc, says_once_iff (single_escape c) (fresh_escape hs)]
    simp only [ih]
    constructor
    · rintro ⟨d, rest, rfl, rfl, rest', rfl, h⟩
      exact ⟨rest', rfl, h⟩
    · rintro ⟨rest, rfl, h⟩
      exact ⟨c, t ++ rest, rfl, rfl, rest, rfl, h⟩

/-- The written form of a piece, and what follows it. -/
theorem source_append (piece : Piece) (source : List Char) : piece.source ++ source =
    match piece with
    | .dashes n => ['-'] ++ '\x7b' :: ((toString n).toList ++ '\x7d' :: source)
    | .literal t => escape t ++ source
    | .blanks => ['\\', 's'] ++ '*' :: source := by
  cases piece <;> simp [Piece.source]

theorem fresh_source (p : Pattern) : Fresh (p.flatMap Piece.source ++ ['$']) := by
  induction p with
  | nil =>
    rintro c ⟨⟩
    decide
  | cons piece p ih =>
    rw [List.flatMap_cons, List.append_assoc, source_append]
    cases piece with
    | dashes n => exact (Single.plain (by decide)).fresh
    | literal t => exact fresh_escape ih
    | blanks => exact Single.blank.fresh

theorem says_source_iff : Says (p.flatMap Piece.source ++ ['$']) text ↔ Takes p text := by
  induction p generalizing text with
  | nil => exact says_stop_iff
  | cons piece p ih =>
    -- the piece is read off the front, and what follows it starts afresh
    rw [List.flatMap_cons, List.append_assoc, source_append, Takes]
    cases piece with
    | dashes n =>
      simp only [says_counted_iff (Single.plain (c := '-') (by decide)), ih, Piece.Takes,
        List.eq_replicate_iff, and_assoc]
    | literal t =>
      rw [says_escape_iff (fresh_source p)]
      simp only [ih, Piece.Takes]
      constructor
      · exact fun ⟨rest, heq, h⟩ => ⟨t, rest, heq, rfl, h⟩
      · rintro ⟨front, rest, heq, rfl, h⟩
        exact ⟨rest, heq, h⟩
    | blanks => simp only [says_starred_iff Single.blank, ih, Piece.Takes]

/-- **The written form of a pattern says what the pattern takes.** -/
theorem reads_source_iff : Reads p.source.toList text ↔ Takes p text := by
  rw [Reads, source, String.toList_ofList, ← says_source_iff]
  constructor
  · rintro ⟨body, heq, h⟩
    obtain rfl := (List.cons.inj heq).2
    exact h
  · exact fun h => ⟨_, rfl, h⟩

end Pattern

namespace Markers

open Pattern

variable {m : Markers} {glyph : String}

/-- A marker's line, with nothing but blanks after it. -/
def Shows (line content : String) : Prop :=
  ∃ blanks, content.toList = line.toList ++ blanks ∧ ∀ c ∈ blanks, Text.isBlank c

/-- A line that shows a marker does so with more blanks. -/
theorem Shows.append {line content content' : String} {blanks : List Char} (h : Shows line content)
    (hblanks : ∀ c ∈ blanks, Text.isBlank c) (heq : content'.toList = content.toList ++ blanks) :
    Shows line content' := by
  obtain ⟨front, hfront, hall⟩ := h
  refine ⟨front ++ blanks, by rw [heq, hfront, List.append_assoc], fun c hc => ?_⟩
  exact (List.mem_append.1 hc).elim (hall c) (hblanks c)

/-- A line that shows a marker with dashes begins with one. -/
theorem Shows.head?_eq {content : String} (h : Shows (m.line glyph) content) (hdashes : 1 ≤ m.dashes) :
    content.toList.head? = some '-' := by
  obtain ⟨blanks, heq, -⟩ := h
  obtain ⟨n, hn⟩ := Nat.exists_eq_add_of_le' hdashes
  rw [heq, line, String.toList_ofList, hn]
  rfl

/-- **A marker pattern takes the marker's line and blanks after it.** How
a line falls apart into dashes and glyph is not unique where the glyph has
dashes of its own; what the parts put together to is. -/
theorem takes_pattern_iff {content : String} :
    Takes (m.pattern glyph) content.toList ↔ Shows (m.line glyph) content := by
  simp only [pattern, Takes, Piece.Takes, Shows, line, String.toList_ofList]
  constructor
  · -- the parts are dashes, glyph, dashes and blanks, and nothing is left
    rintro ⟨_, _, heq, rfl, _, _, rfl, rfl, _, _, rfl, rfl, blanks, _, rfl, hblanks, rfl⟩
    exact ⟨blanks, by simpa using heq, hblanks⟩
  · rintro ⟨blanks, heq, hblanks⟩
    exact ⟨_, _, by rw [heq, List.append_assoc, List.append_assoc], rfl, _, _, rfl, rfl, _, _, rfl, rfl,
      blanks, [], (List.append_nil _).symm, hblanks, rfl⟩

end Markers

namespace Scissors

open Markers

variable {m : Markers} {s : Scissors}

/-- What compiles is what the markers say. -/
theorem eq_of_compile (h : compile m = .ok s) : s = ⟨m.openPattern, m.closePattern⟩ := by
  unfold compile at h
  split at h
  · exact (Except.ok.inj h).symm
  · cases h

theorem isOpen_iff_shows (h : compile m = .ok s) {content : String} :
    s.isOpen content = true ↔ Shows m.openLine content := by
  rw [eq_of_compile h, isOpen, Pattern.accepts_iff_takes]
  exact takes_pattern_iff

theorem isClose_iff_shows (h : compile m = .ok s) {content : String} :
    s.isClose content = true ↔ Shows m.closeLine content := by
  rw [eq_of_compile h, isClose, Pattern.accepts_iff_takes]
  exact takes_pattern_iff

/-- **Markers are recognised as they are written.** Of compiled markers,
the pattern of opening lines accepts the line that they write for opening
a range, with nothing but blanks after it, and no other; so does the
pattern of closing lines. The written form of either pattern says the
same. -/
theorem marks_iff_shows (h : compile m = .ok s) (content : String) :
    ((s.isOpen content = true ↔ Shows m.openLine content) ∧
      (s.isClose content = true ↔ Shows m.closeLine content)) ∧
    (Pattern.Reads s.opens.source.toList content.toList ↔ Shows m.openLine content) ∧
    (Pattern.Reads s.closes.source.toList content.toList ↔ Shows m.closeLine content) := by
  refine ⟨⟨isOpen_iff_shows h, isClose_iff_shows h⟩, ?_⟩
  rw [eq_of_compile h, Pattern.reads_source_iff, Pattern.reads_source_iff]
  exact ⟨takes_pattern_iff, takes_pattern_iff⟩

/-- Markers without dashes: a glyph of operators that ends in a blank
opens a range, and the empty glyph closes it. -/
def oddMarkers : Markers := ⟨0, "-a.*(\\s)+$ ", ""⟩

/-- With more blanks the opening line opens a range, in whichever form,
and a line of blanks closes it. -/
theorem oddMarkers_shown : ∃ s, compile oddMarkers = .ok s ∧
    s.isOpen "-a.*(\\s)+$  \u3000\r" = true ∧ s.isClose " \t" = true ∧ s.isOpen "-a.*(\\s)+$" = false ∧
    Pattern.Reads s.opens.source.toList "-a.*(\\s)+$  \u3000\r".toList := by
  have hs : compile oddMarkers = .ok ⟨oddMarkers.openPattern, oddMarkers.closePattern⟩ := rfl
  have hopen : Shows oddMarkers.openLine "-a.*(\\s)+$  \u3000\r" :=
    ⟨" \u3000\r".toList, by decide, List.all_eq_true.1 rfl⟩
  have hclose : Shows oddMarkers.closeLine " \t" := ⟨" \t".toList, by decide, List.all_eq_true.1 rfl⟩
  exact ⟨_, hs, (marks_iff_shows hs _).1.1.2 hopen, (marks_iff_shows hs _).1.2.2 hclose, by decide,
    (marks_iff_shows hs _).2.1.2 hopen⟩

end Scissors

end Tangle
