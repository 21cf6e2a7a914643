import Mathlib.Data.Option.Basic
import Tangle.Toml.Quoted
/-!
# Reading quoted texts back

Whatever text is quoted, in the way that shows it best, reads back as itself
(`string_quote`). In double quotes every character that could be taken for
something else is escaped, and an escape is read as the character it was
written for (`escape_escapeChar`). Between triple quotes a quote may stand
for itself; there the closing quotes are found because no more than two
come before them (`closes_or_goes_on`, `basicText_closes`).
-/

namespace Tangle

namespace Toml

variable {c q : Char} {s t text rest : List Char} {room run fuel : Nat}

/-! ## Characters -/

/-- Of the control characters only the tab is plain. -/
theorem isPlain_iff : isPlain c = true ↔ c = '\t' ∨ (0x20 ≤ c.toNat ∧ c.toNat ≠ 0x7F) := by
  simp [isPlain]

theorem ne_of_isPlain (h : isPlain c = true) : c ≠ '\n' ∧ c ≠ '\r' := by
  constructor <;> (rintro rfl; revert h; decide)

/-- No carriage return stands for itself. -/
theorem ne_return (h : c = '\n' ∨ isPlain c = true) : c ≠ '\r' := by
  rcases h with rfl | h
  · decide
  · exact (ne_of_isPlain h).2

/-- What is admitted is read on. -/
theorem guard_bind {α : Type} {p : Prop} [Decidable p] (h : p) (next : Option α) :
    (guard p >>= fun _ => next) = next := by
  rw [guard, if_pos h]
  rfl

theorem toNat_lt_of_needsEscape (h : needsEscape c = true) : c.toNat < 0x80 := by
  rw [needsEscape, Bool.and_eq_true, Bool.not_eq_true', ← Bool.not_eq_true, isPlain_iff] at h
  omega

theorem lineEnd?_cons (hline : c ≠ '\n') (hreturn : c ≠ '\r') : lineEnd? (c :: rest) = none := by
  rw [lineEnd?.eq_def]
  split
  · exact absurd (List.cons.inj ‹_›).1 hline
  · exact absurd (List.cons.inj ‹_›).1 hreturn
  · rfl

/-! ## Escapes -/

theorem scalar?_hexDigit : ∀ n < 0x80,
    scalar? ['0', '0', hexDigit (n / 16), hexDigit (n % 16)] = some (Char.ofNat n) := by decide

/-- **An escape is read as the character it was written for**, and is no line
end behind a backslash. -/
theorem escape_escapeChar (hc : c.toNat < 0x80) (rest : List Char) : ∃ d e, escapeChar c = '\\' :: d :: e ∧
    escape (d :: e ++ rest) = some (c, rest) ∧ afterBreak? (d :: e ++ rest) = none := by
  rw [escapeChar]
  split
  · exact ⟨_, _, rfl, ‹c = _› ▸ rfl, rfl⟩
  split
  · exact ⟨_, _, rfl, ‹c = _› ▸ rfl, rfl⟩
  split
  · exact ⟨_, _, rfl, ‹c = _› ▸ rfl, rfl⟩
  split
  · exact ⟨_, _, rfl, ‹c = _› ▸ rfl, rfl⟩
  split
  · exact ⟨_, _, rfl, ‹c = _› ▸ rfl, rfl⟩
  split
  · rename_i h
    rw [Bool.or_eq_true, decide_eq_true_eq, decide_eq_true_eq] at h
    rcases h with rfl | rfl <;> exact ⟨_, _, rfl, rfl, rfl⟩
  · refine ⟨_, _, rfl, ?_, rfl⟩
    have hscalar := scalar?_hexDigit c.toNat hc
    rw [Char.ofNat_toNat] at hscalar
    simp only [List.cons_append, List.nil_append, escape, List.take_succ_cons, List.take_zero, hscalar]
    simp

/-- **How a text is written between double quotes**: character by character,
as itself or as an escape. -/
theorem basicText_cons (room run : Nat) (c : Char) (s : List Char) :
    (c = '"' ∧ run < room ∧ basicText room run (c :: s) = '"' :: basicText room (run + 1) s) ∨
    (c.toNat < 0x80 ∧ basicText room run (c :: s) = escapeChar c ++ basicText room 0 s) ∨
    (c ≠ '"' ∧ c ≠ '\\' ∧ (isPlain c = true ∨ c = '\n' ∧ room ≠ 0) ∧
      basicText room run (c :: s) = c :: basicText room 0 s) := by
  rw [basicText]
  split
  · rename_i hquote
    split
    · exact Or.inl ⟨hquote, ‹_›, by rw [hquote]⟩
    · exact Or.inr (Or.inl ⟨hquote ▸ by decide, rfl⟩)
  rename_i hquote
  split
  · rename_i h
    refine Or.inr (Or.inl ⟨?_, rfl⟩)
    simp only [Bool.or_eq_true, decide_eq_true_eq, Bool.and_eq_true] at h
    rcases h with ((rfl | rfl) | h) | ⟨rfl, -⟩
    · decide
    · decide
    · exact toNat_lt_of_needsEscape h
    · decide
  · rename_i h
    simp only [Bool.or_eq_true, decide_eq_true_eq, Bool.and_eq_true, not_or, not_and, needsEscape, Bool.not_eq_true',
      Bool.not_eq_false] at h
    refine Or.inr (Or.inr ⟨hquote, h.1.1.1, ?_, rfl⟩)
    by_cases hline : c = '\n'
    · exact Or.inr ⟨hline, h.2 hline⟩
    · exact Or.inl (h.1.2 hline)

theorem length_escapeChar (hc : c.toNat < 0x80) : 0 < (escapeChar c).length := by
  obtain ⟨d, e, heq, -⟩ := escape_escapeChar hc []
  simp [heq]

/-! ## One line -/

theorem basicBody_escape (hc : c.toNat < 0x80) (h : basicBody fuel text = some (s, rest)) :
    basicBody (fuel + 1) (escapeChar c ++ text) = some (c :: s, rest) := by
  obtain ⟨d, e, heq, hescape, -⟩ := escape_escapeChar hc text
  rw [heq, List.cons_append, List.cons_append, basicBody, ← List.cons_append, hescape]
  simp [h]

theorem basicBody_plain (hquote : c ≠ '"') (hslash : c ≠ '\\') (hplain : isPlain c = true)
    (h : basicBody fuel text = some (s, rest)) : basicBody (fuel + 1) (c :: text) = some (c :: s, rest) := by
  rw [basicBody, guard_bind hplain, h]
  · rfl
  · exact hquote
  · exact hslash

/-- Between double quotes on one line a text reads back. -/
theorem basicBody_basicText (hfuel : (basicText 0 run s).length < fuel) :
    basicBody fuel (basicText 0 run s ++ '"' :: rest) = some (s, rest) := by
  obtain ⟨fuel, rfl⟩ : ∃ n, fuel = n + 1 := ⟨fuel - 1, by omega⟩
  induction s generalizing run fuel with
  | nil => rfl
  | cons c s ih =>
    have hnext : ∀ {run}, (basicText 0 run s).length < fuel →
        basicBody fuel (basicText 0 run s ++ '"' :: rest) = some (s, rest) := fun hlt => by
      obtain ⟨fuel, rfl⟩ : ∃ n, fuel = n + 1 := ⟨fuel - 1, by omega⟩
      exact ih fuel hlt
    rcases basicText_cons 0 run c s with ⟨-, hrun, -⟩ | ⟨hc, heq⟩ | ⟨hquote, hslash, hplain, heq⟩
    · cases hrun
    · have hpos := length_escapeChar hc
      rw [heq, List.length_append] at hfuel
      rw [heq, List.append_assoc]
      exact basicBody_escape hc (hnext (by omega))
    · rw [heq] at hfuel ⊢
      exact basicBody_plain hquote hslash (hplain.resolve_right fun h => h.2 rfl)
        (hnext (Nat.lt_of_succ_lt_succ hfuel))

theorem literalBody_eq (h : ∀ c ∈ s, isPlain c = true ∧ c ≠ '\'') :
    literalBody (s ++ '\'' :: rest) = some (s, rest) := by
  induction s with
  | nil => rfl
  | cons c s ih =>
    obtain ⟨hplain, hquote⟩ := h c List.mem_cons_self
    have hs := ih fun d hd => h d (List.mem_cons_of_mem _ hd)
    rw [List.cons_append, literalBody, guard_bind hplain, hs]
    · rfl
    · exact hquote

/-! ## Several lines -/

/-- One quote more leaves room for one less. -/
theorem not_replicate_cons_self (hrun : run < 3) (h : ¬ List.replicate (3 - (run + 1)) q <+: text) :
    ¬ List.replicate (3 - run) q <+: q :: text := by
  rw [show 3 - run = 3 - (run + 1) + 1 by omega, List.replicate_succ, List.cons_prefix_cons]
  exact fun hprefix => h hprefix.2

theorem not_replicate_cons (hrun : run < 3) (hne : c ≠ q) : ¬ List.replicate (3 - run) q <+: c :: text := by
  rw [show 3 - run = 3 - (run + 1) + 1 by omega, List.replicate_succ, List.cons_prefix_cons]
  exact fun hprefix => hne hprefix.1.symm

theorem le_longestRun (q : Char) (run : Nat) (s : List Char) : run ≤ longestRun q run s := by
  induction s generalizing run with
  | nil => exact Nat.le_refl _
  | cons c s ih =>
    rw [longestRun]
    split
    · exact Nat.le_trans (Nat.le_succ run) (ih _)
    · exact Nat.le_max_left _ _

/-- **Closing quotes do not come too early**: what is left of a text, after
`run` quotes, either is quotes only, or it keeps three of them from
standing in a row before the closing ones. -/
theorem closes_or_goes_on (h : longestRun q run s ≤ 2) (rest : List Char) :
    (∃ k ≤ 2 - run, s = List.replicate k q) ∨ ¬ List.replicate (3 - run) q <+: s ++ q :: q :: q :: rest := by
  induction s generalizing run with
  | nil => exact Or.inl ⟨0, Nat.zero_le _, rfl⟩
  | cons c s ih =>
    have hrun : run < 3 := Nat.lt_succ_of_le (Nat.le_trans (le_longestRun q run _) h)
    rw [longestRun] at h
    split at h
    · rename_i heq
      rw [heq]
      rcases ih h with ⟨k, hk, hs⟩ | hgo
      · have hle := Nat.le_trans (le_longestRun q (run + 1) s) h
        exact Or.inl ⟨k + 1, by omega, by rw [hs, List.replicate_succ]⟩
      · exact Or.inr (not_replicate_cons_self hrun hgo)
    · exact Or.inr (not_replicate_cons hrun ‹_›)

/-- The same for a text in which a third quote is escaped. -/
theorem basicText_closes (hrun : run ≤ 2) (s rest : List Char) :
    (∃ k ≤ 2 - run, s = List.replicate k '"') ∨
      ¬ List.replicate (3 - run) '"' <+: basicText 2 run s ++ '"' :: '"' :: '"' :: rest := by
  induction s generalizing run with
  | nil => exact Or.inl ⟨0, Nat.zero_le _, rfl⟩
  | cons c s ih =>
    have hlt := Nat.lt_succ_of_le hrun
    rcases basicText_cons 2 run c s with ⟨rfl, hroom, heq⟩ | ⟨hc, heq⟩ | ⟨hquote, -, -, heq⟩
    · rw [heq]
      rcases ih hroom with ⟨k, hk, hs⟩ | hgo
      · exact Or.inl ⟨k + 1, by omega, by rw [hs, List.replicate_succ]⟩
      · exact Or.inr (not_replicate_cons_self hlt hgo)
    · obtain ⟨d, e, hescape, -⟩ := escape_escapeChar hc []
      rw [heq, hescape]
      exact Or.inr (not_replicate_cons hlt (by decide))
    · rw [heq]
      exact Or.inr (not_replicate_cons hlt hquote)

/-- Three quotes in a row are not before what fewer are not before. -/
theorem not_three (h : ¬ List.replicate (3 - run) q <+: text) : ¬ [q, q, q] <+: text :=
  fun hthree => h (List.IsPrefix.trans ⟨List.replicate (3 - (3 - run)) q, by
    rw [List.replicate_append_replicate, show 3 - run + (3 - (3 - run)) = 3 by omega]
    rfl⟩ hthree)

theorem literalLines_close {k : Nat} (hk : k ≤ 2) (hrest : rest.head? ≠ some '\'') :
    literalLines (List.replicate k '\'' ++ '\'' :: '\'' :: '\'' :: rest) = some (List.replicate k '\'', rest) := by
  have hone : ∀ ds, rest = '\'' :: ds → False := fun ds h => hrest (by rw [h]; rfl)
  have htwo : ∀ ds, rest = '\'' :: '\'' :: ds → False := fun ds => hone _
  rcases k with _ | _ | _ | k
  · simp [literalLines]
  · simp [literalLines]
  · rfl
  · omega

theorem literalLines_step (hthree : ¬ ['\'', '\'', '\''] <+: c :: text) (hplain : c = '\n' ∨ isPlain c = true)
    (h : literalLines text = some (s, rest)) : literalLines (c :: text) = some (c :: s, rest) := by
  have hreturn := ne_return hplain
  rw [literalLines.eq_def]
  split
  · cases ‹_ = []›
  · exact absurd (‹_ = _› ▸ by simp) hthree
  · exact absurd (‹_ = _› ▸ by simp) hthree
  · exact absurd (‹_ = _› ▸ by simp) hthree
  · rename_i heq
    cases heq
    rw [guard_bind (by rcases hplain with rfl | hplain <;> simp_all), h]
    exact congrArg (fun t => some (t, rest)) (if_neg hreturn)

/-- Between triple single quotes a text reads back. -/
theorem literalLines_eq (hrun : longestRun '\'' run s ≤ 2) (hplain : ∀ c ∈ s, c = '\n' ∨ isPlain c = true)
    (hrest : rest.head? ≠ some '\'') :
    literalLines (s ++ '\'' :: '\'' :: '\'' :: rest) = some (s, rest) := by
  induction s generalizing run with
  | nil => exact literalLines_close (Nat.zero_le _) hrest
  | cons c s ih =>
    rcases closes_or_goes_on hrun rest with ⟨k, hk, hs⟩ | hgo
    · rw [hs]
      exact literalLines_close (by omega) hrest
    · refine literalLines_step (not_three hgo) (hplain c List.mem_cons_self) ?_
      have hnext : ∃ run, longestRun '\'' run s ≤ 2 := by
        rw [longestRun] at hrun
        split at hrun
        · exact ⟨_, hrun⟩
        · exact ⟨0, Nat.le_trans (Nat.le_max_right _ _) hrun⟩
      obtain ⟨run, hnext⟩ := hnext
      exact ih hnext fun d hd => hplain d (List.mem_cons_of_mem _ hd)

theorem basicLines_close {k : Nat} (hk : k ≤ 2) (hrest : rest.head? ≠ some '"') :
    basicLines (fuel + 1) (List.replicate k '"' ++ '"' :: '"' :: '"' :: rest) = some (List.replicate k '"', rest) := by
  have hone : ∀ ds, rest = '"' :: ds → False := fun ds h => hrest (by rw [h]; rfl)
  have htwo : ∀ ds, rest = '"' :: '"' :: ds → False := fun ds => hone _
  rcases k with _ | _ | _ | k
  · simp [basicLines]
  · simp [basicLines]
  · rfl
  · omega

theorem basicLines_escape (hc : c.toNat < 0x80) (h : basicLines fuel text = some (s, rest)) :
    basicLines (fuel + 1) (escapeChar c ++ text) = some (c :: s, rest) := by
  obtain ⟨d, e, heq, hescape, hbreak⟩ := escape_escapeChar hc text
  rw [heq, List.cons_append, List.cons_append, basicLines, ← List.cons_append, hbreak, hescape]
  simp [h]

theorem basicLines_step (hthree : ¬ ['"', '"', '"'] <+: c :: text) (hslash : c ≠ '\\')
    (hplain : c = '\n' ∨ isPlain c = true) (h : basicLines fuel text = some (s, rest)) :
    basicLines (fuel + 1) (c :: text) = some (c :: s, rest) := by
  have hreturn := ne_return hplain
  rw [basicLines.eq_def]
  split
  · cases ‹_ = 0›
  · cases ‹_ = []›
  · exact absurd (‹_ = _› ▸ by simp) hthree
  · exact absurd (‹_ = _› ▸ by simp) hthree
  · exact absurd (‹_ = _› ▸ by simp) hthree
  · exact absurd (List.cons.inj ‹_ = _ :: _›).1 hslash
  · exact absurd (List.cons.inj ‹_ = _ :: _›).1 hreturn
  · rename_i hfuel heq
    cases hfuel
    cases heq
    rw [guard_bind (by rcases hplain with rfl | hplain <;> simp_all), h]
    rfl

theorem basicText_replicate {k : Nat} (h : run + k ≤ room) :
    basicText room run (List.replicate k '"') = List.replicate k '"' := by
  induction k generalizing run with
  | zero => rfl
  | succ k ih =>
    rw [List.replicate_succ, basicText, if_pos rfl, if_pos (by omega), ih (by omega)]

/-- Between triple double quotes a text reads back. -/
theorem basicLines_basicText (hrun : run ≤ 2) (hfuel : (basicText 2 run s).length < fuel)
    (hrest : rest.head? ≠ some '"') :
    basicLines fuel (basicText 2 run s ++ '"' :: '"' :: '"' :: rest) = some (s, rest) := by
  obtain ⟨fuel, rfl⟩ : ∃ n, fuel = n + 1 := ⟨fuel - 1, by omega⟩
  induction s generalizing run fuel with
  | nil => exact @basicLines_close rest fuel 0 (Nat.zero_le _) hrest
  | cons c s ih =>
    have hnext : ∀ {run}, run ≤ 2 → (basicText 2 run s).length < fuel →
        basicLines fuel (basicText 2 run s ++ '"' :: '"' :: '"' :: rest) = some (s, rest) := fun hrun hlt => by
      obtain ⟨fuel, rfl⟩ : ∃ n, fuel = n + 1 := ⟨fuel - 1, by omega⟩
      exact ih hrun fuel hlt
    rcases basicText_closes hrun (c :: s) rest with ⟨k, hk, hs⟩ | hgo
    · rw [hs, basicText_replicate (by omega)]
      exact basicLines_close (by omega) hrest
    replace hgo := not_three hgo
    rcases basicText_cons 2 run c s with ⟨rfl, hroom, heq⟩ | ⟨hc, heq⟩ | ⟨hquote, hslash, hplain, heq⟩
    · rw [heq] at hfuel hgo ⊢
      exact basicLines_step hgo (by decide) (Or.inr (by decide)) (hnext hroom (Nat.lt_of_succ_lt_succ hfuel))
    · have hpos := length_escapeChar hc
      rw [heq, List.length_append] at hfuel
      rw [heq, List.append_assoc]
      exact basicLines_escape hc (hnext (Nat.zero_le _) (by omega))
    · rw [heq] at hfuel hgo ⊢
      exact basicLines_step hgo hslash (hplain.symm.imp_left And.left)
        (hnext (Nat.zero_le _) (Nat.lt_of_succ_lt_succ hfuel))

/-! ## The way that shows a text best -/

/-- Without quotes that escape, a text is only quoted where it can be shown. -/
theorem ofText_cases (s : List Char) : Style.ofText s = .basic ∨ Style.ofText s = .tripleBasic ∨
    (Style.ofText s = .literal ∧ Style.literal.shows s = true) ∨
    (Style.ofText s = .tripleLiteral ∧ Style.tripleLiteral.shows s = true) := by
  rw [Style.ofText]
  cases h : [Style.basic, .literal, .tripleBasic, .tripleLiteral].find? fun style => style.shows s with
  | none =>
    cases s.contains '\n' with
    | false => exact Or.inl rfl
    | true => exact Or.inr (Or.inl rfl)
  | some style =>
    have hshows := @List.find?_some _ (fun style => Style.shows style s) _ _ h
    have hmem := List.mem_of_find?_eq_some h
    simp only [List.mem_cons, List.not_mem_nil, or_false] at hmem
    rcases hmem with rfl | rfl | rfl | rfl
    · exact Or.inl rfl
    · exact Or.inr (Or.inr (Or.inl ⟨rfl, hshows⟩))
    · exact Or.inr (Or.inl rfl)
    · exact Or.inr (Or.inr (Or.inr ⟨rfl, hshows⟩))

/-- What a style shows is plain, but for line feeds, and leaves room for the
closing quotes. -/
theorem of_shows {style : Style} (h : style.shows s = true) : (∀ c ∈ s, c = '\n' ∨ isPlain c = true) ∧
    longestRun style.quote 0 s ≤ style.room ∧ (style.tripled = false → '\n' ∉ s) := by
  simp only [Style.shows, Bool.and_eq_true, Bool.or_eq_true, Bool.not_eq_true', decide_eq_true_eq] at h
  obtain ⟨⟨⟨hplain, hrun⟩, -⟩, hline⟩ := h
  refine ⟨fun c hc => ?_, hrun, fun hone => ?_⟩
  · have hnone := List.any_eq_false.1 hplain c hc
    rw [needsEscape, Bool.and_eq_true, decide_eq_true_eq, Bool.not_eq_true', not_and, Bool.not_eq_false] at hnone
    exact Classical.or_iff_not_imp_left.2 hnone
  · rw [hone] at hline
    simpa using hline

theorem notMem_of_longestRun (h : longestRun q 0 s ≤ 0) : q ∉ s := by
  induction s with
  | nil => exact List.not_mem_nil
  | cons c s ih =>
    rw [longestRun] at h
    split at h
    · exact absurd (Nat.le_trans (le_longestRun q (0 + 1) s) h) (by decide)
    · rename_i hne
      rw [Nat.max_le] at h
      exact List.not_mem_cons_of_ne_of_not_mem (Ne.symm hne) (ih h.2)

theorem string_of_line (hdouble : ¬ ['"', '"', '"'] <+: text) (hsingle : ¬ ['\'', '\'', '\''] <+: text) :
    string text = lineString text := by
  rw [string.eq_def]
  split
  · exact absurd (by simp) hdouble
  · exact absurd (by simp) hsingle
  · rfl

/-- Two quotes in a row, at the beginning or around nothing, are not three. -/
theorem not_three_quoted (hbody : s.head? ≠ some q) (hrest : rest.head? ≠ some q) :
    ¬ [q, q, q] <+: q :: (s ++ q :: rest) := by
  rw [List.cons_prefix_cons]
  rintro ⟨-, hprefix⟩
  cases s with
  | nil =>
    obtain ⟨more, hmore⟩ := (List.cons_prefix_cons.1 hprefix).2
    exact hrest (by rw [← hmore]; rfl)
  | cons c s => exact hbody (congrArg some (List.cons_prefix_cons.1 hprefix).1.symm)

/-- No quote is written first where none has room. -/
theorem head?_basicText (s : List Char) : (basicText 0 0 s).head? ≠ some '"' := by
  cases s with
  | nil => exact fun h => nomatch h
  | cons c s =>
    rcases basicText_cons 0 0 c s with ⟨-, hrun, -⟩ | ⟨hc, heq⟩ | ⟨hquote, -, -, heq⟩
    · cases hrun
    · obtain ⟨d, e, hescape, -⟩ := escape_escapeChar hc []
      rw [heq, hescape]
      exact fun h => absurd (Option.some.inj h) (by decide)
    · rw [heq]
      exact fun h => hquote (Option.some.inj h)

theorem string_basic (s : List Char) (hrest : rest.head? ≠ some '"') :
    string (quoteAs s .basic ++ rest) = some (s, rest) := by
  have htext : quoteAs s .basic ++ rest = '"' :: (basicText 0 0 s ++ '"' :: rest) := by
    simp [quoteAs, Style.basic, Style.escapes, Style.room]
  rw [htext, string_of_line (not_three_quoted (head?_basicText s) hrest) (by simp), lineString]
  exact basicBody_basicText (by simp only [List.length_append]; omega)

theorem string_literal (h : Style.literal.shows s = true) (hrest : rest.head? ≠ some '\'') :
    string (quoteAs s .literal ++ rest) = some (s, rest) := by
  obtain ⟨hplain, hrun, hline⟩ := of_shows h
  have hquote := notMem_of_longestRun hrun
  have htext : quoteAs s .literal ++ rest = '\'' :: (s ++ '\'' :: rest) := by
    simp [quoteAs, Style.literal, Style.escapes]
  have hhead : s.head? ≠ some '\'' := fun h => hquote (List.mem_of_head? h)
  rw [htext, string_of_line (by simp) (not_three_quoted hhead hrest), lineString]
  refine literalBody_eq fun c hc => ⟨(hplain c hc).resolve_left ?_, ?_⟩
  · rintro rfl
    exact hline rfl hc
  · rintro rfl
    exact hquote hc

/-- The line feed that is put in front of a text with line feeds is skipped,
and nothing else is. -/
theorem skipLineEnd_gap {gap : Bool} (h : gap = false → lineEnd? text = none) :
    skipLineEnd ((if gap then ['\n'] else []) ++ text) = text := by
  cases gap with
  | false =>
    change skipLineEnd text = text
    rw [skipLineEnd, h rfl, Option.getD_none]
  | true => rfl

theorem string_tripleBasic (s : List Char) (hrest : rest.head? ≠ some '"') :
    string (quoteAs s .tripleBasic ++ rest) = some (s, rest) := by
  have htext : quoteAs s .tripleBasic ++ rest = '"' :: '"' :: '"' ::
      ((if s.contains '\n' then ['\n'] else []) ++ (basicText 2 0 s ++ '"' :: '"' :: '"' :: rest)) := by
    simp [quoteAs, Style.tripleBasic, Style.escapes, Style.room]
  rw [htext, string, skipLineEnd_gap]
  · exact basicLines_basicText (Nat.zero_le _) (by simp only [List.length_append]; omega) hrest
  · intro hgap
    cases s with
    | nil => rfl
    | cons c s =>
      rcases basicText_cons 2 0 c s with ⟨-, -, heq⟩ | ⟨hc, heq⟩ | ⟨-, -, hplain, heq⟩
      · rw [heq]
        rfl
      · obtain ⟨d, e, hescape, -⟩ := escape_escapeChar hc []
        rw [heq, hescape]
        rfl
      · have hline : c ≠ '\n' := by
          rintro rfl
          simp at hgap
        rw [heq]
        exact lineEnd?_cons hline (ne_of_isPlain (hplain.resolve_right fun h => hline h.1)).2

theorem string_tripleLiteral (h : Style.tripleLiteral.shows s = true) (hrest : rest.head? ≠ some '\'') :
    string (quoteAs s .tripleLiteral ++ rest) = some (s, rest) := by
  obtain ⟨hplain, hrun, -⟩ := of_shows h
  have htext : quoteAs s .tripleLiteral ++ rest = '\'' :: '\'' :: '\'' ::
      ((if s.contains '\n' then ['\n'] else []) ++ (s ++ '\'' :: '\'' :: '\'' :: rest)) := by
    simp [quoteAs, Style.tripleLiteral, Style.escapes]
  rw [htext, string, skipLineEnd_gap]
  · exact literalLines_eq hrun hplain hrest
  · intro hgap
    cases s with
    | nil => rfl
    | cons c s =>
      have hline : c ≠ '\n' := by
        rintro rfl
        simp at hgap
      exact lineEnd?_cons hline (ne_of_isPlain ((hplain c List.mem_cons_self).resolve_left hline)).2

/-- **A text that is quoted reads back.** -/
theorem string_quote (s : String) (hdouble : rest.head? ≠ some '"') (hsingle : rest.head? ≠ some '\'') :
    string (quote s ++ rest) = some (s.toList, rest) := by
  rw [quote]
  rcases ofText_cases s.toList with h | h | ⟨h, hshows⟩ | ⟨h, hshows⟩ <;> rw [h]
  · exact string_basic _ hdouble
  · exact string_tripleBasic _ hdouble
  · exact string_literal hshows hsingle
  · exact string_tripleLiteral hshows hsingle

end Toml

end Tangle
