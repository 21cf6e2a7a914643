import Mathlib.Data.List.Basic
import Tangle.Toml.Moment
/-!
# Reading numbers back

A natural number in decimal, at the end of a line, reads back as itself if
it fits (`number_toString`), and is not taken for the beginning of a date
or a time (`moment_toString`).
-/

namespace Tangle

namespace Toml

variable {c d : Char} {ds s rest : List Char} {base n : Nat}

/-! ## Digits -/

theorem isDecimal_eq (c : Char) : isDecimal c = c.isDigit := rfl

theorem ne_of_isDigit (h : d.isDigit = true) (hc : c.isDigit = false) : d ≠ c := by
  rintro rfl
  rw [hc] at h
  cases h

theorem digitValue?_of_isDigit (h : c.isDigit = true) : digitValue? c = some (c.toNat - 0x30) := by
  rw [digitValue?, isDecimal_eq, if_pos h]

theorem isDigitOf_of_isDigit (h : c.isDigit = true) : isDigitOf 10 c = true := by
  rw [isDigitOf, digitValue?_of_isDigit h]
  simp only [Char.isDigit, Bool.and_eq_true, decide_eq_true_eq, ge_iff_le, UInt32.le_iff_toNat_le] at h
  have hle : c.toNat ≤ 57 := h.2
  simp only [decide_eq_true_eq]
  omega

theorem ofDigits_eq (h : ∀ c ∈ ds, c.isDigit = true) : ofDigits 10 ds = Nat.ofDigitChars 10 ds 0 := by
  rw [ofDigits, Nat.ofDigitChars_eq_foldl]
  refine List.foldl_ext _ _ _ fun m c hc => ?_
  rw [digitValue?_of_isDigit (h c hc), Nat.mul_comm]
  rfl

/-- Digits are taken up to the first character that is none. -/
theorem takeDigits_append (h : ∀ c ∈ ds, isDigitOf base c = true) (hrest : takeDigits base rest = ([], rest)) :
    takeDigits base (ds ++ rest) = (ds, rest) := by
  induction ds with
  | nil => exact hrest
  | cons d ds ih =>
    rw [List.cons_append, takeDigits, if_pos (h d List.mem_cons_self), ih fun c hc => h c (List.mem_cons_of_mem _ hc)]

theorem digitChar_ne_zero : ∀ n < 10, 0 < n → Nat.digitChar n ≠ '0' := by decide

/-- No zero is in front of the digits of a number. -/
theorem head?_toDigits (h : 0 < n) : (Nat.toDigits 10 n).head? ≠ some '0' := by
  induction n using Nat.strongRecOn with
  | ind n ih =>
    by_cases hlt : n < 10
    · rw [Nat.toDigits_of_lt_base hlt]
      exact fun heq => digitChar_ne_zero n hlt h (Option.some.inj heq)
    · rw [Nat.toDigits_of_base_le (by decide) (Nat.not_lt.1 hlt), List.head?_append_of_ne_nil _ Nat.toDigits_ne_nil]
      exact ih _ (by omega) (by omega)

theorem isDigit_of_mem_toDigits (h : c ∈ Nat.toDigits 10 n) : c.isDigit = true :=
  Nat.isDigit_of_mem_toDigits (by decide) (by decide) h

theorem ofDigits_toDigits (n : Nat) : ofDigits 10 (Nat.toDigits 10 n) = n := by
  rw [ofDigits_eq fun c => isDigit_of_mem_toDigits, Nat.ofDigitChars_ten_toDigits]

/-! ## At the end of a line -/

theorem wholeDigits_toDigits (n : Nat) (rest : List Char) :
    wholeDigits (Nat.toDigits 10 n ++ '\n' :: rest) = some (Nat.toDigits 10 n, '\n' :: rest) := by
  rcases Nat.eq_zero_or_pos n with rfl | hpos
  · rfl
  have hdigits : ∀ c ∈ Nat.toDigits 10 n, isDigitOf 10 c = true := fun c hc =>
    isDigitOf_of_isDigit (isDigit_of_mem_toDigits hc)
  obtain ⟨d, ds, hds⟩ := List.exists_cons_of_ne_nil (@Nat.toDigits_ne_nil n 10)
  have hzero : d ≠ '0' := fun heq => head?_toDigits hpos (by rw [hds, heq]; rfl)
  rw [hds] at hdigits ⊢
  rw [List.cons_append, wholeDigits, digits, if_pos (hdigits d List.mem_cons_self), ← List.cons_append,
    takeDigits_append hdigits rfl]
  exact fun s heq => hzero (List.cons.inj heq).1

theorem intPow_eq : Int.pow 2 63 = Nat.pow 2 63 := by decide +kernel

theorem fitting?_natCast (h : n < Nat.pow 2 63) : fitting? (n : Int) = some (.integer n) := by
  rw [fitting?, intPow_eq]
  generalize Nat.pow 2 63 = bound at h ⊢
  rw [if_pos (by omega)]

/-- Digits at the end of a line are a whole number. The end of the line is a
variable here, so that nothing is evaluated that it does not decide. -/
theorem decimal_of_wholeDigits {line : List Char} (h : wholeDigits s = some (ds, line)) (hline : line = '\n' :: rest) :
    decimal false s = (fitting? (ofDigits 10 ds)).map (·, line) := by
  rw [decimal, h, Option.bind_eq_bind, Option.bind_some]
  split
  rename_i heq
  cases heq
  split
  · cases hline
  · cases hline
  · cases hline
  · rfl

theorem decimal_toDigits (h : n < Nat.pow 2 63) (rest : List Char) :
    decimal false (Nat.toDigits 10 n ++ '\n' :: rest) = some (.integer n, '\n' :: rest) := by
  rw [decimal_of_wholeDigits (wholeDigits_toDigits n rest) rfl, ofDigits_toDigits, fitting?_natCast h, Option.map_some]

/-- Behind the digits of a number, more digits or a line feed follow. -/
theorem isDigit_or_of_head? (h : ∀ c ∈ ds, c.isDigit = true) (hc : (ds ++ '\n' :: rest).head? = some c) :
    c.isDigit = true ∨ c = '\n' := by
  cases ds with
  | nil => exact Or.inr (Option.some.inj hc).symm
  | cons d ds => exact Or.inl (h c (Option.some.inj hc ▸ List.mem_cons_self))

/-- **A number at the end of a line reads back.** -/
theorem number_toDigits (h : n < Nat.pow 2 63) (rest : List Char) :
    number (Nat.toDigits 10 n ++ '\n' :: rest) = some (.integer n, '\n' :: rest) := by
  have hdigits : ∀ c ∈ Nat.toDigits 10 n, c.isDigit = true := fun c => isDigit_of_mem_toDigits
  have hdecimal := decimal_toDigits h rest
  obtain ⟨d, ds, hds⟩ := List.exists_cons_of_ne_nil (@Nat.toDigits_ne_nil n 10)
  rw [hds] at hdigits hdecimal ⊢
  have hfirst := hdigits d List.mem_cons_self
  have hsecond := fun c => @isDigit_or_of_head? c ds rest fun c hc => hdigits c (List.mem_cons_of_mem _ hc)
  rw [List.cons_append] at hdecimal ⊢
  rw [number.eq_def]
  split
  · exact absurd (List.cons.inj ‹_›).1 (ne_of_isDigit hfirst rfl)
  · exact absurd (List.cons.inj ‹_›).1 (ne_of_isDigit hfirst rfl)
  · rename_i heq
    exact absurd (hsecond 'x' (by rw [(List.cons.inj heq).2]; rfl)) (by decide)
  · rename_i heq
    exact absurd (hsecond 'o' (by rw [(List.cons.inj heq).2]; rfl)) (by decide)
  · rename_i heq
    exact absurd (hsecond 'b' (by rw [(List.cons.inj heq).2]; rfl)) (by decide)
  · rw [unsigned.eq_def]
    split
    · exact absurd (List.cons.inj ‹_›).1 (ne_of_isDigit hfirst rfl)
    · exact absurd (List.cons.inj ‹_›).1 (ne_of_isDigit hfirst rfl)
    · exact hdecimal

/-! ## Dates and times -/

/-- Behind digits that have been counted off comes no other character than a
digit or a line feed. -/
theorem afterChar?_of_fixedDigits {count lo hi v : Nat} (hdigits : ∀ c ∈ ds, c.isDigit = true)
    (hnone : c.isDigit = false) (hline : c ≠ '\n')
    (h : fixedDigits count lo hi (ds ++ '\n' :: rest) = some (v, s)) : afterChar? c s = none := by
  rw [fixedDigits] at h
  split at h
  swap
  · cases h
  rename_i hcond
  simp only [Bool.and_eq_true, decide_eq_true_eq] at hcond
  obtain ⟨⟨⟨hlen, hall⟩, -⟩, -⟩ := hcond
  have hcount : count ≤ ds.length := by
    by_contra hlt
    obtain ⟨k, hk⟩ : ∃ k, count - ds.length = k + 1 := ⟨count - ds.length - 1, by omega⟩
    rw [List.take_append, hk] at hall
    exact absurd (List.all_eq_true.1 hall '\n' (by simp)) (by decide)
  obtain ⟨-, rfl⟩ := Prod.mk.inj (Option.some.inj h)
  rw [List.drop_append_of_le_length hcount]
  cases hdrop : ds.drop count with
  | nil => rw [List.nil_append, afterChar?, if_neg (Ne.symm hline)]
  | cons d ds' =>
    have hd := hdigits d (List.mem_of_mem_drop (i := count) (hdrop ▸ List.mem_cons_self))
    rw [List.cons_append, afterChar?, if_neg (ne_of_isDigit hd hnone)]

/-- A number at the end of a line is not the beginning of a date or a time. -/
theorem moment_toDigits (n : Nat) (rest : List Char) : moment (Nat.toDigits 10 n ++ '\n' :: rest) = none := by
  have hdigits : ∀ c ∈ Nat.toDigits 10 n, c.isDigit = true := fun c => isDigit_of_mem_toDigits
  have hdate : afterDate? (Nat.toDigits 10 n ++ '\n' :: rest) = none := by
    rw [afterDate?]
    cases h : fixedDigits 4 0 9999 (Nat.toDigits 10 n ++ '\n' :: rest) with
    | none => rfl
    | some p =>
      have hnone := @afterChar?_of_fixedDigits '-' _ p.2 rest 4 0 9999 p.1 hdigits (by decide) (by decide) h
      simp [hnone]
  have htime : afterTime? (Nat.toDigits 10 n ++ '\n' :: rest) = none := by
    rw [afterTime?]
    cases h : fixedDigits 2 0 23 (Nat.toDigits 10 n ++ '\n' :: rest) with
    | none => rfl
    | some p =>
      have hnone := @afterChar?_of_fixedDigits ':' _ p.2 rest 2 0 23 p.1 hdigits (by decide) (by decide) h
      simp [hnone]
  rw [moment, hdate, htime]
  rfl

end Toml

end Tangle
