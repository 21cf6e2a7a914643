import Tangle.Text.Utf8
import Mathlib.Data.List.Basic
/-!
# What decoding keeps

Text survives being written as bytes and read back, whatever bytes follow
it (`decode_encode_append`). Of arbitrary bytes the decoder keeps the ASCII
ones: a byte below 0x80 stands for itself, and every other character that
it yields is no ASCII character. The latter rests on what every pending
character keeps (`Pending.Sound`): however it is completed, its value is
one of a character, and at least 0x80.
-/

namespace Tangle

namespace Utf8

variable {bytes : Bytes} {b : UInt8} {c : Char} {p : Pending} {n v : Nat}

/-! ## First bytes and next bytes -/

/-- The first byte of a character, by its value. -/
theorem first_eq (b : UInt8) : first b =
    if b.toNat < 0x80 then ([Char.ofNat b.toNat], none)
    else if b.toNat < 0xC2 then ([replacement], none)
    else if b.toNat < 0xE0 then ([], some ⟨0, b.toNat % 32, 0x80, 0xBF⟩)
    else if b.toNat = 0xE0 then ([], some ⟨1, 0, 0xA0, 0xBF⟩)
    else if b.toNat = 0xED then ([], some ⟨1, 13, 0x80, 0x9F⟩)
    else if b.toNat < 0xF0 then ([], some ⟨1, b.toNat % 16, 0x80, 0xBF⟩)
    else if b.toNat = 0xF0 then ([], some ⟨2, 0, 0x90, 0xBF⟩)
    else if b.toNat < 0xF4 then ([], some ⟨2, b.toNat % 8, 0x80, 0xBF⟩)
    else if b.toNat = 0xF4 then ([], some ⟨2, 4, 0x80, 0x8F⟩)
    else ([replacement], none) := by
  simp only [first, UInt8.lt_iff_toNat_lt, ← UInt8.toNat_inj]
  rfl

/-- A byte in range completes a character. -/
theorem next_last {value : Nat} {lo hi : UInt8} (hlo : lo.toNat ≤ b.toNat) (hhi : b.toNat ≤ hi.toNat) :
    next (some ⟨0, value, lo, hi⟩) b = ([Char.ofNat (value * 64 + b.toNat % 64)], none) := by
  rw [next, if_pos ⟨UInt8.le_iff_toNat_le.2 hlo, UInt8.le_iff_toNat_le.2 hhi⟩]

/-- Or it leaves fewer to come. -/
theorem next_more {more value : Nat} {lo hi : UInt8} (hlo : lo.toNat ≤ b.toNat)
    (hhi : b.toNat ≤ hi.toNat) : next (some ⟨more + 1, value, lo, hi⟩) b =
      ([], some ⟨more, value * 64 + b.toNat % 64, 0x80, 0xBF⟩) := by
  rw [next, if_pos ⟨UInt8.le_iff_toNat_le.2 hlo, UInt8.le_iff_toNat_le.2 hhi⟩]

theorem decodeFrom_cons (pending : Option Pending) (b : UInt8) (bytes : Bytes) :
    decodeFrom pending (b :: bytes) = (next pending b).1 ++ decodeFrom (next pending b).2 bytes := by
  cases pending <;> rfl

/-! ## Text survives -/

/-- The lead byte of two. -/
theorem first_lead₂ (h : n < 32) (h' : 2 ≤ n) :
    first (UInt8.ofNat (n % 0x20 + 0xC0)) = ([], some ⟨0, n, 0x80, 0xBF⟩) := by
  revert n
  decide

/-- The lead byte of three: overlong forms and surrogates are excluded. -/
theorem first_lead₃ (h : n < 16) : first (UInt8.ofNat (n % 0x10 + 0xE0)) =
    ([], some ⟨1, n, if n = 0 then 0xA0 else 0x80, if n = 13 then 0x9F else 0xBF⟩) := by
  revert n
  decide

/-- The lead byte of four: overlong forms and values beyond Unicode are. -/
theorem first_lead₄ (h : n < 5) : first (UInt8.ofNat (n % 0x08 + 0xF0)) =
    ([], some ⟨2, n, if n = 0 then 0x90 else 0x80, if n = 4 then 0x8F else 0xBF⟩) := by
  revert n
  decide

theorem toNat_continuation (n : Nat) : (UInt8.ofNat (n % 0x40 + 0x80)).toNat = n % 0x40 + 0x80 :=
  UInt8.toNat_ofNat_of_lt' (by simp only [UInt8.size]; omega)

/-- The last continuation byte of a character. -/
theorem decodeFrom_last {value : Nat} (n : Nat) (bytes : Bytes) :
    decodeFrom (some ⟨0, value, 0x80, 0xBF⟩) (UInt8.ofNat (n % 0x40 + 0x80) :: bytes) =
      Char.ofNat (value * 64 + n % 64) :: decodeFrom none bytes := by
  have hb := toNat_continuation n
  have hlo : (0x80 : UInt8).toNat = 0x80 := rfl
  have hhi : (0xBF : UInt8).toNat = 0xBF := rfl
  rw [decodeFrom_cons, next_last (by omega) (by omega), hb, List.singleton_append,
    show (n % 0x40 + 0x80) % 64 = n % 64 by omega]

/-- One before the last. -/
theorem decodeFrom_more {more value : Nat} {lo hi : UInt8} (n : Nat) (bytes : Bytes)
    (hlo : lo.toNat ≤ n % 0x40 + 0x80) (hhi : n % 0x40 + 0x80 ≤ hi.toNat) :
    decodeFrom (some ⟨more + 1, value, lo, hi⟩) (UInt8.ofNat (n % 0x40 + 0x80) :: bytes) =
      decodeFrom (some ⟨more, value * 64 + n % 64, 0x80, 0xBF⟩) bytes := by
  have hb := toNat_continuation n
  rw [decodeFrom_cons, next_more (by rwa [hb]) (by rwa [hb]), hb, List.nil_append,
    show (n % 0x40 + 0x80) % 64 = n % 64 by omega]

/-- The first two bytes of three: where the lead has no bits the next has
the highest, and where it leads surrogates it has not. -/
theorem decodeFrom_lead₃ (k : Nat) (bytes : Bytes) (h : n < 16) (hlo : n = 0 → 0x20 ≤ k % 64)
    (hhi : n = 13 → k % 64 < 0x20) :
    decodeFrom none (UInt8.ofNat (n % 0x10 + 0xE0) :: UInt8.ofNat (k % 0x40 + 0x80) :: bytes) =
      decodeFrom (some ⟨0, n * 64 + k % 64, 0x80, 0xBF⟩) bytes := by
  rw [decodeFrom_cons, next, first_lead₃ h, List.nil_append, decodeFrom_more] <;>
    rw [apply_ite UInt8.toNat] <;> simp only [UInt8.reduceToNat] <;> split <;> omega

/-- And of four. -/
theorem decodeFrom_lead₄ (k : Nat) (bytes : Bytes) (h : n < 5) (hlo : n = 0 → 0x10 ≤ k % 64)
    (hhi : n = 4 → k % 64 < 0x10) :
    decodeFrom none (UInt8.ofNat (n % 0x08 + 0xF0) :: UInt8.ofNat (k % 0x40 + 0x80) :: bytes) =
      decodeFrom (some ⟨1, n * 64 + k % 64, 0x80, 0xBF⟩) bytes := by
  rw [decodeFrom_cons, next, first_lead₄ h, List.nil_append, decodeFrom_more] <;>
    rw [apply_ite UInt8.toNat] <;> simp only [UInt8.reduceToNat] <;> split <;> omega

/-- The value of a character is no surrogate and within Unicode. -/
theorem val_bounds (c : Char) :
    c.val.toNat < 0xD800 ∨ 0xDFFF < c.val.toNat ∧ c.val.toNat < 0x110000 := c.valid

/-- **A character that was written is read back.** The cases are those of
its length. -/
theorem decodeFrom_encodeChar (c : Char) (bytes : Bytes) :
    decodeFrom none (String.utf8EncodeChar c ++ bytes) = c :: decodeFrom none bytes := by
  have hvalid := val_bounds c
  have hc : Char.ofNat c.val.toNat = c := Char.ofNat_toNat c
  generalize hv : c.val.toNat = v at hvalid hc
  rw [String.utf8EncodeChar, hv]
  by_cases h₁ : v ≤ 0x7F
  · have hb : (UInt8.ofNat v).toNat = v :=
      UInt8.toNat_ofNat_of_lt' (by simp only [UInt8.size]; omega)
    rw [if_pos h₁, List.singleton_append, decodeFrom_cons, next, first_eq, hb, if_pos (by omega), hc]
    rfl
  by_cases h₂ : v ≤ 0x7FF
  · rw [if_neg h₁, if_pos h₂, List.cons_append, List.cons_append, List.nil_append, decodeFrom_cons,
      next, first_lead₂ (by omega) (by omega), List.nil_append, decodeFrom_last,
      show v / 64 * 64 + v % 64 = v by omega, hc]
  by_cases h₃ : v ≤ 0xFFFF
  · rw [if_neg h₁, if_neg h₂, if_pos h₃, List.cons_append, List.cons_append, List.cons_append,
      List.nil_append, decodeFrom_lead₃ _ _ (by omega) (by omega) (by omega), decodeFrom_last,
      show (v / 4096 * 64 + v / 64 % 64) * 64 + v % 64 = v by omega, hc]
  · rw [if_neg h₁, if_neg h₂, if_neg h₃, List.cons_append, List.cons_append, List.cons_append,
      List.cons_append, List.nil_append, decodeFrom_lead₄ _ _ (by omega) (by omega) (by omega),
      decodeFrom_more _ _ (by simp) (by simp; omega), decodeFrom_last,
      show ((v / 262144 * 64 + v / 4096 % 64) * 64 + v / 64 % 64) * 64 + v % 64 = v by omega, hc]

/-- **Text that was written is read back**, and then what follows it. -/
theorem decode_encode_append (text : List Char) (bytes : Bytes) :
    decode (encode text ++ bytes) = text ++ decode bytes := by
  induction text with
  | nil => rfl
  | cons c text ih =>
    rw [encode, List.flatMap_cons, List.append_assoc, decode, decodeFrom_encodeChar,
      List.cons_append, ← ih]
    rfl

theorem decode_encode (text : List Char) : decode (encode text) = text := by
  have h := decode_encode_append text []
  rwa [List.append_nil, show decode [] = [] from rfl, List.append_nil] at h

theorem text?_ofString (s : String) : text? (ofString s) = some s := by
  rw [text?, text, ofString, decode_encode, if_pos rfl, String.ofList_toList]

/-- An ASCII byte of a character is all of it. -/
theorem mem_encodeChar (hb : b.toNat < 0x80) (h : b ∈ String.utf8EncodeChar c) :
    c.toNat = b.toNat := by
  have hlarge : ∀ n k m : Nat, 0 < k → k + m ≤ 256 → 0x80 ≤ m →
      b ≠ UInt8.ofNat (n % k + m) := by
    rintro n k m hk hm hm' rfl
    have := Nat.mod_lt n hk
    rw [UInt8.toNat_ofNat_of_lt' (by simp only [UInt8.size]; omega)] at hb
    omega
  rw [String.utf8EncodeChar] at h
  by_cases hone : c.val.toNat ≤ 0x7F
  · rw [if_pos hone, List.mem_singleton] at h
    rw [h, UInt8.toNat_ofNat_of_lt' (by simp only [UInt8.size]; omega)]
    rfl
  · rw [if_neg hone] at h
    split at h
    · simp only [List.mem_cons, List.not_mem_nil, or_false] at h
      rcases h with h | h <;> exact absurd h (hlarge _ _ _ (by decide) (by decide) (by decide))
    · split at h <;> simp only [List.mem_cons, List.not_mem_nil, or_false] at h
      · rcases h with h | h | h <;>
          exact absurd h (hlarge _ _ _ (by decide) (by decide) (by decide))
      · rcases h with h | h | h | h <;>
          exact absurd h (hlarge _ _ _ (by decide) (by decide) (by decide))

/-- **ASCII bytes of a written text are characters of it.** -/
theorem mem_encode {text : List Char} (hb : b.toNat < 0x80) (h : b ∈ encode text) :
    Char.ofNat b.toNat ∈ text := by
  obtain ⟨c, hc, hmem⟩ := List.mem_flatMap.1 h
  rwa [← mem_encodeChar hb hmem, Char.ofNat_toNat]

/-! ## Bytes of text -/

/-- The value of a character without its last six bits is one that no
overlong form, surrogate or value beyond Unicode has. -/
def Leads (value : Nat) : Prop :=
  2 ≤ value ∧ value < 0x4400 ∧ ¬ (0x360 ≤ value ∧ value < 0x380)

/-- **However it is completed, a pending character has the value of one
outside ASCII.** -/
def Pending.Sound (p : Pending) : Prop :=
  match p.more with
  | 0 => Leads p.value
  | 1 => ∀ b : UInt8, p.lo.toNat ≤ b.toNat → b.toNat ≤ p.hi.toNat →
      Leads (p.value * 64 + b.toNat % 64)
  | 2 => ∀ b : UInt8, p.lo.toNat ≤ b.toNat → b.toNat ≤ p.hi.toNat →
      0x10 ≤ p.value * 64 + b.toNat % 64 ∧ p.value * 64 + b.toNat % 64 < 0x110
  | _ => False

/-- **A first byte is ASCII, or no character, or it leaves one pending that
is sound.** -/
theorem first_cases (b : UInt8) :
    (b.toNat < 0x80 ∧ first b = ([Char.ofNat b.toNat], none)) ∨
      (0x80 ≤ b.toNat ∧ first b = ([replacement], none)) ∨
      (0x80 ≤ b.toNat ∧ ∃ p : Pending, p.Sound ∧ first b = ([], some p)) := by
  have hfirst := first_eq b
  split_ifs at hfirst with h₁ h₂ h₃
  · exact Or.inl ⟨h₁, hfirst⟩
  · exact Or.inr (Or.inl ⟨Nat.le_of_not_lt h₁, hfirst⟩)
  · refine Or.inr (Or.inr ⟨Nat.le_of_not_lt h₁, _, ?_, hfirst⟩)
    simp only [Pending.Sound, Leads]
    omega
  case neg => exact Or.inr (Or.inl ⟨Nat.le_of_not_lt h₁, hfirst⟩)
  all_goals
    refine Or.inr (Or.inr ⟨Nat.le_of_not_lt h₁, _, ?_, hfirst⟩)
    intro d hlo hhi
    simp only [UInt8.reduceToNat, Leads] at hlo hhi ⊢
    omega

/-- What a continuation byte leaves is sound. -/
theorem Pending.Sound.step {more value : Nat} {lo hi : UInt8}
    (h : Pending.Sound ⟨more + 1, value, lo, hi⟩) (hlo : lo.toNat ≤ b.toNat)
    (hhi : b.toNat ≤ hi.toNat) :
    Pending.Sound ⟨more, value * 64 + b.toNat % 64, 0x80, 0xBF⟩ := by
  match more with
  | 0 => exact h b hlo hhi
  | 1 =>
    obtain ⟨h₁, h₂⟩ := h b hlo hhi
    intro d _ _
    simp only [Leads] at h₁ h₂ ⊢
    omega
  | _ + 2 => exact h.elim

theorem toNat_char {value : Nat} (h : Leads value) (n : Nat) :
    (Char.ofNat (value * 64 + n % 64)).toNat = value * 64 + n % 64 := by
  obtain ⟨h₁, h₂, h₃⟩ := h
  have hvalid : (value * 64 + n % 64).isValidChar := by
    rw [Nat.isValidChar]
    omega
  rw [Char.ofNat, dif_pos hvalid]
  rfl

/-- **A pending character comes out as one outside ASCII.** -/
theorem decodeFrom_some (h : p.Sound) (bytes : Bytes) :
    ∃ c text, decodeFrom (some p) bytes = c :: text ∧ 0x80 ≤ c.toNat := by
  induction bytes generalizing p with
  | nil => exact ⟨replacement, [], rfl, by decide⟩
  | cons b bytes ih =>
    obtain ⟨more, value, lo, hi⟩ := p
    by_cases hb : lo.toNat ≤ b.toNat ∧ b.toNat ≤ hi.toNat
    · cases more with
      | zero =>
        have hleads : Leads value := h
        have hval := toNat_char hleads b.toNat
        refine ⟨_, decodeFrom none bytes, by rw [decodeFrom_cons, next_last hb.1 hb.2]; rfl, ?_⟩
        have := hleads.1
        omega
      | succ more =>
        rw [decodeFrom_cons, next_more hb.1 hb.2, List.nil_append]
        exact ih (h.step hb.1 hb.2)
    · have hno : ¬ (lo ≤ b ∧ b ≤ hi) := fun h => hb
        ⟨UInt8.le_iff_toNat_le.1 h.1, UInt8.le_iff_toNat_le.1 h.2⟩
      exact ⟨replacement, _, by rw [decodeFrom_cons, next, if_neg hno]; rfl, by decide⟩

/-- A byte outside ASCII begins a character outside ASCII. -/
theorem decode_cons_of_not_ascii (h : 0x80 ≤ b.toNat) (bytes : Bytes) :
    ∃ c text, decode (b :: bytes) = c :: text ∧ 0x80 ≤ c.toNat := by
  rw [decode, decodeFrom_cons, next]
  rcases first_cases b with ⟨hb, -⟩ | ⟨-, hf⟩ | ⟨-, p, hp, hf⟩
  · omega
  · exact ⟨replacement, _, by rw [hf]; rfl, by decide⟩
  · rw [hf]
    exact decodeFrom_some hp bytes

theorem toNat_ascii (h : n < 0x80) : (Char.ofNat n).toNat = n := by
  have hvalid : n.isValidChar := Or.inl (by omega)
  rw [Char.ofNat, dif_pos hvalid]
  rfl

/-- **An ASCII byte stands for itself.** -/
theorem decode_cons_of_ascii (h : b.toNat < 0x80) (bytes : Bytes) :
    decode (b :: bytes) = Char.ofNat b.toNat :: decode bytes := by
  rw [decode, decodeFrom_cons, next, first_eq, if_pos h]
  rfl

/-- **ASCII characters stand where their bytes stand**: a text begins with
one if and only if the bytes do. -/
theorem decode_eq_cons_iff (hc : c.toNat < 0x80) {text : List Char} : decode bytes = c :: text ↔
    ∃ rest, bytes = UInt8.ofNat c.toNat :: rest ∧ decode rest = text := by
  cases bytes with
  | nil => simp [decode, decodeFrom]
  | cons b bytes =>
    by_cases hb : b.toNat < 0x80
    · rw [decode_cons_of_ascii hb, List.cons.injEq]
      constructor
      · rintro ⟨rfl, rfl⟩
        refine ⟨bytes, ?_, rfl⟩
        rw [toNat_ascii hb, UInt8.ofNat_toNat]
      · rintro ⟨rest, heq, rfl⟩
        injection heq with hbyte htail
        refine ⟨?_, by rw [htail]⟩
        rw [hbyte, UInt8.toNat_ofNat_of_lt' (by simp only [UInt8.size]; omega), Char.ofNat_toNat]
    · obtain ⟨d, text', heq, hd⟩ := decode_cons_of_not_ascii (Nat.le_of_not_lt hb) bytes
      rw [heq, List.cons.injEq]
      constructor
      · rintro ⟨rfl, -⟩
        omega
      · rintro ⟨rest, hbytes, -⟩
        injection hbytes with hbyte
        rw [hbyte, UInt8.toNat_ofNat_of_lt' (by simp only [UInt8.size]; omega)] at hb
        exact absurd hc hb

theorem mem_first (hc : c.toNat < 0x80) (h : c ∈ (first b).1) : UInt8.ofNat c.toNat = b := by
  rcases first_cases b with ⟨hb, hf⟩ | ⟨-, hf⟩ | ⟨-, p, -, hf⟩
  · rw [hf, List.mem_singleton] at h
    rw [h, toNat_ascii hb, UInt8.ofNat_toNat]
  · rw [hf, List.mem_singleton] at h
    exact absurd hc (by rw [h]; decide)
  · rw [hf] at h
    cases h

theorem first_sound (h : (first b).2 = some p) : p.Sound := by
  rcases first_cases b with ⟨-, hf⟩ | ⟨-, hf⟩ | ⟨-, q, hq, hf⟩ <;> rw [hf] at h <;> cases h
  exact hq

/-- **No ASCII character is made up**: each that is read was a byte. -/
theorem mem_decodeFrom (hc : c.toNat < 0x80) {pending : Option Pending}
    (hp : ∀ p, pending = some p → p.Sound) (h : c ∈ decodeFrom pending bytes) :
    UInt8.ofNat c.toNat ∈ bytes := by
  have hrep : c ≠ replacement := fun h => absurd hc (by rw [h]; decide)
  induction bytes generalizing pending with
  | nil =>
    cases pending with
    | none => simp [decodeFrom] at h
    | some p => exact absurd (List.mem_singleton.1 h) hrep
  | cons b bytes ih =>
    rw [decodeFrom_cons, List.mem_append] at h
    -- a byte that does not continue the pending character is read as a first byte
    have hfirst : c ∈ (first b).1 ∨ c ∈ decodeFrom (first b).2 bytes →
        UInt8.ofNat c.toNat ∈ b :: bytes := by
      rintro (h | h)
      · rw [mem_first hc h]
        exact List.mem_cons_self
      · exact List.mem_cons_of_mem _ (ih (fun p => first_sound) h)
    cases pending with
    | none => exact hfirst h
    | some p =>
      have hsound := hp p rfl
      obtain ⟨more, value, lo, hi⟩ := p
      by_cases hb : lo.toNat ≤ b.toNat ∧ b.toNat ≤ hi.toNat
      · refine List.mem_cons_of_mem _ ?_
        cases more with
        | zero =>
          have hleads : Leads value := hsound
          rw [next_last hb.1 hb.2, List.mem_singleton] at h
          rcases h with rfl | h
          · have := toNat_char hleads b.toNat
            have := hleads.1
            omega
          · exact ih (fun p hp => by cases hp) h
        | succ more =>
          rw [next_more hb.1 hb.2] at h
          rcases h with h | h
          · cases h
          · refine ih (fun p hp => ?_) h
            injection hp with hp
            exact hp ▸ hsound.step hb.1 hb.2
      · have hno : ¬ (lo ≤ b ∧ b ≤ hi) := fun h => hb
          ⟨UInt8.le_iff_toNat_le.1 h.1, UInt8.le_iff_toNat_le.1 h.2⟩
        rw [next, if_neg hno, List.mem_cons] at h
        rcases h with (h | h) | h
        · exact absurd h hrep
        · exact hfirst (Or.inl h)
        · exact hfirst (Or.inr h)

theorem mem_decode (hc : c.toNat < 0x80) (h : c ∈ decode bytes) : UInt8.ofNat c.toNat ∈ bytes :=
  mem_decodeFrom hc (fun _ hp => by cases hp) h

/-! ## Bytes cut at an ASCII byte -/

/-- No pending character goes on with an ASCII byte. -/
def Beyond (pending : Option Pending) : Prop := ∀ p ∈ pending, 0x80 ≤ p.lo.toNat

theorem beyond_first (b : UInt8) : Beyond (first b).2 := by
  intro p hp
  have hfirst := first_eq b
  split_ifs at hfirst <;> rw [hfirst] at hp <;> cases hp <;> simp

theorem Beyond.next {pending : Option Pending} (b : UInt8) : Beyond (next pending b).2 := by
  cases pending with
  | none => exact beyond_first b
  | some p =>
    obtain ⟨more, value, lo, hi⟩ := p
    by_cases hb : lo ≤ b ∧ b ≤ hi
    · rw [Utf8.next, if_pos hb]
      cases more with
      | zero => rintro _ ⟨⟩
      | succ more =>
        rintro _ ⟨⟩
        exact Nat.le_refl 0x80
    · rw [Utf8.next, if_neg hb]
      exact beyond_first b

/-- **An ASCII byte cuts what is pending**: what comes before it is read as
if it ended there, and what comes after it as if it began there. -/
theorem decodeFrom_append_ascii {pending : Option Pending} (hp : Beyond pending)
    (hb : b.toNat < 0x80) (before after : Bytes) : decodeFrom pending (before ++ b :: after) =
      decodeFrom pending before ++ Char.ofNat b.toNat :: decode after := by
  induction before generalizing pending with
  | nil =>
    cases pending with
    | none => exact decode_cons_of_ascii hb after
    | some p =>
      have hno : ¬ (p.lo ≤ b ∧ b ≤ p.hi) := fun h => by
        have := hp p rfl
        have := UInt8.le_iff_toNat_le.1 h.1
        omega
      rw [List.nil_append, decodeFrom_cons, next, if_neg hno, first_eq, if_pos hb]
      rfl
  | cons d before ih =>
    rw [List.cons_append, decodeFrom_cons, decodeFrom_cons, ih (.next d), List.append_assoc]

theorem decode_append_ascii (hb : b.toNat < 0x80) (before after : Bytes) :
    decode (before ++ b :: after) = decode before ++ Char.ofNat b.toNat :: decode after :=
  decodeFrom_append_ascii (fun _ hp => by cases hp) hb before after

/-- **Bytes joined by an ASCII byte are read as their texts joined.** No
byte of one part is read together with those of another. -/
theorem decode_intercalate (hb : b.toNat < 0x80) (parts : List Bytes) :
    decode (List.intercalate [b] parts) =
      List.intercalate [Char.ofNat b.toNat] (parts.map decode) := by
  induction parts with
  | nil => rfl
  | cons part parts ih =>
    cases parts with
    | nil => simp
    | cons second parts =>
      rw [List.intercalate_cons_cons, List.append_assoc, List.singleton_append,
        decode_append_ascii hb, ih]
      simp [List.intercalate_cons_cons]

end Utf8

end Tangle
