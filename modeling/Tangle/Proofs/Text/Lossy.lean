import Tangle.Proofs.Text.Utf8
import Mathlib.Data.List.Induction
/-!
# What is replaced in a text

Bytes that are not UTF-8 are read as text all the same. `Lossy` says as
which, without a decoder: the bytes are cut into those of characters and
into maximal invalid parts (`Stranded`), and each such part counts as one
U+FFFD. A part is maximal if it begins a character and does not go on with
the byte after it, or if it is one byte that no character begins with.

The decoder reads bytes so, and there is no other way to cut them
(`lossy_iff`). A pending character stands for the bytes read so far
(`Follows`): each way to complete it spells a character that begins with
them, and the next byte is in its range exactly if some character goes on
with it (`Follows.begins_concat_iff`).
-/

namespace Tangle

namespace Utf8

/-- The bytes are the first of some character, or all of it. -/
def Begins (part : Bytes) : Prop := ∃ c, part <+: String.utf8EncodeChar c

/-- **A maximal invalid part** in front of the rest of the bytes. -/
inductive Stranded : Bytes → Bytes → Prop
  /-- It begins a character that does not go on. -/
  | cut {part rest : Bytes} : part ≠ [] → Begins part → (∀ c, part ≠ String.utf8EncodeChar c) →
      (∀ b ∈ rest.head?, ¬ Begins (part ++ [b])) → Stranded part rest
  /-- It is a byte that begins none. -/
  | stray {b : UInt8} {rest : Bytes} : ¬ Begins [b] → Stranded [b] rest

/-- **The text that bytes are read as**: their characters, and one
replacement for each maximal invalid part. -/
inductive Lossy : Bytes → List Char → Prop
  /-- The end. -/
  | nil : Lossy [] []
  /-- A character. -/
  | char (c : Char) {rest : Bytes} {text : List Char} :
      Lossy rest text → Lossy (String.utf8EncodeChar c ++ rest) (c :: text)
  /-- What is replaced. -/
  | replaced {part rest : Bytes} {text : List Char} :
      Stranded part rest → Lossy rest text → Lossy (part ++ rest) (replacement :: text)

variable {part rest bytes : Bytes} {b : UInt8} {c : Char} {p : Pending} {more value : Nat} {lo hi : UInt8}

/-! ## Completing a character -/

/-- The bytes complete a pending character. -/
def Completes : Pending → Bytes → Char → Prop
  | _, [], _ => False
  | ⟨more, value, lo, hi⟩, b :: bytes, c =>
    lo ≤ b ∧ b ≤ hi ∧
      match more with
      | 0 => bytes = [] ∧ c = Char.ofNat (value * 64 + b.toNat % 64)
      | more + 1 => Completes ⟨more, value * 64 + b.toNat % 64, 0x80, 0xBF⟩ bytes c

/-- Every pending character that a byte continues can be completed. -/
theorem exists_completes (more value : Nat) (h : lo ≤ hi) :
    ∃ bytes c, Completes ⟨more, value, lo, hi⟩ bytes c := by
  induction more generalizing value lo hi with
  | zero => exact ⟨[lo], _, UInt8.le_refl lo, h, rfl, rfl⟩
  | succ more ih =>
    obtain ⟨bytes, c, hrest⟩ := ih (value * 64 + lo.toNat % 64) (by decide : (0x80 : UInt8) ≤ 0xBF)
    exact ⟨lo :: bytes, c, UInt8.le_refl lo, h, hrest⟩

/-- The bytes of a character from its value. -/
theorem encodeChar_ofNat {v : Nat} (h : v.isValidChar) :
    String.utf8EncodeChar (Char.ofNat v) =
      if v ≤ 0x7F then [UInt8.ofNat v]
      else if v ≤ 0x7FF then [UInt8.ofNat (v / 0x40 % 0x20 + 0xC0), UInt8.ofNat (v % 0x40 + 0x80)]
      else if v ≤ 0xFFFF then
        [UInt8.ofNat (v / 0x1000 % 0x10 + 0xE0), UInt8.ofNat (v / 0x40 % 0x40 + 0x80),
          UInt8.ofNat (v % 0x40 + 0x80)]
      else
        [UInt8.ofNat (v / 0x40000 % 0x08 + 0xF0), UInt8.ofNat (v / 0x1000 % 0x40 + 0x80),
          UInt8.ofNat (v / 0x40 % 0x40 + 0x80), UInt8.ofNat (v % 0x40 + 0x80)] := by
  have hval : (Char.ofNat v).val.toNat = v := by
    rw [Char.ofNat, dif_pos h]
    rfl
  rw [String.utf8EncodeChar, hval]

/-- A byte is the one of its number. -/
theorem eq_ofNat {n : Nat} (h : b.toNat = n) : b = UInt8.ofNat n := by
  rw [← h, UInt8.ofNat_toNat]

/-- A lead byte of two and what completes it. -/
theorem spells₂ (hlo : 0xC2 ≤ b.toNat) (hhi : b.toNat < 0xE0)
    (h : Completes ⟨0, b.toNat % 32, 0x80, 0xBF⟩ bytes c) : b :: bytes = String.utf8EncodeChar c := by
  match bytes with
  | [] => exact h.elim
  | d :: rest =>
    obtain ⟨h₁, h₂, rfl, rfl⟩ := h
    simp only [UInt8.le_iff_toNat_le, UInt8.reduceToNat] at h₁ h₂
    rw [encodeChar_ofNat (Or.inl (by omega)), if_neg (by omega), if_pos (by omega),
      ← eq_ofNat (b := b) (by omega), ← eq_ofNat (b := d) (by omega)]

/-- One of three: overlong forms and surrogates are excluded. -/
theorem spells₃ (hb : b.toNat = 0xE0 + value) (hv : value < 0x10) (hlo : 0x80 ≤ lo.toNat)
    (hhi : hi.toNat ≤ 0xBF) (hlong : value = 0 → 0xA0 ≤ lo.toNat) (hsur : value = 13 → hi.toNat ≤ 0x9F)
    (h : Completes ⟨1, value, lo, hi⟩ bytes c) : b :: bytes = String.utf8EncodeChar c := by
  match bytes with
  | [] => exact h.elim
  | [_] => exact h.2.2.elim
  | d :: e :: rest =>
    obtain ⟨h₁, h₂, h₃, h₄, rfl, rfl⟩ := h
    simp only [UInt8.le_iff_toNat_le, UInt8.reduceToNat] at h₁ h₂ h₃ h₄
    have hvalid : ((value * 64 + d.toNat % 64) * 64 + e.toNat % 64).isValidChar := by
      rw [Nat.isValidChar]
      omega
    rw [encodeChar_ofNat hvalid, if_neg (by omega), if_neg (by omega), if_pos (by omega),
      ← eq_ofNat (b := b) (by omega), ← eq_ofNat (b := d) (by omega), ← eq_ofNat (b := e) (by omega)]

/-- One of four: overlong forms and values beyond Unicode are. -/
theorem spells₄ (hb : b.toNat = 0xF0 + value) (hv : value < 5) (hlo : 0x80 ≤ lo.toNat)
    (hhi : hi.toNat ≤ 0xBF) (hlong : value = 0 → 0x90 ≤ lo.toNat) (hout : value = 4 → hi.toNat ≤ 0x8F)
    (h : Completes ⟨2, value, lo, hi⟩ bytes c) : b :: bytes = String.utf8EncodeChar c := by
  match bytes with
  | [] => exact h.elim
  | [_] => exact h.2.2.elim
  | [_, _] => exact h.2.2.2.2.elim
  | d :: e :: f :: rest =>
    obtain ⟨h₁, h₂, h₃, h₄, h₅, h₆, rfl, rfl⟩ := h
    simp only [UInt8.le_iff_toNat_le, UInt8.reduceToNat] at h₁ h₂ h₃ h₄ h₅ h₆
    have hvalid : (((value * 64 + d.toNat % 64) * 64 + e.toNat % 64) * 64 + f.toNat % 64).isValidChar := by
      rw [Nat.isValidChar]
      omega
    rw [encodeChar_ofNat hvalid, if_neg (by omega), if_neg (by omega), if_neg (by omega),
      ← eq_ofNat (b := b) (by omega), ← eq_ofNat (b := d) (by omega), ← eq_ofNat (b := e) (by omega),
      ← eq_ofNat (b := f) (by omega)]

/-- **What completes the character that a byte begins spells it.** -/
theorem spells_of_first (h : first b = ([], some p)) (hc : Completes p bytes c) :
    b :: bytes = String.utf8EncodeChar c := by
  rw [first_eq] at h
  split_ifs at h <;> cases h
  case pos => exact spells₂ (by omega) (by omega) hc
  case pos => exact spells₃ (by omega) (by omega) (by decide) (by decide) (by simp) (by simp) hc
  case pos => exact spells₃ (by omega) (by omega) (by decide) (by decide) (by simp) (by simp) hc
  case pos => exact spells₃ (by omega) (by omega) (by decide) (by decide) (by omega) (by omega) hc
  case pos => exact spells₄ (by omega) (by omega) (by decide) (by decide) (by simp) (by simp) hc
  case pos => exact spells₄ (by omega) (by omega) (by decide) (by decide) (by omega) (by omega) hc
  case pos => exact spells₄ (by omega) (by omega) (by decide) (by decide) (by simp) (by simp) hc

/-! ## What the decoder has read -/

/-- **The pending character stands for the bytes** read since the last one. -/
structure Follows (part : Bytes) (p : Pending) : Prop where
  /-- The decoder has yielded nothing for them. -/
  leaves : ∀ bytes, decode (part ++ bytes) = decodeFrom (some p) bytes
  /-- What completes it spells a character after them. -/
  spells : ∀ bytes c, Completes p bytes c → part ++ bytes = String.utf8EncodeChar c
  /-- Some byte continues it. -/
  nonempty : p.lo ≤ p.hi

theorem decode_encodeChar_append (c : Char) (bytes : Bytes) :
    decode (String.utf8EncodeChar c ++ bytes) = c :: decode bytes := decodeFrom_encodeChar c bytes

/-- A character is read as nothing else. -/
theorem decode_encodeChar (c : Char) : decode (String.utf8EncodeChar c) = [c] := by
  have h := decode_encodeChar_append c []
  rwa [List.append_nil] at h

theorem decode_ne_nil (b : UInt8) (bytes : Bytes) : decode (b :: bytes) ≠ [] := by
  by_cases hb : b.toNat < 0x80
  · rw [decode_cons_of_ascii hb]
    exact List.cons_ne_nil _ _
  · obtain ⟨c, text, heq, -⟩ := decode_cons_of_not_ascii (Nat.le_of_not_lt hb) bytes
    rw [heq]
    exact List.cons_ne_nil _ _

/-- No character begins with the bytes of another. -/
theorem not_begins_encodeChar_concat (c : Char) (b : UInt8) :
    ¬ Begins (String.utf8EncodeChar c ++ [b]) := by
  rintro ⟨d, rest, hrest⟩
  have hread := decode_encodeChar d
  rw [← hrest, List.append_assoc, decode_encodeChar_append] at hread
  exact decode_ne_nil b rest (List.cons.inj hread).2

theorem Begins.of_append (h : Begins (part ++ rest)) : Begins part := by
  obtain ⟨c, hc⟩ := h
  exact ⟨c, (List.prefix_append part rest).trans hc⟩

/-- A byte that does not continue what is pending is read again. -/
theorem decodeFrom_refused (h : ¬ (p.lo ≤ b ∧ b ≤ p.hi)) (bytes : Bytes) :
    decodeFrom (some p) (b :: bytes) = replacement :: decode (b :: bytes) := by
  rw [decodeFrom_cons, next, if_neg h, decode, decodeFrom_cons, next]
  rfl

namespace Follows

theorem begins (h : Follows part p) : Begins part := by
  obtain ⟨more, value, lo, hi⟩ := p
  obtain ⟨bytes, c, hc⟩ := exists_completes more value h.nonempty
  exact ⟨c, bytes, h.spells bytes c hc⟩

/-- They are not all of a character. -/
theorem ne_encodeChar (h : Follows part p) (c : Char) : part ≠ String.utf8EncodeChar c := by
  rintro rfl
  obtain ⟨more, value, lo, hi⟩ := p
  obtain ⟨bytes, d, hd⟩ := exists_completes more value h.nonempty
  cases bytes with
  | nil => exact hd.elim
  | cons b bytes =>
    refine not_begins_encodeChar_concat c b ⟨d, bytes, ?_⟩
    rw [← h.spells _ d hd, List.append_assoc, List.singleton_append]

theorem of_first (h : first b = ([], some p)) : Follows [b] p where
  leaves bytes := by
    rw [List.singleton_append, decode, decodeFrom_cons, next, h]
    rfl
  spells _ _ hc := spells_of_first h hc
  nonempty := by
    rw [first_eq] at h
    split_ifs at h <;> cases h <;> simp

/-- A byte in range leaves fewer to come. -/
theorem concat (h : Follows part ⟨more + 1, value, lo, hi⟩) (hb : lo ≤ b ∧ b ≤ hi) :
    Follows (part ++ [b]) ⟨more, value * 64 + b.toNat % 64, 0x80, 0xBF⟩ where
  leaves bytes := by
    rw [List.append_assoc, List.singleton_append, h.leaves, decodeFrom_cons,
      next_more (UInt8.le_iff_toNat_le.1 hb.1) (UInt8.le_iff_toNat_le.1 hb.2)]
    rfl
  spells bytes c hc := by
    rw [List.append_assoc, List.singleton_append]
    exact h.spells (b :: bytes) c ⟨hb.1, hb.2, hc⟩
  nonempty := (by decide : (0x80 : UInt8) ≤ 0xBF)

/-- Or it completes the character. -/
theorem concat_last (h : Follows part ⟨0, value, lo, hi⟩) (hb : lo ≤ b ∧ b ≤ hi) :
    part ++ [b] = String.utf8EncodeChar (Char.ofNat (value * 64 + b.toNat % 64)) :=
  h.spells [b] _ ⟨hb.1, hb.2, rfl, rfl⟩

/-- **A byte is in range if and only if some character goes on with it.** -/
theorem begins_concat_iff (h : Follows part p) : Begins (part ++ [b]) ↔ p.lo ≤ b ∧ b ≤ p.hi := by
  constructor
  · rintro ⟨c, rest, hrest⟩
    by_contra hno
    -- a byte that is refused is read again, but nothing is left to be read
    have hread := decode_encodeChar c
    rw [← hrest, List.append_assoc, List.singleton_append, h.leaves, decodeFrom_refused hno] at hread
    exact decode_ne_nil b rest (List.cons.inj hread).2
  · intro hb
    obtain ⟨more, value, lo, hi⟩ := p
    cases more with
    | zero => exact ⟨_, [], by rw [List.append_nil, h.concat_last hb]⟩
    | succ more => exact (h.concat hb).begins

end Follows

/-- What a byte begins: a character that it is all of, nothing, or one that
is pending. -/
theorem first_begins (b : UInt8) : (∃ c, [b] = String.utf8EncodeChar c) ∨
    (first b = ([replacement], none) ∧ ¬ Begins [b]) ∨ ∃ p, Follows [b] p := by
  rcases first_cases b with ⟨hb, -⟩ | ⟨-, hf⟩ | ⟨-, p, -, hf⟩
  · refine Or.inl ⟨Char.ofNat b.toNat, ?_⟩
    rw [encodeChar_ofNat (Or.inl (by omega)), if_pos (by omega), UInt8.ofNat_toNat]
  · refine Or.inr (Or.inl ⟨hf, ?_⟩)
    rintro ⟨c, rest, hrest⟩
    have hread := decode_encodeChar c
    rw [← hrest, List.singleton_append, decode, decodeFrom_cons, next, hf] at hread
    obtain ⟨rfl, hnil⟩ := List.cons.inj hread
    cases rest with
    | nil =>
      have hlen : 1 = (String.utf8EncodeChar replacement).length := congrArg List.length hrest
      exact absurd hlen (by decide)
    | cons d rest => exact decode_ne_nil d rest hnil
  · exact Or.inr (Or.inr ⟨p, .of_first hf⟩)

/-- **Bytes that begin a character and are not all of one are pending.** -/
theorem exists_follows (hne : part ≠ []) (hbegins : Begins part)
    (hpart : ∀ c, part ≠ String.utf8EncodeChar c) : ∃ p, Follows part p := by
  induction part using List.reverseRecOn with
  | nil => exact absurd rfl hne
  | append_singleton init b ih =>
    cases init with
    | nil =>
      rcases first_begins b with ⟨c, hc⟩ | ⟨-, hno⟩ | hp
      · exact absurd hc (hpart c)
      · exact absurd hbegins hno
      · exact hp
    | cons d init =>
      have hinit : ∀ c, d :: init ≠ String.utf8EncodeChar c := fun c hc =>
        not_begins_encodeChar_concat c b (hc ▸ hbegins)
      obtain ⟨⟨more, value, lo, hi⟩, hp⟩ := ih (List.cons_ne_nil d init) hbegins.of_append hinit
      have hb : lo ≤ b ∧ b ≤ hi := hp.begins_concat_iff.1 hbegins
      cases more with
      | zero => exact absurd (hp.concat_last hb) (hpart _)
      | succ more => exact ⟨_, hp.concat hb⟩

/-! ## The decoder -/

/-- **A maximal invalid part is read as one replacement.** -/
theorem decode_stranded (h : Stranded part rest) : decode (part ++ rest) = replacement :: decode rest := by
  cases h with
  | cut hne hbegins hpart hend =>
    obtain ⟨p, hp⟩ := exists_follows hne hbegins hpart
    rw [hp.leaves]
    cases rest with
    | nil => rfl
    | cons b rest =>
      exact decodeFrom_refused (fun hb => hend b rfl (hp.begins_concat_iff.2 hb)) rest
  | @stray b _ hno =>
    rcases first_begins b with ⟨c, hc⟩ | ⟨hf, -⟩ | ⟨p, hp⟩
    · exact absurd ⟨c, hc ▸ List.prefix_rfl⟩ hno
    · rw [List.singleton_append, decode, decodeFrom_cons, next, hf]
      rfl
    · exact absurd hp.begins hno

theorem Lossy.decode_eq {text : List Char} (h : Lossy bytes text) : decode bytes = text := by
  induction h with
  | nil => rfl
  | char c _ ih => rw [decode_encodeChar_append, ih]
  | replaced hpart _ ih => rw [decode_stranded hpart, ih]

/-- What begins a character is cut somewhere, if what comes after can be. -/
theorem Follows.exists_lossy (h : Follows part p) (hne : part ≠ [])
    (hlater : ∀ later, later <:+ bytes → ∃ text, Lossy later text) : ∃ text, Lossy (part ++ bytes) text := by
  induction bytes generalizing part p with
  | nil =>
    have hcut : Stranded part [] := .cut hne h.begins h.ne_encodeChar fun b hb => by cases hb
    exact ⟨_, .replaced hcut .nil⟩
  | cons b bytes ih =>
    have hrest : ∀ later, later <:+ bytes → ∃ text, Lossy later text := fun later hl =>
      hlater later (hl.trans (List.suffix_cons b bytes))
    by_cases hb : p.lo ≤ b ∧ b ≤ p.hi
    · obtain ⟨more, value, lo, hi⟩ := p
      have happend : part ++ b :: bytes = (part ++ [b]) ++ bytes := by simp
      cases more with
      | zero =>
        obtain ⟨text, htext⟩ := hrest bytes List.suffix_rfl
        rw [happend, h.concat_last hb]
        exact ⟨_, .char _ htext⟩
      | succ more =>
        rw [happend]
        exact ih (h.concat hb) (by simp) hrest
    · obtain ⟨text, htext⟩ := hlater (b :: bytes) List.suffix_rfl
      have hcut : Stranded part (b :: bytes) := .cut hne h.begins h.ne_encodeChar fun d hd => by
        cases hd
        exact fun hbegins => hb (h.begins_concat_iff.1 hbegins)
      exact ⟨_, .replaced hcut htext⟩

/-- All bytes can be cut so. -/
theorem exists_lossy (bytes : Bytes) : ∃ text, Lossy bytes text := by
  induction hn : bytes.length using Nat.strongRecOn generalizing bytes with
  | ind n ih =>
    cases bytes with
    | nil => exact ⟨[], .nil⟩
    | cons b bytes =>
      have hlater : ∀ later, later <:+ bytes → ∃ text, Lossy later text := fun later hl =>
        ih later.length (by have := hl.length_le; rw [List.length_cons] at hn; omega) later rfl
      rcases first_begins b with ⟨c, hc⟩ | ⟨-, hno⟩ | ⟨p, hp⟩
      · obtain ⟨text, htext⟩ := hlater bytes List.suffix_rfl
        have hcons : b :: bytes = String.utf8EncodeChar c ++ bytes := by rw [← hc]; rfl
        rw [hcons]
        exact ⟨_, .char c htext⟩
      · obtain ⟨text, htext⟩ := hlater bytes List.suffix_rfl
        exact ⟨_, .replaced (.stray hno) htext⟩
      · exact hp.exists_lossy (List.cons_ne_nil b []) hlater

/-- **Bytes are read as their characters and one replacement for each
maximal invalid part**, and can be cut into these in one way only. -/
theorem lossy_iff {text : List Char} : Lossy bytes text ↔ decode bytes = text := by
  refine ⟨Lossy.decode_eq, fun h => ?_⟩
  obtain ⟨text', htext⟩ := exists_lossy bytes
  rwa [← h, htext.decode_eq]

end Utf8

end Tangle
