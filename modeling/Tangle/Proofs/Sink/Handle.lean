import Tangle.Sink.Files
import Mathlib.Logic.Function.Basic
/-!
# What is written through a handle

A handle keeps back what it is given until its buffer is full, so the bytes
that were written through it are those of its file and then those of its
buffer (`Handle.Reaches`). Writing extends them, however it is divided into
what goes to the file and what stays (`write_spec`), and emptying the buffer
leaves all of them in the file (`flush_spec`). No other file changes
(`Handle.Extends`).

This is so on any store that is a map from files to bytes (`Store.IsMap`).
-/

namespace Tangle

/-- **A store that is a map from files to bytes.** Each path denotes a file.
Making directories and opening a file succeed; the former changes no file,
and the latter the one that it opens. -/
structure Store.IsMap {φ κ : Type} [DecidableEq κ] (store : Store φ κ) (file : Path → κ)
    (bytes : φ → κ → Option Bytes) : Prop where
  /-- Directories hold no bytes. -/
  makes : ∀ path s, ∃ s', store.makeDirectories path s = (.ok (), s') ∧ bytes s' = bytes s
  /-- A file is empty when it is truncated, or new. -/
  opens : ∀ path mode s, ∃ s', store.openFile path mode s = (.ok (file path), s') ∧
    bytes s' = Function.update (bytes s) (file path)
      (some (if mode = .append then (bytes s (file path)).getD [] else []))
  /-- The bytes of a file that is there are changed as asked. -/
  edits : ∀ k f s content, bytes s k = some content → ∃ s', store.edit k f s = (.ok (), s') ∧
    bytes s' = Function.update (bytes s) k (some (f content))

/-- **The store that is nothing but such a map**, from paths by their
components. -/
def Store.flat : Store (List Path.Component → Option Bytes) (List Path.Component) where
  makeDirectories _ s := (.ok (), s)
  openFile path mode s := (.ok path.components, Function.update s path.components
    (some (if mode = .append then (s path.components).getD [] else [])))
  edit k f s :=
    match s k with
    | some content => (.ok (), Function.update s k (some (f content)))
    | none => (.error .notFound, s)

theorem Store.isMap_flat : Store.flat.IsMap Path.components id where
  makes _ s := ⟨s, rfl, rfl⟩
  opens _ _ _ := ⟨_, rfl, rfl⟩
  edits k f s content h := by
    have hthere : s k = some content := h
    exact ⟨Function.update s k (some (f content)), by simp only [flat, hthere], rfl⟩

namespace Handle

variable {φ κ : Type} {bytes : φ → κ → Option Bytes} {h h' h'' : Handle κ} {s s' s'' : φ}
variable {written total text : Bytes}

/-- The handle stands at the end of its file, which holds `written`. One
that appends always does. -/
def Stands (bytes : φ → κ → Option Bytes) (h : Handle κ) (s : φ) (written : Bytes) : Prop :=
  bytes s h.file = some written ∧ (h.mode = .truncate → h.offset = written.length)

/-- **All that was written** stands in the file, and then in the buffer. -/
def Reaches (bytes : φ → κ → Option Bytes) (h : Handle κ) (s : φ) (total : Bytes) : Prop :=
  ∃ written, h.Stands bytes s written ∧ written ++ h.buffer = total

/-- **The handle has become `h'`**, through which `total` was written, and
no other file was changed. -/
structure Extends (bytes : φ → κ → Option Bytes) (h : Handle κ) (s : φ) (h' : Handle κ) (s' : φ)
    (total : Bytes) : Prop where
  file : h'.file = h.file
  reaches : h'.Reaches bytes s' total
  others : ∀ k, k ≠ h.file → bytes s' k = bytes s k

theorem Extends.trans (h₁ : h.Extends bytes s h' s' written) (h₂ : h'.Extends bytes s' h'' s'' total) :
    h.Extends bytes s h'' s'' total where
  file := h₂.file.trans h₁.file
  reaches := h₂.reaches
  others k hk := (h₂.others k (h₁.file ▸ hk)).trans (h₁.others k hk)

/-- What was written is still there if the file is as it was. -/
theorem Reaches.congr (hreach : h.Reaches bytes s total) (hsame : bytes s' h.file = bytes s h.file) :
    h.Reaches bytes s' total := by
  obtain ⟨written, ⟨hbytes, hoffset⟩, htotal⟩ := hreach
  exact ⟨written, ⟨hsame.trans hbytes, hoffset⟩, htotal⟩

/-- Over the end of a file nothing is overwritten. -/
theorem overwrite_length (content text : Bytes) :
    overwrite content.length text content = content ++ text := by
  rw [overwrite, List.take_length, Nat.sub_self, List.replicate_zero, List.append_nil,
    List.drop_eq_nil_of_le (Nat.le_add_right _ _), List.append_nil]

section Map

variable [DecidableEq κ] {store : Store φ κ} {file : Path → κ}

/-- **What is emitted comes last in the file**, in either mode. -/
theorem emit_spec (hmap : store.IsMap file bytes) (hs : h.Stands bytes s written) (text : Bytes) :
    ∃ h' s', emit store text h s = (.ok (), h', s') ∧ h'.file = h.file ∧ h'.buffer = h.buffer ∧
      h'.Stands bytes s' (written ++ text) ∧ ∀ k, k ≠ h.file → bytes s' k = bytes s k := by
  obtain ⟨hwritten, hoffset⟩ := hs
  rw [emit]
  cases hmode : h.mode with
  | append =>
    obtain ⟨s', hedit, hbytes⟩ := hmap.edits h.file (· ++ text) s written hwritten
    refine ⟨h, s', by simp only [hedit], rfl, rfl, ⟨?_, fun ht => ?_⟩, fun k hk => ?_⟩
    · rw [hbytes, Function.update_self]
    · rw [hmode] at ht
      cases ht
    · rw [hbytes, Function.update_of_ne hk]
  | truncate =>
    obtain ⟨s', hedit, hbytes⟩ := hmap.edits h.file (overwrite h.offset text) s written hwritten
    refine ⟨{ h with offset := h.offset + text.length }, s', by simp only [hedit, hmode], rfl, rfl,
      ⟨?_, fun _ => ?_⟩, fun k hk => ?_⟩
    · rw [hbytes, Function.update_self, hoffset hmode, overwrite_length]
    · rw [hoffset hmode, List.length_append]
    · rw [hbytes, Function.update_of_ne hk]

/-- **Emptying the buffer** leaves all that was written in the file. -/
theorem flush_spec (hmap : store.IsMap file bytes) (hs : h.Reaches bytes s total) :
    ∃ h' s', flush store h s = (.ok (), h', s') ∧ h'.buffer = [] ∧ h.Extends bytes s h' s' total := by
  obtain ⟨written, hstands, rfl⟩ := hs
  rw [flush]
  split
  · rename_i hempty
    exact ⟨h, s, rfl, List.isEmpty_iff.1 hempty, rfl, ⟨written, hstands, rfl⟩, fun _ _ => rfl⟩
  · obtain ⟨h', s', hemit, hfile, -, hstands', hothers⟩ := emit_spec hmap hstands h.buffer
    exact ⟨{ h' with buffer := [] }, s', by rw [hemit], rfl, hfile,
      ⟨_, hstands', List.append_nil _⟩, hothers⟩

/-- **Writing extends what was written**, wherever the bytes go. -/
theorem write_spec (hmap : store.IsMap file bytes) (hs : h.Reaches bytes s total) (text : Bytes) :
    ∃ h' s', write store text h s = (.ok (), h', s') ∧ h.Extends bytes s h' s' (total ++ text) := by
  -- bytes that would fill the buffer alone find it empty
  have hroom : ∃ h₁ s₁,
      (if h.buffer.length + text.length > room then flush store h s else (.ok (), h, s)) =
        (.ok (), h₁, s₁) ∧ (text.length ≥ room → h₁.buffer = []) ∧ h.Extends bytes s h₁ s₁ total := by
    split
    · obtain ⟨h₁, s₁, hflush, hempty, hext⟩ := flush_spec hmap hs
      exact ⟨h₁, s₁, hflush, fun _ => hempty, hext⟩
    · refine ⟨h, s, rfl, fun hlarge => List.eq_nil_of_length_eq_zero ?_, rfl, hs, fun _ _ => rfl⟩
      omega
  obtain ⟨h₁, s₁, hfirst, hempty, hext⟩ := hroom
  obtain ⟨written, hstands, htotal⟩ := hext.reaches
  rw [write, hfirst]
  simp only
  split
  · rename_i hlarge
    obtain ⟨h₂, s₂, hemit, hfile, hbuffer, hstands', hothers⟩ := emit_spec hmap hstands text
    rw [hempty hlarge] at hbuffer htotal
    refine ⟨h₂, s₂, hemit, hext.trans ⟨hfile, ⟨_, hstands', ?_⟩, hothers⟩⟩
    rw [hbuffer, ← htotal, List.append_nil, List.append_nil]
  · refine ⟨_, _, rfl, hext.trans ⟨rfl, ⟨written, hstands, ?_⟩, fun _ _ => rfl⟩⟩
    rw [← htotal, List.append_assoc]

/-- **A line is written with its end.** -/
theorem writeLine_spec (hmap : store.IsMap file bytes) (hs : h.Reaches bytes s total) (text : Bytes) :
    ∃ h' s', writeLine store text h s = (.ok (), h', s') ∧
      h.Extends bytes s h' s' (total ++ (text ++ [lineFeed])) := by
  obtain ⟨h₁, s₁, hfirst, hext⟩ := write_spec hmap hs text
  obtain ⟨h₂, s₂, hsecond, hext'⟩ := write_spec hmap hext.reaches [lineFeed]
  refine ⟨h₂, s₂, by rw [writeLine, hfirst, ← hsecond], ?_⟩
  rw [← List.append_assoc]
  exact hext.trans hext'

end Map

end Handle

end Tangle
