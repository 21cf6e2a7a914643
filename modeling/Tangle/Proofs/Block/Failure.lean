import Tangle.Proofs.Block.Body
import Mathlib.Data.List.Basic
/-!
# Failure reports can be read

A failure report is cut at its line feeds: the first line names the fences
and the status (`RunBlock.readHead`), and each line after it shows a line
of the block, whose number stands before the first bar (`RunBlock.readRow`).
Read so, a report gives back what it was made from (`read_renderFailure`),
whatever the lines of the block look like, so two blocks with the same
report are the same but for bytes that are no text (`failure_tells`).
-/

namespace Tangle

/-- What stands before the first `mark` in a text, and what after it. -/
def cutAt? (mark : List Char) : List Char → Option (List Char × List Char)
  | [] => none
  | c :: s =>
    if mark.isPrefixOf (c :: s) then some ([], (c :: s).drop mark.length)
    else (cutAt? mark s).map fun (front, rest) => (c :: front, rest)

/-- A text up to the first `c`. -/
theorem takeWhile_ne_append {c : Char} {s : List Char} (h : c ∉ s) (t : List Char) :
    (s ++ c :: t).takeWhile (· ≠ c) = s := by
  have hs : ∀ d ∈ s, decide (d ≠ c) = true := fun d hd => decide_eq_true fun heq : d = c => h (heq ▸ hd)
  rw [List.takeWhile_append_of_pos hs, List.takeWhile_cons_of_neg (by simp), List.append_nil]

/-- **A mark is found where it stands**, if some character of it does not
come before. -/
theorem cutAt?_append {c : Char} {mark front : List Char} (hmark : c ∈ mark) (hfront : c ∉ front)
    (rest : List Char) : cutAt? mark (front ++ (mark ++ rest)) = some (front, rest) := by
  induction front with
  | nil =>
    obtain ⟨d, mark, rfl⟩ := List.exists_cons_of_ne_nil (List.ne_nil_of_mem hmark)
    rw [List.nil_append, List.cons_append, cutAt?, ← List.cons_append, if_pos (by simp), List.drop_left]
  | cons d front ih =>
    have hnot : ¬ mark <+: d :: (front ++ (mark ++ rest)) := by
      rintro ⟨tail, htail⟩
      obtain ⟨pre, post, rfl, hpre⟩ := List.eq_append_cons_of_mem hmark
      -- there is more in the text than in the mark before the first `c`
      have hbefore : c ∉ d :: front ++ pre := fun h => (List.mem_append.1 h).elim hfront hpre
      have htext : d :: (front ++ (pre ++ c :: post ++ rest)) = d :: front ++ pre ++ c :: (post ++ rest) := by
        simp
      have hwhile := congrArg (List.takeWhile (· ≠ c)) htail
      rw [htext, takeWhile_ne_append hbefore, List.append_assoc, List.cons_append, takeWhile_ne_append hpre]
        at hwhile
      have hlength := congrArg List.length hwhile
      rw [List.length_append, List.length_cons] at hlength
      omega
    rw [List.cons_append, cutAt?, if_neg (mt List.isPrefixOf_iff_prefix.1 hnot),
      ih fun h => hfront (List.mem_cons_of_mem _ h), Option.map_some]

namespace RunBlock

variable {b c : RunBlock} {status : Int} {n : Nat}

/-! ## Reading -/

/-- The number that digits write, after blanks. -/
def readNumber (s : List Char) : Nat := Nat.ofDigitChars 10 (s.dropWhile (· = ' ')) 0

/-- The number that digits write, after a sign or none. -/
def readSigned : List Char → Int
  | '-' :: s => -readNumber s
  | s => readNumber s

/-- The number and the text that a line of a report shows. -/
def readRow (s : List Char) : Option (Nat × String) :=
  (cutAt? [' ', '|', ' '] s).map fun (number, text) => (readNumber number, String.ofList text)

/-- The lines of the fences and the status that the first line of a report
names. -/
def readHead (s : List Char) : Option (Nat × Nat × Int) := do
  let (_, s) ← cutAt? "lines ".toList s
  let (first, s) ← cutAt? ['-'] s
  let (last, status) ← cutAt? " failed with exit status ".toList s
  return (readNumber first, readNumber last, readSigned status)

/-- The first line of a report and the others, each without its end. -/
def readFailure (s : List Char) : Option ((Nat × Nat × Int) × List (Nat × String)) :=
  match s.splitOn '\n' with
  | [] => none
  | head :: rows => do return (← readHead head, ← rows.dropLast.mapM readRow)

/-! ## Numbers -/

theorem isDigit_of_mem_toString {d : Char} (h : d ∈ (toString n).toList) : d.isDigit = true := by
  rw [Nat.toString_eq_ofList_toDigits, String.toList_ofList] at h
  exact Nat.isDigit_of_mem_toDigits (by decide) (by decide) h

theorem notMem_toString {d : Char} (h : d.isDigit = false) : d ∉ (toString n).toList := fun hmem => by
  rw [isDigit_of_mem_toString hmem] at h
  cases h

theorem readNumber_toString (n : Nat) : readNumber (toString n).toList = n := by
  have hdigits : (toString n).toList.dropWhile (· = ' ') = (toString n).toList := by
    cases htext : (toString n).toList with
    | nil => rfl
    | cons d s =>
      have hd : d ≠ ' ' := fun heq => notMem_toString (n := n) (d := ' ') (by decide) (by rw [htext, heq]; simp)
      exact List.dropWhile_cons_of_neg (by simpa using hd)
  rw [readNumber, hdigits, Nat.toString_eq_ofList_toDigits, String.toList_ofList, Nat.ofDigitChars_ten_toDigits]

theorem readNumber_padLeft (n width : Nat) : readNumber (padLeft width (toString n)).toList = n := by
  rw [readNumber, padLeft, String.toList_append, String.toList_ofList,
    List.dropWhile_append_of_pos fun d hd => decide_eq_true (List.eq_of_mem_replicate hd)]
  exact readNumber_toString n

theorem toString_negSucc (n : Nat) :
    (toString (Int.negSucc n)).toList = '-' :: (toString (n + 1)).toList := String.toList_append ..

theorem readSigned_toString (z : Int) : readSigned (toString z).toList = z := by
  cases z with
  | ofNat n =>
    have hsign : ∀ s, (toString n).toList ≠ '-' :: s := fun s heq =>
      notMem_toString (n := n) (d := '-') (by decide) (by rw [heq]; simp)
    change readSigned (toString n).toList = n
    rw [readSigned, readNumber_toString]
    exact hsign
  | negSucc n =>
    rw [toString_negSucc, readSigned, readNumber_toString]
    rfl

/-! ## The lines of a report -/

/-- The first line of a report, without its end. -/
@[irreducible]
def headText (b : RunBlock) (status : Int) : List Char :=
  "run block at lines ".toList ++ (toString b.startLine).toList ++ ['-'] ++ (toString b.endLine).toList
    ++ " failed with exit status ".toList ++ (toString status).toList

/-- A line of a report, without its end. -/
@[irreducible]
def rowText (l : SourceLine) : List Char :=
  (padLeft 5 (toString l.number)).toList ++ [' ', '|', ' '] ++ l.chars

theorem failureHead_toList (b : RunBlock) (status : Int) :
    (b.failureHead status).toList = b.headText status ++ ['\n'] := by
  unfold failureHead headText
  simp [String.toList_append]

theorem failureLine_toList (l : SourceLine) : (failureLine l).toList = rowText l ++ ['\n'] := by
  unfold failureLine rowText
  simp [String.toList_append]

/-- **A report is its lines**, each ended by a line feed. -/
theorem renderFailure_toList (b : RunBlock) (status : Int) : (b.renderFailure status).toList =
    (b.headText status :: b.lines.map rowText).flatMap (· ++ ['\n']) := by
  rw [renderFailure, String.toList_join, List.flatMap_cons, failureHead_toList, List.flatMap_cons, List.flatMap_map,
    List.flatMap_map, List.append_cancel_left_eq]
  exact List.flatMap_congr fun l _ => failureLine_toList l

theorem readHead_headText (b : RunBlock) (status : Int) :
    readHead (b.headText status) = some (b.startLine, b.endLine, status) := by
  have hlead : ∀ s, cutAt? "lines ".toList ("run block at lines ".toList ++ s) =
      some ("run block at ".toList, s) := fun s => by simp [cutAt?]
  have hdash : '-' ∉ (toString b.startLine).toList := notMem_toString (by decide)
  have hspace : ' ' ∉ (toString b.endLine).toList := notMem_toString (by decide)
  have hfirst := cutAt?_append (List.mem_singleton_self '-') hdash
  have hlast := @cutAt?_append ' ' " failed with exit status ".toList _ (by simp) hspace
  unfold readHead headText
  simp only [List.append_assoc, hlead, hfirst, hlast, Option.bind_eq_bind, Option.bind_some, readNumber_toString,
    readSigned_toString, Option.pure_def]

theorem readRow_rowText (l : SourceLine) : readRow (rowText l) = some (l.number, l.content) := by
  have hbar : '|' ∉ (padLeft 5 (toString l.number)).toList := by
    rw [padLeft, String.toList_append, String.toList_ofList, List.mem_append, not_or]
    exact ⟨fun h => absurd (List.eq_of_mem_replicate h) (by decide), notMem_toString (by decide)⟩
  have hcut := @cutAt?_append '|' [' ', '|', ' '] _ (by simp) hbar l.chars
  rw [readRow, rowText, List.append_assoc, hcut, Option.map_some]
  dsimp only
  rw [readNumber_padLeft, String.ofList_toList]

/-! ## The whole report -/

theorem newline_notMem_headText (b : RunBlock) (status : Int) : '\n' ∉ b.headText status := by
  have hsigned : '\n' ∉ (toString status).toList := by
    cases status with
    | ofNat n => exact notMem_toString (n := n) (by decide)
    | negSucc n =>
      rw [toString_negSucc, List.mem_cons, not_or]
      exact ⟨by decide, notMem_toString (by decide)⟩
  unfold headText
  simp only [List.mem_append, not_or]
  exact ⟨⟨⟨⟨⟨by simp, notMem_toString (by decide)⟩, by simp⟩, notMem_toString (by decide)⟩, by simp⟩, hsigned⟩

theorem newline_notMem_rowText {l : SourceLine} (h : l.OneLine) : '\n' ∉ rowText l := by
  unfold rowText padLeft
  simp only [String.toList_append, String.toList_ofList, List.mem_append, not_or]
  exact ⟨⟨⟨fun hm => absurd (List.eq_of_mem_replicate hm) (by decide), notMem_toString (by decide)⟩, by simp⟩, h⟩

/-- The numbers of the lines with their texts. -/
def shown (b : RunBlock) : List (Nat × String) := b.lines.map fun l => (l.number, l.content)

theorem newline_notMem_lines (h : ∀ l ∈ b.lines, l.OneLine) : ∀ row ∈ b.lines.map rowText, '\n' ∉ row := by
  intro row hrow
  obtain ⟨l, hl, rfl⟩ := List.mem_map.1 hrow
  exact newline_notMem_rowText (h l hl)

theorem map_readRow (b : RunBlock) : (b.lines.map rowText).map readRow = b.shown.map some := by
  simp only [shown, List.map_map, Function.comp_def, readRow_rowText]

/-- **A report is read back**, numbers, status and lines. -/
theorem read_renderFailure (h : ∀ l ∈ b.lines, l.OneLine) (status : Int) :
    readFailure (b.renderFailure status).toList = some ((b.startLine, b.endLine, status), b.shown) := by
  have hsplit := splitOn_ended (List.forall_mem_cons.2 ⟨newline_notMem_headText b status, newline_notMem_lines h⟩)
  have hrows : (b.lines.map rowText).mapM readRow = some b.shown := by
    have hread : (readRow ∘ rowText) = fun l : SourceLine => pure (l.number, l.content) :=
      funext readRow_rowText
    rw [List.mapM_map, hread, List.mapM_pure]
    rfl
  rw [readFailure, renderFailure_toList, hsplit, List.cons_append]
  dsimp only
  rw [readHead_headText, List.dropLast_concat, hrows]
  rfl

/-- **A failure report determines the block and the status**: it is one line
that names the fences and the status, and then a line for each line of the
block, which is read by cutting it at the first bar. -/
theorem failure_tells {t : Int} (hb : ∀ l ∈ b.lines, l.OneLine) (hc : ∀ l ∈ c.lines, l.OneLine) :
    (b.renderFailure status = c.renderFailure t →
      status = t ∧ b.startLine = c.startLine ∧ b.endLine = c.endLine ∧ b.shown = c.shown) ∧
    ∃ (head : List Char) (rows : List (List Char)),
      (b.renderFailure status).toList = head ++ '\n' :: rows.flatMap (· ++ ['\n']) ∧
      '\n' ∉ head ∧ (∀ row ∈ rows, '\n' ∉ row) ∧ readHead head = some (b.startLine, b.endLine, status) ∧
      rows.map readRow = b.shown.map some := by
  constructor
  · intro heq
    have hread := read_renderFailure hb status
    rw [heq, read_renderFailure hc t, Option.some.injEq, Prod.mk.injEq, Prod.mk.injEq, Prod.mk.injEq] at hread
    obtain ⟨⟨hstart, hend, hstatus⟩, hshown⟩ := hread
    exact ⟨hstatus.symm, hstart.symm, hend.symm, hshown.symm⟩
  · refine ⟨b.headText status, b.lines.map rowText, ?_, newline_notMem_headText b status, newline_notMem_lines hb,
      readHead_headText b status, map_readRow b⟩
    rw [renderFailure_toList, List.flatMap_cons, List.append_assoc, List.singleton_append]

/-- A block whose lines look like those of a report. -/
def deceptive : RunBlock := ⟨7, 10, [.ofText 8 "    9 | \ufffd", .ofText 9 "run block at lines 7-10"]⟩

/-- A block that differs from it in a byte that is no text. -/
def undecoded : RunBlock :=
  ⟨7, 10, [⟨8, "    9 | \ufffd", [0x20, 0x20, 0x20, 0x20, 0x39, 0x20, 0x7C, 0x20, 0xFF]⟩,
    .ofText 9 "run block at lines 7-10"]⟩

theorem deceptive_told : (∀ l ∈ deceptive.lines, l.OneLine) ∧ (∀ l ∈ undecoded.lines, l.OneLine) ∧
    deceptive ≠ undecoded ∧ deceptive.renderFailure (-3) = undecoded.renderFailure (-3) ∧
    deceptive.shown = undecoded.shown ∧
    ∃ (head : List Char) (rows : List (List Char)),
      (deceptive.renderFailure (-3)).toList = head ++ '\n' :: rows.flatMap (· ++ ['\n']) ∧
      '\n' ∉ head ∧ (∀ row ∈ rows, '\n' ∉ row) ∧ readHead head = some (7, 10, -3) ∧
      rows.map readRow = [some (8, "    9 | \ufffd"), some (9, "run block at lines 7-10")] := by
  have hb : ∀ l ∈ deceptive.lines, l.OneLine := by decide
  have hc : ∀ l ∈ undecoded.lines, l.OneLine := by decide
  have hsame : deceptive.renderFailure (-3) = undecoded.renderFailure (-3) := by decide +kernel
  obtain ⟨htells, hread⟩ := @failure_tells deceptive undecoded (-3) (-3) hb hc
  exact ⟨hb, hc, by decide, hsame, (htells hsame).2.2.2, hread⟩

end RunBlock

end Tangle
