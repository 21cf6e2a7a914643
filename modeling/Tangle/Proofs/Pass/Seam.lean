import Tangle.Proofs.Pass.Calls
import Tangle.Proofs.Block.Holding
import Tangle.Proofs.Sink.Memory
/-!
# Documents joined by a line of prose

Nothing of a block reaches over a line that is not quoted. Outside a fence
such a line leaves the state at the start of a document (`feed_unquoted_iff`),
for the header is forgotten and outside a fence the buffer is empty; inside
one it fails. So two documents joined by it are accepted where both are, and
ask for what both ask for, one after the other (`run_seam`); and one pass
over them is two passes, but for the number of documents (`passes_seam`).
-/

namespace Tangle

namespace Machine

variable {lenient : Bool} {s t : MachineState} {u : SourceLine} {front back : List SourceLine}
variable {effects : List Effect}

/-- **A line that is not quoted leaves the state at the start**, and
stands outside a fence. -/
theorem feed_unquoted_iff (hs : s.Coherent) (hu : ¬ u.IsQuoted) :
    feed lenient s u = (.ok effects, t) ↔ s.context.fence = none ∧ effects = [] ∧ t = .zero := by
  cases hc : s.context.fence with
  | some start =>
    have hclass : LineKind.classify lenient s.context u = _ := LineKind.classify_unquoted hu
    rw [if_pos (inFence_iff.2 ⟨start, hc⟩)] at hclass
    have hstray : feed lenient s u = (.error (.atLine u.number (strayDefect s.context)), .zero) :=
      feed_of_classify hclass
    simp [hstray]
  | none =>
    have hzero : (⟨s.context.reset, s.buffer⟩ : MachineState) = .zero := by
      rw [buffer_eq_nil hs hc, Context.reset, hc]
      rfl
    rw [feed_unquoted hc hu, hzero]
    simp [eq_comm]

/-- **Two documents joined by a line of prose** are accepted where both
are, with the effects of the first and then those of the second. -/
theorem run_seam (hu : ¬ u.IsQuoted) : (run lenient .zero (front ++ u :: back)).1 = .ok effects ↔
    ∃ first second, (run lenient .zero front).1 = .ok first ∧
      (run lenient .zero back).1 = .ok second ∧ effects = first ++ second := by
  constructor
  · intro h
    obtain ⟨m', hfeeds, hend⟩ := run_eq_ok_iff_feeds.1 h
    obtain ⟨first, m, _, hfront, hrest, rfl⟩ := feeds_append_iff.1 hfeeds
    obtain ⟨_, _, second, hfeed, hback, rfl⟩ := feeds_cons_iff.1 hrest
    obtain ⟨hc, rfl, rfl⟩ := (feed_unquoted_iff hfront.coherent hu).1 hfeed
    exact ⟨first, second, run_eq_ok_iff_feeds.2 ⟨m, hfront, hc⟩,
      run_eq_ok_iff_feeds.2 ⟨m', hback, hend⟩, rfl⟩
  · rintro ⟨first, second, hfirst, hsecond, rfl⟩
    obtain ⟨m, hfront, hc⟩ := run_eq_ok_iff_feeds.1 hfirst
    obtain ⟨m', hback, hend⟩ := run_eq_ok_iff_feeds.1 hsecond
    have hfeed : feed lenient m u = (.ok [], .zero) :=
      (feed_unquoted_iff hfront.coherent hu).2 ⟨hc, rfl, rfl⟩
    exact run_eq_ok_iff_feeds.2
      ⟨m', feeds_append_iff.2 ⟨first, m, second, hfront, .cons hfeed hback, rfl⟩, hend⟩

end Machine

namespace Tangler

variable {σ : Type} {t : Tangler σ} {u : SourceLine} {front back : List SourceLine}
variable {r r' : Report} {s s' : σ}

/-- Two passes end well where one over both documents does, and leave the
same, but for the number of documents. -/
theorem tangleLines_seam (hu : ¬ u.IsQuoted) :
    (∃ between, t.tangleLines front (r, s) = (.ok (), between) ∧
      t.tangleLines back between = (.ok (), r', s')) ↔
    ∃ joined : Report, t.tangleLines (front ++ u :: back) (r, s) = (.ok (), joined, s') ∧
      r' = joined.countDocument := by
  simp only [Prod.exists, tangleLines_eq_ok_iff, Machine.run_seam hu]
  constructor
  · rintro ⟨_, between, ⟨first, hfirst, hfront, rfl⟩, second, hsecond, hback, rfl⟩
    refine ⟨_, ⟨_, ⟨first, second, hfirst, hsecond, rfl⟩, hfront.append hback, rfl⟩, ?_⟩
    rw [Report.recordAll_countDocument, ← Report.recordAll_append]
  · rintro ⟨_, ⟨_, ⟨first, second, hfirst, hsecond, rfl⟩, hsucc, rfl⟩, rfl⟩
    obtain ⟨between, hfront, hback⟩ := succeeds_append_iff.1 hsucc
    refine ⟨_, between, ⟨first, hfirst, hfront, rfl⟩, second, hsecond, hback, ?_⟩
    rw [Report.recordAll_countDocument, ← Report.recordAll_append]

/-- **No context leaks over prose or from one document to the next.** A
line that is not quoted joins two documents into one that is accepted where
both are and asks for what they ask for. With any collaborators, tangling
the two in turn ends well where tangling the one does; then the calls, in
their order, the collaborators, and the files and run blocks of the report
are the same, and one more document is counted. -/
theorem passes_seam (t : Tangler σ) (hu : ¬ u.IsQuoted) (front back : List SourceLine) (r : Report)
    (s : σ) :
    (∀ lenient effects, (Machine.run lenient .zero (front ++ u :: back)).1 = .ok effects ↔
      ∃ first second, (Machine.run lenient .zero front).1 = .ok first ∧
        (Machine.run lenient .zero back).1 = .ok second ∧ effects = first ++ second) ∧
    ∀ (r' : Report) (s' : σ) (log : List Effect),
      (∃ between, t.logged.tangleLines front (r, s, []) = (.ok (), between) ∧
        t.logged.tangleLines back between = (.ok (), r', s', log)) ↔
      ∃ joined : Report,
        t.logged.tangleLines (front ++ u :: back) (r, s, []) = (.ok (), joined, s', log) ∧
        r'.files = joined.files ∧ r'.runs = joined.runs ∧ r'.documents = joined.documents + 1 := by
  refine ⟨fun lenient effects => Machine.run_seam hu, fun r' s' log => ?_⟩
  rw [tangleLines_seam hu]
  exact exists_congr fun joined => and_congr_right fun _ => Report.eq_countDocument_iff

/-- A document whose last header is still in force at its end. -/
def headed : List SourceLine :=
  [.ofText 1 "> File `a`", .ofText 2 "> ```", .ofText 3 "> x", .ofText 4 "> ```"]

/-- One that opens a fence under no header. -/
def bare : List SourceLine :=
  [.ofText 6 "> ```", .ofText 7 "> y", .ofText 8 "> ```"]

/-- Joined by prose the two write one line, where one after the other with
nothing between them would write two. -/
theorem seam_sample :
    (Machine.run false .zero (headed ++ .ofText 5 "so" :: bare)).1 =
        .ok [.openFile "a" .truncate, .write "a" [0x78], .closeFile "a"] ∧
    (Machine.run false .zero (headed ++ bare)).1 =
        .ok [.openFile "a" .truncate, .write "a" [0x78], .closeFile "a",
          .openFile "a" .append, .write "a" [0x79], .closeFile "a"] ∧
    ∃ (joined : Report) (s' : MemoryFiles × Bytes),
      (inMemory false ⟨[], []⟩ (.preview 0)).logged.tangleLines (headed ++ .ofText 5 "so" :: bare)
        (.empty, (.empty, []), []) = (.ok (), joined, s',
          [.openFile "a" .truncate, .write "a" [0x78], .closeFile "a"]) ∧
      joined.files = ⟨[("a", 1)]⟩ := by
  have hseam := passes_seam (inMemory false ⟨[], []⟩ (.preview 0)) (u := .ofText 5 "so")
    (by decide) headed bare .empty (.empty, [])
  have hfront : (Machine.run false .zero headed).1 =
      .ok [.openFile "a" .truncate, .write "a" [0x78], .closeFile "a"] := rfl
  have hback : (Machine.run false .zero bare).1 = .ok [] := rfl
  have hsucc : (inMemory false ⟨[], []⟩ (.preview 0)).logged.Succeeds
      [.openFile "a" .truncate, .write "a" [0x78], .closeFile "a"] ((.empty, []), [])
      ((⟨[("a", ⟨[[0x78, 0x0A]], false⟩)]⟩, []),
        [.openFile "a" .truncate, .write "a" [0x78], .closeFile "a"]) := rfl
  obtain ⟨joined, hjoined, hfiles, -, -⟩ := (hseam.2 _ _ _).1 ⟨_,
    tangleLines_of_succeeds hfront hsucc, tangleLines_of_succeeds hback succeeds_nil⟩
  exact ⟨(hseam.1 false _).2 ⟨_, _, hfront, hback, rfl⟩, rfl, joined, _, hjoined, hfiles.symm⟩

end Tangler

end Tangle
