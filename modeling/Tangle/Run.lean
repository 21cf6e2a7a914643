import Tangle.Pass
import Tangle.Document
import Tangle.Setting
import Tangle.Sink.Files
import Tangle.Sink.Memory
import Tangle.Shell.Launch
/-!
# Tangling runs

A run tangles documents in order with one tangler (`Setting.tangleWith`).
Each document is read when its turn comes, so it may have been written by
the one before it. In execute mode files are written, and blocks are run,
in the base directory; in preview mode blocks are only printed and no file
is touched (`Setting.tangle`).
-/

namespace Tangle

namespace Setting

/-- Reads a document. -/
def load (s : Setting) (disk : Node) (cwd : Place) (path : Path) : Except Error Document :=
  match disk.readAt cwd (s.resolve path) with
  | .error fault => .error (.read path fault)
  | .ok content => Document.ofBytes s.config path content

variable {σ : Type}

/-- Tangles documents in order, up to the first failure. -/
def tangleEach (s : Setting) (cwd : Place) (disk : σ → Node) (t : Tangler σ) :
    List Path → Action (Report × σ) Unit
  | [] => fun state => (.ok (), state)
  | path :: rest => fun state =>
    match s.load (disk state.2) cwd path with
    | .error e => (.error e, state)
    | .ok document =>
      match t.tangleLines document.program state with
      | (.ok (), state) => tangleEach s cwd disk t rest state
      | (.error e, state) => (.error (e.inDocument path), state)

/-- Tangles documents with the given sink and executor. -/
def tangleWith (s : Setting) (cwd : Place) (disk : σ → Node) (sink : Sink σ) (executor : Executor σ)
    (paths : List Path) : Action σ Report :=
  fun state =>
    match Tangler.ofConfig s.config sink executor with
    | .error e => (.error e, state)
    | .ok t =>
      match s.tangleEach cwd disk t paths (Report.empty, state) with
      | (.ok (), report, state) => (.ok report, state)
      | (.error e, _, state) => (.error e, state)

/-- The executor that prints blocks to standard output. -/
def printing (indent : Nat) : Executor World where
  name := (Executor.preview indent).name
  run block := fun w =>
    let (result, out) := (Executor.preview indent).run block w.out
    (result, { w with out })

/-- Tangles documents in the mode of the setting. -/
def tangle (s : Setting) (paths : List Path) : Action World Report :=
  fun w =>
    match s.config.mode with
    | .preview =>
      let (result, _, w) := s.tangleWith w.cwd (fun state => state.2.disk) Sink.memory.onFirst
        (printing s.config.previewIndent).onSecond paths (.empty, w)
      (result, w)
    | .execute =>
      let store := World.store w.cwd
      let (result, handles, w) := s.tangleWith w.cwd (fun state => state.2.disk) (Sink.files store s.base)
        (Executor.shell s.config.shell (some s.base)).onSecond paths (.empty, w)
      (result, handles.flushAll store w)

/-- Tangles the documents that the configured patterns select; there has to
be one. -/
def tangleSelected (s : Setting) : Action World Report :=
  fun w =>
    match s.documents w.disk w.cwd with
    | .error e => (.error e, w)
    | .ok [] => (.error (.config .noDocuments), w)
    | .ok paths => s.tangle paths w

/-- The text of a document's program. -/
def extract (s : Setting) (path : Path) (w : World) : Except Error String :=
  (s.load w.disk w.cwd path).map Document.programText

end Setting

end Tangle
