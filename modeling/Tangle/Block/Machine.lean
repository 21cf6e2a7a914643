import Tangle.Block.LineKind
import Tangle.Block.Effect
/-!
# The block machine

`step` takes one classified line in a state and yields the next state and
the effects that the line asks for; it touches nothing else. `feed`
classifies and steps, and says what state an error leaves behind: one of
the classifier leaves the state as it was, one of the step the zero state.
`run` feeds a whole document.
-/

namespace Tangle

namespace Machine

/-- The effects and the next context of an opening fence at line `number`. -/
def openFence (c : Context) (number : Nat) : Context × List Effect :=
  ({ c with fence := some number },
    match c.target with
    | some name => [.openFile name c.mode]
    | none => [])

/-- The effects and the next context of a closing fence at line `number`.
A block that was collected is run, an open file is closed, and a further
fence under the same header extends the file. -/
def closeFence (s : MachineState) (start number : Nat) : Context × List Effect :=
  let ran := if s.buffer.isEmpty then [] else [Effect.run ⟨start, number, s.buffer⟩]
  let run := if s.context.run = .collecting then RunProgress.declared else s.context.run
  match s.context.target with
  | some name => (⟨some name, .append, run, none⟩, ran ++ [.closeFile name])
  | none => (⟨none, s.context.mode, run, none⟩, ran)

/-- What is wrong with a stray line. -/
def strayDefect (c : Context) : Defect :=
  match c.fence with
  | some start => .unquotedInFence start
  | none => if c.hasHeader then .strayAfterHeader else .strayQuote

/-- The next state and the effects of a line of some kind. -/
def step (s : MachineState) (kind : LineKind) (number : Nat) :
    Except Error (MachineState × List Effect) :=
  match kind with
  | .fileHeader name mode => .ok (⟨s.context.setTarget name mode, s.buffer⟩, [])
  | .runHeader => .ok (⟨s.context.declareRun, s.buffer⟩, [])
  | .fence =>
    match s.context.fence with
    | none =>
      let (context, effects) := openFence s.context number
      .ok (⟨context, s.buffer⟩, effects)
    | some start =>
      let (context, effects) := closeFence s start number
      .ok (⟨context, []⟩, effects)
  | .content text =>
    match s.context.target with
    | some name => .ok (s, [.write name text])
    | none =>
      if s.context.isRun then
        .ok (⟨{ s.context with run := .collecting }, s.buffer ++ [SourceLine.ofBytes number text]⟩, [])
      else .ok (s, [])
  | .prose => .ok (⟨s.context.reset, s.buffer⟩, [])
  | .stray => .error (.atLine number (strayDefect s.context))

/-- The check at the end of a document: no fence is open. -/
def finish (s : MachineState) : Except Error Unit :=
  match s.context.fence with
  | some start => .error (.atLine start .openFence)
  | none => .ok ()

/-- Classifies a line and steps. Yields the effects or an error, and the
state that is left. -/
def feed (lenient : Bool) (s : MachineState) (line : SourceLine) :
    Except Error (List Effect) × MachineState :=
  match LineKind.classify lenient s.context line with
  | .error e => (.error e, s)
  | .ok kind =>
    match step s kind line.number with
    | .error e => (.error e, .zero)
    | .ok (t, effects) => (.ok effects, t)

/-- Feeds lines up to the first error and checks the end. Yields all
effects or the error, and the state that is left. -/
def run (lenient : Bool) (s : MachineState) : List SourceLine → Except Error (List Effect) × MachineState
  | [] => ((finish s).map fun _ => [], s)
  | line :: rest =>
    match feed lenient s line with
    | (.error e, t) => (.error e, t)
    | (.ok effects, t) =>
      let (result, u) := run lenient t rest
      (result.map (effects ++ ·), u)

end Machine

end Tangle
