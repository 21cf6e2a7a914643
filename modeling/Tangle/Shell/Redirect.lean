import Tangle.Shell.Expand
/-!
# Redirections

A redirection lets a descriptor lead somewhere else. The words of all
redirections of a command are expanded first (`expandTargets`), then they
are made in order, up to one that fails (`redirectAll`).
-/

namespace Tangle

namespace Shell

/-- A redirection whose words are expanded. -/
structure Redirect where
  /-- The descriptor. -/
  descriptor : Descriptor
  /-- What is done. -/
  direction : Direction
  /-- The name of a file or descriptor, or a text. -/
  target : Octets

/-- What a fault is called when a file is to be opened. -/
def openingFault (s : State) (creates : Bool) : Fault → String
  | .notFound | .notADirectory =>
    if s.isWide then faultText .notFound else if creates then "Directory nonexistent" else "No such file"
  | fault => faultText fault

/-- Complains that a file cannot be opened. -/
def refuseOpening (creates : Bool) (target : Octets) (fault : Fault) (s : State) : State :=
  let reason := if s.isWide then faultText fault else openingFault s creates fault
  let verb := if s.isWide then "" else if creates then "cannot create " else "cannot open "
  s.complainHere (verb ++ Octets.text target ++ ": " ++ reason)

/-- The direction takes the number of a descriptor. -/
def Direction.duplicates (d : Direction) : Bool := d = .duplicateInput || d = .duplicateOutput

/-- Expands the words of redirections. In the plain dialect a descriptor
has to be one digit. -/
def expandTargets (capture : Capture) : List Redirection → State → List Redirect × State
  | [], s => ([], s)
  | .mk descriptor direction word text :: rest, s =>
    let (target, s) := match direction with
      | .here => ([], s)
      | .hereWord =>
        let (t, s) := expandText capture word s
        (t ++ ['\n'], s)
      | _ => expandText capture word s
    if s.jump.isSome then ([], s)
    else
      let isFixed := target = ['-'] || (target.length = 1 && target.all Char.isDigit)
      if direction.duplicates && !isFixed && !s.isWide then
        ([], { s with line := s.source.line }.abort "Syntax error: Bad fd number")
      else
        let (others, s) := expandTargets capture rest s
        (⟨descriptor, direction, if direction = .here then (toString text).toList else target⟩ :: others, s)

/-- Lets a descriptor lead to what another one leads to. -/
def duplicate (descriptor source : Nat) (s : State) : Bool × State :=
  match s.descriptors.lookup source with
  | some stream => (true, { s with descriptors := setKey descriptor stream s.descriptors })
  | none => (false, s.complainHere (toString source ++ ": Bad file descriptor"))

/-- Lets a descriptor lead to a file that is opened. -/
def redirectTo (descriptor : Nat) (o : State.Opening) (target : Octets) (s : State) : Bool × State :=
  match s.openStream (State.path target) o with
  | (.error fault, s) => (false, refuseOpening o.writes.isSome target fault s)
  | (.ok stream, s) => (true, { s with descriptors := setKey descriptor stream s.descriptors })

/-- The file must not be replaced. -/
def mustStay (target : Octets) (s : State) : Bool :=
  s.has .noclobber && (s.lookup (State.path target)).toOption.any Node.isFile

/-- Lets both outputs lead to a file. -/
def redirectBoth (mode : WriteMode) (target : Octets) (s : State) : Bool × State :=
  match redirectTo 1 (.forWriting mode) target s with
  | (true, s) => duplicate 2 1 s
  | failed => failed

/-- The first descriptor that a variable can get the number of. -/
def firstNamed : Nat := 10

/-- The number of the descriptor that a redirection changes. A variable gets
the number of a free one; nothing if there is no descriptor to close. -/
def descriptorFor (r : Redirect) (s : State) : Option Nat × State :=
  match r.descriptor with
  | .number n => (some n, s)
  | .named name =>
    if r.direction.duplicates && r.target = ['-'] then ((s.value? name).bind Octets.nat?, s)
    else
      let n := firstFree s.descriptors.length firstNamed
      (some n, s.setVariable name (toString n).toList)
where
  /-- The first number from `n` on that no descriptor has. -/
  firstFree : Nat → Nat → Nat
    | 0, n => n
    | fuel + 1, n => if (s.descriptors.lookup n).isSome then firstFree fuel (n + 1) else n

/-- Makes one redirection of the descriptor of a number. The first value
tells whether it succeeded. -/
def redirectNumber (capture : Capture) (descriptor : Nat) (r : Redirect) (s : State) : Bool × State :=
  match r.direction with
  | .read => redirectTo descriptor .forReading r.target s
  | .write =>
    if mustStay r.target s then
      (false, if s.isWide then s.complainHere (Octets.text r.target ++ ": cannot overwrite existing file")
        else refuseOpening true r.target .alreadyExists s)
    else redirectTo descriptor (.forWriting .truncate) r.target s
  | .replace => redirectTo descriptor (.forWriting .truncate) r.target s
  | .extend => redirectTo descriptor (.forWriting .append) r.target s
  | .update => redirectTo descriptor .forUpdate r.target s
  | .here =>
    let (text, s) := expandHere capture ((s.source.texts.lookup ((Octets.nat? r.target).getD 0)).getD []) s
    (s.jump.isNone, s.attach descriptor (Stream.ofText text))
  | .hereWord => (true, s.attach descriptor (Stream.ofText r.target))
  | .writeBoth => redirectBoth .truncate r.target s
  | .extendBoth => redirectBoth .append r.target s
  | d =>
    if r.target = ['-'] then (true, s.detach descriptor)
    else
      match Octets.nat? r.target with
      | some n => duplicate descriptor n s
      | none =>
        if d = .duplicateOutput && descriptor = 1 then redirectBoth .truncate r.target s
        else (false, s.complainHere (Octets.text r.target ++ ": ambiguous redirect"))

/-- Makes one redirection. The first value tells whether it succeeded. -/
def redirect (capture : Capture) (r : Redirect) (s : State) : Bool × State :=
  match descriptorFor r s, r.descriptor with
  | (some n, s), _ => redirectNumber capture n r s
  | (none, s), .named name => (false, s.complainHere (Octets.text name ++ ": ambiguous redirect"))
  | (none, s), .number _ => (false, s)

/-- Makes redirections in order, up to one that fails. -/
def redirectEach (capture : Capture) : List Redirect → State → Bool × State
  | [], s => (true, s)
  | r :: rs, s =>
    match redirect capture r s with
    | (true, s) => redirectEach capture rs s
    | failed => failed

/-- Makes the redirections of a command. -/
def redirectAll (capture : Capture) (rs : List Redirection) (s : State) : Bool × State :=
  if rs.isEmpty then (true, s)
  else
    let (targets, s) := expandTargets capture rs s
    if s.jump.isSome then (false, s)
    else
      match redirectEach capture targets s with
      | (false, s) => (false, { s with jump := if s.jump = some .error && !s.isWide then none else s.jump })
      | done => done

end Shell

end Tangle
