import Tangle.Shell.Utility.Plain
import Tangle.Shell.Process
/-!
# Programs that call others

The programs that call another one: with other variables (`env`), without
hangups (`nohup`), or for some time only (`timeout`).
-/

namespace Tangle

namespace Shell

namespace Utility

/-- Calls a program in a process of its own. -/
def callApart (call : Caller) (argv : List Octets) (s : State) : Except Fault (Option Nat × State) :=
  (call (argv.head?.getD []) argv s.forked).map fun after =>
    (if after.jump = some .killed then some (after.status - 128) else none, s.afterIsolated after)

/-- The variables without those that programs do not receive. -/
def exportedOnly (s : State) : List (Octets × Variable) :=
  s.bindings.filter fun v => v.2.exported && v.2.value.isSome

/-- A text with another one in the place of each occurrence of a mark. -/
def replaceAll (mark new : Octets) : Nat → Octets → Octets
  | 0, s => s
  | _ + 1, [] => []
  | fuel + 1, c :: s =>
    if !mark.isEmpty && mark.isPrefixOf (c :: s) then new ++ replaceAll mark new fuel ((c :: s).drop mark.length)
    else c :: replaceAll mark new fuel s

/-- Calls a program with other variables, or prints those that it would
receive. -/
def env : Utility := fun call argv s =>
  withOptions ⟨"i0v", "uCS", "", [("ignore-environment", 'i'), ("unset", 'u'), ("chdir", 'C')], true, 125⟩ (fun i s =>
    let bindings := if i.has 'i' then [] else exportedOnly s
    let bindings := (i.options.filter fun o => o.1 = 'u').foldl (fun vs o => dropKey o.2 vs) bindings
    let assigned := i.operands.takeWhile fun o => o.contains '=' && o.head? ≠ some '='
    let bindings := assigned.foldl (fun vs a =>
      setKey (a.takeWhile (· ≠ '=')) (.received ((a.dropWhile (· ≠ '=')).drop 1)) vs) bindings
    let s := { s with bindings }
    match i.operands.drop assigned.length with
    | [] => s.print (bindings.flatMap fun v => v.1 ++ '=' :: ((s.value? v.1).getD []) ++ ['\n'])
    | name :: args =>
      match call name (name :: args) s with
      | .ok s => s
      | .error fault =>
        (i.complain (curly name ++ ": " ++ faultText fault) s).ended (if fault = .notFound then 127 else 126)) call argv s

/-- Calls a program for which hangups do not count. -/
def nohup : Utility := fun call argv s =>
  match argv.drop 1 with
  | [] => (Invoked.mk (Octets.text (argv.head?.getD [])) [] []).refuse "missing operand" s |>.ended 125
  | name :: args =>
    match call name (name :: args) s with
    | .ok s => s
    | .error fault =>
      ((Invoked.mk (Octets.text (argv.head?.getD [])) [] []).complain
        ("failed to run command " ++ quote name ++ ": " ++ faultText fault) s).ended (if fault = .notFound then 127 else 126)

/-- Calls a program and kills it when its time is over. -/
def timeout : Utility := fun call argv s =>
  withOptions ⟨"vf", "sk", "", [("signal", 's'), ("kill-after", 'k')], true, 125⟩ (fun i s =>
    match i.operands with
    | [] | [_] => (i.refuse "missing operand" s).ended 125
    | time :: name :: args =>
      match duration? time with
      | none => (i.refuse ("invalid time interval " ++ curly time) s).ended 125
      | some limit =>
        match callApart call (name :: args) s with
        | .error fault =>
          (i.complain ("failed to run command " ++ quote name ++ ": " ++ faultText fault) s).ended
            (if fault = .notFound then 127 else 126)
        | .ok (_, after) =>
          if limit ≠ 0 && s.clock + limit < after.clock then { s with clock := s.clock + limit, status := 124 }
          else after) call argv s

end Utility

end Shell

end Tangle
