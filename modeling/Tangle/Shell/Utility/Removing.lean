import Tangle.Shell.Utility.Target
/-!
# Removing entries

The programs that remove files (`unlink`), empty directories (`rmdir`), and
whole trees (`rm`), the deepest entries first. `rm` can ask before each
step; a directory stays if something in it had to stay.
-/

namespace Tangle

namespace Shell

namespace Utility

/-- Removes a file. -/
def unlink : Utility := withOptions (Spec.letters "" "") fun i s =>
  match i.operands with
  | [] => i.refuse "missing operand" s
  | [o] => i.changing ("cannot unlink " ++ quote o) (s.removeFile (State.path o)) s
  | _ :: extra :: _ => i.refuse ("extra operand " ++ curly extra) s

/-! ## Empty directories -/

/-- A path and those above it, up to the first segment. -/
def pathsUpward : Nat → Octets → List Octets
  | 0, _ => []
  | fuel + 1, o =>
    let trimmed := (o.reverse.dropWhile (· = '/')).reverse
    if trimmed.contains '/' then
      let above := ((trimmed.reverse.dropWhile (· ≠ '/')).dropWhile (· = '/')).reverse
      let above := if above.isEmpty then ['/'] else above
      above :: (if above = ['/'] then [] else pathsUpward fuel above)
    else []

/-- Removes empty directories, with `-p` also those above them. -/
def rmdir : Utility :=
  withOptions ⟨"pvι", "", "", [("ignore-fail-on-non-empty", 'ι'), ("parents", 'p'), ("path", 'p'), ("verbose", 'v')], false, 1⟩
    fun i s =>
      let remove (what o : Octets) (s : State) : Bool × State :=
        let s := if i.has 'v' then
            s.print (Octets.ofString (i.name ++ ": removing directory, " ++ quote o ++ "\n")) else s
        match s.removeDirectory (State.path o) with
        | .ok s => (true, s)
        | .error fault =>
          if i.has 'ι' && fault = .notEmpty then (false, s)
          else
            let what := if fault = .notADirectory then [] else what
            (false, i.complain ("failed to remove " ++ Octets.text what ++ quote o ++ ": " ++ faultText fault) s)
      i.each "operand" (fun o s =>
        let (ok, s) := remove [] o s
        if ok && i.has 'p' then
          ((pathsUpward (o.length + 1) o).foldl (fun (ok, s) above =>
            if ok then remove "directory ".toList above s else (ok, s)) (true, s)).2
        else s) s

/-! ## Trees -/

namespace Removal

/-- When there are questions. -/
inductive Asking where
  /-- Never. -/
  | never
  /-- Once, before much is removed. -/
  | once
  /-- Before each step. -/
  | always
deriving Repr, DecidableEq

/-- How entries are removed. -/
structure Setting where
  /-- Directories are removed with all that is in them. -/
  recursive : Bool
  /-- Empty directories are removed. -/
  empties : Bool
  /-- What is not there is no fault. -/
  ignoresMissing : Bool
  /-- All is told. -/
  verbose : Bool
  /-- When there are questions. -/
  asking : Asking
  /-- The root is removed like other directories. -/
  reachesRoot : Bool

/-- The standard. -/
def Setting.standard : Setting := ⟨false, false, false, false, .never, false⟩

/-- The setting with an option added. -/
def Setting.add (v : Setting) (o : Char × Octets) : Except Problem Setting :=
  match o.1 with
  | 'r' | 'R' => .ok { v with recursive := true }
  | 'd' => .ok { v with empties := true }
  | 'f' => .ok { v with ignoresMissing := true, asking := .never }
  | 'i' => .ok { v with ignoresMissing := false, asking := .always }
  | 'I' => .ok { v with ignoresMissing := false, asking := .once }
  | 'v' => .ok { v with verbose := true }
  | 'ρ' => .ok { v with reachesRoot := true }
  | 'ι' => do
    let word ← (if o.2.isEmpty then return "always"
      else chooseWord "--interactive" [["never", "no", "none"], ["once"], ["always", "yes"]] o.2)
    return match word with
      | "never" => { v with asking := .never }
      | "once" => { v with ignoresMissing := false, asking := .once }
      | _ => { v with ignoresMissing := false, asking := .always }
  | _ => .ok v

/-- What an entry is called in a question. -/
def kind (node : Node) : String :=
  match node with
  | .directory _ _ => "directory"
  | .link _ => "symbolic link"
  | .device _ => "character special file"
  | n => if (n.content?.getD []).isEmpty then "regular empty file" else "regular file"

/-- Removes an entry with all below it; the first value tells that a
directory around it has to stay. -/
def remove (i : Invoked) (v : Setting) : Nat → Octets → Node → State → Bool × State
  | 0, _, _, s => (true, s)
  | fuel + 1, path, node, s =>
    let ask (question : String) (s : State) : Bool × State :=
      if v.asking = .always then i.asks (question ++ " " ++ quote path) s else (true, s)
    let finish (what : String) (done : Except Fault State) (s : State) : Bool × State :=
      match done with
      | .ok s => (false, if v.verbose then s.print (Octets.ofString (what ++ " " ++ quote path ++ "\n")) else s)
      | .error fault => (true, i.complain ("cannot remove " ++ quote path ++ ": " ++ faultText fault) s)
    match node with
    | .directory [] _ =>
      let (agreed, s) := ask "remove directory" s
      if agreed then finish "removed directory" (s.removeDirectory (State.path path)) s else (true, s)
    | .directory es _ =>
      let (agreed, s) := ask "descend into directory" s
      if !agreed then (true, s)
      else
        let (stays, s) := es.foldl (fun (stays, s) e =>
          let (stays', s) := remove i v fuel (below path (Octets.ofString e.1)) e.2 s
          (stays || stays', s)) (false, s)
        if stays then (true, s)
        else
          let (agreed, s) := ask "remove directory" s
          if agreed then finish "removed directory" (s.removeDirectory (State.path path)) s else (false, s)
    | node =>
      let (agreed, s) := ask ("remove " ++ kind node) s
      if agreed then finish "removed" (s.removeFile (State.path path)) s else (false, s)

/-- Removes what an operand names. -/
def removeOperand (i : Invoked) (v : Setting) (o : Octets) (s : State) : State :=
  let failed (fault : Fault) : State := i.complain ("cannot remove " ++ quote o ++ ": " ++ faultText fault) s
  match s.lookupEntry (State.path o) with
  | .error fault =>
    if v.ignoresMissing && (fault = .notFound || fault = .notADirectory) then s else failed fault
  | .ok node =>
    let name := State.lastSegment (State.path o)
    if node.isDirectory && !v.recursive && !(v.empties && node.entries.isEmpty) then
      failed (if v.empties then .notEmpty else .isADirectory)
    else if node.isDirectory && v.recursive && (name = ['.'] || name = ['.', '.']) then
      i.complain ("refusing to remove '.' or '..' directory: skipping " ++ quote o) s
    else if node.isDirectory && v.recursive && !v.reachesRoot && (canonical .whole o s).toOption = some [] then
      let shown := if o = ['/'] then quote o else quote o ++ " (same as '/')"
      (i.complain ("it is dangerous to operate recursively on " ++ shown) s).complain
        (i.name ++ ": use --no-preserve-root to override this failsafe")
    else (remove i v 200 o node s).2

end Removal

/-- Removes files, with `-r` also directories. -/
def rm : Utility :=
  withSetting ⟨"dfiIrRvρω", "", "ιπ", [("dir", 'd'), ("force", 'f'), ("interactive", 'ι'), ("no-preserve-root", 'ρ'),
      ("one-file-system", 'ω'), ("preserve-root", 'π'), ("recursive", 'r'), ("verbose", 'v')], false, 1⟩
    (fun options => options.foldlM Removal.Setting.add .standard) fun i v s =>
      let count := i.operands.length
      if count = 0 then (if v.ignoresMissing then s else i.refuse "missing operand" s)
      else
        let (agreed, s) := if v.asking = .once && (v.recursive || 3 < count) then
            i.asks ("remove " ++ toString count ++ (if count = 1 then " argument" else " arguments")
              ++ (if v.recursive then " recursively" else "")) s
          else (true, s)
        if agreed then i.operands.foldl (fun s o => Removal.removeOperand i v o s) s else s

end Utility

end Shell

end Tangle
