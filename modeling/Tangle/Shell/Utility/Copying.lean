import Tangle.Shell.Utility.Target
/-!
# Copying and moving

The programs that copy files and trees (`cp`) and move them (`mv`). Both
look at what the target is already, ask or keep a backup if they are told
to, and then do their work entry by entry (`Copying.copy`).
-/

namespace Tangle

namespace Shell

namespace Utility

namespace Copying

/-- When a link stands for what it leads to. -/
inductive Following where
  /-- Always. -/
  | always
  /-- If it is an operand. -/
  | operands
  /-- Never. -/
  | never
deriving Repr, DecidableEq

/-- Whether a file is overwritten. -/
inductive Overwriting where
  /-- It is. -/
  | free
  /-- It is if the answer is yes. -/
  | asking
  /-- It is not. -/
  | never
deriving Repr, DecidableEq

/-- What is made in the place of a copy. -/
inductive Linking where
  /-- A further name of the file. -/
  | name
  /-- A link to the file. -/
  | link
deriving Repr, DecidableEq

/-- How files are copied. -/
structure Setting where
  /-- They are moved. -/
  moves : Bool
  /-- Directories are copied with all that is in them. -/
  recursive : Bool
  /-- When links are followed; the standard depends on the other options. -/
  following : Option Following
  /-- Whether files are overwritten. -/
  overwriting : Overwriting
  /-- Only files that are newer than the target are copied. -/
  updates : Bool
  /-- The target is removed first. -/
  removesFirst : Bool
  /-- The target is removed if it cannot be opened. -/
  forces : Bool
  /-- What is made in the place of copies. -/
  linking : Option Linking
  /-- Copies have the permission bits of the files. -/
  keepsMode : Bool
  /-- Copies have the times of the files. -/
  keepsTime : Bool
  /-- Files with several names have them as copies too. -/
  keepsNames : Bool
  /-- The content is not copied. -/
  attributesOnly : Bool
  /-- The directories of the operands are made in the target. -/
  parents : Bool
  /-- Slashes at the end of operands do not count. -/
  strips : Bool
  /-- All is told. -/
  verbose : Bool
  /-- How what is overwritten is kept. -/
  backup : Backup
  /-- The suffix of what is kept. -/
  suffix : Octets

/-- The standard of moving or copying. -/
def Setting.standard (moves : Bool) : Setting :=
  ⟨moves, false, if moves then some .never else none, .free, false, false, false, none, false, false, false, false, false,
    false, false, .none, ['~']⟩

/-- When links are followed. -/
def Setting.followed (v : Setting) : Following :=
  v.following.getD (if v.recursive && v.linking ≠ some .name then .never else .always)

/-- The attributes that can be kept, by their names. -/
def attributes : List (List String) :=
  [["mode"], ["timestamps"], ["ownership"], ["links"], ["context"], ["xattr"], ["all"]]

/-- The setting with attributes kept or not. -/
def Setting.keep (v : Setting) (keeps : Bool) (name : String) : Setting :=
  match name with
  | "mode" => { v with keepsMode := keeps }
  | "timestamps" => { v with keepsTime := keeps }
  | "links" => { v with keepsNames := keeps }
  | "all" => { v with keepsMode := keeps, keepsTime := keeps, keepsNames := keeps }
  | _ => v

/-- The setting of copying with an option added. -/
def Setting.add (v : Setting) (o : Char × Octets) : Except Problem Setting :=
  let named (option : String) (keeps : Bool) (names : Octets) : Except Problem Setting :=
    (Octets.splitOn ',' names).foldlM (fun (v : Setting) n => (chooseWord option attributes n).map (v.keep keeps)) v
  match o.1 with
  | 'a' => .ok { v with recursive := true, following := some .never, keepsMode := true, keepsTime := true, keepsNames := true }
  | 'd' => .ok { v with following := some .never, keepsNames := true }
  | 'f' => .ok { v with forces := true, overwriting := if v.moves then .free else v.overwriting }
  | 'H' => .ok { v with following := some .operands }
  | 'i' => .ok { v with overwriting := .asking }
  | 'l' => .ok { v with linking := some .name }
  | 'L' => .ok { v with following := some .always }
  | 'n' => .ok { v with overwriting := .never }
  | 'P' => .ok { v with following := some .never }
  | 'p' => .ok { v with keepsMode := true, keepsTime := true }
  | 'κ' => if o.2.isEmpty then .ok { v with keepsMode := true, keepsTime := true } else named "--preserve" true o.2
  | 'ν' => named "--no-preserve" false o.2
  | 'r' | 'R' => .ok { v with recursive := true }
  | 's' => .ok { v with linking := some .link }
  | 'u' => .ok { v with updates := true }
  | 'v' => .ok { v with verbose := true }
  | 'ρ' => .ok { v with removesFirst := true }
  | 'π' => .ok { v with parents := true }
  | 'α' => .ok { v with attributesOnly := true }
  | 'σ' => .ok { v with strips := true }
  | 'ω' => if o.2.isEmpty then .ok v
    else (chooseWord "--reflink" [["auto"], ["always"], ["never"]] o.2).map fun _ => v
  | 'ψ' => (chooseWord "--sparse" [["never"], ["auto"], ["always"]] o.2).map fun _ => v
  | _ => .ok v

/-- The setting that options describe. -/
def Setting.of (moves : Bool) (options : List (Char × Octets)) : Except Problem Setting := do
  let v ← options.foldlM Setting.add (standard moves)
  if 1 < (options.filter fun o => o.1 = 't').length then throw (.value "multiple target directories specified")
  let (backup, suffix) ← Backup.ofOptions 'β' 'S' options
  return { v with backup, suffix }

/-- What copying has come to. -/
structure Progress where
  /-- The paths and places of the operands so far. -/
  sources : List (Octets × Place)
  /-- The paths of the files that were made for operands. -/
  made : List Octets
  /-- The copies of files with several names, by their numbers. -/
  names : List (Nat × Octets)
  /-- The directory that was made for the operand. -/
  directory : Option Place
  /-- The operand was to be copied into itself. -/
  isInside : Bool

/-- Nothing is copied yet. -/
def Progress.start : Progress := ⟨[], [], [], none, false⟩

/-- What an operand and its target are called. -/
structure Pair where
  /-- The path of the file. -/
  source : Octets
  /-- The path that it gets. -/
  target : Octets

/-- What is to be done about an existing target. -/
inductive Verdict where
  /-- It is overwritten. -/
  | go
  /-- Nothing is left to be done. -/
  | done
  /-- The copy is refused. -/
  | refused (message : String)

/-- The verdict on a target that may be the file itself. `source` and
`target` are what was found there, `followed` tells whether links were
followed. -/
def sameness (v : Setting) (p : Pair) (source target : Found) (s : State) : Verdict :=
  let refused : Verdict := .refused (quote p.source ++ " and " ++ quote p.target ++ " are the same file")
  let entry (o : Octets) : Option Found := (s.entryAt (State.path o)).toOption
  let isLink (f : Option Found) : Bool := (f.bind Found.node).any Node.isLink
  let same := s.isSameFile source.place target.place
  let sourceLink := entry p.source
  let targetLink := entry p.target
  let isOneName := sourceLink.map Found.place = targetLink.map Found.place
  let sameLink := match sourceLink, targetLink with
    | some a, some b => s.isSameFile a.place b.place
    | _, _ => false
  if same && v.linking = some .name then .done
  else if v.followed = .never && isLink sourceLink && isLink targetLink then
    (if isOneName then refused else .go)
  else if v.followed ≠ .never && !same then .go
  else if v.followed ≠ .never && isLink sourceLink && isLink targetLink && v.removesFirst then .go
  else if v.backup ≠ .none then
    (if !same then .go else if isOneName then refused else .go)
  else if (v.moves || v.removesFirst) && isLink targetLink then .go
  else if (v.moves || v.removesFirst) && sameLink && !isOneName then (if v.moves then refused else .go)
  else if !isLink sourceLink && !isLink targetLink && !sameLink then .go
  else if v.linking = some .link && isLink targetLink then .go
  else if v.followed = .never then
    match s.disk.find s.cwd (State.path p.source), s.disk.find s.cwd (State.path p.target) with
    | .ok a, .ok b =>
      if a.node.isNone || b.node.isNone || !s.isSameFile a.place b.place then .go
      else if v.linking = some .name then (if isLink targetLink then .go else .done)
      else refused
    | _, _ => .go
  else refused

/-- The verdict on a target that is there. -/
def verdict (v : Setting) (i : Invoked) (p : Pair) (made : List Octets) (source target : Found) (s : State) :
    Verdict × State :=
  let node := source.node.getD .emptyDirectory
  let former := target.node.getD .emptyDirectory
  match sameness v p source target s with
  | .go =>
    let isDirectory := node.isDirectory
    if v.updates && !isDirectory && v.overwriting ≠ .never && node.modified ≤ former.modified then (.done, s)
    else
      let (agreed, s) :=
        if (isDirectory && !v.moves) || v.overwriting = .free then (true, s)
        else if v.overwriting = .never then (false, s)
        else i.asks ("overwrite " ++ quote p.target) s
      if !agreed then (.done, s)
      else if !former.isDirectory && isDirectory && !(v.moves && v.backup ≠ .none) then
        (.refused ("cannot overwrite non-directory " ++ quote p.target ++ " with directory " ++ quote p.source), s)
      else if !former.isDirectory && v.backup ≠ .numbered && made.contains p.target then
        (.refused ("will not overwrite just-created " ++ quote p.target ++ " with " ++ quote p.source), s)
      else if !isDirectory && former.isDirectory && !(v.moves && v.backup ≠ .none) then
        (.refused ("cannot overwrite directory " ++ quote p.target ++ " with non-directory"
          ++ (if v.moves then "" else " " ++ quote p.source)), s)
      else (.go, s)
  | other => (other, s)

/-- The text that names a file and its copy. -/
def namesOf (p : Pair) (kept : Option Octets) : Octets :=
  let front := quoteOctets p.source ++ " -> ".toList ++ quoteOctets p.target
  match kept with
  | some k => front ++ " (backup: ".toList ++ quoteOctets k ++ [')', '\n']
  | none => front ++ ['\n']

/-- The attributes of a copy. -/
def keepAttributes (v : Setting) (node : Node) (target : Octets) (s : State) : State :=
  match node.attributes?, s.disk.find s.cwd (State.path target) with
  | some a, .ok found =>
    s.changeAttributes (fun b =>
      { b with mode := if v.keepsMode then a.mode else b.mode, modified := if v.keepsTime then a.modified else b.modified })
      found.place
  | _, _ => s

/-- Copies the content of a file. `isFresh` tells that nothing is at the
target. -/
def copyContent (v : Setting) (i : Invoked) (p : Pair) (node : Node) (isFresh : Bool) (s : State) : State :=
  let refused (fault : Fault) (s : State) : State :=
    i.complain ("cannot create regular file " ++ quote p.target ++ ": " ++ faultText fault) s
  let isDangling := isFresh && (s.lookupEntry (State.path p.target)).toOption.any Node.isLink
  if isDangling then i.complain ("not writing through dangling symlink " ++ quote p.target) s
  else
    let (text, s) : Except Fault Octets × State := match node with
      | .file bytes _ => (.ok (Octets.ofBytes bytes), s)
      | _ => content p.source s
    match text with
    | .error fault => i.complain ("cannot open " ++ quote p.source ++ " for reading: " ++ faultText fault) s
    | .ok text =>
      let text := if v.attributesOnly then [] else text
      let mode : WriteMode := if v.attributesOnly then .append else .truncate
      if isFresh && p.target.getLast? = some '/' then refused .notADirectory s
      else
        match s.openStream (State.path p.target) (.forWriting mode) with
        | (.error fault, s) => refused fault s
        | (.ok stream, opened) =>
          let after := { opened with writeFault := none }.writeStream stream text
          let done := { after with writeFault := s.writeFault }
          match after.writeFault with
          | some fault => i.complain ("error writing " ++ quote p.target ++ ": " ++ faultText fault) done
          | none =>
            let done := match isFresh, node.attributes?, done.disk.find done.cwd (State.path p.target) with
              | true, some a, .ok found =>
                done.changeAttributes (fun b => { b with mode := a.mode &&& (0o777 - done.umask) }) found.place
              | _, _, _ => done
            keepAttributes v node p.target done

/-- Copies or moves what is at a path, with all below it. -/
def copy (i : Invoked) (v : Setting) : Nat → Bool → Pair → Progress × State → Progress × State
  | 0, _, _, x => x
  | fuel + 1, isOperand, p, (g, s) =>
    let failed (message : String) (s : State) : Progress × State := (g, i.complain message s)
    let follows := v.followed = .always || (v.followed = .operands && isOperand)
    match s.disk.findEntry follows s.cwd (State.path p.source) with
    | .error fault => failed ("cannot stat " ++ quote p.source ++ ": " ++ faultText fault) s
    | .ok source =>
      match source.existing with
      | .error fault => failed ("cannot stat " ++ quote p.source ++ ": " ++ faultText fault) s
      | .ok node =>
        let isDirectory := node.isDirectory
        if isDirectory && !v.recursive && !v.moves then
          failed ("-r not specified; omitting directory " ++ quote p.source) s
        else if isOperand && !isDirectory && !v.moves && v.backup = .none && g.sources.contains (p.source, source.place) then
          (g, s.complain (i.name ++ ": warning: source file " ++ quote p.source ++ " specified more than once"))
        else if isOperand && isDirectory && !v.moves && v.backup = .none && g.sources.contains (p.source, source.place) then
          (g, s.complain (i.name ++ ": warning: source directory " ++ quote p.source ++ " specified more than once"))
        else
          let g := if isOperand then { g with sources := (p.source, source.place) :: g.sources } else g
          let isSpecial := isDirectory || node.isLink || (!node.isFile && v.recursive)
          let looksAtLink := isSpecial || v.moves || v.linking.isSome || v.backup ≠ .none || v.removesFirst
          let found := s.disk.findEntry (!looksAtLink) s.cwd (State.path p.target)
          match found with
          | .error .notFound => finish fuel isOperand p source node true none (g, s)
          | .error fault => failed ("cannot stat " ++ quote p.target ++ ": " ++ faultText fault) s
          | .ok target =>
            match target.node with
            | none => finish fuel isOperand p source node true none (g, s)
            | some former =>
              if target.asDirectory && !former.isDirectory then
                failed ("cannot stat " ++ quote p.target ++ ": " ++ faultText .notADirectory) s
              else
                match verdict v i p g.made source target s with
                | (.refused message, s) => failed message s
                | (.done, s) => (g, s)
                | (.go, s) =>
                  let name := State.lastSegment (State.path p.source)
                  if v.backup ≠ .none && name ≠ ['.'] && name ≠ ['.', '.'] && (v.moves || !former.isDirectory) then
                    let kept := p.target ++ v.backup.ending v.suffix target.place s
                    if v.backup ≠ .numbered && ((s.entryAt (State.path kept)).toOption.any fun f =>
                        f.node.isSome && s.isSameFile f.place source.place) then
                      failed ("backing up " ++ quote p.target ++ " might destroy source;  " ++ quote p.source
                        ++ (if v.moves then " not moved" else " not copied")) s
                    else
                      let (kept, s) := v.backup.keep v.suffix p.target s
                      finish fuel isOperand p source node true kept (g, s)
                  else if !former.isDirectory && !v.moves
                      && (v.removesFirst || (v.forces && v.linking.isSome)
                        || (v.keepsNames && former.shared?.isSome) || (v.followed = .never && !node.isFile)) then
                    let s := s.eraseNode target.place
                    let s := if v.verbose then s.print (Octets.ofString ("removed " ++ quote p.target ++ "\n")) else s
                    finish fuel isOperand p source node true none (g, s)
                  else finish fuel isOperand p source node false none (g, s)
termination_by fuel => (fuel, 0)
where
  /-- Copies or moves an entry after all questions about the target are
  answered. -/
  finish (fuel : Nat) (isOperand : Bool) (p : Pair) (source : Found) (node : Node) (isFresh : Bool) (kept : Option Octets)
      (x : Progress × State) : Progress × State :=
    let (g, s) := x
    let failed (message : String) (s : State) : Progress × State := (g, i.complain message s)
    let noted (g : Progress) : Progress := if isOperand then { g with made := p.target :: g.made } else g
    if v.moves then
      match s.rename (State.path p.source) (State.path p.target) with
      | .ok s => (noted g, if v.verbose then s.print ("renamed ".toList ++ namesOf p kept) else s)
      | .error .invalidArgument =>
        failed ("cannot move " ++ quote p.source ++ " to a subdirectory of itself, " ++ quote p.target) s
      | .error fault => failed ("cannot move " ++ quote p.source ++ " to " ++ quote p.target ++ ": " ++ faultText fault) s
    else
      let told (s : State) : State := if v.verbose then s.print (namesOf p kept) else s
      match node with
      | .directory es a =>
        let made : Except Fault State :=
          if isFresh then s.makeDirectory ((a.mode &&& (0o7777 - s.umask)) ||| 0o700) (State.path p.target) else .ok s
        match made with
        | .error fault => failed ("cannot create directory " ++ quote p.target ++ ": " ++ faultText fault) s
        | .ok s =>
          let s := if isFresh then told s else s
          let place := (s.disk.find s.cwd (State.path p.target)).toOption.map Found.place
          let g := if isOperand then { g with directory := place } else g
          let isInside := place.any fun q => source.place.isPrefixOf q
          -- The directory that was just made comes last, and then is too much.
          let inner := es.filter fun e => some (source.place ++ [e.1]) ≠ g.directory
          let (g, s) := inner.foldl (fun x e =>
            let name := Octets.ofString e.1
            copy i v fuel false ⟨below p.source name, below p.target name⟩ x) (g, s)
          let meets := g.directory.any fun q => source.place.isPrefixOf q && q.length = source.place.length + 1
          if isInside && meets && isOperand then
            ({ g with isInside := true },
              i.complain ("cannot copy a directory, " ++ quote p.source ++ ", into itself, " ++ quote p.target) s)
          else
            let s := if isFresh then
                (match s.disk.find s.cwd (State.path p.target) with
                | .ok found => s.changeAttributes (fun b => { b with mode := a.mode &&& (0o7777 - s.umask) }) found.place
                | .error _ => s)
              else s
            (g, keepAttributes v node p.target s)
      | node =>
        let s := told s
        match v.linking with
        | some .link =>
          if p.source.head? ≠ some '/' && frontSegments p.target ≠ ['.'] then
            failed (quoteRare p.target ++ ": can make relative symbolic links only in current directory") s
          else
            match s.makeLink p.source (State.path p.target) with
            | .ok s => (noted g, s)
            | .error fault =>
              failed ("cannot create symbolic link " ++ quote p.target ++ " to " ++ quote p.source ++ ": " ++ faultText fault) s
        | some .name =>
          match s.share (v.followed ≠ .never) (State.path p.source) (State.path p.target) with
          | .ok s => (noted g, s)
          | .error fault =>
            failed ("cannot create hard link " ++ quote p.target ++ " to " ++ quote p.source ++ ": " ++ faultText fault) s
        | none =>
          match node with
          | .link text =>
            match s.makeLink (Octets.ofString text) (State.path p.target) with
            | .ok s => (noted g, s)
            | .error fault => failed ("cannot create symbolic link " ++ quote p.target ++ ": " ++ faultText fault) s
          | node =>
            let number := if v.keepsNames then node.shared? else none
            match number.bind fun n => g.names.lookup n with
            | some former =>
              let s := if isFresh then s else match s.removeFile (State.path p.target) with
                | .ok s => s
                | .error _ => s
              match s.share false (State.path former) (State.path p.target) with
              | .ok s => (noted g, s)
              | .error fault =>
                failed ("cannot create hard link " ++ quote p.target ++ " to " ++ quote former ++ ": " ++ faultText fault) s
            | none =>
              let g := match number with
                | some n => { g with names := (n, p.target) :: g.names }
                | none => g
              (noted g, copyContent v i p node isFresh s)
  termination_by (fuel, 1)

/-- Makes the directories of an operand in the target. -/
def makeParents (i : Invoked) (v : Setting) (target o : Octets) (s : State) : Bool × State :=
  let fronts := ((State.path o).ancestors.drop 1).reverse.filterMap fun p =>
    let t := Octets.ofString p.text
    if t.isEmpty || t.all (· = '/') then none else some t
  fronts.foldl (fun (ok, s) front =>
    let made := inDirectory target front
    if !ok then (ok, s)
    else
      match s.lookup (State.path made) with
      | .ok node =>
        if node.isDirectory then (true, s)
        else (false, i.complain (quote made ++ " exists but is not a directory") s)
      | .error _ =>
        let mode := ((s.lookup (State.path front)).toOption.map Node.mode).getD 0o777 &&& (0o7777 - s.umask)
        match (s.lookup (State.path front)), s.makeDirectory (mode ||| 0o700) (State.path made) with
        | .error fault, _ =>
          (false, i.complain ("failed to get attributes of " ++ quote front ++ ": " ++ faultText fault) s)
        | _, .ok s => (true, if v.verbose then s.print (front ++ " -> ".toList ++ made ++ ['\n']) else s)
        | _, .error fault => (false, i.complain ("cannot make directory " ++ quote made ++ ": " ++ faultText fault) s))
    (true, s)

/-- Copies or moves all operands. -/
def all (i : Invoked) (v : Setting) (s : State) : State :=
  if v.linking.isSome && i.has 'l' && i.has 's' then i.refuse "cannot make both hard and symbolic links" s
  else
    let bare (o : Octets) : Octets :=
      let trimmed := (o.reverse.dropWhile (· = '/')).reverse
      if trimmed.isEmpty then o else trimmed
    let excluded := v.backup ≠ .none && v.overwriting = .never
    let combining := "cannot combine --target-directory (-t) and --no-target-directory (-T)"
    match Destination.of i.operands (i.value? 't') (i.has 'T') true combining s with
    | .error problem =>
      if excluded && !v.moves then i.refuse "options --backup and --no-clobber are mutually exclusive" s
      else i.reject problem s
    | .ok d =>
      if excluded then i.refuse "options --backup and --no-clobber are mutually exclusive" s
      else if v.parents && !d.isDirectory then i.refuse "with --parents, the destination must be a directory" s
      else
        let d := if !v.strips then d
          else if d.isDirectory then { d with sources := d.sources.map bare }
          else if v.moves then { d with sources := d.sources.map bare, target := bare d.target }
          else d
        let several := 1 < d.sources.length
        (d.sources.foldl (fun (g, s) o =>
          let (ok, s) := if v.parents then makeParents i v d.target (bare o) s else (true, s)
          if !ok then (g, s)
          else
            let name := lastSegment o
            let target := if v.parents then inDirectory d.target (bare o)
              else if d.isDirectory && !v.moves && name = ['.', '.'] then below d.target ['.'] else d.pathOf o
            let (g', s) := copy i v 200 true ⟨o, target⟩ ({ (if several then g else .start) with directory := none }, s)
            (g', s)) (Progress.start, s)).2

end Copying

/-- Copies files, with `-r` also directories. -/
def cp : Utility :=
  withSetting ⟨"abdfHilLnPprRsTuvxαπρσZχ", "tSνψ", "βκω", [("archive", 'a'), ("attributes-only", 'α'), ("backup", 'β'),
      ("copy-contents", 'χ'), ("dereference", 'L'), ("force", 'f'), ("interactive", 'i'), ("link", 'l'), ("no-clobber", 'n'),
      ("no-dereference", 'P'), ("no-preserve", 'ν'), ("no-target-directory", 'T'), ("one-file-system", 'x'), ("parents", 'π'),
      ("preserve", 'κ'), ("recursive", 'R'), ("reflink", 'ω'), ("remove-destination", 'ρ'), ("sparse", 'ψ'),
      ("strip-trailing-slashes", 'σ'), ("suffix", 'S'), ("symbolic-link", 's'), ("target-directory", 't'), ("update", 'u'),
      ("verbose", 'v')], false, 1⟩
    (Copying.Setting.of false) Copying.all

/-- Moves files and directories. -/
def mv : Utility :=
  withSetting ⟨"bfinTuvσZ", "tS", "β", [("backup", 'β'), ("context", 'Z'), ("force", 'f'), ("interactive", 'i'),
      ("no-clobber", 'n'), ("no-target-directory", 'T'), ("strip-trailing-slashes", 'σ'), ("suffix", 'S'),
      ("target-directory", 't'), ("update", 'u'), ("verbose", 'v')], false, 1⟩
    (Copying.Setting.of true) Copying.all

end Utility

end Shell

end Tangle
