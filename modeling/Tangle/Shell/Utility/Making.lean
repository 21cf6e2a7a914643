import Tangle.Shell.Moment
import Tangle.Shell.Permission
import Tangle.Shell.Utility.Target
/-!
# Making entries

The programs that make directories (`mkdir`), files (`touch`), and further
names of files or links to them (`ln`, `link`).
-/

namespace Tangle

namespace Shell

namespace Utility

/-! ## Directories -/

/-- The paths above a path, the topmost first. -/
def pathsAbove (o : Octets) : List Octets :=
  ((State.path o).ancestors.drop 1).reverse.filterMap fun p =>
    let t := Octets.ofString p.text
    if t.isEmpty || t.all (· = '/') then none else some t

/-- Makes directories, with `-p` also those above them. -/
def mkdir : Utility :=
  withOptions ⟨"pvZ", "m", "ζ", [("context", 'ζ'), ("mode", 'm'), ("parents", 'p'), ("verbose", 'v')], false, 1⟩
    fun i s =>
      let told (o : Octets) (s : State) : State :=
        if i.has 'v' then s.print (Octets.ofString (i.name ++ ": created directory " ++ quote o ++ "\n")) else s
      let refused (o : Octets) (fault : Fault) (s : State) : State :=
        i.complain ("cannot create directory " ++ curly o ++ ": " ++ faultText fault) s
      let isThere (o : Octets) (s : State) : Bool := s.disk.isDirectoryAt s.cwd (State.path o)
      let wanted := (i.value? 'm').map Permission.read?
      match i.operands, wanted with
      | [], _ => i.refuse "missing operand" s
      | _, some none => i.complain ("invalid mode " ++ curly ((i.value? 'm').getD [])) s
      | operands, wanted =>
        let standard := 0o777 &&& (Permission.all - s.umask)
        let mode := match wanted with
          | some (some changes) => Permission.adjusted true s.umask changes 0o777
          | _ => standard
        let make (isAbove : Bool) (mode : Nat) (o : Octets) (s : State) : Bool × State :=
          match s.makeDirectory mode (State.path o) with
          | .ok s => (true, told o s)
          | .error fault =>
            if i.has 'p' && isThere o s then (true, s)
            else (false, refused o (if isAbove && fault = .alreadyExists then .notADirectory else fault) s)
        operands.foldl (fun s o =>
          if i.has 'p' then
            let (ok, s) := (pathsAbove o).foldl (fun (ok, s) above =>
              if !ok then (ok, s) else make true (standard ||| 0o300) above s) (true, s)
            if ok then (make false mode o s).2 else s
          else (make false mode o s).2) s

/-! ## Files -/

/-- The time that files are to have, or what is wrong with it; nothing if
it is the present. -/
def Invoked.stamp (i : Invoked) (s : State) : Except Problem (Option Int) :=
  let now := Moment.ofNanoseconds s.now
  let date := i.value? 'd'
  let written (v : Octets) (t : Option Moment) : Except Problem (Option Int) :=
    match t with
    | some t => .ok (some t.toNanoseconds)
    | none => .error (.value ("invalid date format " ++ curly v))
  match i.value? 't', i.value? 'r', date with
  | some v, none, none => written v (Moment.ofStamp? now v)
  | none, some file, date =>
    match s.lookup (State.path file) with
    | .error fault => .error (.value ("failed to get attributes of " ++ quote file ++ ": " ++ faultText fault))
    | .ok node =>
      match date with
      | none => .ok (some node.modified)
      | some d => written d (Moment.read? (Moment.ofNanoseconds node.modified) d)
  | none, none, some d => written d (Moment.read? now d)
  | none, none, none => .ok none
  | some _, _, _ => .error (.usage "cannot specify times from more than one source")

/-- Makes the files that are not there, and changes the times of all. -/
def touch : Utility :=
  withSetting ⟨"acfmh", "drtτ", "", [("date", 'd'), ("no-create", 'c'), ("no-dereference", 'h'), ("reference", 'r'),
      ("time", 'τ')], false, 1⟩
    (fun options => options.foldlM (fun (onlyAccess : Option Bool) o =>
      match o.1 with
      | 'a' => .ok (some (onlyAccess ≠ some false))
      | 'm' => .ok (some false)
      | 'τ' => (chooseWord "--time" [["atime", "access", "use"], ["mtime", "modify"]] o.2).map fun w =>
          some (w = "atime" && onlyAccess ≠ some false)
      | _ => .ok onlyAccess) none)
    fun i onlyAccess s =>
      match i.stamp s with
      | .error problem => i.reject problem s
      | .ok stamp =>
        if i.operands.isEmpty then i.refuse "missing file operand" s
        else
          let time := stamp.getD s.now
          let stamped (place : Place) (s : State) : State :=
            if onlyAccess = some true then s else s.changeAttributes (fun a => { a with modified := time }) place
          let untouched (o : Octets) (given : Except Fault Node) (s : State) : State :=
            match given with
            | .ok _ => s
            | .error fault =>
              if fault = .notFound && i.has 'c' then s
              else i.complain ("setting times of " ++ quote o ++ ": " ++ faultText fault) s
          i.operands.foldl (fun s o =>
            if o = ['-'] then s
            else
              let given := if i.has 'h' then s.lookupEntry (State.path o) else s.lookup (State.path o)
              let isFresh := given.toOption.isNone && !i.has 'c' && !i.has 'h'
              match if isFresh then writeFile o [] .append s else .ok s with
              | .error .isADirectory => untouched o given s
              | .error fault => i.complain ("cannot touch " ++ quote o ++ ": " ++ faultText fault) s
              | .ok s =>
                match given, s.disk.findEntry (!i.has 'h') s.cwd (State.path o) with
                | .error _, .ok found => if isFresh then stamped found.place s else untouched o given s
                | .ok _, .ok found => stamped found.place s
                | given, _ => untouched o given s) s

/-! ## Names and links -/

namespace Link

/-- How links are made. -/
structure Setting where
  /-- They hold a path. -/
  symbolic : Bool
  /-- The path is the way from the link. -/
  relative : Bool
  /-- What is there is removed. -/
  forces : Bool
  /-- What is there is removed if the answer is yes. -/
  asks : Bool
  /-- Directories may get names. -/
  directories : Bool
  /-- A link stands for what it leads to. -/
  through : Bool
  /-- What is there is kept. -/
  backup : Backup
  /-- The suffix of what is kept. -/
  suffix : Octets
  /-- All is told. -/
  verbose : Bool

/-- The way from the directory of a path to another path. -/
def wayTo (source path : Octets) (s : State) : Octets :=
  let place (o : Octets) : Place := (canonical .nothing o s).toOption.getD []
  wayBetween (place (frontSegments path)) (place source)

/-- The complaint that a link cannot be made. -/
def refusal (v : Setting) (source path : Octets) (fault : Fault) : String :=
  let named := if v.symbolic then
      (if fault = .nameTooLong || source.isEmpty then "symbolic link " ++ quote path ++ " -> " ++ quote source
        else "symbolic link " ++ quote path)
    else if fault = .alreadyExists then "hard link " ++ quote path
    else "hard link " ++ quote path ++ " => " ++ quote source
  "failed to create " ++ named ++ ": " ++ faultText fault

/-- Makes one link; `made` are the paths of those made before. -/
def make (i : Invoked) (v : Setting) (made : List Place) (source path : Octets) (s : State) : List Place × State :=
  let refused (message : String) (s : State) : List Place × State := (made, i.complain message s)
  let origin := s.disk.findEntry v.through s.cwd (State.path source)
  match if v.symbolic then .ok .emptyDirectory else origin.bind Found.existing with
  | .error fault => refused ("failed to access " ++ quote source ++ ": " ++ faultText fault) s
  | .ok node =>
    let text := if v.relative then wayTo source path s else source
    let create (s : State) : Except Fault State :=
      if v.symbolic then s.makeLink text (State.path path) else s.share v.through (State.path source) (State.path path)
    let finish (kept : Option Octets) (s : State) : List Place × State :=
      let place := ((s.entryAt (State.path path)).toOption.map Found.place).getD []
      let front := match kept with
        | some k => quoteOctets k ++ " ~ ".toList
        | none => []
      (if v.symbolic then made else place :: made, if v.verbose then
          s.print (front ++ quoteOctets path ++ (if v.symbolic then " -> " else " => ").toList ++ quoteOctets text ++ ['\n'])
        else s)
    let failed (fault : Fault) : List Place × State := refused (refusal v text path fault) s
    if !v.symbolic && node.isDirectory && !v.directories then
      refused (quoteRare source ++ ": hard link not allowed for directory") s
    else
      match create s with
      | .ok s => finish none s
      | .error fault =>
        let found := s.entryAt (State.path path)
        match found.toOption.bind Found.node, v.forces || v.asks || v.backup ≠ .none with
        | some former, true =>
          let place := (found.toOption.map Found.place).getD []
          let behind : Option Place := ((if v.symbolic then s.disk.find s.cwd (State.path source) else origin).toOption).map Found.place
          if former.isDirectory then refused (quoteRare path ++ ": cannot overwrite directory") s
          else if made.contains place then
            refused ("will not overwrite just-created " ++ quote path ++ " with " ++ quote source) s
          else if (v.backup = .none || !v.symbolic) && behind = some place then
            refused (quote source ++ " and " ++ quote path ++ " are the same file") s
          else if fault ≠ .alreadyExists then failed fault
          else
            let (agreed, s) := if v.asks then i.asks ("replace " ++ quote path) s else (true, s)
            if !agreed then (made, s)
            else
              let (kept, s) := v.backup.keep v.suffix path s
              let s := if kept.isSome then s else s.eraseNode place
              match create s with
              | .ok s => finish kept s
              | .error fault => refused (refusal v text path fault) s
        | _, _ => failed fault

end Link

/-- Makes links. -/
def ln : Utility :=
  withSetting ⟨"bdFfiLnPrsTv", "tS", "β", [("backup", 'β'), ("directory", 'F'), ("force", 'f'), ("interactive", 'i'),
      ("logical", 'L'), ("no-dereference", 'n'), ("no-target-directory", 'T'), ("physical", 'P'), ("relative", 'r'),
      ("suffix", 'S'), ("symbolic", 's'), ("target-directory", 't'), ("verbose", 'v')], false, 1⟩
    (Backup.ofOptions 'β' 'S') fun i (backup, suffix) s =>
      let v : Link.Setting :=
        { symbolic := i.has 's'
          relative := i.has 'r'
          forces := i.last? "fi" = some 'f'
          asks := i.last? "fi" = some 'i'
          directories := i.has 'd' || i.has 'F'
          through := i.last? "LP" = some 'L'
          backup, suffix
          verbose := i.has 'v' }
      let refused : Option Fault := (i.value? 't').bind fun t =>
        match s.lookup (State.path t) with
        | .ok node => if node.isDirectory then none else some .notADirectory
        | .error fault => some fault
      if let (some t, some fault, false) := (i.value? 't', refused, i.has 'T') then
        i.complain ("failed to access " ++ quote t ++ ": " ++ faultText fault) s
      else if i.operands.isEmpty then i.refuse "missing file operand" s
      else if v.relative && !v.symbolic then i.complain "cannot do --relative without --symbolic" s
      else
        let given := if i.operands.length = 1 && !i.has 'T' then (i.value? 't').or (some ['.']) else i.value? 't'
        match Destination.of i.operands given (i.has 'T') (!i.has 'n')
            "cannot combine --target-directory and --no-target-directory" s with
        | .error problem => i.reject problem s
        | .ok d => (d.sources.foldl (fun (made, s) o => Link.make i v made o (d.pathOf o) s) ([], s)).2

/-- Gives a file one more name. -/
def link : Utility := withOptions (Spec.letters "" "") fun i s =>
  match i.operands with
  | [] => i.refuse "missing operand" s
  | [a] => i.refuse ("missing operand after " ++ curly a) s
  | [a, b] =>
    i.changing ("cannot create link " ++ quote b ++ " to " ++ quote a) (s.share false (State.path a) (State.path b)) s
  | _ :: _ :: extra :: _ => i.refuse ("extra operand " ++ curly extra) s

end Utility

end Shell

end Tangle
