import Tangle.Shell.Builtin.Variables
import Tangle.Shell.Program
/-!
# Commands on names

The built-in commands that tell what a name calls: a reserved word, an
alias, a function, a built-in command or a program.
-/

namespace Tangle

namespace Shell

namespace Builtin

/-- What a name calls, apart from programs and reserved words. -/
inductive Kind where
  /-- A built-in command. -/
  | builtin (special : Bool)
  /-- A function. -/
  | function
deriving Repr, DecidableEq

/-- Tells what a name calls: the text that is printed, and whether there is
such a thing. -/
def describe (kindOf : Octets → Option Kind) (verbose : Bool) (s : State) (name : Octets) : Option Octets :=
  let text (brief long : Octets) : Option Octets := some ((if verbose then name ++ long else brief) ++ ['\n'])
  if (Script.reserved? s.isWide name).isSome then text name " is a shell keyword".toList
  else
    match if s.isWide && !s.hasFeature .expandAliases then none else s.aliases.lookup name with
    | some value =>
      let quotedValue := if s.isWide then Quoting.single value else quoted value
      text ("alias ".toList ++ name ++ ['='] ++ quotedValue)
        (if s.isWide then " is aliased to \x60".toList ++ value ++ ['\''] else " is an alias for ".toList ++ value)
    | none =>
      match kindOf name with
      | some (.builtin special) =>
        text name (if special && !s.isWide then " is a special shell builtin" else " is a shell builtin").toList
      | some .function =>
        if !s.isWide then text name " is a shell function".toList
        else (text name " is a function".toList).map (· ++ if verbose then definition s name else [])
      | none =>
        match s.findProgram name with
        | .error _ => none
        | .ok file =>
          if !((s.lookup (State.path file)).toOption.any Node.isExecutable) then none
          else
            let known := s.found.contains name && !name.contains '/'
            text file (if !known then " is ".toList ++ file
              else if s.isWide then " is hashed (".toList ++ file ++ [')'] else " is a tracked alias for ".toList ++ file)

/-- Keeps a name of a program that was described. -/
def remember (kindOf : Octets → Option Kind) (name : Octets) (s : State) : State :=
  let isOther := (Script.reserved? s.isWide name).isSome || (s.aliases.lookup name).isSome || (kindOf name).isSome
  if s.isWide || isOther || name.contains '/' || s.found.contains name then s
  else { s with found := s.found ++ [name] }

/-- Tells what names call, in the plain dialect. -/
def typePlain (kindOf : Octets → Option Kind) : Builtin := fun args s =>
  args.foldl (fun s name =>
    match describe kindOf true s name with
    | some text => remember kindOf name (s.print text)
    | none => (s.print (name ++ ": not found\n".toList)).ended 127) (s.ended 0)

/-- One word for what a name calls. -/
def kindWord (kindOf : Octets → Option Kind) (s : State) (name : Octets) : Option String :=
  if s.hasFeature .expandAliases && (s.aliases.lookup name).isSome then some "alias"
  else if (Script.reserved? true name).isSome then some "keyword"
  else
    match kindOf name with
    | some .function => some "function"
    | some (.builtin _) => some "builtin"
    | none => if (programPath? s name).isSome then some "file" else none
where
  /-- The path of the program of a name. -/
  programPath? (s : State) (name : Octets) : Option Octets :=
    (s.findProgram name).toOption.filter fun file => (s.lookup (State.path file)).toOption.any Node.isExecutable

/-- The paths of all programs of a name. -/
def programPaths (s : State) (name : Octets) : List Octets :=
  (s.candidates name).filter fun p => (s.lookup (State.path p)).toOption.any fun n => n.isFile && n.isExecutable

/-- Tells what names call, in the wide dialect. -/
def typeWide (kindOf : Octets → Option Kind) : Builtin :=
  withOptions "" "afptP" fun given names s =>
    let kindOf (name : Octets) : Option Kind :=
      match kindOf name with
      | some .function => if has given 'f' then none else some .function
      | kind => kind
    let missing (name : Octets) (s : State) : State :=
      if has given 't' || has given 'p' || has given 'P' then s.ended 1
      else fail 1 (Octets.text name ++ ": not found") s
    names.foldl (fun s name =>
      let files := programPaths s name
      if has given 't' then
        match kindWord kindOf s name with
        | some word => s.print (word ++ "\n").toList
        | none => missing name s
      else if has given 'P' || has given 'p' then
        let isOther := has given 'p' && (kindWord kindOf s name).any (· ≠ "file")
        if isOther then s
        else
          match if has given 'a' then files else files.take 1 with
          | [] => missing name s
          | files => s.print (files.flatMap fun f => f ++ ['\n'])
      else
        match describe kindOf true s name with
        | none => missing name s
        | some text =>
          let isFile := kindWord kindOf s name = some "file"
          let s := s.print text
          if !has given 'a' then s
          else s.print ((if isFile then files.drop 1 else files).flatMap fun f =>
            name ++ " is ".toList ++ f ++ ['\n'])) (s.ended 0)

/-- Tells what names call. -/
def type (kindOf : Octets → Option Kind) : Builtin := fun args s =>
  if s.isWide then typeWide kindOf args s else typePlain kindOf args s

/-- Tells what names call, or runs nothing. -/
def command (kindOf : Octets → Option Kind) : Builtin :=
  withOptions "pvV" "pvV" fun given operands s =>
    if given.isEmpty || operands.isEmpty then s.ended 0
    else
      let tell (s : State) (name : Octets) : State :=
        match describe kindOf (has given 'V') s name with
        | some text => remember kindOf name ((s.print text).ended 0)
        | none =>
          if !has given 'V' then s.ended (if s.isWide then 1 else 127)
          else if s.isWide then fail 1 (Octets.text name ++ ": not found") s
          else (s.print (name ++ ": not found\n".toList)).ended 127
      if !s.isWide then tell s (operands.head?.getD [])
      else
        -- It succeeds if one of the names calls anything.
        let after := operands.foldl tell s
        if operands.any fun o => (describe kindOf false s o).isSome then after.ended 0 else after

/-- The place of a program in the list of those that were found. -/
def programRank (name : Octets) : Nat :=
  ((name.head?.map fun c => c.toNat * 16).getD 0 + (name.map Char.toNat).foldl (· + ·) 0) % 31

/-- Lists the programs that were found, or forgets them. -/
def hash : Builtin :=
  withOptions "rv" "lrdtp:" fun given operands s =>
    let s := s.ended 0
    let path (name : Octets) : Octets := (s.findProgram name).toOption.getD name
    if has given 'r' then { s with found := [] }
    else if has given 'd' then { s with found := s.found.filter fun n => !operands.contains n }
    else if operands.isEmpty then
      if !s.isWide then
        let found := s.found.mergeSort fun a b => programRank a ≤ programRank b
        s.print (found.flatMap fun name => path name ++ ['\n'])
      else if s.found.isEmpty then s.print "hash: hash table empty\n".toList
      else s.print ("hits\tcommand\n".toList ++ s.found.flatMap fun name => "   1\t".toList ++ path name ++ ['\n'])
    else operands.foldl (fun s name =>
      match s.findProgram name with
      | .ok file =>
        if has given 't' then s.print (file ++ ['\n'])
        else { s with found := if s.found.contains name then s.found else s.found ++ [name] }
      | .error _ => fail 1 (Octets.text name ++ ": not found") s) s

end Builtin

end Shell

end Tangle
