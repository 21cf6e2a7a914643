import Tangle.Shell.Builtin.Variables
/-!
# Commands on options and parameters

The built-in commands that set the options of the interpreter and its
positional parameters, those that read the options of scripts, and those on
aliases.
-/

namespace Tangle

namespace Shell

namespace Builtin

/-! ## Options of the interpreter -/

/-- Texts in one column, filled up with blanks. -/
def column (width : Nat) (s : String) : String := s ++ String.ofList (List.replicate (width - s.length) ' ')

/-- An option as it is listed. -/
def optionLine (asCommands : Bool) (s : State) (o : Switch) (name : String) : String :=
  if asCommands then "set " ++ (if s.has o then "-o " else "+o ") ++ name ++ "\n"
  else (if s.isWide then column 15 name ++ "\t" else column 16 name) ++ (if s.has o then "on" else "off") ++ "\n"

/-- Lists the options. -/
def listOptions (asCommands : Bool) (s : State) : State :=
  s.print ((Switch.all s.dialect).flatMap fun (o, name, _) => (optionLine asCommands s o name).toList)

/-- Complains about the name of an option. -/
def refuseOptionName (name : Octets) (s : State) : State :=
  if s.isWide then fail 2 (Octets.text name ++ ": invalid option name") s
  else s.abort ("Illegal option -o " ++ Octets.text name)

/-- Sets options, and the positional parameters if others follow. -/
def setOptions : Nat → List Octets → State → State
  | 0, _, s => s
  | _ + 1, [], s => s
  | fuel + 1, a :: rest, s =>
    match a with
    | ['-', '-'] => { s with args := rest }
    | ['-'] =>
      let s := (s.setOption .xtrace false).setOption .verbose false
      if rest.isEmpty then s else { s with args := rest }
    | sign :: letter :: letters =>
      if sign = '-' || sign = '+' then applyLetters fuel (sign = '-') (letter :: letters) rest s
      else { s with args := a :: rest }
    | _ => { s with args := a :: rest }
where
  /-- Sets the options of letters; an `o` takes a name from what follows. -/
  applyLetters (fuel : Nat) (value : Bool) (letters : Octets) (rest : List Octets) (s : State) : State :=
    match fuel with
    | 0 => s
    | fuel + 1 =>
      match letters with
      | [] => setOptions fuel rest s
      | 'o' :: more =>
        match rest with
        | [] =>
          let s := if value && !s.isWide then s.print "Current option settings\n".toList else s
          applyLetters fuel value more [] (listOptions (!value) s)
        | name :: rest =>
          match Switch.ofName? s.dialect (Octets.text name) with
          | some o => applyLetters fuel value more rest (s.setOption o value)
          | none => refuseOptionName name s
      | c :: more =>
        match Switch.ofLetter? s.dialect c with
        | some o => applyLetters fuel value more rest (s.setOption o value)
        | none => refuseOptions (.unknown c) s

/-- Sets options and positional parameters, or lists the variables. -/
def set : Builtin := fun args s =>
  let s := s.ended 0
  if args.isEmpty then
    if s.isWide then listAll s
    else listVariables "" (fun v => v.value.isSome) s
  else setOptions (args.flatten.length + 2 * args.length + 2) args s

/-- A feature as it is listed. -/
def featureLine (asCommands : Bool) (s : State) (name : String) : String :=
  let isOn := s.hasFeature (.ofName name)
  if asCommands then "shopt " ++ (if isOn then "-s " else "-u ") ++ name ++ "\n"
  else column 15 name ++ "\t" ++ (if isOn then "on" else "off") ++ "\n"

/-- Sets features, or options of the interpreter after `-o`, or lists
them. -/
def feature : Builtin :=
  withOptions "" "pqsuo" fun given operands s =>
    let s := s.ended 0
    let asCommands := has given 'p'
    let forOptions := has given 'o'
    let isKnown (name : Octets) : Bool :=
      if forOptions then (Switch.ofName? .wide (Octets.text name)).isSome
      else Feature.names.contains (Octets.text name)
    let isOn (s : State) (name : Octets) : Bool :=
      if forOptions then (Switch.ofName? .wide (Octets.text name)).any s.has
      else s.hasFeature (.ofName (Octets.text name))
    let line (s : State) (name : Octets) : Octets :=
      if forOptions then
        match Switch.ofName? .wide (Octets.text name) with
        | some o => (optionLine asCommands s o (Octets.text name)).toList
        | none => []
      else (featureLine asCommands s (Octets.text name)).toList
    let change (value : Bool) (name : Octets) (s : State) : State :=
      if forOptions then
        match Switch.ofName? .wide (Octets.text name) with
        | some o => s.setOption o value
        | none => s
      else
        let f := Feature.ofName (Octets.text name)
        let others := s.features.filter (· ≠ f)
        { s with features := if value then others ++ [f] else others }
    let refuse (name : Octets) (s : State) : State :=
      fail 1 (Octets.text name ++ ": invalid shell option name") s
    let setting := has given 's' || has given 'u'
    match operands with
    | [] =>
      let names := if forOptions then Switch.wide.map fun e => e.2.1.toList else Feature.names.map String.toList
      let names := if setting then names.filter fun n => isOn s n = has given 's' else names
      if has given 'q' then s else s.print (names.flatMap (line s))
    | operands =>
      operands.foldl (fun s name =>
        if !isKnown name then refuse name s
        else if setting then change (has given 's') name s
        else
          let s := if has given 'q' then s else s.print (line s name)
          if isOn s name then s else s.ended 1) s

/-! ## Positional parameters -/

/-- Drops positional parameters. -/
def shift : Builtin := fun args s =>
  if s.isWide then
    match (args.head?.map wideCount).getD (.ok 1) with
    | .error problem => fail 1 problem s
    | .ok n =>
      if 1 < args.length then { fail 1 "too many arguments" s with jump := some .leaveLine }
      else if n < 0 then fail 1 (toString n ++ ": shift count out of range") s
      else if s.args.length < n.toNat then
        if s.hasFeature .shiftVerbose then fail 1 (toString n ++ ": shift count out of range") s else s.ended 1
      else { s with status := 0, args := s.args.drop n.toNat }
  else
    match (args.head?.map count).getD (.ok 1) with
    | .error problem => s.abort problem
    | .ok n =>
      if s.args.length < n then s.abort "can't shift that many"
      else { s with status := 0, args := s.args.drop n }

/-! ## Options of scripts -/

/-- The next option in arguments. -/
structure NextOption where
  /-- The letter, or a sign that there is something wrong. -/
  letter : Octets
  /-- The argument of the option; nothing if it is to be removed. -/
  argument : Option Octets
  /-- The number of the argument after it. -/
  index : Nat
  /-- The place within the argument before, if its letters go on. -/
  offset : Nat
  /-- What is wrong with it. -/
  flaw : Option OptionFlaw
  /-- There are no more options. -/
  isEnd : Bool

/-- Finds the next option from a place in arguments on. The place behind
the last letter of an argument is kept only if `keepsEnd` is set. -/
def nextOption (keepsEnd : Bool) (spec : Octets) (args : List Octets) (index offset : Nat) : NextOption :=
  let silent := spec.head? = some ':'
  let current := if index ≤ 1 || offset = 0 then [] else ((args[index - 2]?).getD []).drop offset
  let ending (index : Nat) : NextOption := ⟨['?'], none, index, 0, none, true⟩
  let take (letters : Octets) (index offset : Nat) : NextOption :=
    match letters with
    | [] => ending index
    | c :: more =>
      let next := if more.isEmpty && !keepsEnd then 0 else offset + 1
      if !spec.contains c || c = ':' then
        if silent then ⟨['?'], some [c], index, next, none, false⟩
        else ⟨['?'], none, index, next, some (.unknown c), false⟩
      else if ((spec.dropWhile (· ≠ c)).drop 1).head? = some ':' then
        if !more.isEmpty then ⟨[c], some more, index, 0, none, false⟩
        else
          match args[index - 1]? with
          | some a => ⟨[c], some a, index + 1, 0, none, false⟩
          | none =>
            if silent then ⟨[':'], some [c], index, 0, none, false⟩
            else ⟨['?'], none, index, 0, some (.noArgument c), false⟩
      else ⟨[c], some [], index, next, none, false⟩
  match current with
  | c :: more => take (c :: more) index offset
  | [] =>
    match args[index - 1]? with
    | some ['-', '-'] => ending (index + 1)
    | some ('-' :: c :: more) => take (c :: more) (index + 1) 1
    | _ => ending index

/-- Reads the next option of the positional parameters or of arguments into
a variable. -/
def getopts : Builtin := fun operands s =>
  match operands with
  | spec :: name :: given =>
    let args := if given.isEmpty then s.args else given
    let (index, offset) := if args.length + 1 < s.optionIndex then (1, 0) else (s.optionIndex, s.optionOffset)
    let o := nextOption (!s.isWide) spec args index offset
    let s := match o.flaw with
      | some flaw => complainOf flaw s
      | none => s
    let s := if o.isEnd then s
      else match o.argument with
        | some a => s.setVariable "OPTARG".toList a
        | none => s.unset "OPTARG".toList
    let s := s.setVariable "OPTIND".toList (toString o.index).toList
    let s := { s with optionOffset := o.offset }
    withName name (fun s => (s.setVariable name o.letter).ended (if o.isEnd then 1 else 0)) s
  | _ => if s.isWide then showSynopsis s else s.abort "Usage: getopts optstring var [arg...]"
where
  /-- Complains about an option of a script, if that is wanted. -/
  complainOf (flaw : OptionFlaw) (s : State) : State :=
    if !s.isWide then s.complain (flaw.message .plain)
    else if s.value? "OPTERR".toList = some ['0'] then s
    else
      s.complain (Octets.text s.name ++ match flaw with
        | .unknown c => ": illegal option -- " ++ Octets.text [c]
        | .noArgument c => ": option requires an argument -- " ++ Octets.text [c])

/-! ## Aliases -/

/-- The place of an alias in the list of all. -/
def aliasRank (name : Octets) : Nat :=
  ((name.head?.map fun c => c.toNat * 16).getD 0 + (name.map Char.toNat).foldl (· + ·) 0) % 39

/-- An alias as it is listed. -/
def aliasLine (s : State) (name text : Octets) : Octets :=
  if s.isWide then "alias ".toList ++ name ++ ['='] ++ Quoting.single text ++ ['\n']
  else name ++ ['='] ++ quoted text ++ ['\n']

/-- Complains that there is no such alias. -/
def refuseAlias (name : Octets) (s : State) : State :=
  if s.isWide then fail 1 (Octets.text name ++ ": not found") s
  else (s.complain (Octets.text (s.speaker.getD []) ++ ": " ++ Octets.text name ++ " not found")).ended 1

/-- Sets aliases, or lists them. -/
def setAlias : Builtin := fun operands s =>
  let operands := if s.isWide && operands.head? = some ['-', 'p'] then operands.drop 1 else operands
  if operands.isEmpty then
    let rows := s.aliases.mergeSort fun a b =>
      if s.isWide then !decide (b.1 < a.1) else aliasRank a.1 ≤ aliasRank b.1
    (s.ended 0).print (rows.flatMap fun (name, text) => aliasLine s name text)
  else each (fun a s =>
    match splitOperand (a.drop 1) with
    | (rest, some text) => { s with aliases := setKey (a.take 1 ++ rest) text s.aliases }
    | (_, none) =>
      match s.aliases.lookup a with
      | some text => s.print (aliasLine s a text)
      | none => refuseAlias a s) operands (s.ended 0)

/-- Removes aliases. -/
def unsetAlias : Builtin :=
  withOptions "a" "a" fun given operands s =>
    if has given 'a' then { s with status := 0, aliases := [] }
    else if s.isWide && operands.isEmpty then showSynopsis s
    else each (fun a s =>
      if (s.aliases.lookup a).isSome then { s with aliases := dropKey a s.aliases }
      else refuseAlias a s) operands (s.ended 0)

end Builtin

end Shell

end Tangle
