import Tangle.Shell.Builtin.Variables
/-!
# Declarations

In the wide dialect a declaration gives variables their properties
(`Attributes`) and values, in a function to local ones, and lists variables
as declarations that read back.
-/

namespace Tangle

namespace Shell

namespace Builtin

/-- What the options of a declaration ask for: letters after a minus sign
set properties, those after a plus sign take them away. -/
structure Attributes where
  /-- The letters that set properties. -/
  given : Octets
  /-- The letters that take properties away. -/
  taken : Octets
deriving Repr, DecidableEq

namespace Attributes

/-- No property is asked for. -/
def none : Attributes := ⟨[], []⟩

/-- The letter was given. -/
def has (a : Attributes) (c : Char) : Bool := a.given.contains c

/-- The letters of options. -/
def letters : Octets := "aAfFgiIlnrtuxp".toList

/-- Reads options in front of operands; the error is the letter of an
option that does not exist. -/
def read : List Octets → Except Char (Attributes × List Octets)
  | [] => .ok (none, [])
  | ['-', '-'] :: rest => .ok (none, rest)
  | (sign :: c :: cs) :: rest =>
    if sign = '-' || sign = '+' then
      match (c :: cs).find? fun c => !letters.contains c with
      | some c => .error c
      | Option.none =>
        (read rest).map fun (a, operands) =>
          (if sign = '-' then { a with given := (c :: cs) ++ a.given } else { a with taken := (c :: cs) ++ a.taken },
            operands)
    else .ok (none, (sign :: c :: cs) :: rest)
  | args => .ok (none, args)

/-- A variable with the properties. -/
def apply (a : Attributes) (v : Variable) : Variable where
  value := v.value
  exported := a.has 'x' || (v.exported && !a.taken.contains 'x')
  constant := a.has 'r' || v.constant
  integer := a.has 'i' || (v.integer && !a.taken.contains 'i')
  uppercase := if a.has 'u' then some true else if a.has 'l' then some false
    else if a.taken.contains 'u' || a.taken.contains 'l' then Option.none else v.uppercase
  refers := a.has 'n' || (v.refers && !a.taken.contains 'n')

end Attributes

/-- The letters of the properties of a variable. -/
def attributeLetters (v : Variable) : Octets :=
  let kind : Octets := match v.value with
    | some (.indexed _) => ['a']
    | some (.keyed _) => ['A']
    | _ => []
  kind ++ (if v.integer then ['i'] else []) ++ (if v.refers then ['n'] else []) ++ (if v.constant then ['r'] else [])
    ++ (if v.exported then ['x'] else [])
    ++ (match v.uppercase with
      | some true => ['u']
      | some false => ['l']
      | none => [])

/-- The declaration that makes a variable what it is. -/
def declaration (name : Octets) (v : Variable) : Octets :=
  let letters := attributeLetters v
  let value := match v.value with
    | some value => '=' :: value.declared
    | none => []
  "declare -".toList ++ (if letters.isEmpty then ['-'] else letters) ++ [' '] ++ name ++ value ++ ['\n']

/-- Lists the declarations of the variables that have a property. -/
def listDeclarations (property : Variable → Bool) (s : State) : State :=
  s.print ((sortedVariables s).flatMap fun (name, v) => if property v then declaration name v else [])

/-- An operand of a declaration: what it names, whether a value is added to
the one before, and the value. -/
def splitDeclared (a : Octets) : Octets × Bool × Option Octets :=
  let (target, value) := splitOperand a
  if value.isSome && target.getLast? = some '+' then (target.dropLast, true, value) else (target, false, value)

/-- The kind of value that a declaration asks for, or why there cannot be
one. -/
def kindFor (a : Attributes) (value : Option Value) : Except String (Option Value) :=
  if a.has 'A' then
    match value with
    | some (.indexed _) => .error "cannot convert indexed to associative array"
    | some (.keyed es) => .ok (some (.keyed es))
    | some (.text t) => .ok (some (.keyed [(['0'], t)]))
    | none => .ok (some (.keyed []))
  else if a.has 'a' then
    match value with
    | some (.keyed _) => .error "cannot convert associative to indexed array"
    | some (.indexed es) => .ok (some (.indexed es))
    | some (.text t) => .ok (some (.indexed [(0, t)]))
    | none => .ok (some (.indexed []))
  else .ok value

/-- Gives what an operand names a value: the number of an expression for
variables that hold numbers. -/
def storeDeclared (target : Octets) (appends : Bool) (text : Octets) (s : State) : State :=
  let (name, index) := splitIndex target
  let v := s.lookupVariable name
  let former := if !appends then []
    else match index with
      | none => (s.value? name).getD []
      | some i => (s.element? name (if s.isKeyed name then .key i else .number ((Octets.int? i).getD 0))).getD []
  if v.integer then
    match s.calculate (if appends then (if former.isEmpty then ['0'] else former) ++ "+(".toList ++ text ++ [')'] else text) with
    | (.ok n, s) => store target (toString n).toList s
    | (.error (), s) => s
  else store target (former ++ text) s

/-- Declares what one operand names. -/
def declareOne (a : Attributes) (makesLocal : Bool) (operand : Octets) (s : State) : State :=
  let (target, appends, value) := splitDeclared operand
  let (name, index) := splitIndex target
  if !Script.isName name then fail 1 (named operand ++ ": not a valid identifier") s
  else if a.has 'n' then
    let s := if makesLocal then s.makeFreshLocal name else s
    let v := (s.bindings.lookup name).getD {}
    { s with bindings := setKey name (a.apply { v with value := (value.map Value.text).or v.value }) s.bindings }
  else
    let s := if makesLocal then s.makeFreshLocal name else s
    let v := s.lookupVariable name
    if v.constant && (value.isSome || a.taken.contains 'r') then fail 1 (Octets.text name ++ ": readonly variable") s
    else
      match kindFor (if index.isSome && !v.value.isSome then { a with given := 'a' :: a.given } else a) v.value with
      | .error problem => fail 1 (Octets.text name ++ ": " ++ problem) s
      | .ok kind =>
        let s := s.putVariable name ({ a with given := a.given.filter (· ≠ 'r') }.apply { v with value := kind })
        let s := match value with
          | some text => storeDeclared target appends text s
          | none => s
        if s.jump.isSome then s else s.putVariable name (a.apply (s.lookupVariable name))

/-- Shows functions, or says which there are if only their names are
wanted. -/
def listFunctions (onlyNames : Bool) (operands : List Octets) (s : State) : State :=
  if operands.isEmpty then
    s.print ((functionNames s).flatMap fun n =>
      if onlyNames then "declare -f ".toList ++ n ++ ['\n'] else definition s n)
  else operands.foldl (fun s o =>
    if (s.functions.lookup o).isNone then s.ended 1
    else s.print (if onlyNames then o ++ ['\n'] else definition s o)) s

/-- Declares variables, or lists them. `isLocal` tells that they are local
wherever the declaration stands. -/
def declareWith (isLocal : Bool) : Builtin := fun args s =>
  match Attributes.read args with
  | .error c => refuseOptions (.unknown c) s
  | .ok (a, operands) =>
    let s := s.ended 0
    if isLocal && s.calls.isEmpty then fail 1 "can only be used in a function" s
    else if a.has 'f' || a.has 'F' then listFunctions (a.has 'F') operands s
    else if a.has 'p' && !operands.isEmpty then
      operands.foldl (fun s o =>
        match s.bindings.lookup o with
        | some v => s.print (declaration o v)
        | none =>
          let v := s.lookupVariable o
          if v.value.isSome then s.print (declaration o v) else fail 1 (Octets.text o ++ ": not found") s) s
    else if operands.isEmpty then
      if isLocal then s
      else if args.isEmpty then listAll s
      else
        listDeclarations (fun v =>
          let letters := attributeLetters v
          a.given.all fun c => c = 'p' || c = 'g' || letters.contains c) s
    else
      let makesLocal := !s.calls.isEmpty && !a.has 'g'
      operands.foldl (fun s o => if s.jump.isSome then s else declareOne a makesLocal o s) s

/-- Declares variables, or lists them. -/
def declareVariables : Builtin := declareWith false

/-- Declares local variables. -/
def declareLocals : Builtin := declareWith true

/-- Gives variables a property, with a value if there is one, or lists those
that have it. -/
def declareAs (letter : Char) (options : String) : Builtin :=
  withOptions "" options fun given operands s =>
    let s := s.ended 0
    if has given 'f' then
      operands.foldl (fun s o =>
        match s.functions.lookup o with
        | some f =>
          if letter = 'x' then { s with functions := setKey o { f with exported := !has given 'n' } s.functions } else s
        | none => fail 1 (Octets.text o ++ ": not a function") s) s
    else if operands.isEmpty then listDeclarations (fun v => (attributeLetters v).contains letter) s
    else
      let a : Attributes := if has given 'n' then ⟨[], [letter]⟩
        else ⟨letter :: (given.map Prod.fst).filter fun c => c = 'a' || c = 'A', []⟩
      operands.foldl (fun s o =>
        let (target, _, value) := splitDeclared o
        let (name, _) := splitIndex target
        if s.jump.isSome then s
        else if Script.isName name && value.isSome && (s.lookupVariable name).constant then
          ({ s with speaker := none }.complainHere (Octets.text name ++ ": readonly variable")).ended 1
            |> fun after => { after with speaker := s.speaker }
        else declareOne a false o s) s

/-- Makes programs receive variables. -/
def exportVariables : Builtin := declareAs 'x' "fnp"

/-- Makes variables ones that cannot be changed. -/
def fixVariables : Builtin := declareAs 'r' "aAfp"

end Builtin

end Shell

end Tangle
