import Tangle.Shell.Builtin.Basic
import Tangle.Shell.Script.Display
/-!
# Commands on variables

The built-in commands that give variables and parameters their values, and
those that list or remove them.
-/

namespace Tangle

namespace Shell

namespace Builtin

/-- The name of an operand and the value after its equals sign. -/
def splitOperand (a : Octets) : Octets × Option Octets :=
  match a.dropWhile (· ≠ '=') with
  | _ :: value => (a.takeWhile (· ≠ '='), some value)
  | [] => (a, none)

/-- Goes on with a name, if it is one. -/
def withName (name : Octets) (work : State → State) (s : State) : State :=
  if Script.isName name then work s
  else if s.isWide then fail 1 (named name ++ ": not a valid identifier") s
  else s.abort (Octets.text name ++ ": bad variable name")

/-- Goes on with the name of a variable or of an element of an array, if it
is one. -/
def withTarget (operand : Octets) (work : State → State) (s : State) : State :=
  if isTarget s operand then work s else withName operand work s

/-- Works on operands in order, up to a fault. -/
def each (work : Octets → State → State) (operands : List Octets) (s : State) : State :=
  operands.foldl (fun s a => if s.jump.isSome then s else work a s) s

/-- The variables in the order of their names. -/
def sortedVariables (s : State) : List (Octets × Variable) :=
  s.bindings.mergeSort fun a b => !decide (b.1 < a.1)

/-- The names of functions in order. -/
def functionNames (s : State) : List Octets := (s.functions.map Prod.fst).mergeSort fun a b => !decide (b < a)

/-- A function as a definition that reads back. -/
def definition (s : State) (name : Octets) : Octets :=
  match s.functions.lookup name with
  | some f => Script.Display.definition (s.hasFeature .extglob) name f.text
  | none => []

/-- Lists all variables and functions, as the wide dialect does. -/
def listAll (s : State) : State :=
  let rows := (sortedVariables s).flatMap fun (name, v) =>
    match v.value with
    | some value => name ++ '=' :: listedValue value ++ ['\n']
    | none => []
  s.print (rows ++ (functionNames s).flatMap (definition s))
where
  /-- The value of a variable as it is listed. -/
  listedValue : Value → Octets
    | .text t => Quoting.listed t
    | value => value.declared

/-- Lists variables that have a property, each after a word. -/
def listVariables (front : String) (property : Variable → Bool) (s : State) : State :=
  let rows := (sortedVariables s).filter fun v => property v.2
  s.print (rows.flatMap fun (name, v) =>
    let value := match v.value with
      | none => []
      | some _ => '=' :: quoted ((s.value? name).getD [])
    front.toList ++ name ++ value ++ ['\n'])

/-- Marks variables, with a value if one is given, or lists those that are
marked. -/
def declare (word : String) (isMarked : Variable → Bool) (mark : Octets → State → State) : Builtin :=
  withOptions "p" "p" fun given operands s =>
    let s := s.ended 0
    if has given 'p' || operands.isEmpty then listVariables (word ++ " ") isMarked s
    else each (fun a s =>
      let (name, value) := splitOperand a
      withName name (fun s =>
        let s := match value with
          | some v => s.setVariable name v
          | none => s
        if s.jump.isSome then s else mark name s) s) operands s

/-- Makes programs receive variables. -/
def «export» : Builtin := declare "export" Variable.exported State.markExported

/-- Makes variables ones that cannot be changed. -/
def «readonly» : Builtin := declare "readonly" Variable.constant State.markConstant

/-- Makes variables local, with a value if one is given. -/
def declareLocal : Builtin := fun operands s =>
  if s.scopes.isEmpty then s.abort "not in a function"
  else each (fun a s =>
    let (name, value) := splitOperand a
    withName name (fun s =>
      let s := s.makeLocal name
      match value with
      | some v => s.setVariable name v
      | none => s) s) operands (s.ended 0)

/-- Removes a variable, an element of an array, or else a function. -/
def unsetOne (onlyVariables : Bool) (operand : Octets) (s : State) : State :=
  match splitIndex operand with
  | (name, some index) =>
    if index = ['@'] || index = ['*'] then s.unset name
    else
      match indexOf name index s with
      | (some i, s) => s.unsetElement name i
      | (none, s) => s
  | (name, none) =>
    let v := s.lookupVariable name
    if v.constant then fail 1 (Octets.text name ++ ": cannot unset: readonly variable") s
    else if onlyVariables || (s.bindings.lookup (s.resolve name)).isSome then s.unset name
    else { s with functions := dropKey name s.functions }

/-- Removes variables, or functions after the option `-f`; after `-n`
references themselves. -/
def unset : Builtin :=
  withOptions "vf" "vfn" fun given operands s =>
    if has given 'f' then
      { s with status := 0, functions := s.functions.filter fun f => !operands.contains f.1 }
    else if has given 'n' then { s with status := 0, bindings := s.bindings.filter fun v => !operands.contains v.1 }
    else if s.isWide then operands.foldl (fun s o => unsetOne (has given 'v') o s) (s.ended 0)
    else each (fun name => withName name fun s => s.unset name) operands (s.ended 0)

/-- Evaluates expressions; it succeeds if the last one is not zero. -/
def evaluate : Builtin := fun args s =>
  match if args.head? = some ['-', '-'] then args.drop 1 else args with
  | [] => fail 1 "expression expected" s
  | args =>
    let (value, s) := args.foldl (fun (value, s) a => if s.jump.isSome then (value, s) else
      match s.calculate a with
      | (.ok n, s) => (n, s)
      | (.error (), s) => (0, s)) ((0 : Int), s)
    s.ended (if s.jump.isSome || value = 0 then 1 else 0)

end Builtin

end Shell

end Tangle
