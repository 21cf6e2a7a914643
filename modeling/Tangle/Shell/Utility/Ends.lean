import Tangle.Shell.Utility.Amount
/-!
# The ends of files

`head` prints the front of files and `tail` their end. Both cut a text at one
place (`Extent.offset`), which lies so many lines or octets after its start or
before its end.
-/

namespace Tangle

namespace Shell

namespace Utility

/-- A place in a text. -/
structure Extent where
  /-- Octets count, not lines. -/
  octets : Bool
  /-- They count from the end. -/
  fromEnd : Bool
  /-- Their number. -/
  count : Nat
  /-- What ends a line. -/
  lineEnd : Char

/-- The number of octets of so many lines at the front of a text, added to
those before it. -/
def lengthOfLines (lineEnd : Char) : Nat → Nat → Octets → Nat
  | before, _, [] => before
  | before, 0, _ => before
  | before, n + 1, c :: s => lengthOfLines lineEnd (before + 1) (if c = lineEnd then n else n + 1) s

/-- The number of lines of a text. -/
def lineCount (lineEnd : Char) (t : Octets) : Nat :=
  t.count lineEnd + (if t.getLast?.all (· = lineEnd) then 0 else 1)

/-- The number of octets before the place. -/
def Extent.offset (e : Extent) (t : Octets) : Nat :=
  if e.octets then (if e.fromEnd then t.length - e.count else min e.count t.length)
  else lengthOfLines e.lineEnd 0 (if e.fromEnd then lineCount e.lineEnd t - e.count else e.count) t

/-- The units of counts. -/
def countUnits : String := "bkKmMGTPEZY0"

/-- The number of lines or octets that an argument asks for. -/
def Extent.count? (octets : Bool) (s : Octets) : Except Problem Nat :=
  (Amount.within countUnits 0 Amount.greatest s).mapError fun reason =>
    .value ("invalid number of " ++ (if octets then "bytes" else "lines") ++ ": " ++ reason)

/-- What ends a line. -/
def lineEndOf (options : List (Char × Octets)) : Char := if options.any fun o => o.1 = 'z' then '\x00' else '\n'

/-- Goes through the files of operands, with their names above them if there
are several; `reads` tells that something is read from them. -/
def Invoked.titled (i : Invoked) (reads : Bool) (work : Octets → Octets → State → State) (s : State) : State :=
  let titled := match i.last? "qv" with
    | some 'v' => true
    | some _ => false
    | none => 1 < i.operands.length
  let title (isFirst : Bool) (name : Octets) : Octets :=
    if titled then (if isFirst then [] else ['\n']) ++ "==> ".toList ++ name ++ " <==\n".toList else []
  (i.inputs.foldl (fun (isFirst, s) o =>
    let name := if o = ['-'] then "standard input".toList else o
    match content o s with
    | (.ok text, s) => (false, work o text (s.print (title isFirst name)))
    | (.error fault, s) =>
      if fault = .isADirectory && !reads then (false, s.print (title isFirst name))
      else if fault = .isADirectory then
        (false, i.complain ("error reading " ++ quote name ++ ": " ++ faultText fault) (s.print (title isFirst name)))
      else (isFirst, i.complain ("cannot open " ++ quote name ++ " for reading: " ++ faultText fault) s)) (true, s)).2

/-! ## The front -/

namespace Head

/-- The cut that options ask for. -/
def cutOf (options : List (Char × Octets)) : Except Problem Extent :=
  let lineEnd := lineEndOf options
  options.foldlM (fun (cut : Extent) o =>
    if o.1 = 'n' || o.1 = 'c' then
      let isRest := o.2.head? = some '-'
      (Extent.count? (o.1 = 'c') (if isRest then o.2.drop 1 else o.2)).map fun n => ⟨o.1 = 'c', isRest, n, lineEnd⟩
    else if o.1.isDigit then .error (.usage ("invalid trailing option -- " ++ String.singleton o.1))
    else .ok cut) ⟨false, false, 10, lineEnd⟩

/-- The options that a number in front of the others stands for, as in
`-5qv`. -/
def spelledOut : List Octets → Except Problem (List Octets)
  | ('-' :: d :: rest) :: args =>
    if !d.isDigit then .ok (('-' :: d :: rest) :: args)
    else
      let digits := (d :: rest).takeWhile Char.isDigit
      let letters := (d :: rest).drop digits.length
      match letters.find? fun c => !"cbkmlqvz".toList.contains c with
      | some c => .error (.usage ("invalid trailing option -- " ++ Octets.text [c]))
      | none =>
        let unit := letters.foldl (fun unit c => if c = 'c' then [] else if "bkm".toList.contains c then [c] else unit) []
        let kind := letters.foldl (fun kind c => if "cbkm".toList.contains c then 'c' else if c = 'l' then 'n' else kind) 'n'
        let others := (letters.filter fun c => "qvz".toList.contains c).map fun c => ['-', c]
        .ok (('-' :: kind :: (digits ++ unit)) :: others ++ args)
  | args => .ok args

/-- The octets that are read at once from what is no file. -/
def blockSize : Nat := 8192

/-- The octets that are read to find a place. -/
def readFor (cut : Extent) (offset length : Nat) : Nat :=
  if cut.octets && !cut.fromEnd then offset
  else if cut.fromEnd then length
  else min length ((offset + blockSize - 1) / blockSize * blockSize)

end Head

/-- Prints the front of files. -/
def head : Utility := fun call argv s =>
  let name := Octets.text (argv.head?.getD [])
  match Head.spelledOut (argv.drop 1) with
  | .error problem => (Invoked.mk name [] []).reject problem s
  | .ok args =>
    withSetting ⟨"qvz0123456789", "nc", "", [("bytes", 'c'), ("lines", 'n'), ("quiet", 'q'), ("silent", 'q'),
        ("verbose", 'v'), ("zero-terminated", 'z')], false, 1⟩ Head.cutOf
      (fun i cut s =>
        i.titled (cut.fromEnd || 0 < cut.count) (fun o text s =>
          let n := cut.offset text
          let s := s.print (text.take n)
          if o ≠ ['-'] then s
          else if s.readsFile then s.giveBack 0 (text.length - n)
          else s.putBack 0 (text.drop (Head.readFor cut n text.length))) s)
      call (argv.take 1 ++ args) s

/-! ## The end -/

namespace Tail

/-- What options ask for. -/
structure Setting where
  /-- Where the end starts. -/
  cut : Extent
  /-- The number counts from the start. -/
  fromStart : Bool
  /-- The file may grow. -/
  follows : Bool

/-- An option that is a number, as in `-5` or `+3c`. It stands in front of
one file at most. -/
def spelled? (args : List Octets) : Option Octets :=
  match args with
  | [a] => some a
  | [a, f] => if f.head? = some '-' && 1 < f.length && f ≠ ['-', '-'] then none else some a
  | [a, ['-', '-'], _] => some a
  | _ => none

/-- What an option that is a number asks for. -/
def ofSpelled? (a : Octets) : Option (Except Problem Setting) :=
  match a with
  | sign :: body =>
    if sign ≠ '+' && (sign ≠ '-' || (if body.head? = some 'c' then body.drop 1 else body).isEmpty) then none
    else
      let digits := body.takeWhile Char.isDigit
      let (kind, rest) : Char × Octets := match body.drop digits.length with
        | c :: rest => if c = 'b' || c = 'c' || c = 'l' then (c, rest) else ('l', c :: rest)
        | [] => ('l', [])
      let (follows, rest) : Bool × Octets := match rest with
        | 'f' :: rest => (true, rest)
        | rest => (false, rest)
      if !rest.isEmpty then none
      else
        let standard := if kind = 'b' then 5120 else 10
        let factor := if kind = 'b' then 512 else 1
        let count := if digits.isEmpty then standard else (Octets.nat? digits).getD 0 * factor
        some (if Amount.greatest < count then
            .error (.value ("invalid number: " ++ curly a ++ ": Numerical result out of range"))
          else .ok ⟨⟨kind ≠ 'l', sign = '-', count, '\n'⟩, sign = '+', follows⟩)
  | [] => none

/-- The last ten lines. -/
def Setting.standard : Setting := ⟨⟨false, true, 10, '\n'⟩, false, false⟩

/-- The setting that options ask for. -/
def Setting.of (standard : Setting) (options : List (Char × Octets)) : Except Problem Setting :=
  let lineEnd := lineEndOf options
  options.foldlM (fun (v : Setting) o =>
    if o.1 = 'n' || o.1 = 'c' then
      let fromStart := v.fromStart || o.2.head? = some '+'
      (Extent.count? (o.1 = 'c') (if o.2.head? = some '-' then o.2.drop 1 else o.2)).map fun n =>
        { v with cut := ⟨o.1 = 'c', !fromStart, n, lineEnd⟩, fromStart }
    else if o.1.isDigit then .error (.value ("option used in invalid context -- " ++ String.singleton o.1))
    else if o.1 = 'f' || o.1 = 'F' then .ok { v with follows := true }
    else .ok v) { standard with cut := { standard.cut with lineEnd } }

end Tail

/-- Prints the end of files. -/
def tail : Utility := fun call argv s =>
  let args := argv.drop 1
  let spelled := (Tail.spelled? args).bind fun a => Tail.ofSpelled? a
  match spelled with
  | some (.error problem) => (Invoked.mk (Octets.text (argv.head?.getD [])) [] []).reject problem s
  | spelled =>
    let given : Option Tail.Setting := match spelled with
      | some (.ok v) => some v
      | _ => none
    withSetting ⟨"qvzfF0123456789", "ncsφ", "", [("bytes", 'c'), ("lines", 'n'), ("quiet", 'q'), ("silent", 'q'),
        ("sleep-interval", 's'), ("verbose", 'v'), ("zero-terminated", 'z'), ("pid", 'φ')], false, 1⟩
      (Tail.Setting.of (given.getD Tail.Setting.standard))
      (fun i v s =>
        if v.cut.count = 0 && !v.fromStart && !v.follows then s
        else
          let cut := if v.fromStart then { v.cut with count := v.cut.count - 1 } else v.cut
          i.titled true (fun _ text s => s.print (text.drop (cut.offset text))) s)
      call (argv.take 1 ++ (if given.isSome then args.drop 1 else args)) s

end Utility

end Shell

end Tangle
