import Tangle.Shell.Utility.Amount
/-!
# Lines that occur again

`uniq` looks at runs of lines that are equal, or whose keys are (`Uniq.runs`);
`comm` compares the lines of two sorted files (`Comm.compare`), and notices if
they are not sorted.
-/

namespace Tangle

namespace Shell

namespace Utility

namespace Uniq

/-- Where an empty line stands between runs. -/
inductive Spacing where
  /-- Nowhere. -/
  | none
  /-- In front of each run. -/
  | before
  /-- Behind each run. -/
  | after
  /-- Between runs. -/
  | between
  /-- In front of the first and behind each run. -/
  | around
deriving Repr, DecidableEq

/-- What is printed of runs. -/
structure Setting where
  /-- The number of lines stands in front. -/
  counts : Bool
  /-- Lines that occur once. -/
  single : Bool
  /-- The first of lines that occur again. -/
  first : Bool
  /-- The other ones. -/
  others : Bool
  /-- All lines, in groups. -/
  groups : Option Spacing
  /-- The spacing of lines that occur again. -/
  spacing : Spacing
  /-- The fields at the start of a line that do not count. -/
  skippedFields : Nat
  /-- The octets after these that do not count. -/
  skippedOctets : Nat
  /-- The octets that count. -/
  limit : Option Nat
  /-- Letters count as capital ones. -/
  folds : Bool
  /-- What ends a line. -/
  lineEnd : Char

/-- A line without so many fields, each of which has its blanks in front. -/
def withoutFields : Nat → Octets → Octets
  | 0, l => l
  | n + 1, l =>
    let isBlank (c : Char) : Bool := c = ' ' || c = '\t'
    withoutFields n ((l.dropWhile isBlank).dropWhile (!isBlank ·))

/-- What counts of a line. -/
def Setting.key (v : Setting) (l : Octets) : Octets :=
  let l := (if l.isEmpty then l else withoutFields (min v.skippedFields l.length) l).drop v.skippedOctets
  let l := match v.limit with
    | some n => l.take n
    | none => l
  if v.folds then l.map Char.toUpper else l

/-- The runs of lines with equal keys. -/
def runs (key : Octets → Octets) : List Octets → List (List Octets)
  | [] => []
  | l :: ls =>
    match runs key ls with
    | (m :: ms) :: rest => if key l = key m then (l :: m :: ms) :: rest else [l] :: (m :: ms) :: rest
    | rest => [l] :: rest

/-- The lines of a run that are wanted. -/
def Setting.wanted (v : Setting) (run : List Octets) : List Octets :=
  if run.length ≤ 1 then (if v.single then run else [])
  else if v.others then (if v.first then run else run.dropLast)
  else if v.first then run.take 1
  else []

/-- The output for the lines of a file. -/
def Setting.output (v : Setting) (lines : List Octets) : Octets :=
  let ended (l : Octets) : Octets := l ++ [v.lineEnd]
  let parts := runs v.key lines
  match v.groups with
  | some spacing =>
    let shown := parts.map fun run => run.flatMap ended
    let gap := [v.lineEnd]
    match spacing with
    | .before => shown.flatMap fun p => gap ++ p
    | .after => shown.flatMap fun p => p ++ gap
    | .around => (if shown.isEmpty then [] else gap) ++ shown.flatMap fun p => p ++ gap
    | .between => List.intercalate gap shown
    | .none => shown.flatten
  | none =>
    (parts.foldl (fun (acc : Bool × List Octets) run =>
      let repeats := 1 < run.length
      let gap := if repeats && (v.spacing = .before || (v.spacing = .between && !acc.1)) then [v.lineEnd] else []
      let rows := (v.wanted run).flatMap fun l =>
        (if v.counts then padLeft 7 (decimal run.length) ++ [' '] else []) ++ ended l
      (acc.1 && !repeats, (gap ++ rows) :: acc.2)) (true, [])).2.reverse.flatten

/-- The number that an option asks for; a number that is too great is as good
as the greatest. -/
def count (what : String) (s : Octets) : Except Problem Nat :=
  match Amount.read? "" s with
  | .ok n => .ok n
  | .error .beyond => .ok Amount.greatest
  | .error .malformed => .error (.value (Octets.text s ++ ": invalid number of " ++ what))

/-- The spacing of groups that a word asks for. -/
def groupSpacing (v : Octets) : Except Problem Spacing :=
  if v.isEmpty then .ok .between
  else (chooseWord "--group" [["prepend"], ["append"], ["separate"], ["both"]] v).map fun w =>
    match w with
    | "prepend" => .before
    | "append" => .after
    | "both" => .around
    | _ => .between

/-- The spacing of lines that occur again that a word asks for. -/
def repeatSpacing (v : Octets) : Except Problem Spacing :=
  if v.isEmpty then .ok .none
  else (chooseWord "--all-repeated" [["none"], ["prepend"], ["separate"]] v).map fun w =>
    match w with
    | "prepend" => .before
    | "separate" => .between
    | _ => .none

/-- Lines without those that repeat the one before. -/
def Setting.standard : Setting :=
  ⟨false, true, true, false, none, .none, 0, 0, none, false, '\n'⟩

/-- What an option adds to the setting. A number of fields may be spelled by
its digits as options, one after the other: `spelled` tells that the last one
was. -/
def Setting.with? (v : Setting) (spelled : Bool) (o : Char × Octets) : Except Problem (Setting × Bool) :=
  if o.1.isDigit then
    .ok ({ v with skippedFields := (if spelled then v.skippedFields * 10 else 0) + (o.1.toNat - 48) }, true)
  else
    let same (r : Except Problem Setting) : Except Problem (Setting × Bool) := r.map (·, spelled)
    match o.1 with
    | 'c' => .ok ({ v with counts := true }, spelled)
    | 'd' => .ok ({ v with single := false }, spelled)
    | 'u' => .ok ({ v with first := false }, spelled)
    | 'D' => same ((repeatSpacing o.2).map fun spacing => { v with single := false, others := true, spacing })
    | 'Γ' => same ((groupSpacing o.2).map fun spacing => { v with groups := some spacing })
    | 'i' => .ok ({ v with folds := true }, spelled)
    | 'z' => .ok ({ v with lineEnd := '\x00' }, spelled)
    | 'f' => (count "fields to skip" o.2).map fun n => ({ v with skippedFields := n }, false)
    | 's' => same ((count "bytes to skip" o.2).map fun n => { v with skippedOctets := n })
    | 'w' => same ((count "bytes to compare" o.2).map fun n => { v with limit := some n })
    | _ => .ok (v, spelled)

/-- The setting that options ask for. -/
def Setting.of (options : List (Char × Octets)) : Except Problem Setting :=
  (options.foldlM (fun (v, spelled) o => Setting.with? v spelled o) (standard, false)).map Prod.fst

/-- The complaint about options that do not go together. -/
def Setting.conflict? (v : Setting) : Option String :=
  if v.groups.isSome && (v.counts || !v.single || !v.first) then
    some "--group is mutually exclusive with -c/-d/-D/-u"
  else if v.others && v.counts then
    some "printing all duplicated lines and repeat counts is meaningless"
  else none

end Uniq

/-- Prints lines without those that repeat the one before. -/
def uniq : Utility :=
  withSetting ⟨"cdiuz0123456789", "fsw", "DΓ", [("count", 'c'), ("repeated", 'd'), ("all-repeated", 'D'), ("group", 'Γ'),
      ("ignore-case", 'i'), ("unique", 'u'), ("skip-fields", 'f'), ("skip-chars", 's'), ("check-chars", 'w'),
      ("zero-terminated", 'z')], false, 1⟩ Uniq.Setting.of
    fun i v s =>
      -- An operand with a plus is the number of octets to skip.
      let skipped (o : Octets) : Option Nat := match o with
        | '+' :: ds => Octets.nat? ds
        | _ => none
      let v := { v with skippedOctets := (i.operands.filterMap skipped).getLast?.getD v.skippedOctets }
      let files := i.operands.filter fun o => (skipped o).isNone
      match files[2]?, v.conflict? with
      | some extra, _ => i.refuse ("extra operand " ++ curly extra) s
      | none, some problem => i.refuse problem s
      | none, none =>
        let input := files.head?.getD ['-']
        let output := (files[1]?).getD ['-']
        match openInput input s with
        | (.error fault, s) => i.complainOf input fault s
        | (.ok source, s) =>
          -- The output is opened before the input is read.
          match openOutput output s with
          | (.error fault, s) => i.complainOf output fault s
          | (.ok goal, s) =>
            match s.readStream source with
            | (.error fault, s) => i.complain ("error reading " ++ quote input ++ ": " ++ faultText fault) s
            | (.ok text, s) => s.writeStream goal (v.output ((linesWithEnds v.lineEnd text).map Prod.fst))
where
  /-- The stream that an operand names for reading. -/
  openInput (o : Octets) (s : State) : Except Fault Nat × State :=
    if o = ['-'] then (streamOf 0 s, s) else s.openStream (State.path o) .forReading
  /-- The stream that an operand names for writing. -/
  openOutput (o : Octets) (s : State) : Except Fault Nat × State :=
    if o = ['-'] then (streamOf 1 s, s) else s.openStream (State.path o) (.forWriting .truncate)
  /-- The stream of a descriptor. -/
  streamOf (descriptor : Nat) (s : State) : Except Fault Nat :=
    match s.descriptors.lookup descriptor with
    | some n => .ok n
    | none => .error .badDescriptor

/-! ## Lines of two files -/

namespace Comm

/-- Whether it is checked that the files are sorted. -/
inductive Checking where
  /-- From the first difference on. -/
  | lenient
  /-- From the start; the first fault is the end. -/
  | strict
  /-- Never. -/
  | none
deriving Repr, DecidableEq

/-- Something that comparing comes to. -/
inductive Event where
  /-- A line of the first file, of the second, or of both, by the number of
  its column. -/
  | line (column : Nat) (text : Octets)
  /-- A file is not sorted. -/
  | disorder (isFirst : Bool)

/-- A file that is being compared. -/
structure Side where
  /-- The lines to come. -/
  rest : List Octets
  /-- The lines that came last, the last one first. -/
  past : List Octets
  /-- It is known not to be sorted. -/
  isDisordered : Bool

/-- The side after its next line. The first value tells that it turns out
not to be sorted. -/
def Side.next (checks : Bool) (side : Side) : Bool × Side :=
  match side.rest with
  | [] => (false, side)
  | l :: rest =>
    let pair : Option (Octets × Octets) := match rest, side.past with
      | m :: _, _ => some (l, m)
      | [], k :: _ => some (k, l)
      | [], [] => none
    let fails := checks && !side.isDisordered && pair.any fun (a, b) => decide (b < a)
    (fails, ⟨rest, [l], side.isDisordered || fails⟩)

/-- Compares two files line by line. -/
def compare (checking : Checking) : Nat → Bool → Side → Side → List Event
  | 0, _, _, _ => []
  | fuel + 1, differs, a, b =>
    let goOn (column : Nat) (text : Octets) (movesFirst movesSecond : Bool) : List Event :=
      let differs := differs || column ≠ 3
      let checks := checking = .strict || (checking = .lenient && differs)
      let (firstFails, a) := if movesFirst then a.next checks else (false, a)
      let (secondFails, b) := if movesSecond then b.next checks else (false, b)
      let faults := (if firstFails then [Event.disorder true] else [])
        ++ (if secondFails then [Event.disorder false] else [])
      .line column text :: (if checking = .strict && !faults.isEmpty then faults.take 1
        else faults ++ compare checking fuel differs a b)
    match a.rest, b.rest with
    | [], [] => []
    | l :: _, [] => goOn 1 l true false
    | [], m :: _ => goOn 2 m false true
    | l :: _, m :: _ => if l = m then goOn 3 m true true else if l < m then goOn 1 l true false else goOn 2 m false true

end Comm

/-- Prints the lines of two sorted files in three columns. -/
def comm : Utility :=
  withSetting ⟨"123zκντ", "δ", "", [("check-order", 'κ'), ("nocheck-order", 'ν'), ("output-delimiter", 'δ'), ("total", 'τ'),
      ("zero-terminated", 'z')], false, 1⟩
    (fun options => match (options.filter fun o => o.1 = 'δ').map Prod.snd |>.eraseDups with
      | _ :: _ :: _ => .error (.value "multiple output delimiters specified")
      | [[]] => .ok ['\x00']
      | [d] => .ok d
      | [] => .ok ['\t'])
    fun i delimiter s =>
      match i.operands with
      | [] => i.refuse "missing operand" s
      | [a] => i.refuse ("missing operand after " ++ curly a) s
      | _ :: _ :: c :: _ => i.refuse ("extra operand " ++ curly c) s
      | [a, b] =>
        match content a s with
        | (.error fault, s) => i.complainOf a fault s
        | (.ok x, s) =>
          match content b s with
          | (.error fault, s) => i.complainOf b fault s
          | (.ok y, s) =>
            let lineEnd := if i.has 'z' then '\x00' else '\n'
            let checking : Comm.Checking := match i.last? "κν" with
              | some 'κ' => .strict
              | some _ => .none
              | none => .lenient
            let side (t : Octets) : Comm.Side := ⟨(linesWithEnds lineEnd t).map Prod.fst, [], false⟩
            let events := Comm.compare checking (x.length + y.length + 1) false (side x) (side y)
            let digit (n : Nat) : Char := Char.ofNat (48 + n)
            let front (column : Nat) : Octets :=
              ((List.range column).filter fun n => 0 < n && !i.has (digit n)).flatMap fun _ => delimiter
            let s := events.foldl (fun s e =>
              match e with
              | .line column text =>
                if i.has (digit column) then s else s.print (front column ++ text ++ [lineEnd])
              | .disorder isFirst =>
                let s := s.complain (i.name ++ ": file " ++ (if isFirst then "1" else "2") ++ " is not in sorted order")
                if checking = .strict then s.ended 1 else s) s
            let faults := events.countP fun e => match e with
              | .disorder _ => true
              | _ => false
            let total (column : Nat) : Octets := decimal (events.countP fun e => match e with
              | .line n _ => n = column
              | _ => false)
            if checking = .strict && 0 < faults then s
            else
              let s := if i.has 'τ' then
                s.print (List.intercalate delimiter [total 1, total 2, total 3, "total".toList] ++ [lineEnd]) else s
              if 0 < faults then i.complain "input is not in sorted order" s else s

end Utility

end Shell

end Tangle
