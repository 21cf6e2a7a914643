import Tangle.Shell.Regex.Matching
import Tangle.Shell.Utility.Amount
import Tangle.Shell.Utility.Paths
/-!
# Showing files

The programs that print files as a whole: as they are or with marks and
numbers (`cat`, `nl`), from the end to the start (`tac`, `rev`), to several
places (`tee`), or one line for ever (`yes`).
-/

namespace Tangle

namespace Shell

namespace Utility

/-! ## Files one after the other -/

namespace Cat

/-- How files are shown. -/
structure Setting where
  /-- Lines have numbers. -/
  numbers : Bool
  /-- Lines with nothing in them have no numbers. -/
  skipsBlank : Bool
  /-- Ends of lines are marked. -/
  ends : Bool
  /-- Of lines with nothing in them that follow each other one is shown. -/
  squeezes : Bool
  /-- Tabs are shown. -/
  tabs : Bool
  /-- Other characters that cannot be seen are shown. -/
  hidden : Bool

/-- The setting that options ask for. -/
def Setting.of (i : Invoked) : Setting where
  numbers := i.has 'n' || i.has 'b'
  skipsBlank := i.has 'b'
  ends := i.has 'E' || i.has 'A' || i.has 'e'
  squeezes := i.has 's'
  tabs := i.has 'T' || i.has 'A' || i.has 't'
  hidden := i.has 'v' || i.has 'A' || i.has 'e' || i.has 't'

/-- Files are shown as they are. -/
def Setting.isPlain (v : Setting) : Bool := !(v.numbers || v.ends || v.squeezes || v.tabs || v.hidden)

/-- How an octet is shown. -/
def Setting.visible (v : Setting) (c : Char) : Octets :=
  let n := c.toNat
  if c = '\t' then (if v.tabs then ['^', 'I'] else [c])
  else if !v.hidden then [c]
  else if n < 32 then ['^', Char.ofNat (n + 64)]
  else if n < 127 then [c]
  else if n = 127 then ['^', '?']
  else if n < 160 then ['M', '-', '^', Char.ofNat (n - 64)]
  else if n < 255 then ['M', '-', Char.ofNat (n - 128)]
  else ['M', '-', '^', '?']

/-- Where in the lines the next octet is. -/
inductive Position where
  /-- After others in its line. -/
  | within
  /-- At the start of a line. -/
  | start
  /-- At the start of a line after one with nothing in it. -/
  | afterBlank
deriving Repr, DecidableEq

/-- What has been shown. -/
structure Progress where
  /-- The number of the next line. -/
  number : Nat
  /-- Where the next octet is. -/
  position : Position

/-- The number in front of a line. -/
def Progress.label (p : Progress) : Octets := padLeft 6 (decimal p.number) ++ ['\t']

/-- Shows a text. The output is gathered in the opposite order. -/
def display (v : Setting) : Octets → Octets → Progress → Octets × Progress
  | acc, [], p => (acc.reverse, p)
  | acc, '\n' :: s, p =>
    let mark := if v.ends then ['\n', '$'] else ['\n']
    if p.position = .within then display v (mark ++ acc) s { p with position := .start }
    else if p.position = .afterBlank && v.squeezes then display v acc s p
    else if v.numbers && !v.skipsBlank then
      display v (mark ++ p.label.reverse ++ acc) s ⟨p.number + 1, .afterBlank⟩
    else display v (mark ++ acc) s { p with position := .afterBlank }
  | acc, c :: s, p =>
    let shown := if c = '\r' && v.ends && s.head? = some '\n' then ['^', 'M'] else v.visible c
    if p.position ≠ .within && v.numbers then
      display v (shown.reverse ++ p.label.reverse ++ acc) s ⟨p.number + 1, .within⟩
    else display v (shown.reverse ++ acc) s { p with position := .within }

end Cat

/-- What an operand names has a rest that standard output would write to. -/
def isFedBack (operand : Octets) (s : State) : Bool :=
  isOutput operand s && (match if operand = ['-'] then s.readable 0 else (content operand s).1 with
    | .ok text => !text.isEmpty
    | .error _ => false)

/-- Prints files one after the other. -/
def cat : Utility :=
  withOptions ⟨"AbeEnstTuv", "", "", [("number-nonblank", 'b'), ("number", 'n'), ("squeeze-blank", 's'),
      ("show-nonprinting", 'v'), ("show-ends", 'E'), ("show-tabs", 'T'), ("show-all", 'A')], false, 1⟩
    fun i s =>
      let v := Cat.Setting.of i
      (i.inputs.foldl (fun (p, s) o =>
        if s.writeFault.isSome then (p, s)
        else if isFedBack o s then (p, i.complain (quoteRare o ++ ": input file is output file") s)
        else
          match content o s with
          | (.error fault, s) => (p, i.complainOf o fault s)
          | (.ok text, s) =>
            if v.isPlain then (p, s.print text)
            else
              let (output, p) := Cat.display v [] text p
              (p, s.print output)) ((⟨1, .start⟩ : Cat.Progress), s)).2

/-! ## From the end to the start -/

namespace Tac

/-- Where the separators in a text start and end, the last one first: each
lies before the one that was found last. -/
def separators (find : Octets → Nat → Option Nat) (text : Octets) : Nat → Nat → List (Nat × Nat)
  | 0, _ => []
  | fuel + 1, stop =>
    let front := text.take stop
    match ((List.range stop).reverse.findSome? fun start => (find front start).map (start, ·)) with
    | some (start, e) => (start, e) :: separators find text fuel start
    | none => []

/-- The records of a text, the last one first; each ends with its separator,
or starts with it. -/
def records (before : Bool) (cuts : List (Nat × Nat)) (text : Octets) : List Octets :=
  let places := cuts.map fun (start, stop) => if before then start else stop
  let places := if !before && places.head? = some text.length then places.drop 1 else places
  let (pieces, rest) := places.foldl (fun (acc : List Octets × Octets) n => (acc.2.drop n :: acc.1, acc.2.take n)) ([], text)
  pieces.reverse ++ [rest]

/-- The lines of a text, the last one first. -/
def reversedLines (text : Octets) : Octets := (endedLines text).reverse.flatten

end Tac

/-- Prints records, as a rule lines, from the last one to the first one. -/
def tac : Utility :=
  withOptions ⟨"br", "s", "", [("before", 'b'), ("regex", 'r'), ("separator", 's')], false, 1⟩ fun i s =>
    let separator := (i.value? 's').getD ['\n']
    let turned : Except String (Octets → Octets) :=
      if separator = ['\n'] && !i.has 'b' then .ok Tac.reversedLines
      else
        let records (find : Octets → Nat → Option Nat) (text : Octets) : Octets :=
          (Tac.records (i.has 'b') (Tac.separators find text (text.length + 1) text.length) text).flatten
        if i.has 'r' then
          if separator.isEmpty then .error "separator cannot be empty"
          else
            match Regex.read { Regex.Rules.posixBasic with repeatsOnce := false } separator with
            | .error flaw => .error flaw.message
            | .ok r => .ok (records fun front start =>
                ((Regex.matchAt ⟨false, true, true⟩ front r (Regex.Spot.ofText .plain front start)).map Regex.Match.stop))
        else
          let separator := if separator.isEmpty then ['\x00'] else separator
          .ok (records fun front start =>
            if separator.isPrefixOf (front.drop start) then some (start + separator.length) else none)
    match turned with
    | .error problem => i.complain problem s
    | .ok turn =>
      (i.through (fun o fault s =>
          let name := if o = ['-'] then "standard input" else quoteRare o
          if fault = .isADirectory then i.complain (name ++ ": read error: " ++ faultText fault) s
          else i.complain ("failed to open " ++ quote o ++ " for reading: " ++ faultText fault) s)
        (fun _ text _ s => ((), s.print (turn text))) () s).2

/-- Prints lines with their characters from the last one to the first one. -/
def rev : Utility := withOptions ⟨"", "", "", [], false, 1⟩ fun i s =>
  let turned (l : Octets) : Octets :=
    let ended := l.getLast? = some '\n'
    Octets.ofChars (Octets.chars (if ended then l.dropLast else l)).reverse ++ (if ended then ['\n'] else [])
  (i.through (fun o fault s => i.complain ("cannot open " ++ Octets.text o ++ ": " ++ faultText fault) s)
    (fun _ text _ s => ((), s.print ((endedLines text).flatMap turned))) () s).2

/-! ## Numbers in front of lines -/

namespace Numbering

/-- Which lines have a number. -/
inductive Style where
  /-- All lines. -/
  | all
  /-- Those with something in them. -/
  | filled
  /-- None. -/
  | none
  /-- Those that match an expression. -/
  | matching (r : Regex)

/-- A part of a page. -/
inductive Part where
  | header | body | footer
deriving Repr, DecidableEq

/-- The name of a part. -/
def Part.name : Part → String
  | header => "header"
  | body => "body"
  | footer => "footer"

/-- How a number stands in its room. -/
inductive Layout where
  | left | right | rightWithZeros
deriving Repr, DecidableEq

/-- How lines are numbered. -/
structure Setting where
  /-- Which lines of a part have a number. -/
  style : Part → Style
  /-- What the marks between parts are made of. -/
  mark : Octets
  /-- From one number to the next. -/
  step : Int
  /-- The first number. -/
  first : Int
  /-- Of so many lines with nothing in them that follow each other the last
  one counts. -/
  blanks : Nat
  /-- How numbers stand. -/
  layout : Layout
  /-- Numbers go on from page to page. -/
  goesOn : Bool
  /-- What follows a number. -/
  separator : Octets
  /-- The room for a number. -/
  width : Nat

/-- What has been numbered. -/
structure Progress where
  /-- The part. -/
  part : Part
  /-- The next number. -/
  number : Int
  /-- The lines with nothing in them that came last. -/
  blanks : Nat

/-- The mark that starts a part. -/
def Setting.markOf (v : Setting) : Part → Octets
  | .header => v.mark ++ v.mark ++ v.mark
  | .body => v.mark ++ v.mark
  | .footer => v.mark

/-- A number in its room. -/
def Setting.written (v : Setting) (n : Int) : Octets :=
  let digits := decimal n.natAbs
  let sign := if n < 0 then ['-'] else []
  match v.layout with
  | .left => sign ++ digits ++ List.replicate (v.width - sign.length - digits.length) ' '
  | .right => padLeft v.width (sign ++ digits)
  | .rightWithZeros => sign ++ List.replicate (v.width - sign.length - digits.length) '0' ++ digits

/-- A line with its number, or with blanks in its place. -/
def Setting.line (v : Setting) (p : Progress) (l : Octets) : Octets × Progress :=
  let numbered : Octets × Progress := (v.written p.number ++ v.separator ++ l ++ ['\n'], { p with number := p.number + v.step })
  let unnumbered : Octets := List.replicate (v.width + v.separator.length) ' ' ++ l ++ ['\n']
  match v.style p.part with
  | .all =>
    if 1 < v.blanks then
      if l.isEmpty && p.blanks + 1 < v.blanks then (unnumbered, { p with blanks := p.blanks + 1 })
      else (numbered.1, { numbered.2 with blanks := 0 })
    else numbered
  | .filled => if l.isEmpty then (unnumbered, p) else numbered
  | .none => (unnumbered, p)
  | .matching r => if (Regex.search? .plain r l 0).isSome then numbered else (unnumbered, p)

/-- A line, which may start another part. -/
def Setting.next (v : Setting) (p : Progress) (l : Octets) : Octets × Progress :=
  match if v.mark.isEmpty then none else [Part.header, .body, .footer].find? fun part => l = v.markOf part with
  | some part => (['\n'], { p with part, number := if v.goesOn then p.number else v.first })
  | none => v.line p l

/-- The style that an argument asks for. -/
def style? (part : Part) (s : Octets) : Except String Style :=
  match s with
  | 'p' :: pattern =>
    match Regex.read { Regex.Rules.posixBasic with repeatsOnce := false, emptyRanges := true } pattern with
    | .ok r => .ok (.matching r)
    | .error flaw => .error flaw.message
  | 'a' :: _ => .ok .all
  | 't' :: _ => .ok .filled
  | 'n' :: _ => .ok .none
  | _ => .error ("invalid " ++ part.name ++ " numbering style: " ++ curly s)

/-- What an option adds to the setting. The fault of a style or a layout
does not end the reading of options, so it is only noted. -/
def Setting.with? (v : Setting) (o : Char × Octets) : Except Problem Setting :=
  let valueOf {α : Type} (what : String) (r : Except String α) : Except Problem α :=
    r.mapError fun reason => .value (what ++ ": " ++ reason)
  let styled (part : Part) : Except Problem Setting :=
    match style? part o.2 with
    | .ok style => .ok { v with style := fun p => if p = part then style else v.style p }
    | .error problem => .error (if o.2.head? = some 'p' then .value problem else .usage problem)
  match o.1 with
  | 'h' => styled .header
  | 'b' => styled .body
  | 'f' => styled .footer
  | 'v' => (valueOf "invalid starting line number" (Amount.whole o.2)).map fun n => { v with first := n }
  | 'i' => (valueOf "invalid line number increment" (Amount.whole o.2)).map fun n => { v with step := n }
  | 'l' => (valueOf "invalid line number of blank lines" (Amount.within "" 1 (Nat.pow 2 63 - 1) o.2)).map fun n =>
      { v with blanks := n }
  | 'w' => (valueOf "invalid line number field width" (Amount.within "" 1 (Nat.pow 2 31 - 1) o.2)).map fun n =>
      { v with width := n }
  | 'p' => .ok { v with goesOn := true }
  | 's' => .ok { v with separator := o.2 }
  | 'd' => .ok { v with mark := if o.2.length = 1 then o.2 ++ [':'] else o.2 }
  | 'n' =>
    match String.ofList o.2 with
    | "ln" => .ok { v with layout := .left }
    | "rn" => .ok { v with layout := .right }
    | "rz" => .ok { v with layout := .rightWithZeros }
    | _ => .error (.usage ("invalid line numbering format: " ++ curly o.2))
  | _ => .ok v

/-- The setting without options. -/
def Setting.standard : Setting where
  style := fun part => if part = .body then .filled else .none
  mark := ['\\', ':']
  step := 1
  first := 1
  blanks := 1
  layout := .right
  goesOn := false
  separator := ['\t']
  width := 6

/-- The setting that options ask for. Faults of use are told together, or
before the fault of a value. -/
def Setting.of (name : String) (options : List (Char × Octets)) : Except Problem Setting := do
  let together (complaints : List String) : String := String.intercalate ("\n" ++ name ++ ": ") complaints
  let (v, complaints) ← options.foldlM (fun (v, complaints) o =>
    match Setting.with? v o with
    | .ok v => .ok (v, complaints)
    | .error (.usage problem) => .ok (v, complaints ++ [problem])
    | .error (.value problem) => .error (Problem.value (together (complaints ++ [problem])))
    | .error problem => .error problem) (standard, [])
  if complaints.isEmpty then return v else throw (.usage (together complaints))

end Numbering

/-- Prints lines with numbers in front. -/
def nl : Utility := fun call argv s =>
  withSetting ⟨"p", "hbfvildnsw", "", [("header-numbering", 'h'), ("body-numbering", 'b'), ("footer-numbering", 'f'),
      ("starting-line-number", 'v'), ("line-increment", 'i'), ("no-renumber", 'p'), ("join-blank-lines", 'l'),
      ("number-separator", 's'), ("number-width", 'w'), ("number-format", 'n'), ("section-delimiter", 'd')], false, 1⟩
    (Numbering.Setting.of (Octets.text (argv.head?.getD [])))
    (fun i v s =>
      i.printing (fun (p : Numbering.Progress) text =>
        let (rows, p) := (Octets.lines text).foldl (fun (rows, p) l =>
          let (row, p) := v.next p l
          (row :: rows, p)) (([] : List Octets), p)
        (rows.reverse.flatten, p)) ⟨.body, v.first, 0⟩ s)
    call argv s

/-! ## Copies -/

/-- Writes standard input to standard output and to files. -/
def tee : Utility :=
  withOptions ⟨"aip", "", "ω", [("append", 'a'), ("ignore-interrupts", 'i'), ("output-error", 'ω')], false, 1⟩ fun i s =>
    let wrong := i.options.findSome? fun o =>
      if o.1 ≠ 'ω' || o.2.isEmpty then none
      else
        match chooseWord "--output-error" [["warn"], ["warn-nopipe"], ["exit"], ["exit-nopipe"]] o.2 with
        | .error problem => some problem
        | .ok _ => none
    match wrong with
    | some problem => i.reject problem s
    | none =>
      let mode : WriteMode := if i.has 'a' then .append else .truncate
      -- All files are opened before anything is read.
      let (outputs, s) := i.operands.foldl (fun (acc, s) o =>
        match s.openStream (State.path o) (.forWriting mode) with
        | (.ok stream, s) => (acc ++ [(o, stream)], s)
        | (.error fault, s) => (acc, i.complainOf o fault s)) (([] : List (Octets × Nat)), s)
      let (text, s) := s.readAll 0
      match text with
      | .error fault => i.complain ("read error: " ++ faultText fault) s
      | .ok text =>
        let wrote (name : Octets) (write : State → State) (s : State) : State :=
          let after := write { s with writeFault := none }
          match after.writeFault with
          | some fault => { i.complainOf name fault { after with writeFault := none } with writeFault := s.writeFault }
          | none => { after with writeFault := s.writeFault }
        outputs.foldl (fun s (o, stream) => wrote o (fun s => s.writeStream stream text) s)
          (wrote "standard output".toList (fun s => s.print text) s)

/-- Prints a line again and again; a reader that has enough stops it, so it
is enough to print more than any reader wants. -/
def yes : Utility := withOptions ⟨"", "", "", [], false, 1⟩ fun i s =>
  let line := (if i.operands.isEmpty then ['y'] else List.intercalate [' '] i.operands) ++ ['\n']
  s.print (List.replicate 10000 line).flatten

end Utility

end Shell

end Tangle
