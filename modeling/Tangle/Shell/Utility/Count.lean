import Tangle.Shell.Utility.Basic
/-!
# Counting

`wc` counts the lines, words, characters and octets of files (`Tally.of`) and
prints them in columns that are as wide as the sizes of the files ask for.
-/

namespace Tangle

namespace Shell

namespace Utility

/-- What is counted in a text. -/
structure Tally where
  /-- The ends of lines. -/
  lines : Nat
  /-- The words. -/
  words : Nat
  /-- The characters. -/
  chars : Nat
  /-- The octets. -/
  octets : Nat
  /-- The columns of the longest line. -/
  longest : Nat
deriving Repr, DecidableEq

namespace Tally

/-- Nothing. -/
def zero : Tally := ⟨0, 0, 0, 0, 0⟩

/-- The counts of two texts together. -/
def add (a b : Tally) : Tally :=
  ⟨a.lines + b.lines, a.words + b.words, a.chars + b.chars, a.octets + b.octets, max a.longest b.longest⟩

/-- A text that is being counted. -/
structure Progress where
  /-- What was counted. -/
  tally : Tally
  /-- A word is under way. -/
  inWord : Bool
  /-- The columns of the line so far. -/
  column : Nat

/-- The end of a word. -/
def Progress.endWord (p : Progress) : Progress :=
  { p with tally := { p.tally with words := p.tally.words + (if p.inWord then 1 else 0) }, inWord := false }

/-- The start of a line. -/
def Progress.startLine (p : Progress) : Progress :=
  { p with tally := { p.tally with longest := max p.tally.longest p.column }, column := 0 }

/-- A blank that does not separate lines but separates words. -/
def isFirmBlank (c : Char) : Bool := [0xA0, 0x2007, 0x202F, 0x2060].contains c.toNat

/-- One more character. What cannot be seen is no part of a word. -/
def Progress.next (p : Progress) (c : Char) : Progress :=
  if Octets.isStray c then p
  else
    let p := { p with tally := { p.tally with chars := p.tally.chars + 1 } }
    if c = '\n' then { p.startLine with tally := { p.startLine.tally with lines := p.tally.lines + 1 } }.endWord
    else if c = '\r' || c = '\x0c' then p.startLine.endWord
    else if c = '\t' then { p with column := p.column + (8 - p.column % 8) }.endWord
    else if c = '\x0b' then p.endWord
    else if Text.isControl c then p
    else
      let p := { p with column := p.column + Text.columns c }
      if Text.isSpace c || isFirmBlank c then p.endWord else { p with inWord := true }

/-- What is counted in a text. -/
def of (text : Octets) : Tally :=
  let p := ((Octets.chars text).foldl Progress.next ⟨zero, false, 0⟩).endWord.startLine
  { p.tally with octets := text.length }

/-- The counts that are told, in the order of the columns. -/
def columns (letters : List Char) (t : Tally) : List Nat :=
  [('l', t.lines), ('w', t.words), ('m', t.chars), ('c', t.octets), ('L', t.longest)].filterMap fun (c, n) =>
    if letters.contains c then some n else none

end Tally

/-- The width of the columns for the counts of files. -/
def countWidth (operands : List Octets) (s : State) : Nat :=
  let sizes : List (Option Nat) := operands.filterMap fun o =>
    if o = ['-'] then
      some (match (placeOfInput s).bind s.disk.get? with
        | some (.file content _) => some content.length
        | _ => none)
    else
      match s.lookup (State.path o) with
      | .ok (.file content _) => some (some content.length)
      | .ok _ => some none
      | .error _ => none
  let total := (sizes.map fun n => n.getD 0).foldl (· + ·) 0
  max (decimal total).length (if sizes.any Option.isNone then 7 else 1)
where
  /-- The file that standard input leads to. -/
  placeOfInput (s : State) : Option Place :=
    match (s.stream? 0).map Stream.target with
    | some (.file place) => some place
    | _ => none

/-- The names in a text, each of which ends with a zero. -/
def zeroEnded (text : Octets) : List Octets := (linesWithEnds '\x00' text).map Prod.fst

/-- Counts files and prints a row for each. `refused` is the complaint about
the name at a place of the list of files. -/
def Invoked.tally (i : Invoked) (files : List Octets) (named : Bool) (width : Nat)
    (refused : Nat → Octets → Option String) (s : State) : State :=
  let asked := (i.options.map Prod.fst).filter fun c => "lwmcL".toList.contains c
  let letters := if asked.isEmpty then ['l', 'w', 'c'] else asked
  let row (t : Tally) (name : Octets) : Octets :=
    List.intercalate [' '] ((t.columns letters).map fun n => padLeft width (decimal n))
      ++ (if name.isEmpty then [] else ' ' :: (if name.contains '\n' then quoteOctets name else name)) ++ ['\n']
  let (total, s) := (files.zip (List.range files.length)).foldl (fun (total, s) (o, n) =>
    match refused n o with
    | some problem => (total, i.complain problem s)
    | none =>
      let name := if named then o else []
      match content o s with
      | (.ok text, s) =>
        let t := Tally.of text
        (total.add t, s.print (row t name))
      | (.error fault, s) =>
        let s := i.complainOf o fault s
        (total, if fault = .isADirectory then s.print (row .zero name) else s)) (Tally.zero, s)
  if 1 < files.length then s.print (row total "total".toList) else s

/-- Counts the lines, words and octets of files. -/
def wc : Utility :=
  withOptions ⟨"clmwL", "Φ", "", [("bytes", 'c'), ("chars", 'm'), ("lines", 'l'), ("words", 'w'),
      ("files0-from", 'Φ'), ("max-line-length", 'L')], false, 1⟩ fun i s =>
    match i.value? 'Φ', i.operands with
    | some _, extra :: _ =>
      i.refuse ("extra operand " ++ quote extra ++ "\nfile operands cannot be combined with --files0-from") s
    | some source, [] =>
      let read : Except Fault Octets × State := content source s
      match read with
      | (.error .isADirectory, s) => i.complain (quoteRare source ++ ": read error: " ++ faultText .isADirectory) s
      | (.error fault, s) => i.complain ("cannot open " ++ quote source ++ " for reading: " ++ faultText fault) s
      | (.ok text, s) =>
        let files := zeroEnded text
        let isFile := match s.lookup (State.path source) with
          | .ok n => source ≠ ['-'] && n.isFile
          | .error _ => source = ['-'] && s.readsFile
        let refused (n : Nat) (name : Octets) : Option String :=
          if name.isEmpty then some (quoteRare source ++ ":" ++ toString (n + 1) ++ ": invalid zero-length file name")
          else if name = ['-'] && source = ['-'] then
            some "when reading file names from stdin, no file name of '-' allowed"
          else none
        i.tally files true (if isFile then width i files s else 1) refused s
    | none, operands =>
      let refused (_ : Nat) (name : Octets) : Option String :=
        if name.isEmpty then some "invalid zero-length file name" else none
      i.tally i.inputs (!operands.isEmpty) (width i i.inputs s) refused s
where
  /-- The width of the columns: no more than needed where there is but one
  count. -/
  width (i : Invoked) (files : List Octets) (s : State) : Nat :=
    let asked := ((i.options.map Prod.fst).filter fun c => "lwmcL".toList.contains c).eraseDups
    if files.length = 1 && asked.length = 1 then 1 else countWidth files s

end Utility

end Shell

end Tangle
