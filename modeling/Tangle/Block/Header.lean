import Tangle.Text.Blank
/-!
# The grammar of quoted lines

The lines that structure a document are quoted lines of three shapes:
fences, run headers and file headers. This file recognises each shape in
the text of a line.

* A fence is `> ` and three backticks, then nothing or a tag that does not
  start with a backtick.
* A run header is `> Run`, then blanks.
* A file header is `> File`, then nothing or a blank and anything. The
  first span between backticks names the file, and the word `continued`
  after it extends the file instead of replacing it.

Only a text with a line feed inside tells the tag of a fence and the rest
of a file header from "anything": past its first character a tag has no
line feed, and the rest of a header has none at all.
-/

namespace Tangle

namespace Header

/-- The backtick. -/
def tick : Char := '\x60'

/-- What opens and closes a fence, before the tag. -/
def fenceMark : List Char := ['>', ' ', tick, tick, tick]

/-- What a run header starts with. -/
def runMark : List Char := "> Run".toList

/-- What a file header starts with. -/
def fileMark : List Char := "> File".toList

/-- What follows `mark` in the text, if it starts so. -/
def after? (mark text : List Char) : Option (List Char) :=
  if mark.isPrefixOf text then some (text.drop mark.length) else none

/-- The text can follow the mark of a fence. -/
def isTag : List Char → Bool
  | [] => true
  | c :: rest => c ≠ tick && !rest.contains '\n'

/-- The text is a fence line. -/
def isFence (text : List Char) : Bool :=
  match after? fenceMark text with
  | some tag => isTag tag
  | none => false

/-- The text is a run header. -/
def isRun (text : List Char) : Bool :=
  match after? runMark text with
  | some rest => rest.all Text.isBlank
  | none => false

/-- What a file header says after its mark, if the text is one. -/
def fileRest? (text : List Char) : Option (List Char) :=
  match after? fileMark text with
  | none => none
  | some [] => some []
  | some (c :: rest) =>
    if Text.isBlank c && !(Text.trimLeft rest).contains '\n' then some (Text.trimLeft rest) else none

/-- The first span between backticks, and the text after it. -/
def firstSpan? : List Char → Option (List Char × List Char)
  | [] => none
  | c :: rest =>
    if c = tick then
      match rest.takeWhile (· ≠ tick), rest.dropWhile (· ≠ tick) with
      | d :: span, _ :: after => some (d :: span, after)
      | _, _ => firstSpan? rest
    else firstSpan? rest

/-- The word after a file's name that extends the file. -/
def continuedWord : List Char := "continued".toList

/-- The text after a file's name extends the file. -/
def isContinued (after : List Char) : Bool :=
  Text.trim after = continuedWord

end Header

end Tangle
