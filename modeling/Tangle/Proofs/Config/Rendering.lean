import Tangle.CommandLine.Run
import Tangle.Proofs.Disk.Passage
import Tangle.Proofs.Text.Utf8
import Tangle.Proofs.Toml.Document
/-!
# Reading a printed configuration back

A configuration is written as a document of settings (`Config.document`,
`toToml_eq`), which reads back as the same configuration whatever texts are
in it (`ofValues_document`). The setting is printed behind a comment that
names the base directory, so it reads back if the name of the directory
stays in the comment (`ofFile_renderConfig`), and not always otherwise
(`comment_escapes`).
-/

namespace Tangle

namespace Config

open Toml

variable {c : Config} {ss : List String} {n : Nat}

/-! ## Arrays of texts -/

theorem writeStrings_lines (ss : List String) :
    ss.flatMap (fun s => "\n    ".toList ++ quote s ++ [',']) = ss.flatMap elementLine := by
  have hindent : "\n    ".toList = ['\n', ' ', ' ', ' ', ' '] := rfl
  refine congrArg (List.flatMap · ss) (funext fun s => ?_)
  rw [hindent, elementLine]
  simp

theorem length_le_flatMap (ss : List String) : ss.length ≤ (ss.flatMap elementLine).length := by
  induction ss with
  | nil => exact Nat.le_refl _
  | cons s ss ih =>
    rw [List.flatMap_cons, List.length_append, elementLine, List.length_cons, List.length_cons]
    omega

/-- A list of texts is written as an array of them. -/
theorem denotes_writeStrings : ∀ ss : List String, Denotes (writeStrings ss) (.array (ss.map .string))
  | [] => denotes_array fun _ => rfl
  | [s] => by
    have hwrite : writeStrings [s] = '[' :: (quote s ++ [']']) := rfl
    rw [hwrite]
    refine denotes_array fun rest => ?_
    have htext : quote s ++ [']'] ++ '\n' :: rest = quote s ++ ']' :: '\n' :: rest := by simp
    rw [htext, arrayBody_quote (skipGap_quote s _) (Or.inr rfl), if_neg (by decide)]
    rfl
  | s :: t :: ss => by
    have hwrite : writeStrings (s :: t :: ss) = '[' :: ((s :: t :: ss).flatMap elementLine ++ ['\n', ']']) := by
      rw [writeStrings, List.cons_append, writeStrings_lines]
      · exact fun heq => nomatch heq
      · exact fun _ heq => nomatch heq
    rw [hwrite]
    refine denotes_array fun rest => ?_
    have hlength := length_le_flatMap (s :: t :: ss)
    rw [List.append_assoc]
    exact arrayBody_lines (by rw [List.length_append]; omega) _

theorem readStrings_array (ss : List String) : readStrings (.array (ss.map .string)) = some ss := by
  rw [readStrings]
  induction ss with
  | nil => rfl
  | cons s ss ih =>
    rw [List.map_cons, List.mapM_cons, ih]
    rfl

/-! ## The document of a configuration -/

theorem lt_of_le_numberLimit (h : n ≤ numberLimit) : n < Nat.pow 2 63 := by
  have hpos : 0 < Nat.pow 2 63 := by decide +kernel
  rw [numberLimit] at h
  generalize Nat.pow 2 63 = bound at h hpos ⊢
  omega

/-- A line that sets a list of texts. -/
def stringsLine (key : String) (h : IsWord key.toList) (ss : List String) : Line :=
  ⟨key, writeStrings ss, .array (ss.map .string), h, denotes_writeStrings ss⟩

/-- A line that sets a text. -/
def stringLine (key : String) (h : IsWord key.toList) (s : String) : Line :=
  ⟨key, quote s, .string s, h, denotes_quote s⟩

/-- A line that sets a number. -/
def numberLine (key : String) (h : IsWord key.toList) (n : Nat) (hn : n ≤ numberLimit) : Line :=
  ⟨key, writeNat n, .integer n, h, by
    rw [writeNat, Nat.toString_eq_ofList_toDigits, String.toList_ofList]
    exact denotes_number (lt_of_le_numberLimit hn)⟩

/-- A line that sets a truth value. -/
def booleanLine (key : String) (h : IsWord key.toList) (b : Bool) : Line :=
  ⟨key, if b then "true".toList else "false".toList, .boolean b, h, by
    cases b
    · exact denotes_false
    · exact denotes_true⟩

/-- The configuration as a document. -/
def document (c : Config) (hindent : c.previewIndent ≤ numberLimit) (hdashes : c.scissors.dashes ≤ numberLimit) :
    Toml.Document where
  lines := [stringsLine "source_patterns" ⟨by decide, by decide⟩ c.sourcePatterns,
    stringLine "mode" ⟨by decide, by decide⟩ c.mode.name,
    numberLine "preview_indent" ⟨by decide, by decide⟩ c.previewIndent hindent,
    booleanLine "lenient_blockquotes" ⟨by decide, by decide⟩ c.lenient]
  groups := [
    { name := "scissors"
      lines := [numberLine "dashes" ⟨by decide, by decide⟩ c.scissors.dashes hdashes,
        stringLine "start" ⟨by decide, by decide⟩ c.scissors.opening,
        stringLine "end" ⟨by decide, by decide⟩ c.scissors.closing]
      word := ⟨by decide, by decide⟩
      distinct := show ["dashes", "start", "end"].Nodup by decide },
    { name := "shell"
      lines := [stringLine "program" ⟨by decide, by decide⟩ c.shell.program,
        stringsLine "args" ⟨by decide, by decide⟩ c.shell.args]
      word := ⟨by decide, by decide⟩
      distinct := show ["program", "args"].Nodup by decide }]
  distinct := show ["source_patterns", "mode", "preview_indent", "lenient_blockquotes", "scissors", "shell"].Nodup by
    decide

theorem writeSetting_eq (l : Line) : writeSetting l.key l.text = l.write := by
  have hequals : " = ".toList = [' ', '=', ' '] := rfl
  rw [writeSetting, Line.write, hequals]
  simp

/-- **A configuration is written as its document.** -/
theorem toToml_eq (c : Config) (hindent : c.previewIndent ≤ numberLimit) (hdashes : c.scissors.dashes ≤ numberLimit) :
    c.toToml = String.ofList (c.document hindent hdashes).write := by
  have hscissors : "\n[scissors]\n".toList = '\n' :: '[' :: ("scissors".toList ++ [']', '\n']) := rfl
  have hshell : "\n[shell]\n".toList = '\n' :: '[' :: ("shell".toList ++ [']', '\n']) := rfl
  rw [toToml, hscissors, hshell]
  refine congrArg String.ofList ?_
  simp only [Document.write, document, List.flatMap_cons, List.flatMap_nil, Group.write, Group.header,
    ← writeSetting_eq, stringsLine, stringLine, numberLine, booleanLine, List.append_nil, List.append_assoc,
    List.cons_append, List.nil_append]

/-- The update that gives every setting. -/
def full (c : Config) : Update :=
  ⟨some c.sourcePatterns, some c.mode, some c.previewIndent, some c.lenient, some c.scissors, some c.shell⟩

theorem applyTo_full (base : Config) : c.full.applyTo base = c := rfl

/-! ## Reading the settings -/

section Reading

variable {α : Type} {read : Value → Option α} {entries : List (String × Value)} {key : String} {v : Value} {a : α}

theorem readSetting_eq (hlookup : entries.lookup key = some v) (hread : read v = some a) :
    readSetting read entries key = .ok (some a) := by
  rw [readSetting, hlookup]
  dsimp only
  rw [hread]

theorem readMember_eq (hlookup : entries.lookup key = some v) (hread : read v = some a) (standard : α) (index : Nat) :
    readMember read standard (.table entries) key index = some a := by
  rw [readMember, member, hlookup]
  exact hread

end Reading

theorem readNat_integer (n : Nat) : readNat (.integer n) = some n := by
  rw [readNat, if_pos (Int.natCast_nonneg n), Int.toNat_natCast]

theorem readMode_name (m : Mode) : readMode (.string m.name) = some m := by
  cases m <;> decide

theorem readString_string (s : String) : readString (.string s) = some s := rfl

theorem readMarkers_table (m : Markers) : readMarkers (.table [("dashes", .integer m.dashes),
    ("start", .string m.opening), ("end", .string m.closing)]) = some m := by
  have hdashes : [("dashes", Value.integer m.dashes), ("start", .string m.opening), ("end", .string m.closing)].lookup
      "dashes" = some (.integer m.dashes) := rfl
  have hstart : [("dashes", Value.integer m.dashes), ("start", .string m.opening), ("end", .string m.closing)].lookup
      "start" = some (.string m.opening) := rfl
  have hend : [("dashes", Value.integer m.dashes), ("start", .string m.opening), ("end", .string m.closing)].lookup
      "end" = some (.string m.closing) := rfl
  rw [readMarkers, readMember_eq hdashes (readNat_integer _), readMember_eq hstart (readString_string _),
    readMember_eq hend (readString_string _)]
  rfl

theorem readInterpreter_table (i : Interpreter) : readInterpreter (.table [("program", .string i.program),
    ("args", .array (i.args.map .string))]) = some i := by
  have hprogram : [("program", Value.string i.program), ("args", .array (i.args.map .string))].lookup "program" =
      some (.string i.program) := rfl
  have hargs : [("program", Value.string i.program), ("args", .array (i.args.map .string))].lookup "args" =
      some (.array (i.args.map .string)) := rfl
  rw [readInterpreter, readMember_eq hprogram (readString_string _), readMember_eq hargs (readStrings_array _)]
  rfl

/-- **The document gives every setting.** -/
theorem ofValues_document (c : Config) (hindent : c.previewIndent ≤ numberLimit)
    (hdashes : c.scissors.dashes ≤ numberLimit) :
    Update.ofValues (c.document hindent hdashes).values = .ok c.full := by
  have hpatterns : (c.document hindent hdashes).values.lookup "source_patterns" =
      some (.array (c.sourcePatterns.map .string)) := rfl
  have hmode : (c.document hindent hdashes).values.lookup "mode" = some (.string c.mode.name) := rfl
  have hpreview : (c.document hindent hdashes).values.lookup "preview_indent" = some (.integer c.previewIndent) := rfl
  have hlenient : (c.document hindent hdashes).values.lookup "lenient_blockquotes" = some (.boolean c.lenient) := rfl
  have hscissors : (c.document hindent hdashes).values.lookup "scissors" = some (.table [
      ("dashes", .integer c.scissors.dashes), ("start", .string c.scissors.opening),
      ("end", .string c.scissors.closing)]) := rfl
  have hshell : (c.document hindent hdashes).values.lookup "shell" = some (.table [
      ("program", .string c.shell.program), ("args", .array (c.shell.args.map .string))]) := rfl
  rw [Update.ofValues, readSetting_eq hpatterns (readStrings_array _), readSetting_eq hmode (readMode_name _),
    readSetting_eq hpreview (readNat_integer _), @readSetting_eq _ readBool _ _ _ c.lenient hlenient rfl,
    readSetting_eq hscissors (readMarkers_table _), readSetting_eq hshell (readInterpreter_table _)]
  rfl

end Config

namespace CommandLine

open Toml Config

variable {s : Setting} {disk : Node} {cwd : Place} {path : Path} {text : String}

/-! ## The printed setting -/

/-- The comment in front of a configuration that is printed. -/
def comment (s : Setting) : List Char := " snip configuration for ".toList ++ s.base.text.toList

/-- **A setting is printed as its document**, behind the comment. -/
theorem renderConfig_eq (s : Setting) (hindent : s.config.previewIndent ≤ numberLimit)
    (hdashes : s.config.scissors.dashes ≤ numberLimit) :
    renderConfig s = String.ofList ('#' :: (comment s ++ '\n' :: (s.config.document hindent hdashes).write)) := by
  have hcomment : "# snip configuration for ".toList = '#' :: " snip configuration for ".toList := by decide +kernel
  have hline : "\n".toList = ['\n'] := rfl
  unfold renderConfig comment
  rw [← String.toList_inj, toToml_eq _ hindent hdashes]
  simp only [String.toList_append, String.toList_ofList, hcomment, hline, List.cons_append, List.append_assoc,
    List.nil_append]

/-- A file that holds a text is read as that text. -/
theorem ofFile_eq (h : disk.readAt cwd path = .ok (Utf8.ofString text)) : ofFile disk cwd path = ofToml text := by
  rw [ofFile, h]
  dsimp only
  rw [Utf8.text?_ofString]

/-- **The printed configuration reads back.** The texts in it may be any; the
numbers are those that a file can give, and the name of the base directory
has no control characters, other than tabs, so that the comment ends with
its line. -/
theorem ofFile_renderConfig (hindent : s.config.previewIndent ≤ numberLimit)
    (hdashes : s.config.scissors.dashes ≤ numberLimit) (hbase : ∀ c ∈ s.base.text.toList, isPlain c = true)
    (hfile : disk.readAt cwd path = .ok (Utf8.ofString (renderConfig s))) :
    ofFile disk cwd path = .ok s.config := by
  have hcomment : ∀ c ∈ comment s, isPlain c = true := by
    intro c hc
    unfold comment at hc
    rcases List.mem_append.1 hc with hc | hc
    · have hall : " snip configuration for ".toList.all isPlain = true := by decide +kernel
      exact List.all_eq_true.1 hall c hc
    · exact hbase c hc
  rw [ofFile_eq hfile, renderConfig_eq s hindent hdashes, ofToml, Update.ofToml, Document.read_write _ hcomment]
  dsimp only
  rw [ofValues_document]
  exact congrArg Except.ok (applyTo_full _)

/-- A disk with one file. -/
def savedDisk (content : Bytes) : Node := .directory [("saved.toml", .file content (.ofMode 0o644))] (.ofMode 0o755)

theorem readAt_saved (content : Bytes) : (savedDisk content).readAt [] ⟨"saved.toml"⟩ = .ok content := by
  have hfree : (savedDisk content).LinkFree := Node.linkFree_of_family rfl
  have henters : (savedDisk content).Enters [] ⟨""⟩ := ⟨rfl, trivial, by simp⟩
  have hname : Node.IsEntryName "saved.toml" := ⟨by decide, by decide, by decide, by decide, by decide +kernel⟩
  have hjoin : Path.join ⟨""⟩ ⟨"saved.toml"⟩ = ⟨"saved.toml"⟩ := by decide +kernel
  have hfind := Node.find_join hfree henters hname (by decide +kernel)
  rw [hjoin] at hfind
  have hlookup : (savedDisk content).lookup [] ⟨"saved.toml"⟩ = .ok (.file content (.ofMode 0o644)) :=
    Node.lookup_eq_ok_iff.2 ⟨_, hfind, rfl, fun h => nomatch h⟩
  rw [Node.readAt, hlookup]
  rfl

/-- A setting with texts for every way of quoting. -/
def quotedSetting : Setting :=
  ⟨{ sourcePatterns := ["*.md", "it\x27s \"this\"", "\\d+\n\x27\x27\x27\"\"\"\"\x07"], mode := .preview,
     previewIndent := 0, lenient := true, scissors := ⟨3, "", "\"\"\n"⟩, shell := ⟨"C:\\sh", ["\x27"]⟩ },
    ⟨"a\tb # c"⟩⟩

theorem quoted_reads : quotedSetting.config.previewIndent ≤ numberLimit ∧
    quotedSetting.config.scissors.dashes ≤ numberLimit ∧
    (∀ c ∈ quotedSetting.base.text.toList, isPlain c = true) ∧
    (savedDisk (Utf8.ofString (renderConfig quotedSetting))).readAt [] ⟨"saved.toml"⟩ =
      .ok (Utf8.ofString (renderConfig quotedSetting)) ∧
    ofFile (savedDisk (Utf8.ofString (renderConfig quotedSetting))) [] ⟨"saved.toml"⟩ = .ok quotedSetting.config := by
  have hindent : quotedSetting.config.previewIndent ≤ numberLimit := Nat.zero_le _
  have hdashes : quotedSetting.config.scissors.dashes ≤ numberLimit := by decide +kernel
  have hbase : ∀ c ∈ quotedSetting.base.text.toList, isPlain c = true :=
    List.all_eq_true.1 (by decide +kernel)
  have hfile := readAt_saved (Utf8.ofString (renderConfig quotedSetting))
  exact ⟨hindent, hdashes, hbase, hfile, ofFile_renderConfig hindent hdashes hbase hfile⟩

/-- A setting whose base directory has a name of two lines. -/
def brokenSetting (second : String) : Setting := ⟨{ Config.standard with previewIndent := 7 }, ⟨"x\n" ++ second⟩⟩

theorem broken_limits (second : String) : (brokenSetting second).config.previewIndent ≤ numberLimit ∧
    (brokenSetting second).config.scissors.dashes ≤ numberLimit :=
  ⟨show 7 ≤ numberLimit by decide +kernel, show 8 ≤ numberLimit by decide +kernel⟩

/-- How that is printed. -/
def brokenText (second : String) : List Char :=
  '#' :: (comment (brokenSetting second) ++
    '\n' :: ((brokenSetting second).config.document (broken_limits second).1 (broken_limits second).2).write)

theorem ofFile_broken (second : String) :
    ofFile (savedDisk (Utf8.ofString (renderConfig (brokenSetting second)))) [] ⟨"saved.toml"⟩ =
      ofToml (String.ofList (brokenText second)) := by
  rw [ofFile_eq (readAt_saved _), brokenText, renderConfig_eq]

/-- **A name of two lines leaves the comment.** The second line is refused,
or it is taken for a header, and then the settings behind it are lost. -/
theorem comment_escapes :
    (ofFile (savedDisk (Utf8.ofString (renderConfig (brokenSetting "y")))) [] ⟨"saved.toml"⟩).toOption = none ∧
    (ofFile (savedDisk (Utf8.ofString (renderConfig (brokenSetting "[y]")))) [] ⟨"saved.toml"⟩).toOption =
      some Config.standard ∧
    (brokenSetting "[y]").config ≠ Config.standard := by
  rw [ofFile_broken, ofFile_broken, ofToml, ofToml, Update.ofToml, Update.ofToml, Toml.read, Toml.read,
    String.toList_ofList, String.toList_ofList]
  refine ⟨?_, ?_, by decide⟩
  · decide +kernel
  · decide +kernel

end CommandLine

end Tangle
