import Tangle.Shell.Awk.Run
import Tangle.Shell.Utility.Finding.Walk
import Tangle.Shell.Utility.Expr
import Tangle.Shell.Utility.Grep
import Tangle.Shell.Utility.Sed
import Tangle.Shell.Utility.Batches
import Tangle.Shell.Utility.Clock
import Tangle.Shell.Utility.Columns
import Tangle.Shell.Utility.Comparing
import Tangle.Shell.Utility.Copying
import Tangle.Shell.Utility.Count
import Tangle.Shell.Utility.Difference.Walk
import Tangle.Shell.Utility.Dump
import Tangle.Shell.Utility.Ends
import Tangle.Shell.Utility.Listing
import Tangle.Shell.Utility.Making
import Tangle.Shell.Utility.Removing
import Tangle.Shell.Utility.Repeats
import Tangle.Shell.Utility.Rights
import Tangle.Shell.Utility.Sequence
import Tangle.Shell.Utility.Show
import Tangle.Shell.Utility.Sort
import Tangle.Shell.Utility.Status
import Tangle.Shell.Utility.Testing
import Tangle.Shell.Utility.Translate
/-!
# The programs by their names

The programs of the system (`Utility.find?`), and the tree of files where
they are found (`systemFiles`).
-/

namespace Tangle

namespace Shell

namespace Utility

/-- The programs by their names. -/
def all : List (String × Utility) :=
  [("[", bracket), ("awk", awk), ("basename", basename), ("cat", cat), ("chmod", chmod), ("cmp", cmp), ("comm", comm), ("cp", cp),
   ("cut", cut), ("date", date), ("diff", diff), ("dirname", dirname), ("echo", echo), ("egrep", grepBy 'E'), ("env", env), ("expand", expand), ("expr", expr), ("false", simple fun _ s => s.ended 1), ("fgrep", grepBy 'F'), ("find", find), ("fold", fold),
   ("grep", grep), ("head", head), ("id", id), ("link", link), ("ln", ln), ("ls", ls), ("mawk", awk), ("mkdir", mkdir), ("mv", mv), ("nl", nl), ("nohup", nohup), ("od", od),
   ("paste", paste), ("printenv", printenv), ("printf", printf), ("pwd", pwd), ("readlink", readlink),
   ("realpath", realpath), ("rev", rev), ("rm", rm), ("rmdir", rmdir), ("sed", sed), ("seq", seq), ("sleep", sleep), ("sort", sort),
   ("stat", stat), ("sync", simple fun _ s => s.ended 0), ("tac", tac), ("tail", tail), ("tee", tee), ("test", test), ("timeout", timeout),
   ("touch", touch), ("tr", tr), ("true", simple fun _ s => s.ended 0), ("uname", uname), ("unexpand", unexpand), ("uniq", uniq), ("unlink", unlink), ("wc", wc),
   ("whoami", whoami), ("xargs", xargs), ("yes", yes)]

/-- The program of a name. -/
def find? (name : String) : Option Utility := all.lookup name

end Utility

/-- The programs that interpret commands, with the dialects they
understand. -/
def interpreters : List (String × Dialect) := [("dash", .plain), ("bash", .wide)]

/-- The tree of files of a system without anybody's own files. -/
def systemFiles : Node :=
  let names := Utility.all.map Prod.fst ++ interpreters.map Prod.fst
  let programs := names.foldl (fun n name => n.put (.program name) [name]) Node.emptyDirectory
  let programs := (programs.put (.link "dash") ["sh"]).put (.link "bash") ["rbash"]
  let descriptors := List.range 10 ++ (List.range 14).map (50 + ·)
  let devices := [("null", .device .null), ("zero", .device .zero), ("full", .device .full),
    ("stdin", .device (.descriptor 0)), ("stdout", .device (.descriptor 1)), ("stderr", .device (.descriptor 2)),
    ("fd", .directory (descriptors.map fun n => (toString n, .device (.descriptor n))) (.ofMode Node.newDirectoryMode))]
  let directory (entries : List (String × Node)) : Node :=
    entries.foldl (fun n e => n.put e.2 [e.1]) Node.emptyDirectory
  directory [("bin", .link "usr/bin"), ("sbin", .link "usr/sbin"), ("root", .emptyDirectory), ("tmp", .emptyDirectory),
    ("etc", .emptyDirectory), ("home", .emptyDirectory), ("var", directory [("tmp", .emptyDirectory)]),
    ("dev", directory devices),
    ("usr", directory [("bin", programs), ("sbin", .emptyDirectory), ("lib", .emptyDirectory),
      ("local", directory [("bin", .emptyDirectory), ("sbin", .emptyDirectory)])])]

end Shell

end Tangle
