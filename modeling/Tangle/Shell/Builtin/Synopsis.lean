import Tangle.Shell.Octets
/-!
# How built-in commands are used

The synopses of the built-in commands of the wide dialect, which go with
complaints about their options.
-/

namespace Tangle

namespace Shell

namespace Builtin

/-- The synopses of built-in commands by their names. -/
def synopses : List (String × String) :=
  [("alias", "alias [-p] [name[=value] ... ]"),
   ("bg", "bg [job_spec ...]"),
   ("cd", "cd [-L|[-P [-e]] [-@]] [dir]"),
   ("command", "command [-pVv] command [arg ...]"),
   ("declare", "declare [-aAfFgiIlnrtux] [name[=value] ...] or declare -p [-aAfFilnrtux] [name ...]"),
   ("dirs", "dirs [-clpv] [+N] [-N]"),
   ("enable", "enable [-a] [-dnps] [-f filename] [name ...]"),
   ("exec", "exec [-cl] [-a name] [command [argument ...]] [redirection ...]"),
   ("export", "export [-fn] [name[=value] ...] or export -p"),
   ("fg", "fg [job_spec]"),
   ("getopts", "getopts optstring name [arg ...]"),
   ("hash", "hash [-lr] [-p pathname] [-dt] [name ...]"),
   ("jobs", "jobs [-lnprs] [jobspec ...] or jobs -x command [args]"),
   ("kill", "kill [-s sigspec | -n signum | -sigspec] pid | jobspec ... or kill -l [sigspec]"),
   ("local", "local [option] name[=value] ..."),
   ("mapfile", "mapfile [-d delim] [-n count] [-O origin] [-s count] [-t] [-u fd] [-C callback] "
     ++ "[-c quantum] [array]"),
   ("popd", "popd [-n] [+N | -N]"),
   ("printf", "printf [-v var] format [arguments]"),
   ("pushd", "pushd [-n] [+N | -N | dir]"),
   ("pwd", "pwd [-LP]"),
   ("read", "read [-ers] [-a array] [-d delim] [-i text] [-n nchars] [-N nchars] [-p prompt] "
     ++ "[-t timeout] [-u fd] [name ...]"),
   ("readarray", "readarray [-d delim] [-n count] [-O origin] [-s count] [-t] [-u fd] [-C "
     ++ "callback] [-c quantum] [array]"),
   ("readonly", "readonly [-aAf] [name[=value] ...] or readonly -p"),
   ("set", "set [-abefhkmnptuvxBCEHPT] [-o option-name] [--] [-] [arg ...]"),
   ("shopt", "shopt [-pqsu] [-o] [optname ...]"),
   ("source", "source filename [arguments]"),
   ("trap", "trap [-lp] [[arg] signal_spec ...]"),
   ("type", "type [-afptP] name [name ...]"),
   ("typeset", "typeset [-aAfFgiIlnrtux] name[=value] ... or typeset -p [-aAfFilnrtux] [name ...]"),
   ("ulimit", "ulimit [-SHabcdefiklmnpqrstuvxPRT] [limit]"),
   ("umask", "umask [-p] [-S] [mode]"),
   ("unalias", "unalias [-a] name [name ...]"),
   ("unset", "unset [-f] [-v] [-n] [name ...]"),
   ("wait", "wait [-fn] [-p var] [id ...]"),
   (".", ". filename [arguments]"),
   ("shift", "shift [n]")]

/-- The synopsis of a built-in command. -/
def synopsis (name : Octets) : String :=
  (synopses.lookup (String.ofList name)).getD (String.ofList name)

end Builtin

end Shell

end Tangle
