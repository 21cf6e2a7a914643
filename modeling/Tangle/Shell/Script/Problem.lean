import Tangle.Shell.Script.Grammar
/-!
# Complaints about scripts

How an interpreter words what is wrong with a script. The plain dialect
names the token that stands in the way and the one that was expected
(`Problem.message`); the wide one shows the token as it is spelled, and the
line with it (`Misfit.wideMessages`).
-/

namespace Tangle

namespace Shell

namespace Script

/-- What a token is called. -/
def Token.called : Token → String
  | .endOfText => "end of file"
  | .lineEnd => "newline"
  | .operator o => "\"" ++ o ++ "\""
  | .redirection .. => "redirection"
  | .word _ => "word"
  | .reserved r => "\"" ++ r ++ "\""

/-- The words of a complaint about a script. -/
def Problem.message : Problem → String
  | .unexpected t none => t.called ++ " unexpected"
  | .unexpected t (some e) =>
    t.called ++ " unexpected (expecting " ++ (if e = "word" then e else "\"" ++ e ++ "\"") ++ ")"
  | .unclosed opening _ =>
    match opening with
    | ['\x7b'] => "Missing '\x7d'"
    | ['(', '('] => "Missing '))'"
    | ['\x60'] => "EOF in backquote substitution"
    | _ => "Unterminated quoted string"
  | .unclosedCommands => Token.endOfText.called ++ " unexpected (expecting \")\")"
  | .condition message => message.getD ""
  | .other message => message

/-- The character that closes what an opening one begins. -/
def closing : Octets → String
  | ['\x7b'] => "\x7d"
  | ['('] => ")"
  | ['(', '('] => ")"
  | ['['] => "]"
  | opening => Octets.text opening

/-- The lines of a complaint about a script in the wide dialect, without
what stands in front of each. -/
def Misfit.wideMessages (script : Octets) (m : Misfit) : List String :=
  let line := ((Octets.splitOn '\n' script)[m.line - 1]?).getD []
  match m.problem with
  | .unexpected .endOfText _ => ["syntax error: unexpected end of file"]
  | .unexpected t _ =>
    ["syntax error near unexpected token \x60" ++ t.spelling ++ "'", "\x60" ++ Octets.text line ++ "'"]
  | .condition message => message.toList
  | .unclosed opening _ => ["unexpected EOF while looking for matching \x60" ++ closing opening ++ "'"]
  | .unclosedCommands => ["unexpected EOF while looking for matching \x60)'"]
  | .other message => [message]

/-- The line that a complaint in the wide dialect names: the end of the
script lies on the line after the last one. -/
def Misfit.wideLine (script : Octets) (m : Misfit) : Nat :=
  match m.problem with
  | .unclosed _ (some line) => line
  | .unexpected .endOfText _ | .unclosedCommands =>
    let lines := script.count '\n'
    if script.getLast? = some '\n' then lines + 1 else lines + 2
  | _ => m.line

end Script

end Shell

end Tangle
