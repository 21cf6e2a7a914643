/-!
# Faults of the operating system

The ways in which a file or process operation can fail, each with its
text (`Fault.message`).
-/

namespace Tangle

/-- Why a file or process operation failed. -/
inductive Fault where
  /-- No entry has the path. -/
  | notFound
  /-- The operation is not permitted on the entry. -/
  | permissionDenied
  /-- The entry is there already. -/
  | alreadyExists
  /-- A component that must be a directory is none. -/
  | notADirectory
  /-- The entry is a directory. -/
  | isADirectory
  /-- A name in the path, or the path, is too long. -/
  | nameTooLong
  /-- Links lead on and on. -/
  | tooManyLinks
  /-- The file holds no program. -/
  | notExecutable
  /-- The argument list is too long. -/
  | argumentsTooLong
  /-- The device is full. -/
  | deviceFull
  /-- The operation makes no sense on the entry. -/
  | invalidArgument
  /-- The content is not well-formed text. -/
  | notText
  /-- The path holds a NUL. -/
  | nulInPath
  /-- An argument of the process holds a NUL. -/
  | nulInArgument
  /-- No stream is open there, or not for this. -/
  | badDescriptor
  /-- The directory holds entries. -/
  | notEmpty
  /-- Nobody may do this. -/
  | notPermitted
  /-- The entry is in use. -/
  | busy
  /-- Reported from elsewhere. -/
  | reported (text : String)
deriving Repr, DecidableEq

namespace Fault

/-- The text of a numbered fault. -/
def numbered (text : String) (code : Nat) : String :=
  text ++ " (os error " ++ toString code ++ ")"

/-- The text of a fault. -/
def message : Fault → String
  | notFound => numbered "No such file or directory" 2
  | permissionDenied => numbered "Permission denied" 13
  | alreadyExists => numbered "File exists" 17
  | notADirectory => numbered "Not a directory" 20
  | isADirectory => numbered "Is a directory" 21
  | nameTooLong => numbered "File name too long" 36
  | tooManyLinks => numbered "Too many levels of symbolic links" 40
  | notExecutable => numbered "Exec format error" 8
  | argumentsTooLong => numbered "Argument list too long" 7
  | deviceFull => numbered "No space left on device" 28
  | invalidArgument => numbered "Invalid argument" 22
  | notText => "stream did not contain valid UTF-8"
  | nulInPath => "file name contained an unexpected NUL byte"
  | nulInArgument => "nul byte found in provided data"
  | badDescriptor => numbered "Bad file descriptor" 9
  | notEmpty => numbered "Directory not empty" 39
  | notPermitted => numbered "Operation not permitted" 1
  | busy => numbered "Device or resource busy" 16
  | reported text => text

end Fault

end Tangle
