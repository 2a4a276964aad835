import DisplaySession.ProcessIds
import DisplaySession.SystemError

/-
What stood in the way of an operation: an error number of the system, or a finding of this program.

The system's numbers have fixed texts. A finding has only its text.
-/
set_option autoImplicit false

namespace DisplaySession

/-- **The reason why an operation did not happen.** -/
inductive Cause
  /-- The system refused, with this error number. -/
  | number (n : Int)
  /-- A reason given in words. -/
  | worded (text : String)
  /-- A file that has to be text is not. -/
  | notText
  /-- A path holds a zero byte, which no system call can be told. -/
  | nulInPath
  /-- An argument of a program holds a zero byte, which no program can be told. -/
  | nulInArgument
  /-- Something else stands where a directory has to be. -/
  | notDirectory
  /-- The ids read back are not the ids asked for. -/
  | wrongIds (actual expected : ProcessIds)
  deriving DecidableEq

namespace Cause

/-! ## The system's numbers -/

/-- Only a privileged process may do this. -/
def notPermitted : Cause := .number 1
/-- Nothing has this name. -/
def noEntry : Cause := .number 2
/-- The permissions of the file forbid it. -/
def accessDenied : Cause := .number 13
/-- The name is taken. -/
def nameTaken : Cause := .number 17
/-- A name inside the path is no directory. -/
def noDirectory : Cause := .number 20
/-- A directory cannot be read as a file. -/
def isDirectory : Cause := .number 21
/-- An argument makes no sense. -/
def invalidArgument : Cause := .number 22
/-- A name or the path has too many bytes. -/
def nameTooLong : Cause := .number 36
/-- Too many links on the way. -/
def tooManyLinks : Cause := .number 40

/-- **The text of a cause.** -/
def shown : Cause → String
  | .number n => SystemError.text n ++ " (os error " ++ toString n ++ ")"
  | .worded text => text
  | .notText => "stream did not contain valid UTF-8"
  | .nulInPath => "file name contained an unexpected NUL byte"
  | .nulInArgument => "nul byte found in provided data"
  | .notDirectory => "exists and is not a directory"
  | .wrongIds actual expected =>
    "running as " ++ actual.shown ++ " after transition, expected " ++ expected.shown

end Cause

end DisplaySession
