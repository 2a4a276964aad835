import DisplaySession.Text.Quoted
import DisplaySession.Path
import DisplaySession.Tool

/-
Everything that can end a run before it is done.

A failure is a cause and not a text: each constructor keeps what was found, and the wording is in
one place below. Some failures rest on a cause of the system, which is reported beside the failure
and not inside its text.

A process table that cannot be read is no failure. The probe reports it as an answer.
-/
set_option autoImplicit false

namespace DisplaySession

/-! ## Kinds of fault -/

/-- **A fault of the identity database.** -/
inductive LookupFault
  /-- A user record with too few fields. -/
  | malformedUser (line : String)
  /-- A group record with too few fields. -/
  | malformedGroup (line : String)
  /-- A record whose field of this name is no id. -/
  | badId (field line : String)
  /-- The tool reported a user and printed no record. -/
  | emptyRecord (name : String)
  /-- A database file that cannot be read as text. -/
  | unreadable (path : Path) (cause : Cause)
  /-- The tool cannot be started. -/
  | toolUnavailable (program : Path) (arguments : List String) (cause : Cause)
  /-- The tool ended in a way that is no answer. -/
  | toolFailed (program : Path) (arguments : List String) (ending : Tool.Ending) (errors : String)
  /-- A fault that another database gives in words. -/
  | worded (text : String)
  deriving DecidableEq

/-- **A step of the drop** (`PrivilegeStep`). -/
inductive DropStep
  | setGroups
  | setGid
  | setUid
  | changeDirectory
  /-- Reading the ids back. -/
  | verify
  deriving DecidableEq

/-- **A defect of a command**: the reason why no program can be given it. -/
inductive CommandDefect
  /-- There is no program name. -/
  | noArguments
  /-- An argument or a variable of this program holds a zero byte, at this byte. -/
  | zeroByte (program : String) (position : Nat)
  /-- A variable with an empty name, or a name with an equals sign. -/
  | badVariableName (name : String)
  /-- A defect given in words. -/
  | worded (text : String)
  deriving DecidableEq

/-- **A fault of the configuration.** -/
inductive ConfigFault
  /-- A path that has to start at the root does not. -/
  | relativePath (key : String) (path : Path)
  /-- A text that may not be blank is. -/
  | blank (key : String)
  /-- The name of the log variable is none. -/
  | badLogVariable (name : String)
  /-- Polling without a pause or without a look. -/
  | emptyPolling
  /-- A variable is not text. -/
  | notText
  /-- The file is no document. -/
  | malformed
  /-- A setting has a value of the wrong kind, or a number out of range. -/
  | unsuitable (key : String)
  /-- A setting that a document cannot hold. -/
  | unwritable (key : String)
  /-- A fault given in words. -/
  | worded (text : String)
  deriving DecidableEq

/-- **A failure** (`BootstrapError`): the reason why a run ended early. -/
inductive Failure
  /-- The name cannot stand in a user record. -/
  | invalidUsername (name : String)
  /-- The database has no user of this name. -/
  | userNotFound (name : String)
  /-- The database could not answer. -/
  | identityLookup (fault : LookupFault)
  /-- The handoff could not be given away. -/
  | ownershipTransfer (path : Path) (uid gid : UInt32) (cause : Cause)
  /-- The drop stopped at this step. Earlier steps may have happened and cannot be taken back. -/
  | privilegeDrop (step : DropStep) (cause : Cause)
  /-- The scratch directory cannot be used. -/
  | scratchDirectory (path : Path) (cause : Cause)
  /-- The command cannot be given to a program. -/
  | invalidCommand (defect : CommandDefect)
  /-- The program could not be launched. -/
  | launch (program : String) (cause : Cause)
  /-- The configuration cannot be used. -/
  | configuration (fault : ConfigFault)
  deriving DecidableEq

/-! ## Wording -/

/-- The text of a fault of the database. -/
def LookupFault.shown : LookupFault → String
  | .malformedUser line => "malformed passwd record: " ++ Text.quoted line
  | .malformedGroup line => "malformed group record: " ++ Text.quoted line
  | .badId field line => "bad " ++ field ++ " in record " ++ Text.quoted line
  | .emptyRecord name => "empty passwd record for " ++ name
  | .unreadable path cause => "reading " ++ path.shown ++ ": " ++ cause.shown
  | .toolUnavailable program arguments cause =>
    "running " ++ program.shown ++ " " ++ Text.quotedList arguments ++ ": " ++ cause.shown
  | .toolFailed program arguments ending errors =>
    program.shown ++ " " ++ Text.quotedList arguments ++ " failed (" ++ ending.shown ++ "): " ++
      errors
  | .worded text => text

/-- The name of a step. -/
def DropStep.shown : DropStep → String
  | .setGroups => "setgroups"
  | .setGid => "setgid"
  | .setUid => "setuid"
  | .changeDirectory => "chdir"
  | .verify => "verify"

/-- The text of a defect. -/
def CommandDefect.shown : CommandDefect → String
  | .noArguments => "empty argument vector"
  | .zeroByte program position =>
    program ++ ": interior NUL byte at " ++ position.repr
  | .badVariableName name => "invalid environment variable name " ++ Text.quoted name
  | .worded text => text

/-- The text of a fault of the configuration. -/
def ConfigFault.shown : ConfigFault → String
  | .relativePath key path => key ++ " must be an absolute path, got " ++ path.shown
  | .blank key => key ++ " must not be empty"
  | .badLogVariable name =>
    "child_env.log_var " ++ Text.quoted name ++ " is not a valid variable name"
  | .emptyPolling => "readiness poll needs a non-zero interval_ms and attempts"
  | .notText => "not valid UTF-8"
  | .malformed => "not a valid document"
  | .unsuitable key => "unsuitable value for " ++ key
  | .unwritable key => "no written form for the value of " ++ key
  | .worded text => text

namespace Failure

/-- **The text of a failure**, without the cause it rests on. -/
def shown : Failure → String
  | .invalidUsername name => "invalid username " ++ Text.quoted name
  | .userNotFound name => "user not found: " ++ name
  | .identityLookup fault => "identity lookup failed: " ++ fault.shown
  | .ownershipTransfer path uid gid _ =>
    "failed to transfer ownership of " ++ path.shown ++ " to " ++ uid.toNat.repr ++ ":" ++
      gid.toNat.repr
  | .privilegeDrop step _ => "privilege drop failed at " ++ step.shown
  | .scratchDirectory path _ => "scratch directory " ++ path.shown ++ " unusable"
  | .invalidCommand defect => "invalid command: " ++ defect.shown
  | .launch program _ => "failed to launch " ++ program
  | .configuration fault => "configuration error: " ++ fault.shown

/-- **The cause a failure rests on**, for the kinds that have one. -/
def cause? : Failure → Option Cause
  | .ownershipTransfer _ _ _ cause => some cause
  | .privilegeDrop _ cause => some cause
  | .scratchDirectory _ cause => some cause
  | .launch _ cause => some cause
  | _ => none

/-- The texts of a failure and its cause, outermost first. -/
def chain (failure : Failure) : List String :=
  failure.shown :: (failure.cause?.map Cause.shown).toList

end Failure

end DisplaySession
