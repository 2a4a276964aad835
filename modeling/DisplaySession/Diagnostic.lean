import DisplaySession.Failure

/-
What a run reports while it goes on.

A diagnostic is what is reported and not the line that is printed: each constructor keeps the
values, and its level and wording are in one place below. Readers of a run can therefore ask which
stages it reported without taking texts apart.
-/
set_option autoImplicit false

namespace DisplaySession

/-! ## Levels -/

/-- **How serious a message is**, from the least to the most. -/
inductive Level
  | trace
  | debug
  | info
  | warn
  | error
  deriving DecidableEq

namespace Level

/-- The place of a level in the order. -/
def rank : Level → Nat
  | .trace => 0
  | .debug => 1
  | .info => 2
  | .warn => 3
  | .error => 4

/-- The more serious of two levels. -/
def max (a b : Level) : Level :=
  if a.rank < b.rank then b else a

/-- The most serious level of some messages. -/
def highest? : List Level → Option Level
  | [] => none
  | l :: ls =>
    match highest? ls with
    | none => some l
    | some m => some (l.max m)

/-- A level's name in lower case. -/
def name : Level → String
  | .trace => "trace"
  | .debug => "debug"
  | .info => "info"
  | .warn => "warn"
  | .error => "error"

/-- A level's name in log lines. -/
def label : Level → String
  | .trace => "TRACE"
  | .debug => "DEBUG"
  | .info => "INFO"
  | .warn => "WARN"
  | .error => "ERROR"

/-- Every level, from the least serious on. -/
def all : List Level :=
  [.trace, .debug, .info, .warn, .error]

end Level

/-- **A message**: a level and a text. -/
structure Message where
  /-- How serious it is. -/
  level : Level
  /-- What it says. -/
  text : String
  deriving DecidableEq

/-! ## Stages of a run -/

/-- **A stage of a run.** Each but the first is reported when what it names has happened. -/
inductive Stage
  | start
  | identityResolved
  | handoffOwnershipTransferred
  | privilegeDropped
  | environmentPrepared
  | sessionChecked
  | displayLaunched
  | displaySkipped
  | streamingServerLaunched
  | done
  deriving DecidableEq

/-- The name of a stage. -/
def Stage.name : Stage → String
  | .start => "Start"
  | .identityResolved => "IdentityResolved"
  | .handoffOwnershipTransferred => "HandoffOwnershipTransferred"
  | .privilegeDropped => "PrivilegeDropped"
  | .environmentPrepared => "EnvironmentPrepared"
  | .sessionChecked => "SessionChecked"
  | .displayLaunched => "DisplayLaunched"
  | .displaySkipped => "DisplaySkipped"
  | .streamingServerLaunched => "StreamingServerLaunched"
  | .done => "Done"

/-! ## Diagnostics -/

/-- **What is reported.** -/
inductive Diagnostic
  /-- A group record was passed over. -/
  | groupSkipped (fault : LookupFault)
  /-- The record tool answered with the record of another account. -/
  | otherAccount (name : String)
  /-- The identity that a run is for. -/
  | identityFound (name : String) (uid gid : UInt32) (groups : List UInt32)
  /-- A stage was reached. -/
  | stage (stage : Stage)
  /-- The handoff is about to be given to a user. -/
  | handing (handoff : Path) (name : String)
  /-- The drop is complete. -/
  | runningAs (uid : UInt32)
  /-- The process table has a display, as these processes. -/
  | displayFound (pids : List UInt32)
  /-- The process table could not be asked; no display is assumed. -/
  | queryFailed (reason : String)
  /-- A display runs already. -/
  | displayKept (display : String)
  /-- A display is about to be started. -/
  | startingDisplay (display : String)
  /-- The scratch directory belongs to another user. -/
  | foreignOwner (path : Path) (owner expected : UInt32)
  /-- The screen file was there at this look. -/
  | screenAppeared (path : Path) (looks : Nat)
  /-- The screen file was not there at any of so many looks. -/
  | screenMissing (path : Path) (looks : Nat)
  /-- The video server is about to be started. -/
  | startingServer (handoff : Path)
  /-- The session is complete; its display was started or was there. -/
  | sessionReady (name display : String) (started : Bool)
  /-- A program is about to be detached. -/
  | detaching (arguments : List String)
  /-- A program was handed off. -/
  | handedOff (program : String)
  /-- The process that was to start a program ended with another status than it should. -/
  | endedAbnormally (program : String) (status : UInt32)
  deriving DecidableEq

namespace Diagnostic

/-- **How serious a report is.** -/
def level : Diagnostic → Level
  | .identityFound .. => .info
  | .displayKept _ => .info
  | .startingDisplay _ => .info
  | .startingServer _ => .info
  | .sessionReady .. => .info
  | .queryFailed _ => .warn
  | .foreignOwner .. => .warn
  | .screenMissing .. => .warn
  | .endedAbnormally .. => .warn
  | _ => .debug

/-- **The wording of a report.** -/
def text : Diagnostic → String
  | .groupSkipped fault => "skipping group record: " ++ (Failure.identityLookup fault).shown
  | .otherAccount name => "getent passwd " ++ name ++ " matched a different account, ignoring"
  | .identityFound name uid gid groups =>
    "user " ++ name ++ ": uid " ++ uid.toNat.repr ++ " gid " ++ gid.toNat.repr ++ " groups " ++
      Text.numberList groups
  | .stage s => "stage: " ++ s.name
  | .handing handoff name => "handing " ++ handoff.shown ++ " to " ++ name
  | .runningAs uid => "now running as uid " ++ uid.toNat.repr
  | .displayFound pids => "display session running (pids " ++ Text.numberList pids ++ ")"
  | .queryFailed reason =>
    "session query failed (" ++ reason ++ "), assuming no display is running"
  | .displayKept display => "display " ++ display ++ " already running, not starting another"
  | .startingDisplay display => "starting display " ++ display
  | .foreignOwner path owner expected =>
    path.shown ++ " is owned by uid " ++ owner.toNat.repr ++ ", not " ++ expected.toNat.repr ++
      "; using it anyway"
  | .screenAppeared path looks => path.shown ++ " appeared after " ++ looks.repr ++ " checks"
  | .screenMissing path looks =>
    path.shown ++ " did not appear after " ++ looks.repr ++ " checks, continuing anyway"
  | .startingServer handoff => "starting video server on " ++ handoff.shown
  | .sessionReady name display started =>
    "session for " ++ name ++ " ready (display " ++ display ++ ", " ++
      (if started then "started" else "already running") ++ ")"
  | .detaching arguments => "detaching " ++ Text.quotedList arguments
  | .handedOff program => program ++ " handed off"
  | .endedAbnormally program status =>
    "intermediate for " ++ program ++ " ended abnormally (wait status 0x" ++
      String.ofList (Nat.toDigits 16 status.toNat) ++ "); " ++ program ++ " may not be running"

/-- A report as a message. -/
def message (d : Diagnostic) : Message :=
  ⟨d.level, d.text⟩

end Diagnostic

end DisplaySession
