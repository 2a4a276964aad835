import DisplaySession.Path
import DisplaySession.Text.Blank
import DisplaySession.Failure

/-
The settings, their defaults, and the check that refuses those that would fail only later, when the
privileges are gone.
-/
set_option autoImplicit false

namespace DisplaySession

/-- Where user and group records come from (`IdentitySource`). -/
inductive RecordSource
  /-- The record tool. -/
  | getent
  /-- Two files. -/
  | files
  deriving DecidableEq

/-- The settings of the identity database (`IdentityConfig`). -/
structure IdentitySettings where
  source : RecordSource := .getent
  /-- The record tool. -/
  getentPath : Path := .ofString "getent"
  /-- The file of user records. -/
  passwdPath : Path := .ofString "/etc/passwd"
  /-- The file of group records. -/
  groupPath : Path := .ofString "/etc/group"
  deriving DecidableEq

/-- The settings of the session check (`SessionConfig`). -/
structure SessionSettings where
  /-- The directory that holds the scratch directories. -/
  scratchRoot : Path := .ofString "/var/tmp"
  /-- The process table tool. -/
  pgrepPath : Path := .ofString "pgrep"
  /-- The name by which a running display is known. -/
  processName : String := "xinit"
  deriving DecidableEq

/-- The settings of the display (`DisplayConfig`). -/
structure DisplaySettings where
  xinitPath : Path := .ofString "/usr/bin/xinit"
  /-- The script that runs inside the new display. -/
  sessionScript : Path := .ofString "/usr/local/bin/run_x_env.sh"
  xvfbPath : Path := .ofString "/usr/bin/Xvfb"
  /-- The size and depth of the screen. -/
  geometry : String := "4096x4096x24"
  deriving DecidableEq

/-- The settings of the video server (`ServerConfig`). -/
structure ServerSettings where
  binary : Path := .ofString "/usr/bin/sanzu_server"
  configPath : Path := .ofString "/etc/sanzu.toml"
  encoder : String := "libx264"
  deriving DecidableEq

/-- The variable that tells every child how much to log (`ChildEnvConfig`). -/
structure ChildEnvSettings where
  logVar : String := "RUST_LOG"
  logLevel : String := "info"
  deriving DecidableEq

/-- **How long to wait** (`Readiness`) between launching the display and launching the server. -/
inductive Readiness
  /-- A fixed time in milliseconds. -/
  | fixed (settle : UInt64)
  /-- Until the screen file is there, with a pause in milliseconds after each look that does not
  find it, and at most so many looks. -/
  | poll (interval : UInt64) (attempts : UInt32)
  deriving DecidableEq

namespace Readiness

/-- The wait when nothing is said. -/
def defaultSettle : UInt64 := 500

/-- The pause between looks when nothing is said. -/
def defaultInterval : UInt64 := 100

/-- The number of looks when nothing is said. -/
def defaultAttempts : UInt32 := 50

/-- A fixed wait of so many microseconds, in whole milliseconds. -/
def ofMicroseconds (n : Nat) : Readiness :=
  .fixed (UInt64.ofNat (n / 1000))

end Readiness

/-- **The settings** (`BootstrapConfig`). -/
structure Config where
  identity : IdentitySettings := {}
  session : SessionSettings := {}
  display : DisplaySettings := {}
  server : ServerSettings := {}
  childEnv : ChildEnvSettings := {}
  readiness : Readiness := .fixed Readiness.defaultSettle
  deriving DecidableEq

namespace Config

/-- The settings when nothing is said. -/
def standard : Config := {}

/-- A path has to start at the root. -/
def checkAbsolute (key : String) (path : Path) : Except ConfigFault Unit :=
  if path.isAbsolute then .ok () else .error (.relativePath key path)

/-- A text may not be blank. -/
def checkNotBlank (key text : String) : Except ConfigFault Unit :=
  if Text.isBlankText text.toList then .error (.blank key) else .ok ()

/-- The log variable needs a name that is one. -/
def checkLogVariable (name : String) : Except ConfigFault Unit :=
  if name = "" ∨ '=' ∈ name.toList then .error (.badLogVariable name) else .ok ()

/-- Polling needs a pause and at least one look. -/
def checkReadiness : Readiness → Except ConfigFault Unit
  | .fixed _ => .ok ()
  | .poll interval attempts =>
    if interval = 0 ∨ attempts = 0 then .error .emptyPolling else .ok ()

/-- **The check of the settings** (`validate`). The first fault in this order is the one that is
reported. -/
def check (config : Config) : Except ConfigFault Unit := do
  checkAbsolute "display.xinit_path" config.display.xinitPath
  checkAbsolute "server.binary" config.server.binary
  checkNotBlank "session.process_name" config.session.processName
  checkNotBlank "display.geometry" config.display.geometry
  checkLogVariable config.childEnv.logVar
  checkReadiness config.readiness

end Config

end DisplaySession
