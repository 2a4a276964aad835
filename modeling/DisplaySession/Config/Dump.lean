import DisplaySession.Config.Basic
import DisplaySession.Text.Numeral
import DisplaySession.Toml.Writer

/-
The settings as a document.

A document holds text and signed numbers of 64 bits, so a path that is no text and a number beyond
them have no written form.
-/
set_option autoImplicit false

namespace DisplaySession

namespace Config

open Toml

/-- A text setting. -/
def textSetting (key text : String) : Except ConfigFault (String × Setting) :=
  .ok (key, .text text)

/-- A path setting. -/
def pathSetting (key : String) (path : Path) : Except ConfigFault (String × Setting) :=
  match path.text? with
  | some text => .ok (key, .text text)
  | none => .error (.unwritable key)

/-- A number setting. -/
def numberSetting (key : String) (n : Nat) : Except ConfigFault (String × Setting) :=
  if n < Text.signedLimit then .ok (key, .number n) else .error (.unwritable key)

/-- The name of a record source. -/
def sourceName : RecordSource → String
  | .getent => "getent"
  | .files => "files"

/-- A section of settings that may have no written form. -/
def sectionOf (name : String) (settings : List (Except ConfigFault (String × Setting))) :
    Except ConfigFault Toml.Section := do
  return ⟨name, ← settings.mapM id⟩

/-- The settings of a readiness. -/
def readinessSettings : Readiness → List (Except ConfigFault (String × Setting))
  | .fixed settle => [textSetting "mode" "fixed", numberSetting "settle_ms" settle.toNat]
  | .poll interval attempts =>
    [textSetting "mode" "poll", numberSetting "interval_ms" interval.toNat,
      numberSetting "attempts" attempts.toNat]

/-- **The sections of the settings.** -/
def sections (config : Config) : Except ConfigFault (List Toml.Section) :=
  [sectionOf "identity"
      [textSetting "source" (sourceName config.identity.source),
        pathSetting "getent_path" config.identity.getentPath,
        pathSetting "passwd_path" config.identity.passwdPath,
        pathSetting "group_path" config.identity.groupPath],
    sectionOf "session"
      [pathSetting "scratch_root" config.session.scratchRoot,
        pathSetting "pgrep_path" config.session.pgrepPath,
        textSetting "process_name" config.session.processName],
    sectionOf "display"
      [pathSetting "xinit_path" config.display.xinitPath,
        pathSetting "session_script" config.display.sessionScript,
        pathSetting "xvfb_path" config.display.xvfbPath,
        textSetting "geometry" config.display.geometry],
    sectionOf "server"
      [pathSetting "binary" config.server.binary,
        pathSetting "config_path" config.server.configPath,
        textSetting "encoder" config.server.encoder],
    sectionOf "child_env"
      [textSetting "log_var" config.childEnv.logVar,
        textSetting "log_level" config.childEnv.logLevel],
    sectionOf "readiness" (readinessSettings config.readiness)].mapM id

/-- **The document of the settings** (`to_toml`). -/
def dump (config : Config) : Except ConfigFault String := do
  return String.ofList (writeSections (← config.sections))

end Config

end DisplaySession
