import DisplaySession.Config.Basic
import DisplaySession.Decimal.Shortest
import DisplaySession.Toml.Value

/-
The settings in a table.

A section is a table of settings by key, or a list of settings in the order of the keys. Every
setting that is missing has its default, and what is no setting is passed over. Where text is
expected, a number or a boolean stands for its text. The readiness is stricter: it needs its mode,
its numbers have to be numbers, and a list of it may not be too long.
-/
set_option autoImplicit false

namespace DisplaySession

namespace Config

open Toml (Value Table lookUp)

/-- **The text of a value**, if it has one. -/
def textOf? : Value → Option String
  | .text s => some s
  | .integer n => some (toString n)
  | .float x => some x.shown
  | .boolean b => some (if b then "true" else "false")
  | .array _ => none
  | .table _ => none

/-- A text setting. -/
def textAt (table : Table) (key standard : String) : Except ConfigFault String :=
  match lookUp key table with
  | none => .ok standard
  | some v =>
    match textOf? v with
    | some s => .ok s
    | none => .error (.unsuitable key)

/-- A path setting. -/
def pathAt (table : Table) (key : String) (standard : Path) : Except ConfigFault Path :=
  match lookUp key table with
  | none => .ok standard
  | some v =>
    match textOf? v with
    | some s => .ok (.ofString s)
    | none => .error (.unsuitable key)

/-- A number setting below a bound. -/
def numberAt (table : Table) (key : String) (bound standard : Nat) : Except ConfigFault Nat :=
  match lookUp key table with
  | none => .ok standard
  | some (.integer n) =>
    if 0 ≤ n ∧ n < bound then .ok n.toNat else .error (.unsuitable key)
  | some _ => .error (.unsuitable key)

/-- **A section by key.** A list is read as the settings of the keys in their order. -/
def sectionAt (root : Table) (name : String) (keys : List String) : Except ConfigFault Table :=
  match lookUp name root with
  | none => .ok []
  | some (.table entries) => .ok entries
  | some (.array items) => .ok (keys.zip items)
  | some _ => .error (.unsuitable name)

/-- The record source of a name. -/
def sourceOf (name : String) : Except ConfigFault RecordSource :=
  if name = "getent" then .ok .getent
  else if name = "files" then .ok .files
  else .error (.unsuitable "source")

/-- The record source: its name, or a table with nothing but its name. -/
def sourceAt (table : Table) : Except ConfigFault RecordSource :=
  match lookUp "source" table with
  | none => .ok standard.identity.source
  | some (.text name) => sourceOf name
  | some (.table [(name, _)]) => sourceOf name
  | some _ => .error (.unsuitable "source")

/-- The settings of the identity database. -/
def decodeIdentity (root : Table) : Except ConfigFault IdentitySettings := do
  let table ← sectionAt root "identity" ["source", "getent_path", "passwd_path", "group_path"]
  return ⟨← sourceAt table,
    ← pathAt table "getent_path" standard.identity.getentPath,
    ← pathAt table "passwd_path" standard.identity.passwdPath,
    ← pathAt table "group_path" standard.identity.groupPath⟩

/-- The settings of the session check. -/
def decodeSession (root : Table) : Except ConfigFault SessionSettings := do
  let table ← sectionAt root "session" ["scratch_root", "pgrep_path", "process_name"]
  return ⟨← pathAt table "scratch_root" standard.session.scratchRoot,
    ← pathAt table "pgrep_path" standard.session.pgrepPath,
    ← textAt table "process_name" standard.session.processName⟩

/-- The settings of the display. -/
def decodeDisplay (root : Table) : Except ConfigFault DisplaySettings := do
  let table ← sectionAt root "display" ["xinit_path", "session_script", "xvfb_path", "geometry"]
  return ⟨← pathAt table "xinit_path" standard.display.xinitPath,
    ← pathAt table "session_script" standard.display.sessionScript,
    ← pathAt table "xvfb_path" standard.display.xvfbPath,
    ← textAt table "geometry" standard.display.geometry⟩

/-- The settings of the video server. -/
def decodeServer (root : Table) : Except ConfigFault ServerSettings := do
  let table ← sectionAt root "server" ["binary", "config_path", "encoder"]
  return ⟨← pathAt table "binary" standard.server.binary,
    ← pathAt table "config_path" standard.server.configPath,
    ← textAt table "encoder" standard.server.encoder⟩

/-- The log variable. -/
def decodeChildEnv (root : Table) : Except ConfigFault ChildEnvSettings := do
  let table ← sectionAt root "child_env" ["log_var", "log_level"]
  return ⟨← textAt table "log_var" standard.childEnv.logVar,
    ← textAt table "log_level" standard.childEnv.logLevel⟩

/-- The numbers of a fixed wait. -/
def fixedKeys : List String := ["settle_ms"]

/-- The numbers of polling. -/
def pollKeys : List String := ["interval_ms", "attempts"]

/-- A fixed wait. -/
def decodeFixed (table : Table) : Except ConfigFault Readiness := do
  let settle ← numberAt table "settle_ms" UInt64.size Readiness.defaultSettle.toNat
  return .fixed (UInt64.ofNat settle)

/-- Polling. -/
def decodePoll (table : Table) : Except ConfigFault Readiness := do
  let interval ← numberAt table "interval_ms" UInt64.size Readiness.defaultInterval.toNat
  let attempts ← numberAt table "attempts" UInt32.size Readiness.defaultAttempts.toNat
  return .poll (UInt64.ofNat interval) (UInt32.ofNat attempts)

/-- The numbers of a mode, which are listed in the order of their keys. -/
def listedNumbers (keys : List String) (items : List Value) : Except ConfigFault Table :=
  if items.length ≤ keys.length then .ok (keys.zip items) else .error (.unsuitable "readiness")

/-- **The readiness.** The keys of the other mode say nothing. -/
def decodeReadiness (root : Table) : Except ConfigFault Readiness :=
  match lookUp "readiness" root with
  | none => .ok standard.readiness
  | some (.table table) =>
    match lookUp "mode" table with
    | some (.text mode) =>
      if mode = "fixed" then decodeFixed table
      else if mode = "poll" then decodePoll table
      else .error (.unsuitable "mode")
    | _ => .error (.unsuitable "mode")
  | some (.array (.text mode :: items)) =>
    if mode = "fixed" then listedNumbers fixedKeys items >>= decodeFixed
    else if mode = "poll" then listedNumbers pollKeys items >>= decodePoll
    else .error (.unsuitable "mode")
  | some _ => .error (.unsuitable "readiness")

/-- **The settings in a table.** -/
def decode (root : Table) : Except ConfigFault Config := do
  return ⟨← decodeIdentity root, ← decodeSession root, ← decodeDisplay root, ← decodeServer root,
    ← decodeChildEnv root, ← decodeReadiness root⟩

end Config

end DisplaySession
