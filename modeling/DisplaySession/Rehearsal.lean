import DisplaySession.Bootstrap
import DisplaySession.ScriptedTool

/-
Rehearsals: a host whose answers are laid down beforehand.

A rehearsal follows rules that say which call fails and which ids do not move. It keeps the ids of
the process, the displays that run, and files. It serves to watch a run without privileges, and to
show what a run does when something goes wrong.

Launching a child with a framebuffer directory starts the display that its environment names, and
the process table of the rehearsal knows it from then on. What is made in the files belongs to the
superuser, whoever the rehearsed process has become.
-/
set_option autoImplicit false

namespace DisplaySession

/-- **What goes wrong in a rehearsal.** -/
structure Rules where
  /-- The name of the call that fails. -/
  failingCall : Option String := none
  /-- The program that cannot be launched. -/
  failingProgram : Option String := none
  /-- Why they fail. -/
  cause : Cause := .notPermitted
  /-- The value that the real user id takes, whatever is asked. -/
  stuckUid : Option UInt32 := none
  /-- The value that the effective user id takes. -/
  stuckEuid : Option UInt32 := none
  /-- The value that the real group id takes. -/
  stuckGid : Option UInt32 := none
  /-- The value that the effective group id takes. -/
  stuckEgid : Option UInt32 := none
  /-- Why the process table cannot be read. -/
  failingProbe : Option String := none
  /-- Does a display write its screen file? -/
  writesScreen : Bool := false

/-- **The state of a rehearsal.** -/
structure Rehearsal where
  rules : Rules
  ids : ProcessIds
  /-- The user ids whose displays run. -/
  running : List UInt32
  files : FileSystem

namespace Rehearsal

/-- A rehearsal that begins: a process of the superuser, and no display. -/
def start (rules : Rules) (files : FileSystem) : Rehearsal :=
  ⟨rules, .superuser, [], files⟩

/-- The number of the process that starts every display. -/
def starterPid : UInt32 := 4242

/-- The ids after a call that succeeded. -/
def idsAfter (rules : Rules) (ids : ProcessIds) : PrivilegedCall → ProcessIds
  | .setGid gid => ⟨ids.uid, ids.euid, rules.stuckGid.getD gid, rules.stuckEgid.getD gid⟩
  | .setUid uid => ⟨rules.stuckUid.getD uid, rules.stuckEuid.getD uid, ids.gid, ids.egid⟩
  | _ => ids

/-- **A privileged call**: it fails if the rules say so, and moves the ids otherwise. -/
def perform (call : PrivilegedCall) (s : Rehearsal) : Except Cause Unit × Rehearsal :=
  if s.rules.failingCall = some call.name then (.error s.rules.cause, s)
  else (.ok (), { s with ids := idsAfter s.rules s.ids call })

/-- **The rehearsed process table.** -/
def probe (uid : UInt32) (s : Rehearsal) : Probe :=
  match s.rules.failingProbe with
  | some reason => .failed reason
  | none => if uid ∈ s.running then .present [starterPid, uid] else .absent

/-- The argument that follows a flag. -/
def argumentAfter (flag : String) (arguments : List String) : Option String :=
  ((arguments.dropWhile (· ≠ flag)).drop 1).head?

/-- The user id in the name of a display. -/
def uidOfDisplay? (display : String) : Option UInt32 :=
  match display.toList with
  | ':' :: digits => Text.uint32? digits
  | _ => none

/-- The files after a display has written its screen file, if it could. -/
def withScreen (scratch : String) (files : FileSystem) : FileSystem :=
  (FileSystem.attempt (fun files =>
    files.write [] FileSystem.superuserId ((Path.ofString scratch).join screenName) []) files).2

/-- What a display does when it starts. -/
def startDisplay (spec : ChildSpec) (scratch : String) (s : Rehearsal) : Rehearsal :=
  { s with
    running := ((spec.environment.get? "DISPLAY").bind uidOfDisplay?).toList ++ s.running
    files := if s.rules.writesScreen then withScreen scratch s.files else s.files }

/-- **A rehearsed launch.** -/
def detach (spec : ChildSpec) (s : Rehearsal) : Except Failure Unit × Rehearsal :=
  if s.rules.failingProgram = some spec.program then
    (.error (.launch spec.program s.rules.cause), s)
  else
    match argumentAfter "-fbdir" spec.arguments with
    | none => (.ok (), s)
    | some scratch => (.ok (), startDisplay spec scratch s)

/-- **A rehearsal as a host.** -/
def host : Host Rehearsal where
  createDirectory path s :=
    let (outcome, files) :=
      (FileSystem.storage [] FileSystem.superuserId).createDirectory path s.files
    (outcome, { s with files })
  metadata path s := (FileSystem.storage [] FileSystem.superuserId).metadata path s.files
  perform := perform
  ids s := s.ids
  fileUser _ := FileSystem.superuserId
  probe uid s := ((probe uid s, []), s)
  isPresent path _ s := s.files.isPresent [] path
  detach spec s :=
    let (outcome, s') := detach spec s
    ((outcome, []), s')

/-- A rehearsal whose process table is asked through the tool that the settings name. -/
def hostWithTool (installed : List InstalledTool) (settings : SessionSettings) : Host Rehearsal :=
  { host with
    probe := fun uid s =>
      (Probe.ask settings.pgrepPath
        (toolAt installed s.files [] SearchPath.standard settings.pgrepPath)
        settings.processName uid, s) }

end Rehearsal

end DisplaySession
