import DisplaySession.Bootstrap
import DisplaySession.Launch.Detach
import DisplaySession.ScriptedTool

/-
A machine as the program finds it: its files, the process it runs in, and the tools that are
there.

The process may or may not have the powers of the superuser. A process that lacks a power is
refused what needs it, also if its user id is the superuser's, and what it may do without the
power it still may do: give a file to the owner it has, and take the ids it has. Becoming another
user gives up all powers.

All files belong to the superuser's group. Programs are launched without anybody looking whether
they are there.
-/
set_option autoImplicit false

namespace DisplaySession

/-- **The powers of a process** whose effective user is the superuser. -/
structure Powers where
  /-- May it give files away? -/
  givesFilesAway : Bool
  /-- May it take other ids? -/
  changesIds : Bool
  deriving DecidableEq

/-- **The state of a machine.** -/
structure Machine where
  files : FileSystem
  /-- The working directory of the process. -/
  directory : Location
  /-- The ids of the process. -/
  ids : ProcessIds
  powers : Powers
  /-- The programs that can be asked. -/
  tools : List InstalledTool
  /-- Where programs are looked for. -/
  search : SearchPath := SearchPath.standard

namespace Machine

/-- An id that no user and no group can have. -/
def noId : UInt32 := FileSystem.unchangedId

/-- The group of every file. -/
def filesGroup : UInt32 := 0

/-- Does the process have a power? -/
def may (machine : Machine) (power : Powers → Bool) : Bool :=
  machine.ids.euid = FileSystem.superuserId && power machine.powers

/-! ## Privileged calls -/

/-- May the process make these the owner and the group of a file with this owner? -/
def mayHandTo (machine : Machine) (current owner group : UInt32) : Bool :=
  let ownsIt := machine.ids.euid = current
  machine.may Powers.givesFilesAway ||
    ((owner = noId || (ownsIt && owner = current)) &&
      (group = noId || (ownsIt && group = filesGroup)))

/-- **Gives a file away.** -/
def changeOwner (machine : Machine) (path : Path) (owner group : UInt32) :
    Except Cause Machine := do
  let (_, _, current) ← machine.files.ownedPlace machine.directory path
  if machine.mayHandTo current owner group then
    return { machine with files := ← machine.files.changeOwner machine.directory true path owner }
  else .error .notPermitted

/-- **Sets the groups.** Nothing of them shows later. -/
def setGroups (machine : Machine) (groups : List UInt32) : Except Cause Machine :=
  if !machine.may Powers.changesIds then .error .notPermitted
  else if noId ∈ groups then .error .invalidArgument
  else .ok machine

/-- **Sets the group ids.** -/
def setGid (machine : Machine) (gid : UInt32) : Except Cause Machine :=
  if gid = noId then .error .invalidArgument
  else if machine.may Powers.changesIds then
    .ok { machine with ids := { machine.ids with gid := gid, egid := gid } }
  else if gid = machine.ids.gid then
    .ok { machine with ids := { machine.ids with egid := gid } }
  else .error .notPermitted

/-- **Sets the user ids.** -/
def setUid (machine : Machine) (uid : UInt32) : Except Cause Machine :=
  if uid = noId then .error .invalidArgument
  else if machine.may Powers.changesIds then
    .ok { machine with ids := { machine.ids with uid := uid, euid := uid } }
  else if uid = machine.ids.uid then
    .ok { machine with ids := { machine.ids with euid := uid } }
  else .error .notPermitted

/-- **Goes to a directory.** -/
def changeDirectory (machine : Machine) (path : Path) : Except Cause Machine := do
  match ← machine.files.locate machine.directory path with
  | .free _ => .error .noEntry
  | .entry place (.directory _) => .ok { machine with directory := place }
  | .entry _ _ => .error .noDirectory

/-- What a privileged call does. -/
def call (machine : Machine) : PrivilegedCall → Except Cause Machine
  | .changeOwner path uid gid => machine.changeOwner path uid gid
  | .setGroups groups => machine.setGroups groups
  | .setGid gid => machine.setGid gid
  | .setUid uid => machine.setUid uid
  | .changeDirectory path => machine.changeDirectory path

/-- A call that is refused changes nothing. -/
def perform (call : PrivilegedCall) (machine : Machine) : Except Cause Unit × Machine :=
  match machine.call call with
  | .ok machine' => (.ok (), machine')
  | .error cause => (.error cause, machine)

/-! ## The machine as a host -/

/-- The tool at a path. -/
def tool (machine : Machine) (program : Path) : Tool :=
  toolAt machine.tools machine.files machine.directory machine.search program

/-- Makes a directory that belongs to the user of the process. -/
def createDirectory (path : Path) (machine : Machine) : Except Cause Unit × Machine :=
  let (outcome, files) :=
    (FileSystem.storage machine.directory machine.ids.euid).createDirectory path machine.files
  (outcome, { machine with files })

/-- **A machine as a host**, with the process table tool that the settings name. -/
def host (settings : SessionSettings) : Host Machine where
  createDirectory := createDirectory
  metadata path machine := machine.files.metadata machine.directory path
  perform := perform
  ids machine := machine.ids
  fileUser machine := machine.ids.euid
  probe uid machine :=
    (Probe.ask settings.pgrepPath (machine.tool settings.pgrepPath) settings.processName uid,
      machine)
  isPresent path _ machine := machine.files.isPresent machine.directory path
  detach := launch .unhindered

/-- **The identity database** that the settings name. -/
def database (machine : Machine) (settings : IdentitySettings) : Database :=
  match settings.source with
  | .getent => Account.ofTool settings.getentPath (machine.tool settings.getentPath)
  | .files =>
    Account.ofFiles (machine.files.read machine.directory) settings.passwdPath settings.groupPath

end Machine

end DisplaySession
