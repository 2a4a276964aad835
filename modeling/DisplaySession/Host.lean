import DisplaySession.Launch.Spec
import DisplaySession.Session.Probe

/-
What a run needs of the machine it runs on.

A host is a family of operations on a state of any kind. Nothing is assumed about them: a call may
fail or not, may succeed and leave other ids than were asked for, and the process table may say
anything. A statement about all hosts is therefore a statement about lying ones, too.

Waiting is the one thing that leaves the state alone. Whether the screen file is there at a given
look is asked of the state in which the waiting began, together with the number of the look, so
that a file may appear at any time.
-/
set_option autoImplicit false

namespace DisplaySession

/-- What is known of a file without opening it. -/
structure Metadata where
  isDirectory : Bool
  owner : UInt32
  deriving DecidableEq

/-- **A place that keeps directories.** -/
structure Storage (σ : Type) where
  /-- Makes one directory. A path that leads to anything already is refused as taken. -/
  createDirectory : Path → σ → Except Cause Unit × σ
  /-- What a path leads to, links followed. -/
  metadata : Path → σ → Except Cause Metadata

/-- **A call that needs privileges.** -/
inductive PrivilegedCall
  /-- Gives a file away. -/
  | changeOwner (path : Path) (uid gid : UInt32)
  | setGroups (groups : List UInt32)
  | setGid (gid : UInt32)
  | setUid (uid : UInt32)
  | changeDirectory (path : Path)
  deriving DecidableEq

/-- The name of a call. -/
def PrivilegedCall.name : PrivilegedCall → String
  | .changeOwner .. => "chown"
  | .setGroups _ => "setgroups"
  | .setGid _ => "setgid"
  | .setUid _ => "setuid"
  | .changeDirectory _ => "chdir"

/-- The arguments of a call as they are shown. -/
def PrivilegedCall.argumentText : PrivilegedCall → String
  | .changeOwner path uid gid =>
    path.shown ++ " " ++ uid.toNat.repr ++ ":" ++ gid.toNat.repr
  | .setGroups groups => ",".intercalate (groups.map fun g => g.toNat.repr)
  | .setGid gid => gid.toNat.repr
  | .setUid uid => uid.toNat.repr
  | .changeDirectory path => path.shown

/-- A call with its arguments. -/
def PrivilegedCall.shown (call : PrivilegedCall) : String :=
  call.name ++ " " ++ call.argumentText

/-- **The machine a run runs on.** -/
structure Host (σ : Type) extends Storage σ where
  /-- Makes a privileged call. -/
  perform : PrivilegedCall → σ → Except Cause Unit × σ
  /-- The ids of this process. -/
  ids : σ → ProcessIds
  /-- The user id that owns what this process makes. -/
  fileUser : σ → UInt32
  /-- Looks into the process table. -/
  probe : UInt32 → σ → (Probe × List Note) × σ
  /-- Is something at this path at the look of this number, counted from one? -/
  isPresent : Path → Nat → σ → Bool
  /-- Launches a child that outlives this process. -/
  detach : ChildSpec → σ → (Except Failure Unit × List Note) × σ

end DisplaySession
