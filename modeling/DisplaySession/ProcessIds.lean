/-
The four ids that say who a process is.
-/
set_option autoImplicit false

namespace DisplaySession

/-- **Real and effective ids** of a process. -/
structure ProcessIds where
  /-- Real user id. -/
  uid : UInt32
  /-- Effective user id. -/
  euid : UInt32
  /-- Real group id. -/
  gid : UInt32
  /-- Effective group id. -/
  egid : UInt32
  deriving DecidableEq

namespace ProcessIds

/-- The ids of a process that is nothing but this user and this group. -/
def only (uid gid : UInt32) : ProcessIds :=
  ⟨uid, uid, gid, gid⟩

/-- The ids of the superuser. -/
def superuser : ProcessIds :=
  only 0 0

/-- The ids in a message. -/
def shown (ids : ProcessIds) : String :=
  "ProcessIds \x7b uid: " ++ ids.uid.toNat.repr ++ ", euid: " ++ ids.euid.toNat.repr ++
    ", gid: " ++ ids.gid.toNat.repr ++ ", egid: " ++ ids.egid.toNat.repr ++ " \x7d"

end ProcessIds

end DisplaySession
