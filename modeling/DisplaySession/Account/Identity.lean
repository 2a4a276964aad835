import DisplaySession.Account.Record

/-
The identity a session runs as.
-/
set_option autoImplicit false

namespace DisplaySession

/-- **A user, as a process can become it** (`Identity`). -/
structure Identity where
  /-- The user's name. -/
  username : String
  /-- The user's id. -/
  uid : UInt32
  /-- The id of the primary group. -/
  gid : UInt32
  /-- The home directory. -/
  home : Path
  /-- The groups that list the user, then the primary one; none twice. -/
  groups : List UInt32
  deriving DecidableEq

/-- The name of the display that belongs to a user id. -/
def displayName (uid : UInt32) : String :=
  ":" ++ uid.toNat.repr

namespace Identity

/-- The name of the identity's display (`display_name`). -/
def display (identity : Identity) : String :=
  displayName identity.uid

/-- The ids of a process that has become the identity. -/
def ids (identity : Identity) : ProcessIds :=
  ProcessIds.only identity.uid identity.gid

end Identity

namespace Account

/-- A list without its repetitions; of equal elements the first one stays. -/
def firstOccurrences {α : Type} [DecidableEq α] : List α → List α
  | [] => []
  | a :: as => a :: (firstOccurrences as).filter (· ≠ a)

/-- The ids of the groups that list a user, in the order of the groups. -/
def memberships (name : String) (groups : List GroupRecord) : List UInt32 :=
  (groups.filter fun group => name ∈ group.members).map GroupRecord.gid

/-- **The identity of a user record**, given every group (the second half of `resolve`). -/
def identityOf (record : UserRecord) (groups : List GroupRecord) : Identity :=
  ⟨record.name, record.uid, record.gid, record.home,
    firstOccurrences (memberships record.name groups ++ [record.gid])⟩

end Account

end DisplaySession
