import DisplaySession.Account.Identity
import DisplaySession.Run

/-
Giving the handoff away and becoming the identity.

The order of the drop is fixed: groups, then group id, then user id, then directory. Each call
needs privileges that the next one gives up, so every other order fails on the way. There is no
way back: to undo a step would take the privileges already surrendered. The ids are read back at
the end, because a call that reports success and leaves an effective id behind would let the
children run as someone else.
-/
set_option autoImplicit false

namespace DisplaySession

namespace Run

variable {σ : Type}

/-- Makes a privileged call; a refusal ends the run as this failure. -/
def perform (host : Host σ) (call : PrivilegedCall) (failure : Cause → Failure) : Run σ Unit :=
  fun s =>
    let (outcome, s') := host.perform call s
    ⟨outcome.mapError failure, s', [.called call outcome]⟩

/-- Reads the ids of this process. -/
def readIds (host : Host σ) : Run σ ProcessIds :=
  fun s => ⟨.ok (host.ids s), s, [.idsRead (host.ids s)]⟩

end Run

/-- **Gives the handoff to the identity** (`transfer_ownership`). This has to happen before the
drop: afterwards the process cannot give files away. -/
def transferOwnership {σ : Type} (host : Host σ) (handoff : Path) (identity : Identity) :
    Run σ Unit :=
  Run.perform host (.changeOwner handoff identity.uid identity.gid)
    (.ownershipTransfer handoff identity.uid identity.gid)

/-- **Becomes the identity for good** (`drop_privileges`). After a failure the process is somewhere
between two users and must not go on. -/
def dropPrivileges {σ : Type} (host : Host σ) (identity : Identity) : Run σ Unit := do
  Run.perform host (.setGroups identity.groups) (.privilegeDrop .setGroups)
  Run.perform host (.setGid identity.gid) (.privilegeDrop .setGid)
  Run.perform host (.setUid identity.uid) (.privilegeDrop .setUid)
  Run.perform host (.changeDirectory identity.home) (.privilegeDrop .changeDirectory)
  let ids ← Run.readIds host
  if ids = identity.ids then Run.done ()
  else Run.fail (.privilegeDrop .verify (.wrongIds ids identity.ids))

end DisplaySession
