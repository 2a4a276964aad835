import DisplaySession.Proofs.Bootstrap.World

/-
A run does not notice what its neighbours did.

A run is followed in two worlds at once that are alike for its user id and its own area of the files
(`Twin`). Each operation asks for the same in both, is told the same, and leaves them alike; and
whatever it changes is confined to that user id and that area. So the same holds of the whole run
(`twin_run`), however it ends, if the area has its scratch directory and what its display writes.

What a run reports and what it sees while it waits are left out (`acts`): a screen file may be a link
to anywhere, and waiting cannot fail.
-/
set_option autoImplicit false

namespace DisplaySession

/-- An event in which something was asked of the machine, or noted by it. -/
def Event.isAct : Event → Bool
  | .reported _ | .looked .. | .slept _ => false
  | _ => true

/-- **What a run did**, in order: its calls, its questions, its launches, and what came of them. -/
def acts (trace : List Event) : List Event :=
  trace.filter Event.isAct

theorem acts_append (first second : List Event) :
    acts (first ++ second) = acts first ++ acts second :=
  List.filter_append ..

theorem acts_waitEvents (found : Nat → Bool) (screen : Path) (readiness : Readiness) :
    acts (waitEvents found screen readiness) = [] := by
  rw [acts, List.filter_eq_nil_iff]
  intro event h
  cases waits_waitEvents found screen readiness event h <;> exact Bool.false_ne_true

/-! ## Processes in two worlds -/

/-- **A process in two worlds** that began as `w` and `v`: it has asked for the same, it is at the
same place, and what it changed is confined. -/
structure Paired (uid : UInt32) (own : List Location) (w v : World) (s t : Process) : Prop where
  requests : s.requests = t.requests
  directory : s.directory = t.directory
  alike : World.Alike uid own s.world t.world
  left : World.Confined uid own w s.world
  right : World.Confined uid own v t.world

section

variable {α β : Type} (uid : UInt32) (own : List Location) (w v : World)

/-- **What a run comes to in two worlds**: the same, by the same acts, and if it gives a result, at
this place. -/
structure Twins (directory : Location) (outcome outcome' : Outcome Process α) : Prop where
  result : outcome.result = outcome'.result
  acts : acts outcome.trace = acts outcome'.trace
  paired : Paired uid own w v outcome.state outcome'.state
  arrived : ∀ a, outcome.result = .ok a → outcome.state.directory = directory

/-- **A run that does the same in two worlds**, from one directory to another. -/
def Twin (before after : Location) (x : Run Process α) : Prop :=
  ∀ s t, Paired uid own w v s t → s.directory = before →
    Twins uid own w v after (x s) (x t)

variable {uid own w v} {before between after : Location}

theorem twin_bind {x : Run Process α} {next : α → Run Process β}
    (hx : Twin uid own w v before between x)
    (hnext : ∀ a s, (x s).result = .ok a → Twin uid own w v between after (next a)) :
    Twin uid own w v before after (x >>= next) := by
  intro s t hpaired hbefore
  have hfirst := hx s t hpaired hbefore
  cases hs : (x s).result with
  | error failure =>
    rw [Run.bind_of_error _ hs, Run.bind_of_error _ (hfirst.result ▸ hs)]
    exact ⟨rfl, hfirst.acts, hfirst.paired, fun a h => by cases h⟩
  | ok a =>
    rw [Run.bind_of_ok _ hs, Run.bind_of_ok _ (hfirst.result ▸ hs)]
    have hsecond := hnext a s hs _ _ hfirst.paired (hfirst.arrived a hs)
    exact ⟨hsecond.result, by rw [acts_append, acts_append, hfirst.acts, hsecond.acts],
      hsecond.paired, hsecond.arrived⟩

/-- It is enough to follow a run from processes that differ in their worlds only. -/
theorem twin_of_worlds {x : Run Process α}
    (h : ∀ requests s t, World.Alike uid own s t → World.Confined uid own w s →
      World.Confined uid own v t →
      Twins uid own w v after (x ⟨requests, before, s⟩) (x ⟨requests, before, t⟩)) :
    Twin uid own w v before after x := by
  rintro ⟨requests, directory, s⟩ ⟨requests', directory', t⟩ hpaired hbefore
  obtain rfl : requests = requests' := hpaired.requests
  obtain rfl : directory = directory' := hpaired.directory
  obtain rfl : directory = before := hbefore
  exact h requests s t hpaired.alike hpaired.left hpaired.right

/-- The answer to a request that changes neither world. -/
theorem twins_unchanged {requests : List Request} {s t : World} {result : Except Failure α}
    {trace trace' : List Event} (halike : World.Alike uid own s t)
    (hleft : World.Confined uid own w s) (hright : World.Confined uid own v t)
    (hacts : DisplaySession.acts trace = DisplaySession.acts trace') :
    Twins uid own w v before ⟨result, ⟨requests, before, s⟩, trace⟩
      ⟨result, ⟨requests, before, t⟩, trace'⟩ :=
  ⟨rfl, hacts, ⟨rfl, rfl, halike, hleft, hright⟩, fun _ _ => rfl⟩

/-- A run that leaves the process as it is and does the same in every world. -/
theorem twin_of_still {x : Run Process α} (hstill : ∀ s, (x s).state = s)
    (hresult : ∀ requests directory s t,
      (x ⟨requests, directory, s⟩).result = (x ⟨requests, directory, t⟩).result)
    (hacts : ∀ requests directory s t,
      acts (x ⟨requests, directory, s⟩).trace = acts (x ⟨requests, directory, t⟩).trace) :
    Twin uid own w v before before x := by
  refine twin_of_worlds fun requests s t halike hleft hright => ?_
  refine ⟨hresult _ _ _ _, hacts _ _ _ _, ?_, fun a _ => ?_⟩
  · rw [hstill, hstill]
    exact ⟨rfl, rfl, halike, hleft, hright⟩
  · rw [hstill]

theorem twin_pure (a : α) : Twin uid own w v before before (pure a : Run Process α) :=
  twin_of_still (fun _ => rfl) (fun _ _ _ _ => rfl) fun _ _ _ _ => rfl

theorem twin_fail (failure : Failure) :
    Twin uid own w v before before (Run.fail failure : Run Process α) :=
  twin_of_still (fun _ => rfl) (fun _ _ _ _ => rfl) fun _ _ _ _ => rfl

theorem twin_report (d : Diagnostic) : Twin uid own w v before before (Run.report d) :=
  twin_of_still (fun _ => rfl) (fun _ _ _ _ => rfl) fun _ _ _ _ => rfl

theorem twin_consult (lookup : Lookup α) :
    Twin uid own w v before before (Run.consult lookup) :=
  twin_of_still (fun _ => rfl) (fun _ _ _ _ => rfl) fun _ _ _ _ => rfl

end

namespace Treatment

open FileSystem (ScratchRoot plain?_afterCall)

variable (τ : Treatment) {uid : UInt32} {own : List Location} {w v : World} {before : Location}

/-! ## Privileged calls -/

theorem twin_perform (call : PrivilegedCall) (failure : Cause → Failure) :
    Twin uid own w v before (τ.directoryAfter before call) (Run.perform τ.host call failure) := by
  refine twin_of_worlds fun requests s t halike hleft hright => ?_
  simp only [Run.perform, host]
  cases τ.refusal (.call call :: requests) with
  | some cause => exact ⟨rfl, rfl, ⟨rfl, rfl, halike, hleft, hright⟩, fun a h => by cases h⟩
  | none =>
    -- Owners have no part in what is alike or confined.
    have hconfined (s : World) : World.Confined uid own s
        { s with files := s.files.afterCall before call } :=
      ⟨fun _ _ => rfl, FileSystem.confined_of_plain own (plain?_afterCall s.files before call)⟩
    refine ⟨rfl, rfl, ⟨rfl, rfl, ⟨halike.table, fun place hplace => ?_⟩,
      World.confined_trans hleft (hconfined s), World.confined_trans hright (hconfined t)⟩,
      fun a _ => rfl⟩
    rw [plain?_afterCall, plain?_afterCall]
    exact halike.files place hplace

theorem twin_readIds : Twin uid own w v before before (Run.readIds τ.host) :=
  twin_of_still (fun _ => rfl) (fun _ _ _ _ => rfl) fun _ _ _ _ => rfl

theorem twin_transferOwnership (handoff : Path) (identity : Identity) :
    Twin uid own w v before before (transferOwnership τ.host handoff identity) :=
  τ.twin_perform (.changeOwner handoff identity.uid identity.gid) _

/-- **A drop that succeeds ends at home.** -/
theorem twin_dropPrivileges (identity : Identity) :
    Twin uid own w v before (τ.arrival identity.home) (dropPrivileges τ.host identity) := by
  refine twin_bind (τ.twin_perform _ _) fun _ _ _ => ?_
  refine twin_bind (τ.twin_perform _ _) fun _ _ _ => ?_
  refine twin_bind (τ.twin_perform _ _) fun _ _ _ => ?_
  refine twin_bind (τ.twin_perform _ _) fun _ _ _ => ?_
  refine twin_bind τ.twin_readIds fun ids _ _ => ?_
  split
  · exact twin_pure ()
  · exact twin_fail _

/-! ## The display -/

theorem twin_checkSession : Twin uid own w v before before (Bootstrap.checkSession τ.host uid) := by
  refine twin_of_worlds fun requests s t halike hleft hright => ?_
  simp only [Bootstrap.checkSession, host, ← halike.table]
  exact twins_unchanged halike hleft hright rfl

theorem twin_waitForDisplay (readiness : Readiness) (screen : Path) :
    Twin uid own w v before before (waitForDisplay τ.host readiness screen) := by
  refine twin_of_still (fun _ => rfl) (fun _ _ _ _ => rfl) fun _ _ _ _ => ?_
  rw [waitForDisplay, waitForDisplay, acts_waitEvents, acts_waitEvents]

section

variable {home place : Location} {root : Path}
  (hw : ScratchRoot w.files home root place) (hv : ScratchRoot v.files home root place)
  (hin : scratchPlace place uid ∈ own) (hout : ¬Within own place)

include hw hv hout

/-- The scratch root is found in both worlds for as long as the run lasts. -/
theorem scratchRoot_paired {s t : Process} (h : Paired uid own w v s t) :
    ScratchRoot s.world.files home root place ∧ ScratchRoot t.world.files home root place :=
  ⟨FileSystem.scratchRoot_confined hout h.left.files hw,
    FileSystem.scratchRoot_confined hout h.right.files hv⟩

include hin

/-- **Making the scratch directory** comes to the same in two worlds. -/
theorem createDirectory_twin {s t : Process} (h : Paired uid own w v s t)
    (hhome : s.directory = home) :
    (τ.host.createDirectory (Layout.of root uid).scratch s).1 =
        (τ.host.createDirectory (Layout.of root uid).scratch t).1 ∧
      Paired uid own w v
        (τ.host.createDirectory (Layout.of root uid).scratch s).2
        (τ.host.createDirectory (Layout.of root uid).scratch t).2 ∧
      (τ.host.createDirectory (Layout.of root uid).scratch s).2.directory = home := by
  obtain ⟨hs, ht⟩ := scratchRoot_paired hw hv hout h
  obtain ⟨requests, directory, s⟩ := s
  obtain ⟨requests', directory', t⟩ := t
  obtain ⟨hrequests, hdirectory, halike, hleft, hright⟩ := h
  obtain rfl : requests = requests' := hrequests
  obtain rfl : directory = directory' := hdirectory
  obtain rfl : directory = home := hhome
  simp only [host, FileSystem.storage, FileSystem.attempt]
  cases τ.refusal (.makeDirectory (Layout.of root uid).scratch :: requests) with
  | some cause => exact ⟨rfl, ⟨rfl, rfl, halike, hleft, hright⟩, rfl⟩
  | none =>
    rcases FileSystem.createDirectory_alike hs ht hin halike.files with
      ⟨cause, hcause, hcause'⟩ | ⟨htakes, htakes', hmade, hmade'⟩
    · simp only [hcause, hcause']
      exact ⟨trivial, ⟨rfl, rfl, halike, hleft, hright⟩, trivial⟩
    · simp only [hmade, hmade']
      have hconfined {s : World} (htakes : s.files.TakesFile (scratchPlace place uid)) :
          World.Confined uid own s
            { s with files := s.files.set (scratchPlace place uid) (.directory 0) } :=
        ⟨fun _ _ => rfl, FileSystem.confined_set htakes (within_of_mem hin) fun _ _ => by simp⟩
      have halike' := FileSystem.alikeAt_set halike.files (FileSystem.ne_nil_of_takesFile htakes)
        (.directory FileSystem.superuserId)
      exact ⟨trivial, ⟨rfl, rfl, ⟨halike.table, halike'⟩,
        World.confined_trans hleft (hconfined htakes),
        World.confined_trans hright (hconfined htakes')⟩, trivial⟩

/-- **What is known of the scratch directory**, but for its owner, is the same in two worlds. -/
theorem metadata_twin {s t : Process} (h : Paired uid own w v s t)
    (hhome : s.directory = home) :
    (τ.host.metadata (Layout.of root uid).scratch s).map Metadata.isDirectory =
      (τ.host.metadata (Layout.of root uid).scratch t).map Metadata.isDirectory := by
  obtain ⟨hs, ht⟩ := scratchRoot_paired hw hv hout h
  have hplain := h.alike.files _ (within_of_mem hin)
  simp only [host, ← h.requests, ← h.directory, hhome]
  cases τ.refusal (.inspect (Layout.of root uid).scratch :: s.requests) with
  | some cause => rfl
  | none =>
    show (s.world.files.metadata home _).map _ = (t.world.files.metadata home _).map _
    rw [FileSystem.metadata_scratch hs, FileSystem.metadata_scratch ht, hplain]

theorem twin_ensureScratch :
    Twin uid own w v home home
      (ensureScratch τ.host.toStorage τ.host.fileUser (Layout.of root uid).scratch) := by
  intro s t hpaired hhome
  obtain ⟨houtcome, hpaired', hhome'⟩ := τ.createDirectory_twin hw hv hin hout hpaired hhome
  simp only [ensureScratch, ← houtcome]
  have hreport (asked : Event) (owner expected : UInt32) :
      acts (asked :: ownerReport (Layout.of root uid).scratch owner expected) = acts [asked] := by
    rw [← List.singleton_append, acts_append, ownerReport]
    split <;> exact List.append_nil _
  cases (τ.host.createDirectory (Layout.of root uid).scratch s).1 with
  | ok _ => exact ⟨rfl, rfl, hpaired', fun _ _ => hhome'⟩
  | error cause =>
    have hsame := τ.metadata_twin hw hv hin hout hpaired' hhome'
    dsimp only
    split
    · -- What is there already decides, and its owner is only reported.
      generalize τ.host.metadata (Layout.of root uid).scratch
        (τ.host.createDirectory (Layout.of root uid).scratch s).2 = found at hsame
      generalize τ.host.metadata (Layout.of root uid).scratch
        (τ.host.createDirectory (Layout.of root uid).scratch t).2 = found' at hsame
      cases found with
      | error cause =>
        cases found' with
        | ok found' => cases hsame
        | error cause' =>
          cases hsame
          exact ⟨rfl, rfl, hpaired', fun _ h => by cases h⟩
      | ok found =>
        cases found' with
        | error cause' => cases hsame
        | ok found' =>
          have hkind : found.isDirectory = found'.isDirectory := Except.ok.inj hsame
          dsimp only
          rw [← hkind]
          split
          · exact ⟨rfl, (hreport _ _ _).trans (hreport _ _ _).symm, hpaired', fun _ _ => hhome'⟩
          · exact ⟨rfl, rfl, hpaired', fun _ h => by cases h⟩
    · exact ⟨rfl, rfl, hpaired', fun _ h => by cases h⟩

end

/-! ## Launches -/

/-- A child that is no display changes nothing. -/
theorem twin_detach_other {spec : ChildSpec} (hother : spec.display? = none) :
    Twin uid own w v before before (Bootstrap.detach τ.host spec) := by
  refine twin_of_worlds fun requests s t halike hleft hright => ?_
  simp only [Bootstrap.detach, host, worldAfter, hother]
  cases τ.launchFailure (.launch spec :: requests) with
  | some failure => exact twins_unchanged halike hleft hright rfl
  | none => exact twins_unchanged halike hleft hright rfl

/-- **A display that keeps to its own changes its own part of the world only**, and in the same way
in both worlds. -/
theorem twin_detach_display {spec : ChildSpec} {display : String} {home : Location}
    {area : List Location} {files : FileSystem}
    (harea : ∀ place, Within own place → Within area place)
    (hw : FileSystem.Confined area files w.files) (hv : FileSystem.Confined area files v.files)
    (hdisplay : spec.display? = some display) (hown : τ.KeepsToOwn spec uid home own area files) :
    Twin uid own w v home home (Bootstrap.detach τ.host spec) := by
  refine twin_of_worlds fun requests s t halike hleft hright => ?_
  have hs : FileSystem.Confined area files s.files :=
    FileSystem.confined_trans hw (FileSystem.confined_mono harea hleft.files)
  have ht : FileSystem.Confined area files t.files :=
    FileSystem.confined_trans hv (FileSystem.confined_mono harea hright.files)
  simp only [Bootstrap.detach, host, worldAfter, hdisplay]
  cases τ.launchFailure (.launch spec :: requests) with
  | some failure => exact twins_unchanged halike hleft hright rfl
  | none =>
    exact ⟨rfl, rfl, ⟨rfl, rfl, hown.alike _ s t hs ht halike,
      World.confined_trans hleft (hown.confined _ s hs),
      World.confined_trans hright (hown.confined _ t ht)⟩, fun _ _ => rfl⟩

/-! ## Whole runs -/

theorem twin_advance (stages : List Stage) (stage : Stage) :
    Twin uid own w v before before (Bootstrap.advance stages stage) :=
  twin_bind (twin_report _) fun _ _ _ => twin_pure _

theorem twin_findIdentity (users : Database) (name : String) :
    Twin uid own w v before before (Bootstrap.findIdentity users name) := by
  refine twin_bind (twin_consult _) fun _ _ _ => ?_
  exact twin_bind (twin_report _) fun _ _ _ => twin_pure _

theorem twin_giveHandoff (handoff : Path) (identity : Identity) :
    Twin uid own w v before before (Bootstrap.giveHandoff τ.host handoff identity) :=
  twin_bind (twin_report _) fun _ _ _ => τ.twin_transferOwnership handoff identity

theorem twin_becomeIdentity (identity : Identity) :
    Twin uid own w v before (τ.arrival identity.home)
      (Bootstrap.becomeIdentity τ.host identity) :=
  twin_bind (τ.twin_dropPrivileges identity) fun _ _ _ => twin_report _

theorem twin_startServer (handoff : Path) {server : ChildSpec} (hserver : server.display? = none) :
    Twin uid own w v before before (Bootstrap.startServer τ.host handoff server) :=
  twin_bind (twin_report _) fun _ _ _ => τ.twin_detach_other hserver

theorem identity_of_findIdentity {users : Database} {name : String} {found : Identity} {s : Process}
    (h : (Bootstrap.findIdentity users name s).result = .ok found) :
    (Account.resolve users name).result = .ok found := by
  obtain ⟨identity, hfound, h⟩ := Run.ok_of_bind h
  obtain ⟨_, -, h⟩ := Run.ok_of_bind h
  cases h
  exact hfound

section

variable {config : Config} {users : Database} {name : String} {identity : Identity}
  {place : Location} {own area : List Location} {files : FileSystem} (handoff : Path)
  (harea : ∀ place, Within own place → Within area place)
  (hown : τ.KeepsToOwn (plannedFor config handoff identity).display identity.uid
    (τ.arrival identity.home) own area files)
  (hw : FileSystem.Confined area files w.files) (hv : FileSystem.Confined area files v.files)
  (hroot : ScratchRoot files (τ.arrival identity.home) config.session.scratchRoot place)
  (hin : scratchPlace place identity.uid ∈ own) (hout : ¬Within area place)

include harea hown hw hv hroot hin hout

theorem twin_startDisplay :
    Twin identity.uid own w v (τ.arrival identity.home) (τ.arrival identity.home)
      (Bootstrap.startDisplay τ.host config (Layout.of config.session.scratchRoot identity.uid)
        (plannedFor config handoff identity).display) := by
  have hleft := FileSystem.scratchRoot_confined hout hw hroot
  have hright := FileSystem.scratchRoot_confined hout hv hroot
  refine twin_bind (τ.twin_ensureScratch hleft hright hin (mt (harea place) hout)) fun _ _ _ => ?_
  refine twin_bind ?_ fun _ _ _ => τ.twin_waitForDisplay _ _
  exact τ.twin_detach_display harea hw hv (display?_display config handoff identity) hown

theorem twin_provideDisplay (running : Bool) :
    Twin identity.uid own w v (τ.arrival identity.home) (τ.arrival identity.home)
      (Bootstrap.provideDisplay τ.host config identity
        (Layout.of config.session.scratchRoot identity.uid)
        (plannedFor config handoff identity).display running) := by
  cases running with
  | true => exact twin_bind (twin_report _) fun _ _ _ => twin_pure _
  | false =>
    refine twin_bind (twin_report _) fun _ _ _ => ?_
    refine twin_bind ?_ fun _ _ _ => twin_pure _
    exact τ.twin_startDisplay handoff harea hown hw hv hroot hin hout

/-- **A run does the same in two worlds** that are alike for its user id and its own area of the
files, and leaves them alike. -/
theorem twin_run (hfound : (Account.resolve users name).result = .ok identity) :
    Twin identity.uid own w v before (τ.arrival identity.home)
      (Bootstrap.run τ.host config users name handoff) := by
  refine twin_bind (twin_findIdentity users name) fun found s hresult => ?_
  obtain rfl : found = identity :=
    Except.ok.inj ((identity_of_findIdentity hresult).symm.trans hfound)
  refine twin_bind (twin_advance _ _) fun _ _ _ => ?_
  refine twin_bind (τ.twin_giveHandoff handoff found) fun _ _ _ => ?_
  refine twin_bind (twin_advance _ _) fun _ _ _ => ?_
  refine twin_bind (τ.twin_becomeIdentity found) fun _ _ _ => ?_
  refine twin_bind (twin_advance _ _) fun _ _ _ => ?_
  refine twin_bind (twin_advance _ _) fun _ _ _ => ?_
  refine twin_bind τ.twin_checkSession fun running _ _ => ?_
  refine twin_bind (twin_advance _ _) fun _ _ _ => ?_
  refine twin_bind (τ.twin_provideDisplay handoff harea hown hw hv hroot hin hout running)
    fun decision _ _ => ?_
  refine twin_bind (twin_advance _ _) fun _ _ _ => ?_
  have hserver := display?_server config handoff found
  refine twin_bind (τ.twin_startServer handoff hserver) fun _ _ _ => ?_
  refine twin_bind (twin_advance _ _) fun _ _ _ => ?_
  refine twin_bind (twin_report _) fun _ _ _ => ?_
  exact twin_bind (twin_advance _ _) fun _ _ _ => twin_pure _

end

end Treatment

end DisplaySession
