import DisplaySession.Proofs.Bootstrap.Phase
import DisplaySession.Proofs.Session.Waiting

/-
What the operations of a session do to its trace.

The three operations up to the drop are described exactly: what they leave is a report or two and
the privileged calls that were made. All later operations leave ordinary events
(`leaves_operation`), which need no privileges and are no reports of stages. Every operation is
honest about what it did to the host, and so is the run that is made of them (`honest_run`).
-/
set_option autoImplicit false

namespace DisplaySession

open Event (granted refused)

/-- A privileged call, or the look at the ids that it led to. -/
def Event.isPrivileged : Event → Bool
  | .called .. | .idsRead _ => true
  | _ => false

/-- The launch that an event is: the child, and what came of it. -/
def Event.launch? : Event → Option (ChildSpec × Except Failure Unit)
  | .detached spec outcome => some (spec, outcome)
  | _ => none

/-- **An ordinary event**: it needs no privileges, and it is no report of a stage. -/
def Event.IsOrdinary (event : Event) : Prop :=
  event.isPrivileged = false ∧ event.stage? = none

/-- A quiet event is ordinary and no launch. -/
def Event.IsQuiet (event : Event) : Prop :=
  event.IsOrdinary ∧ event.launch? = none

namespace Bootstrap

variable {σ : Type} (host : Host σ) (config : Config) (users : Database) (name : String)
  (handoff : Path)

/-! ## The operations up to the drop -/

/-- What the database noted while it was asked for the identity. -/
def opening : List Event :=
  (Account.resolve users name).notes.map .noted

variable {users name} in
theorem identify_error {failure : Failure} (s : σ)
    (h : (Account.resolve users name).result = .error failure) :
    identify users name s = ⟨.error failure, s, opening users name⟩ := by
  have hfound : (Run.consult (Account.resolve users name) s).result = .error failure := h
  rw [identify, Run.bind_of_error _ hfound]
  rfl

variable {users name} in
theorem identify_ok {identity : Identity} (s : σ)
    (h : (Account.resolve users name).result = .ok identity) :
    identify users name s = ⟨.ok (.identified identity), s, opening users name ++
      [.reported
        (.identityFound identity.username identity.uid identity.gid identity.groups)]⟩ := by
  have hfound : (Run.consult (Account.resolve users name) s).result = .ok identity := h
  rw [identify, Run.bind_of_ok _ hfound]
  rfl

theorem handOver_cases (identity : Identity) (s : σ) :
    (∃ t, handOver host handoff identity s =
      ⟨.ok (.handedOver identity), t, [.reported (.handing handoff identity.username),
        granted (.changeOwner handoff identity.uid identity.gid)]⟩) ∨
    (∃ cause t, handOver host handoff identity s =
      ⟨.error (.ownershipTransfer handoff identity.uid identity.gid cause), t,
        [.reported (.handing handoff identity.username),
          refused (.changeOwner handoff identity.uid identity.gid) cause]⟩) := by
  rw [handOver, Run.report_bind]
  cases h : (host.perform (.changeOwner handoff identity.uid identity.gid) s).1 with
  | error cause =>
    have hcall : transferOwnership host handoff identity s = _ := perform_error host _ h
    right
    refine ⟨cause, (host.perform (.changeOwner handoff identity.uid identity.gid) s).2, ?_⟩
    rw [Run.bind_of_error _ (by rw [hcall]), hcall]
  | ok _ =>
    have hcall : transferOwnership host handoff identity s = _ := perform_ok host _ h
    left
    refine ⟨(host.perform (.changeOwner handoff identity.uid identity.gid) s).2, ?_⟩
    rw [Run.bind_of_ok (a := ()) _ (by rw [hcall]), hcall]
    rfl

theorem drop_cases (identity : Identity) (s : σ) :
    (∃ t, drop host identity s = ⟨.ok (.dropped identity), t,
      (dropCalls identity).map granted ++ [.idsRead identity.ids] ++
        [.reported (.runningAs identity.uid)]⟩) ∨
    (∃ failure t trace, drop host identity s = ⟨.error failure, t, trace⟩ ∧
      Drop identity (.error failure) trace) := by
  -- Of the three ways in which a drop ends, only the complete one gives a result.
  have hdrop := dropPrivileges_cases host identity s
  generalize htrace : (dropPrivileges host identity s).trace = trace at hdrop
  cases hr : (dropPrivileges host identity s).result with
  | error failure =>
    rw [hr] at hdrop
    right
    refine ⟨failure, (dropPrivileges host identity s).state, trace, ?_, hdrop⟩
    rw [drop, Run.bind_of_error _ hr, htrace]
  | ok _ =>
    rw [hr] at hdrop
    cases hdrop
    left
    refine ⟨(dropPrivileges host identity s).state, ?_⟩
    rw [drop, Run.bind_of_ok _ hr, htrace]
    rfl

/-! ## The operations after the drop -/

theorem leaves_detach (spec : ChildSpec) :
    Run.Leaves Event.IsOrdinary (detach host spec) := by
  intro s event h
  rcases List.mem_cons.mp h with rfl | h
  · exact ⟨rfl, rfl⟩
  · obtain ⟨note, -, rfl⟩ := List.mem_map.mp h
    exact ⟨rfl, rfl⟩

theorem quiet_checkSession (uid : UInt32) :
    Run.Leaves Event.IsQuiet (checkSession host uid) := by
  intro s event h
  rcases List.mem_append.mp h with h | h
  · obtain ⟨note, -, rfl⟩ := List.mem_map.mp h
    exact ⟨⟨rfl, rfl⟩, rfl⟩
  rcases List.mem_cons.mp h with rfl | h
  · exact ⟨⟨rfl, rfl⟩, rfl⟩
  · obtain ⟨d, hd, rfl⟩ := List.mem_map.mp h
    refine ⟨⟨rfl, ?_⟩, rfl⟩
    -- A probe reports its processes or its failure, and never a stage.
    cases hp : (host.probe uid s).1.1 <;>
      simp only [hp, Probe.report?, Option.toList_some, Option.toList_none, List.mem_singleton,
        List.not_mem_nil] at hd <;> subst hd <;> rfl

theorem quiet_ensureScratch (storage : Storage σ) (user : σ → UInt32) (scratch : Path) :
    Run.Leaves Event.IsQuiet (ensureScratch storage user scratch) := by
  intro s event h
  -- Whatever is found at the path, one look is left, and at most one report behind it.
  have hasked (outcome : Except Cause Unit) :
      event ∈ [Event.directoryAsked scratch outcome] → event.IsQuiet := by
    intro he
    rw [List.mem_singleton.mp he]
    exact ⟨⟨rfl, rfl⟩, rfl⟩
  simp only [ensureScratch] at h
  split at h
  · exact hasked _ h
  split at h
  · split at h
    · exact hasked _ h
    split at h
    · rcases List.mem_cons.mp h with rfl | h
      · exact ⟨⟨rfl, rfl⟩, rfl⟩
      · unfold ownerReport at h
        split at h
        · cases h
        · rw [List.mem_singleton.mp h]
          exact ⟨⟨rfl, rfl⟩, rfl⟩
    · exact hasked _ h
  · exact hasked _ h

theorem quiet_waitForDisplay (readiness : Readiness) (screen : Path) :
    Run.Leaves Event.IsQuiet (waitForDisplay host readiness screen) := by
  intro s event h
  cases waits_waitEvents _ screen readiness event h <;> exact ⟨⟨rfl, rfl⟩, rfl⟩

theorem leaves_startDisplay (layout : Layout) (display : ChildSpec) :
    Run.Leaves Event.IsOrdinary (startDisplay host config layout display) := by
  refine Run.leaves_bind (Run.leaves_mono (fun _ h => h.1) (quiet_ensureScratch _ _ _)) fun _ => ?_
  refine Run.leaves_bind (leaves_detach host display) fun _ => ?_
  exact Run.leaves_mono (fun _ h => h.1) (quiet_waitForDisplay host _ _)

/-- The identity that a phase has become for good. -/
def settledAs : Phase → Option Identity
  | .begun | .identified _ | .handedOver _ => none
  | .dropped identity | .prepared identity | .checked identity _ | .provided identity _
  | .serving identity _ | .complete identity _ => some identity

/-- **After the drop, every operation leaves ordinary events only.** -/
theorem leaves_operation {phase : Phase} {identity : Identity} {operation : Run σ Phase}
    (hphase : settledAs phase = some identity)
    (hop : operation? host config users name handoff phase = some operation) :
    Run.Leaves Event.IsOrdinary operation := by
  cases phase <;>
    simp only [operation?, settledAs, Option.some.injEq, reduceCtorEq] at hop hphase <;>
    subst hop hphase
  case dropped identity => exact Run.leaves_pure _
  case prepared identity =>
    refine Run.leaves_bind ?_ fun _ => Run.leaves_pure _
    exact Run.leaves_mono (fun _ h => h.1) (quiet_checkSession host _)
  case checked identity running =>
    cases running
    · exact Run.leaves_bind (Run.leaves_report ⟨rfl, rfl⟩) fun _ =>
        Run.leaves_bind (leaves_startDisplay host config _ _) fun _ => Run.leaves_pure _
    · exact Run.leaves_bind (Run.leaves_report ⟨rfl, rfl⟩) fun _ => Run.leaves_pure _
  case provided identity decision =>
    exact Run.leaves_bind (Run.leaves_report ⟨rfl, rfl⟩) fun _ =>
      Run.leaves_bind (leaves_detach host _) fun _ => Run.leaves_pure _
  case serving identity decision =>
    exact Run.leaves_bind (Run.leaves_report ⟨rfl, rfl⟩) fun _ => Run.leaves_pure _

/-! ## Honest operations -/

theorem honest_detach (spec : ChildSpec) : Run.Honest host (detach host spec) := by
  intro s
  exact ⟨rfl, happened_notes _ _⟩

theorem honest_checkSession (uid : UInt32) : Run.Honest host (checkSession host uid) := by
  intro s
  refine happened_append (happened_notes _ s) ⟨rfl, ?_⟩
  exact happened_reports _ _

theorem honest_ensureScratch (user : σ → UInt32) (scratch : Path) :
    Run.Honest host (ensureScratch host.toStorage user scratch) := by
  intro s
  simp only [ensureScratch]
  split
  · exact ⟨rfl, rfl⟩
  split
  · split
    · exact ⟨rfl, rfl⟩
    split
    · refine ⟨rfl, ?_⟩
      unfold ownerReport
      split
      · rfl
      · exact happened_reports [_] _
    · exact ⟨rfl, rfl⟩
  · exact ⟨rfl, rfl⟩

theorem honest_waitForDisplay (readiness : Readiness) (screen : Path) :
    Run.Honest host (waitForDisplay host readiness screen) := by
  intro s
  have hpoll (interval remaining looks : Nat) :
      Happened host s (pollScreen (fun look => host.isPresent screen look s) screen interval
        remaining looks) s := by
    induction remaining generalizing looks with
    | zero => exact happened_reports [_] s
    | succ remaining ih =>
      rw [pollScreen]
      split
      · -- The file was there at this look, and the polling ends.
        rename_i h
        exact ⟨⟨looks + 1, h⟩, happened_reports [_] s⟩
      · rename_i h
        exact ⟨⟨looks + 1, Bool.eq_false_iff.mpr h⟩, trivial, ih (looks + 1)⟩
  cases readiness with
  | fixed settle => exact ⟨trivial, rfl⟩
  | poll interval attempts => exact hpoll _ _ _

theorem honest_startDisplay (layout : Layout) (display : ChildSpec) :
    Run.Honest host (startDisplay host config layout display) :=
  Run.honest_bind (honest_ensureScratch host _ _) fun _ =>
    Run.honest_bind (honest_detach host display) fun _ => honest_waitForDisplay host _ _

/-- **Every operation is honest.** -/
theorem honest_operation {phase : Phase} {operation : Run σ Phase}
    (hop : operation? host config users name handoff phase = some operation) :
    Run.Honest host operation := by
  cases phase <;> simp only [operation?, Option.some.injEq, reduceCtorEq] at hop <;> subst hop
  case begun =>
    exact Run.honest_bind (Run.honest_consult _) fun _ =>
      Run.honest_bind (Run.honest_report _) fun _ => Run.honest_pure _
  case identified identity =>
    exact Run.honest_bind (Run.honest_report _) fun _ =>
      Run.honest_bind (Run.honest_perform _ _) fun _ => Run.honest_pure _
  case handedOver identity =>
    exact Run.honest_bind (honest_dropPrivileges host identity) fun _ =>
      Run.honest_bind (Run.honest_report _) fun _ => Run.honest_pure _
  case dropped identity => exact Run.honest_pure _
  case prepared identity =>
    exact Run.honest_bind (honest_checkSession host _) fun _ => Run.honest_pure _
  case checked identity running =>
    cases running
    · exact Run.honest_bind (Run.honest_report _) fun _ =>
        Run.honest_bind (honest_startDisplay host config _ _) fun _ => Run.honest_pure _
    · exact Run.honest_bind (Run.honest_report _) fun _ => Run.honest_pure _
  case provided identity decision =>
    exact Run.honest_bind (Run.honest_report _) fun _ =>
      Run.honest_bind (honest_detach host _) fun _ => Run.honest_pure _
  case serving identity decision =>
    exact Run.honest_bind (Run.honest_report _) fun _ => Run.honest_pure _

variable {host config users name handoff}

theorem happened_of_reached {s t : σ} {phase : Phase} {trace : List Event}
    (h : Reached host config users name handoff s phase t trace) : Happened host s trace t := by
  induction h with
  | begun => rfl
  | next h hop hok ih =>
    have hop' := honest_operation host config users name handoff hop
    exact happened_append (happened_append ih (hop' _)) (happened_reports [_] _)

theorem happened_of_ended {s : σ} {outcome : Outcome σ SessionReport}
    (h : Ended host config users name handoff s outcome) :
    Happened host s outcome.trace outcome.state := by
  cases h with
  | complete h => exact happened_of_reached h
  | failed h hop herror =>
    exact happened_append (happened_of_reached h)
      (honest_operation host config users name handoff hop _)

variable (host config users name handoff) in
/-- **The trace of a run is what happened to the host.** -/
theorem honest_run : Run.Honest host (run host config users name handoff) :=
  fun s => happened_of_ended (run_ended host config users name handoff s)

end Bootstrap

end DisplaySession
