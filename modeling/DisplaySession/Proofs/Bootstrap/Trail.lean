import DisplaySession.Proofs.Bootstrap.Operation

/-
What a run reports, what it launches and what it returns agree.

Operations report no stages; each is followed by the report of its stage if it succeeded, and only
then. So the stages of a trace are the path of the phase that was reached (`stages_of_reached`), a
failure ends the path just before the stage of the operation that failed, and a complete path is
the same as a result.

Launches are told apart by phase as well (`launching_of_reached`): the display once, behind the
scratch directory, if it was not running, and then the server once, with nothing behind it but
notes and reports.
-/
set_option autoImplicit false

namespace DisplaySession

/-- What was launched in a trace, in order, and what came of it. -/
def launches (trace : List Event) : List (ChildSpec × Except Failure Unit) :=
  trace.filterMap Event.launch?

/-- How often a child was launched, or was to be. -/
def timesLaunched (spec : ChildSpec) (trace : List Event) : Nat :=
  ((launches trace).map (·.1)).count spec

/-- **A remark**: a note or a report. -/
def Event.IsRemark : Event → Prop
  | .noted _ | .reported _ => True
  | _ => False

/-- A silent event reports no stage and is no launch. -/
def Event.IsSilent (event : Event) : Prop :=
  event.stage? = none ∧ event.launch? = none

/-- The stage of the operation that follows a phase, if one does. -/
def Phase.nextStage? : Phase → Option Stage
  | begun => some .identityResolved
  | identified _ => some .handoffOwnershipTransferred
  | handedOver _ => some .privilegeDropped
  | dropped _ => some .environmentPrepared
  | prepared _ => some .sessionChecked
  | checked _ true => some .displaySkipped
  | checked _ false => some .displayLaunched
  | provided _ _ => some .streamingServerLaunched
  | serving _ _ => some .done
  | complete _ _ => none

/-- What was decided about the display, from the phase on in which it is there. -/
def Phase.decision? : Phase → Option DisplayDecision
  | provided _ decision | serving _ decision | complete _ decision => some decision
  | _ => none

/-- Whose server runs beside which display, from the phase on in which it does. -/
def Phase.served? : Phase → Option (Identity × DisplayDecision)
  | serving identity decision | complete identity decision => some (identity, decision)
  | _ => none

namespace Bootstrap

variable {σ : Type} {host : Host σ} {config : Config} {users : Database} {name : String}
  {handoff : Path}

/-! ## Stages -/

/-- Up to the drop, operations leave calls, looks at the ids, notes, and reports of no stage. -/
theorem leaves_transition_of {kind : Event → Prop}
    (hcalled : ∀ call outcome, kind (.called call outcome)) (hids : ∀ ids, kind (.idsRead ids))
    (hnoted : ∀ note, kind (.noted note))
    (hreported : ∀ d, (Event.reported d).stage? = none → kind (.reported d))
    {phase : Phase} {operation : Run σ Phase} (hphase : settledAs phase = none)
    (hop : operation? host config users name handoff phase = some operation) :
    Run.Leaves kind operation := by
  have hcall (call : PrivilegedCall) (failure : Cause → Failure) :
      Run.Leaves kind (Run.perform host call failure) := by
    intro s event h
    rw [List.mem_singleton.mp h]
    exact hcalled _ _
  have hread : Run.Leaves kind (Run.readIds host) := by
    intro s event h
    rw [List.mem_singleton.mp h]
    exact hids _
  cases phase with
  | begun =>
    cases hop
    refine Run.leaves_bind ?_ fun _ => Run.leaves_bind (Run.leaves_report (hreported _ rfl))
      fun _ => Run.leaves_pure _
    intro s event h
    obtain ⟨note, -, rfl⟩ := List.mem_map.mp h
    exact hnoted note
  | identified identity =>
    cases hop
    exact Run.leaves_bind (Run.leaves_report (hreported _ rfl)) fun _ =>
      Run.leaves_bind (hcall _ _) fun _ => Run.leaves_pure _
  | handedOver identity =>
    cases hop
    refine Run.leaves_bind ?_ fun _ => Run.leaves_bind (Run.leaves_report (hreported _ rfl))
      fun _ => Run.leaves_pure _
    refine Run.leaves_bind (hcall _ _) fun _ => Run.leaves_bind (hcall _ _) fun _ => ?_
    refine Run.leaves_bind (hcall _ _) fun _ => Run.leaves_bind (hcall _ _) fun _ => ?_
    refine Run.leaves_bind hread fun ids => ?_
    split
    · exact Run.leaves_pure _
    · intro s event h
      cases h
  | _ => cases hphase

/-- Up to the drop, operations leave silent events only. -/
theorem leaves_transition {phase : Phase} {operation : Run σ Phase}
    (hphase : settledAs phase = none)
    (hop : operation? host config users name handoff phase = some operation) :
    Run.Leaves Event.IsSilent operation :=
  leaves_transition_of (fun _ _ => ⟨rfl, rfl⟩) (fun _ => ⟨rfl, rfl⟩) (fun _ => ⟨rfl, rfl⟩)
    (fun _ hstage => ⟨hstage, rfl⟩) hphase hop

/-- **No operation reports a stage.** -/
theorem stages_operation {phase : Phase} {operation : Run σ Phase}
    (hop : operation? host config users name handoff phase = some operation) (s : σ) :
    (operation s).trace.filterMap Event.stage? = [] := by
  rw [List.filterMap_eq_nil_iff]
  intro event h
  cases hphase : settledAs phase with
  | none => exact (leaves_transition hphase hop s event h).1
  | some identity =>
    exact (leaves_operation host config users name handoff hphase hop s event h).2

/-- **The stages that were reported at a phase are its path.** -/
theorem stages_of_reached {s t : σ} {phase : Phase} {trace : List Event}
    (h : Reached host config users name handoff s phase t trace) :
    trace.filterMap Event.stage? = phase.path := by
  induction h with
  | begun => rfl
  | next h hop hok ih =>
    have hleads := leads_of_ok host config users name handoff hop hok
    rw [List.filterMap_append, List.filterMap_append, ih, stages_operation hop, List.append_nil,
      path_of_leads hleads]
    rfl

variable (host config users name handoff) in
/-- **A stage was earned** behind a part of a trace: the part ends with an operation that succeeded
and led to the stage. -/
def Earned (s : σ) (stage : Stage) (before : List Event) : Prop :=
  ∃ (phase : Phase) (t : σ) (earlier : List Event) (operation : Run σ Phase) (next : Phase),
    Reached host config users name handoff s phase t earlier ∧
    operation? host config users name handoff phase = some operation ∧
    (operation t).result = .ok next ∧ next.stage = stage ∧
    before = earlier ++ (operation t).trace

/-- A report of a stage comes directly behind an operation that succeeded and led to it. -/
theorem earned_of_reached {s t : σ} {phase : Phase} {trace before after : List Event}
    {stage : Stage} (h : Reached host config users name handoff s phase t trace)
    (hcut : trace = before ++ .reported (.stage stage) :: after) :
    Earned host config users name handoff s stage before := by
  induction h generalizing after with
  | begun => simp at hcut
  | @next phase next t trace operation h hop hok ih =>
    rcases event_split hcut with ⟨rest, hcut, -⟩ | ⟨rest, hbefore, hlast⟩
    · rcases event_split hcut with ⟨rest, hcut, -⟩ | ⟨rest', hbefore, hoperation⟩
      · exact ih hcut
      · -- The operation itself reports no stage.
        have hsilent := stages_operation hop t
        rw [hoperation, List.filterMap_append] at hsilent
        simp [Event.stage?] at hsilent
    · cases rest with
      | cons _ rest => simp at hlast
      | nil =>
        obtain ⟨hstage, -⟩ := List.cons.inj hlast
        cases hstage
        exact ⟨phase, t, trace, operation, next, h, hop, hok, rfl,
          by rw [hbefore, List.append_nil]⟩

/-! ## Launches -/

theorem launches_append (first second : List Event) :
    launches (first ++ second) = launches first ++ launches second :=
  List.filterMap_append

theorem launches_eq_nil {α : Type} {x : Run σ α}
    (h : Run.Leaves (fun event => event.launch? = none) x) (s : σ) : launches (x s).trace = [] :=
  List.filterMap_eq_nil_iff.mpr (h s)

theorem launches_notes (notes : List Note) : launches (notes.map .noted) = [] := by
  rw [launches, List.filterMap_map]
  exact List.filterMap_eq_nil_iff.mpr fun _ _ => rfl

theorem launches_remarks {trace : List Event} (h : ∀ event ∈ trace, event.IsRemark) :
    launches trace = [] := by
  rw [launches, List.filterMap_eq_nil_iff]
  intro event hevent
  have hremark := h event hevent
  cases event <;> first | rfl | exact hremark.elim

/-- A launch that was granted is the first event, and the launcher's notes are the rest. -/
theorem detach_of_ok {spec : ChildSpec} {s : σ} (h : (detach host spec s).result = .ok ()) :
    ∃ notes : List Note,
      (detach host spec s).trace = .detached spec (.ok ()) :: notes.map .noted := by
  refine ⟨(host.detach spec s).1.2, ?_⟩
  have houtcome : (host.detach spec s).1.1 = .ok () := h
  rw [← houtcome]
  rfl

/-- A display that was started was launched once, directly behind making sure of the scratch
directory. -/
theorem startDisplay_of_ok {layout : Layout} {display : ChildSpec} {s : σ}
    (h : (startDisplay host config layout display s).result = .ok ()) :
    (ensureScratch host.toStorage host.fileUser layout.scratch s).result = .ok () ∧
    ∃ middle, launches middle = [] ∧ (startDisplay host config layout display s).trace =
      (ensureScratch host.toStorage host.fileUser layout.scratch s).trace ++
        .detached display (.ok ()) :: middle := by
  obtain ⟨_, hensured, hrest⟩ := Run.ok_of_bind h
  obtain ⟨_, hdetached, -⟩ := Run.ok_of_bind hrest
  refine ⟨hensured, ?_⟩
  rw [startDisplay, Run.bind_of_ok _ hensured, Run.bind_of_ok _ hdetached]
  obtain ⟨notes, htrace⟩ := detach_of_ok hdetached
  have hwait := launches_eq_nil
    (Run.leaves_mono (fun _ h => h.2) (quiet_waitForDisplay host config.readiness layout.screen))
  refine ⟨notes.map .noted ++ _, ?_, by rw [htrace]; rfl⟩
  rw [launches_append, launches_notes, hwait, List.append_nil]

variable (host config handoff) in
/-- **How the display came to run** in a trace: it ran before, or it was launched once, after the
scratch directory was made sure of in the state that the host had come to. -/
inductive Displayed (identity : Identity) (s : σ) : DisplayDecision → List Event → Prop
  | kept {trace : List Event} (hnone : launches trace = []) : Displayed identity s .skipped trace
  | started {earlier middle : List Event} {t : σ} (hearlier : Happened host s earlier t)
    (hensured : (ensureScratch host.toStorage host.fileUser
      (Layout.of config.session.scratchRoot identity.uid).scratch t).result = .ok ())
    (hbefore : launches earlier = []) (hafter : launches middle = []) :
    Displayed identity s .launched
      (earlier ++ (ensureScratch host.toStorage host.fileUser
        (Layout.of config.session.scratchRoot identity.uid).scratch t).trace ++
        .detached (plannedFor config handoff identity).display (.ok ()) :: middle)

theorem displayed_append {identity : Identity} {s : σ} {decision : DisplayDecision}
    {trace more : List Event} (h : Displayed host config handoff identity s decision trace)
    (hmore : launches more = []) :
    Displayed host config handoff identity s decision (trace ++ more) := by
  cases h with
  | kept hnone => exact .kept (by rw [launches_append, hnone, hmore, List.append_nil])
  | started hearlier hensured hbefore hafter =>
    rw [List.append_assoc, List.cons_append]
    exact .started hearlier hensured hbefore (by rw [launches_append, hafter, hmore,
      List.append_nil])

variable (host config handoff) in
/-- **What was launched at a phase.** -/
inductive Launching (s : σ) : Phase → List Event → Prop
  | early {phase : Phase} {trace : List Event} (hphase : phase.decision? = none)
    (hnone : launches trace = []) : Launching s phase trace
  | provided {identity : Identity} {decision : DisplayDecision} {trace : List Event}
    (h : Displayed host config handoff identity s decision trace) :
    Launching s (.provided identity decision) trace
  | served {phase : Phase} {identity : Identity} {decision : DisplayDecision}
    {before after : List Event} (hphase : phase.served? = some (identity, decision))
    (h : Displayed host config handoff identity s decision before)
    (hafter : ∀ event ∈ after, event.IsRemark) :
    Launching s phase
      (before ++ .detached (plannedFor config handoff identity).server (.ok ()) :: after)

/-- **The operations before the display launch nothing.** -/
theorem launches_operation {phase : Phase} {operation : Run σ Phase}
    (hphase : phase.decision? = none) (hrunning : ∀ identity, phase ≠ .checked identity false)
    (hop : operation? host config users name handoff phase = some operation) (s : σ) :
    launches (operation s).trace = [] := by
  have hearly (hphase : settledAs phase = none) : launches (operation s).trace = [] :=
    launches_eq_nil (Run.leaves_mono (fun _ h => h.2) (leaves_transition hphase hop)) s
  cases phase with
  | begun => exact hearly rfl
  | identified identity => exact hearly rfl
  | handedOver identity => exact hearly rfl
  | dropped identity =>
    cases hop
    rfl
  | prepared identity =>
    cases hop
    refine launches_eq_nil (Run.leaves_bind ?_ fun _ => Run.leaves_pure _) s
    exact Run.leaves_mono (fun _ h => h.2) (quiet_checkSession host _)
  | checked identity running =>
    cases running with
    | false => exact absurd rfl (hrunning identity)
    | true =>
      cases hop
      exact launches_eq_nil (Run.leaves_bind (Run.leaves_report rfl) fun _ => Run.leaves_pure _) s
  | _ => cases hphase

theorem provide_of_ok {identity : Identity} {next : Phase} {s : σ}
    (h : (provide host config handoff identity false s).result = .ok next) :
    (startDisplay host config (Layout.of config.session.scratchRoot identity.uid)
      (plannedFor config handoff identity).display s).result = .ok () ∧
    (provide host config handoff identity false s).trace =
      .reported (.startingDisplay identity.display) ::
        (startDisplay host config (Layout.of config.session.scratchRoot identity.uid)
          (plannedFor config handoff identity).display s).trace := by
  rw [provide, if_neg Bool.false_ne_true, Run.report_bind] at h ⊢
  obtain ⟨_, hstarted, -⟩ := Run.ok_of_bind h
  refine ⟨hstarted, ?_⟩
  rw [Run.bind_of_ok _ hstarted, Run.pure_apply, List.append_nil]

/-- A server that was started was launched, with nothing behind it but the launcher's notes. -/
theorem serve_of_ok {identity : Identity} {decision : DisplayDecision} {next : Phase} {s : σ}
    (h : (serve host config handoff identity decision s).result = .ok next) :
    ∃ notes : List Note, (serve host config handoff identity decision s).trace =
      [.reported (.startingServer handoff)] ++
        .detached (plannedFor config handoff identity).server (.ok ()) :: notes.map .noted := by
  rw [serve, Run.report_bind] at h ⊢
  obtain ⟨_, hdetached, -⟩ := Run.ok_of_bind h
  obtain ⟨notes, htrace⟩ := detach_of_ok hdetached
  refine ⟨notes, ?_⟩
  rw [Run.bind_of_ok _ hdetached, Run.pure_apply, List.append_nil, htrace]
  rfl

/-- **Every phase that a run comes to has launched what it should have.** -/
theorem launching_of_reached {s t : σ} {phase : Phase} {trace : List Event}
    (h : Reached host config users name handoff s phase t trace) :
    Launching host config handoff s phase trace := by
  induction h with
  | begun => exact .early rfl rfl
  | @next phase next t trace operation h hop hok ih =>
    have hleads := leads_of_ok host config users name handoff hop hok
    have hstage (next : Phase) : launches [.reported (.stage next.stage)] = [] := rfl
    cases ih with
    | early hphase hnone =>
      -- Only starting the display launches anything here.
      have hquiet (hrunning : ∀ identity, phase ≠ .checked identity false) :
          launches (trace ++ (operation t).trace ++ [.reported (.stage next.stage)]) = [] := by
        rw [launches_append, launches_append, hnone, launches_operation hphase hrunning hop, hstage]
        rfl
      cases hleads with
      | kept identity => exact .provided (.kept (hquiet (by simp)))
      | started identity =>
        cases hop
        obtain ⟨hstarted, htrace⟩ := provide_of_ok hok
        obtain ⟨hensured, middle, hmiddle, hdisplay⟩ := startDisplay_of_ok hstarted
        -- The scratch directory was made sure of in the state that the trace so far has led to.
        have hearlier : Happened host s (trace ++ [.reported (.startingDisplay _)]) t :=
          happened_append (happened_of_reached h)
            (happened_reports [.startingDisplay identity.display] t)
        have hbefore :
            launches (trace ++ [.reported (.startingDisplay identity.display)]) = [] := by
          rw [launches_append, hnone]
          rfl
        have hdisplayed : Displayed host config handoff identity s .launched _ :=
          .started hearlier hensured hbefore hmiddle
        refine .provided ?_
        have hreported := displayed_append hdisplayed (hstage (.provided identity .launched))
        simpa [htrace, hdisplay] using hreported
      | serving identity decision => cases hphase
      | complete identity decision => cases hphase
      | _ => exact .early rfl (hquiet (by simp))
    | @provided identity decision _ hdisplayed =>
      cases hop
      cases hleads
      obtain ⟨notes, htrace⟩ := serve_of_ok hok
      have hbefore := displayed_append hdisplayed
        (rfl : launches [.reported (.startingServer handoff)] = [])
      rw [htrace, ← List.append_assoc, List.append_assoc, List.cons_append]
      refine .served rfl hbefore ?_
      simp [or_imp, forall_and, Event.IsRemark]
    | @served phase identity decision before after hserved hdisplayed hafter =>
      cases hleads with
      | complete identity' decision' =>
        cases hop
        cases hserved
        have hfinish : (finish identity decision t).trace = [.reported (.sessionReady
            identity.username identity.display (decision = .launched))] := rfl
        rw [hfinish, List.append_assoc, List.append_assoc, List.cons_append]
        refine .served rfl hdisplayed ?_
        simpa [or_imp, forall_and, Event.IsRemark] using hafter
      | _ => cases hserved

/-! ## The four views of a run -/

variable (config handoff) in
/-- The launch of the display, if it was decided. -/
def displayLaunches (identity : Identity) :
    DisplayDecision → List (ChildSpec × Except Failure Unit)
  | .launched => [((plannedFor config handoff identity).display, .ok ())]
  | .skipped => []

/-- What was launched while the display came to run. -/
theorem launches_displayed {identity : Identity} {s : σ} {decision : DisplayDecision}
    {trace : List Event} (h : Displayed host config handoff identity s decision trace) :
    launches trace = displayLaunches config handoff identity decision := by
  cases h with
  | kept hnone => exact hnone
  | @started earlier middle t hearlier hensured hbefore hafter =>
    have hquiet := launches_eq_nil (Run.leaves_mono (fun _ h => h.2)
      (quiet_ensureScratch host.toStorage host.fileUser
        (Layout.of config.session.scratchRoot identity.uid).scratch)) t
    have hdetached : launches (.detached (plannedFor config handoff identity).display (.ok ()) ::
        middle) = [((plannedFor config handoff identity).display, .ok ())] ++ launches middle := rfl
    rw [launches_append, launches_append, hbefore, hquiet, hdetached, hafter]
    rfl

variable (config handoff) in
/-- The two children differ: one has more arguments than the other. -/
theorem display_ne_server (identity : Identity) :
    (plannedFor config handoff identity).display ≠ (plannedFor config handoff identity).server := by
  intro h
  have hlength := congrArg (fun spec => spec.arguments.length) h
  cases hlength

variable (host config users name handoff)

/-- **What a run has done that gave a report.** -/
structure Completed (s : σ) (outcome : Outcome σ SessionReport) (report : SessionReport) :
    Prop where
  /-- The identity in the report is the one that was found. -/
  found : (Account.resolve users name).result = .ok report.identity
  /-- The stages in the report are the first one and then those that were reported. -/
  stages : report.stages = .start :: outcome.stages
  /-- All that was launched is the display, if it was decided, and then the server. -/
  launched : launches outcome.trace =
    displayLaunches config handoff report.identity report.display ++
      [((plannedFor config handoff report.identity).server, .ok ())]
  /-- The server was launched once. -/
  serverOnce :
    timesLaunched (plannedFor config handoff report.identity).server outcome.trace = 1
  /-- Before the server, the display came to run; after it, there were only remarks. -/
  serverLast : ∃ before after, outcome.trace =
      before ++ .detached (plannedFor config handoff report.identity).server (.ok ()) :: after ∧
    Displayed host config handoff report.identity s report.display before ∧
    ∀ event ∈ after, event.IsRemark
  /-- The display was launched exactly if that was reported. -/
  displayReported : report.display = .launched ↔ Stage.displayLaunched ∈ outcome.stages
  /-- The display was launched exactly if it was launched once. -/
  displayOnce : report.display = .launched ↔
    timesLaunched (plannedFor config handoff report.identity).display outcome.trace = 1

/-- **What a run has done that failed**: it came to a phase, and the operation that followed was the
first one that failed. -/
def FailedAt (s : σ) (outcome : Outcome σ SessionReport) (failure : Failure) : Prop :=
  ∃ (phase : Phase) (t : σ) (earlier : List Event) (operation : Run σ Phase) (stage : Stage)
      (decision : DisplayDecision),
    Reached host config users name handoff s phase t earlier ∧
    operation? host config users name handoff phase = some operation ∧
    operation t = ⟨.error failure, outcome.state, (operation t).trace⟩ ∧
    outcome.trace = earlier ++ (operation t).trace ∧
    phase.nextStage? = some stage ∧ outcome.stages ++ [stage] <+: decision.trail.tail

/-- **The views of a run agree**: what it returns, the stages it reports and what it launches. -/
structure Consistent (s : σ) (outcome : Outcome σ SessionReport) : Prop where
  /-- The stages are a first part of one of the two paths. -/
  path : ∃ decision : DisplayDecision, outcome.stages <+: decision.trail.tail
  /-- No stage is reported before its operation has succeeded. -/
  earned : ∀ before stage after, outcome.trace = before ++ .reported (.stage stage) :: after →
    Earned host config users name handoff s stage before
  /-- There is a report exactly if a whole path was reported. -/
  whole : (∃ report, outcome.result = .ok report) ↔
    ∃ decision : DisplayDecision, outcome.stages = decision.trail.tail
  /-- A report says what was done. -/
  completed : ∀ report, outcome.result = .ok report →
    Completed host config users name handoff s outcome report
  /-- A failure is the failure of the first operation that failed. -/
  failed : ∀ failure, outcome.result = .error failure →
    FailedAt host config users name handoff s outcome failure

variable {host config users name handoff}

/-- **A run that comes to its last phase has done what it reports.** -/
theorem completed_of_reached {s t : σ} {identity : Identity} {decision : DisplayDecision}
    {trace : List Event}
    (h : Reached host config users name handoff s (.complete identity decision) t trace) :
    Completed host config users name handoff s
      ⟨.ok (Phase.report config identity decision), t, trace⟩
      (Phase.report config identity decision) := by
  have hstages : Outcome.stages (⟨.ok (Phase.report config identity decision), t, trace⟩ :
      Outcome σ SessionReport) = (Phase.complete identity decision).path := stages_of_reached h
  cases launching_of_reached h with
  | early hphase hnone => cases hphase
  | @served _ _ _ before after hserved hdisplayed hafter =>
    cases hserved
    have hremarks := launches_remarks hafter
    have hlaunched : launches (before ++ .detached (plannedFor config handoff identity).server
          (.ok ()) :: after) =
        displayLaunches config handoff identity decision ++
          [((plannedFor config handoff identity).server, .ok ())] := by
      have hserver : launches (.detached (plannedFor config handoff identity).server (.ok ()) ::
          after) = [((plannedFor config handoff identity).server, .ok ())] ++ launches after := rfl
      rw [launches_append, launches_displayed hdisplayed, hserver, hremarks, List.append_nil]
    have hne := display_ne_server config handoff identity
    refine ⟨found_of_reached h rfl, ?_, hlaunched, ?_, ⟨before, after, rfl, hdisplayed, hafter⟩,
      ?_, ?_⟩
    · rw [hstages]
      rfl
    · -- The two children are told apart by their arguments, so neither is counted for the other.
      rw [timesLaunched, hlaunched]
      cases decision
      · exact (List.count_cons_of_ne hne).trans List.count_singleton_self
      · exact List.count_singleton_self
    · rw [hstages]
      cases decision <;> simp [Phase.report, Phase.path, DisplayDecision.stage]
    · have hnone : [(plannedFor config handoff identity).server].count
          (plannedFor config handoff identity).display = 0 :=
        List.count_eq_zero.mpr fun h => hne (List.mem_singleton.mp h)
      rw [timesLaunched, hlaunched]
      cases decision
      · exact iff_of_true rfl (List.count_cons_self.trans (congrArg (· + 1) hnone))
      · refine iff_of_false (fun h => by cases h) fun hone => ?_
        exact absurd (hnone.symm.trans hone) Nat.zero_ne_one

/-- A path that is not at its end goes on with the stage of the next operation. -/
theorem path_goes_on {phase : Phase} {operation : Run σ Phase}
    (hop : operation? host config users name handoff phase = some operation) :
    ∃ (stage : Stage) (decision : DisplayDecision),
      phase.nextStage? = some stage ∧ phase.path ++ [stage] <+: decision.trail.tail := by
  cases phase with
  | checked identity running =>
    cases running
    · exact ⟨.displayLaunched, .launched, rfl, by simp [Phase.path, DisplayDecision.trail,
        DisplayDecision.stage]⟩
    · exact ⟨.displaySkipped, .skipped, rfl, by simp [Phase.path, DisplayDecision.trail,
        DisplayDecision.stage]⟩
  | provided identity decision =>
    exact ⟨_, decision, rfl, by simp [Phase.path, DisplayDecision.trail]⟩
  | serving identity decision =>
    exact ⟨_, decision, rfl, by simp [Phase.path, DisplayDecision.trail]⟩
  | complete identity decision => cases hop
  | _ => exact ⟨_, .launched, rfl, by simp [Phase.path, DisplayDecision.trail]⟩

variable (host config users name handoff) in
/-- **What a run returns, what it reports and what it launches agree**, whatever the host, the
settings and the database are. -/
theorem run_consistent (s : σ) :
    Consistent host config users name handoff s (run host config users name handoff s) := by
  have hended := run_ended host config users name handoff s
  generalize run host config users name handoff s = outcome at hended ⊢
  cases hended with
  | @complete identity decision t trace h =>
    have hstages : trace.filterMap Event.stage? = decision.trail.tail := stages_of_reached h
    refine ⟨⟨decision, hstages ▸ List.prefix_rfl⟩, ?_, ?_, ?_, ?_⟩
    · intro before stage after hcut
      exact earned_of_reached h hcut
    · exact iff_of_true ⟨_, rfl⟩ ⟨decision, hstages⟩
    · intro report hreport
      cases hreport
      exact completed_of_reached h
    · intro failure hfailure
      cases hfailure
  | @failed phase t trace operation failure h hop herror =>
    have hstages : (trace ++ (operation t).trace).filterMap Event.stage? = phase.path := by
      rw [List.filterMap_append, stages_of_reached h, stages_operation hop, List.append_nil]
    obtain ⟨stage, decision, hnext, hprefix⟩ := path_goes_on hop
    rw [← hstages] at hprefix
    refine ⟨⟨decision, (List.prefix_append _ _).trans hprefix⟩, ?_, ?_, ?_, ?_⟩
    · intro before stage after hcut
      rcases event_split hcut with ⟨rest, hcut, -⟩ | ⟨rest, -, hoperation⟩
      · exact earned_of_reached h hcut
      · -- The operation that failed reports no stage either.
        have hsilent := stages_operation hop t
        rw [hoperation, List.filterMap_append] at hsilent
        simp [Event.stage?] at hsilent
    · -- A path of which one more stage is a first part is not a whole one.
      refine iff_of_false (fun ⟨_, hreport⟩ => by cases hreport) fun ⟨decision', hwhole⟩ => ?_
      have hpath : (trace ++ (operation t).trace).filterMap Event.stage? = decision'.trail.tail :=
        hwhole
      have hlong := hprefix.length_le
      rw [hpath] at hlong
      simp [DisplayDecision.trail] at hlong
    · intro report hreport
      cases hreport
    · intro failure hfailure
      cases hfailure
      exact ⟨phase, t, trace, operation, stage, decision, h, hop, by rw [← herror], rfl, hnext,
        hprefix⟩

end Bootstrap

end DisplaySession
