import DisplaySession.Proofs.Account.Record
import DisplaySession.Proofs.Bootstrap.Gate
import DisplaySession.Proofs.Bootstrap.SessionCheck
import DisplaySession.Proofs.Launch.Environment
import DisplaySession.Proofs.Session.Isolation
import DisplaySession.Rehearsal

/-
Runs one after another, on a host whose displays last.

Nothing is rolled back when a run ends early, so what keeps a second display from being started is
the process table alone. The argument is an invariant between the two: whatever has started a
display has made it run, what runs is found at every later look, and a display is started only
behind a look that did not find it. One run therefore starts the display of its own user id or none
(`started_run`), and over a whole history no display is started twice (`history_started_once`),
whoever asks for it and wherever the runs in between have ended.

A host may say anything about displays that do not run. Between two runs it may change in every way
that ends no display: a run begins with privileges again, files come and go, and another rule may
decide what fails.
-/
set_option autoImplicit false

namespace DisplaySession

/-! ## Displays by name -/

/-- **The display that a child is to start**: a display starter is told its name behind the dashes,
after the program that serves it. -/
def ChildSpec.display? (spec : ChildSpec) : Option String :=
  if spec.arguments[2]? = some "--" then spec.arguments[4]? else none

/-- The display that a launch has started, if it was granted and is one of a display. -/
def startedBy? (launch : ChildSpec × Except Failure Unit) : Option String :=
  match launch.2 with
  | .ok _ => launch.1.display?
  | .error _ => none

/-- **The displays that were started in a trace**, by name and in order. -/
def displaysStarted (trace : List Event) : List String :=
  (launches trace).filterMap startedBy?

theorem displaysStarted_append (first second : List Event) :
    displaysStarted (first ++ second) = displaysStarted first ++ displaysStarted second := by
  rw [displaysStarted, Bootstrap.launches_append, List.filterMap_append]
  rfl

theorem displaysStarted_of_launches {trace : List Event} (h : launches trace = []) :
    displaysStarted trace = [] := by
  rw [displaysStarted, h, List.filterMap_nil]

@[simp] theorem display?_display (config : Config) (handoff : Path) (identity : Identity) :
    (plannedFor config handoff identity).display.display? = some identity.display :=
  rfl

@[simp] theorem display?_server (config : Config) (handoff : Path) (identity : Identity) :
    (plannedFor config handoff identity).server.display? = none :=
  rfl

/-! ## Hosts whose displays last -/

/-- **A host whose displays last** while the children are planned with these settings. `runs` says
whose displays run in a state of the host. -/
structure DisplaysLast {σ : Type} (host : Host σ) (config : Config) (runs : UInt32 → σ → Prop) :
    Prop where
  /-- A display that runs is found. -/
  found : ∀ uid s, runs uid s → ∃ pids, (host.probe uid s).1.1 = .present pids
  /-- A display whose launch was granted runs. -/
  started : ∀ handoff identity s,
    (host.detach (plannedFor config handoff identity).display s).1.1 = .ok () →
    runs identity.uid (host.detach (plannedFor config handoff identity).display s).2
  /-- Whatever happens, no display ends. -/
  kept : ∀ uid s (event : Event), runs uid s → runs uid (event.stateAfter host s)

section

variable {σ : Type} {host : Host σ} {config : Config} {runs : UInt32 → σ → Prop}

theorem runs_of_happened (hlast : DisplaysLast host config runs) {uid : UInt32}
    {trace : List Event} {s t : σ} (h : Happened host s trace t) (hruns : runs uid s) :
    runs uid t := by
  induction trace generalizing s with
  | nil =>
    have hst : t = s := h
    rw [hst]
    exact hruns
  | cons event trace ih => exact ih h.2 (hlast.kept uid s event hruns)

/-- A display that was started runs in the end. -/
theorem runs_of_started (hlast : DisplaysLast host config runs) {handoff : Path}
    {identity : Identity} {before after : List Event} {s t : σ}
    (h : Happened host s
      (before ++ .detached (plannedFor config handoff identity).display (.ok ()) :: after) t) :
    runs identity.uid t := by
  obtain ⟨u, -, hagrees, hafter⟩ := happened_split h
  exact runs_of_happened hlast hafter (hlast.started handoff identity u hagrees)

end

namespace Bootstrap

variable {σ : Type} {host : Host σ} {config : Config} {users : Database} {name : String}
  {handoff : Path} {runs : UInt32 → σ → Prop}

/-! ## One run -/

/-- **A display that runs is found at the session check.** -/
theorem running_of_checked (hlast : DisplaysLast host config runs) {s t : σ} {trace : List Event}
    {identity : Identity} {running : Bool}
    (h : Reached host config users name handoff s (.checked identity running) t trace)
    (hruns : runs identity.uid s) : running = true := by
  cases h with
  | @next phase _ t trace operation h hop hok =>
    cases leads_of_ok host config users name handoff hop hok with
    | checked =>
      cases hop
      -- The look is made in the state to which the trace before it has led.
      obtain ⟨pids, hprobe⟩ :=
        hlast.found identity.uid t (runs_of_happened hlast (happened_of_reached h) hruns)
      have hlook : (look host identity t).result =
          .ok (.checked identity (host.probe identity.uid t).1.1.isRunning) := rfl
      rw [hlook, hprobe] at hok
      cases hok
      rfl

variable (config handoff) in
/-- **What a run has launched at a phase.** -/
def launchedAt : Phase → List (ChildSpec × Except Failure Unit)
  | .provided identity decision => displayLaunches config handoff identity decision
  | .serving identity decision | .complete identity decision =>
    displayLaunches config handoff identity decision ++
      [((plannedFor config handoff identity).server, .ok ())]
  | _ => []

theorem launches_of_reached {s t : σ} {trace : List Event} {phase : Phase}
    (h : Reached host config users name handoff s phase t trace) :
    launches trace = launchedAt config handoff phase := by
  cases launching_of_reached h with
  | early hphase hnone => cases phase <;> first | exact hnone | cases hphase
  | provided hdisplayed => exact launches_displayed hdisplayed
  | @served _ identity decision before after hserved hdisplayed hafter =>
    have hremarks := launches_remarks hafter
    have hserver : launches (.detached (plannedFor config handoff identity).server (.ok ()) ::
        after) = [((plannedFor config handoff identity).server, .ok ())] ++ launches after := rfl
    rw [launches_append, launches_displayed hdisplayed, hserver, hremarks, List.append_nil]
    cases phase <;> cases hserved <;> rfl

/-- A launch that is refused starts nothing. -/
theorem started_of_detach {spec : ChildSpec} {failure : Failure} {s : σ}
    (h : (detach host spec s).result = .error failure) :
    displaysStarted (detach host spec s).trace = [] := by
  have hrefused : (host.detach spec s).1.1 = .error failure := h
  have htrace : (detach host spec s).trace =
      [.detached spec (.error failure)] ++ (host.detach spec s).1.2.map .noted := by
    rw [← hrefused]
    rfl
  rw [htrace, displaysStarted_append, displaysStarted_of_launches (launches_notes _)]
  rfl

theorem started_of_startDisplay {layout : Layout} {display : ChildSpec} {failure : Failure} {s : σ}
    (h : (startDisplay host config layout display s).result = .error failure) :
    displaysStarted (startDisplay host config layout display s).trace = [] := by
  have hscratch (s : σ) := displaysStarted_of_launches (launches_eq_nil
    (Run.leaves_mono (fun _ h => h.2)
      (quiet_ensureScratch host.toStorage host.fileUser layout.scratch)) s)
  rw [startDisplay] at h ⊢
  cases hensured : (ensureScratch host.toStorage host.fileUser layout.scratch s).result with
  | error cause =>
    rw [Run.bind_of_error _ hensured]
    exact hscratch s
  | ok _ =>
    rw [Run.bind_of_ok _ hensured] at h ⊢
    rw [displaysStarted_append, hscratch, List.nil_append]
    -- Waiting cannot fail, so the launch is what failed.
    cases hdetached : (detach host display _).result with
    | error cause =>
      rw [Run.bind_of_error _ hdetached]
      exact started_of_detach hdetached
    | ok _ =>
      rw [Run.bind_of_ok _ hdetached] at h
      cases h

/-- An operation that fails has started no display: it fails with the launch or before it. -/
theorem started_of_failed {phase : Phase} {operation : Run σ Phase} {failure : Failure} {s : σ}
    (hop : operation? host config users name handoff phase = some operation)
    (herror : (operation s).result = .error failure) :
    displaysStarted (operation s).trace = [] := by
  have hearly (hphase : phase.decision? = none)
      (hrunning : ∀ identity, phase ≠ .checked identity false) :
      displaysStarted (operation s).trace = [] :=
    displaysStarted_of_launches (launches_operation hphase hrunning hop s)
  cases phase with
  | checked identity running =>
    cases running with
    | true => exact hearly rfl (by simp)
    | false =>
      cases hop
      rw [provide, if_neg Bool.false_ne_true, Run.report_bind] at herror ⊢
      cases hstarted : (startDisplay host config
          (Layout.of config.session.scratchRoot identity.uid)
          (plannedFor config handoff identity).display s).result with
      | error cause =>
        rw [Run.bind_of_error _ hstarted]
        exact started_of_startDisplay hstarted
      | ok _ =>
        rw [Run.bind_of_ok _ hstarted] at herror
        cases herror
  | provided identity decision =>
    cases hop
    rw [serve, Run.report_bind] at herror ⊢
    cases hdetached : (detach host (plannedFor config handoff identity).server s).result with
    | error cause =>
      rw [Run.bind_of_error _ hdetached]
      exact started_of_detach hdetached
    | ok _ =>
      rw [Run.bind_of_ok _ hdetached] at herror
      cases herror
  | serving identity decision =>
    cases hop
    cases herror
  | complete identity decision => cases hop
  | _ => exact hearly rfl (by simp)

/-- What a run has started by a phase, whatever else has happened since. -/
theorem started_cases (hlast : DisplaysLast host config runs) {s t u : σ} {phase : Phase}
    {earlier later : List Event}
    (h : Reached host config users name handoff s phase t earlier)
    (hlater : displaysStarted later = []) (hhappened : Happened host s (earlier ++ later) u) :
    displaysStarted (earlier ++ later) = [] ∨
    ∃ identity, (Account.resolve users name).result = .ok identity ∧
      displaysStarted (earlier ++ later) = [identity.display] ∧
      ¬ runs identity.uid s ∧ runs identity.uid u := by
  have hlaunched := launches_of_reached h
  have hearlier : displaysStarted (earlier ++ later) =
      (launchedAt config handoff phase).filterMap startedBy? := by
    rw [displaysStarted_append, hlater, List.append_nil, displaysStarted, hlaunched]
  by_cases hdecision : phase.decision? = some .launched
  · obtain ⟨identity, hidentity⟩ : ∃ identity, phase.identity? = some identity := by
      cases phase <;> first | exact ⟨_, rfl⟩ | cases hdecision
    have hdisplay : ((plannedFor config handoff identity).display, .ok ()) ∈ launches earlier := by
      rw [hlaunched]
      cases phase <;> cases hdecision <;> cases hidentity <;> exact List.mem_cons_self
    right
    refine ⟨identity, found_of_reached h hidentity, ?_, ?_, ?_⟩
    · rw [hearlier]
      cases phase <;> cases hdecision <;> cases hidentity <;>
        simp [launchedAt, displayLaunches, startedBy?]
    · intro hruns
      obtain ⟨t', earlier', hchecked⟩ := checked_of_decided h hidentity hdecision
      cases running_of_checked hlast hchecked hruns
    · obtain ⟨event, hevent, hlaunch⟩ := List.mem_filterMap.mp hdisplay
      cases event <;> cases hlaunch
      obtain ⟨before, after, hcut⟩ := List.append_of_mem (List.mem_append_left later hevent)
      rw [hcut] at hhappened
      exact runs_of_started hlast hhappened
  · left
    rw [hearlier]
    cases phase with
    | provided identity decision | serving identity decision | complete identity decision =>
      cases decision with
      | launched => exact absurd rfl hdecision
      | skipped => simp [launchedAt, displayLaunches, startedBy?]
    | _ => rfl

/-- **A run starts the display of its own user id or none**, and the own one only if it did not run
before. -/
theorem started_run (hlast : DisplaysLast host config runs) (s : σ) :
    displaysStarted (run host config users name handoff s).trace = [] ∨
    ∃ identity, (Account.resolve users name).result = .ok identity ∧
      displaysStarted (run host config users name handoff s).trace = [identity.display] ∧
      ¬ runs identity.uid s ∧
      runs identity.uid (run host config users name handoff s).state := by
  have hended := run_ended host config users name handoff s
  have hhappened := honest_run host config users name handoff s
  generalize run host config users name handoff s = outcome at hended hhappened ⊢
  cases hended with
  | @complete identity decision t trace h =>
    have hnone : displaysStarted [] = [] := rfl
    have hcases := started_cases hlast h hnone (by rw [List.append_nil]; exact hhappened)
    rw [List.append_nil] at hcases
    exact hcases
  | @failed phase t trace operation failure h hop herror =>
    exact started_cases hlast h (started_of_failed hop herror) hhappened

/-- **An operation that fails leaves behind what was refused**, unless it was to start a display. -/
theorem refused_of_failed {phase : Phase} {operation : Run σ Phase} {failure : Failure} {t : σ}
    {identity : Identity} (hop : operation? host config users name handoff phase = some operation)
    (herror : (operation t).result = .error failure) (hidentity : phase.identity? = some identity)
    (hstarted : phase ≠ .checked identity false) :
    (∃ event ∈ (operation t).trace, event.Stops identity) ∨
    ∃ launch ∈ launches (operation t).trace, launch.2 ≠ .ok () := by
  cases phase with
  | begun => cases hidentity
  | identified found =>
    cases hidentity
    cases hop
    rcases handOver_cases host handoff identity t with ⟨u, hu⟩ | ⟨cause, u, hu⟩
    · rw [hu] at herror
      cases herror
    · left
      rw [hu]
      exact ⟨.refused (.changeOwner handoff identity.uid identity.gid) cause, by simp, trivial⟩
  | handedOver found =>
    cases hidentity
    cases hop
    rcases drop_cases host identity t with ⟨u, hu⟩ | ⟨failure, u, dropped, hu, hdrop⟩
    · rw [hu] at herror
      cases herror
    · left
      rw [hu]
      cases hdrop with
      | refused cause hsteps => exact ⟨_, List.mem_append_right _ List.mem_cons_self, trivial⟩
      | strayed hids => exact ⟨_, List.mem_append_right _ List.mem_cons_self, hids⟩
  | dropped found =>
    cases hop
    cases herror
  | prepared found =>
    cases hop
    cases herror
  | checked found running =>
    cases hidentity
    cases running with
    | true =>
      cases hop
      cases herror
    | false => exact absurd rfl hstarted
  | provided found decision =>
    cases hop
    rw [serve, Run.report_bind] at herror ⊢
    cases hserver : (detach host (plannedFor config handoff found).server t).result with
    | ok _ =>
      rw [Run.bind_of_ok _ hserver] at herror
      cases herror
    | error cause =>
      have hrefused : (host.detach (plannedFor config handoff found).server t).1.1 =
          .error cause := hserver
      right
      refine ⟨((plannedFor config handoff found).server, .error cause), ?_, by simp⟩
      rw [Run.bind_of_error _ hserver, ← hrefused]
      exact List.mem_cons_self
  | serving found decision =>
    cases hop
    cases herror
  | complete found decision => cases hop

/-- **A run whose display runs does not start it again.** If its user is found and nothing it asks
for is refused, it succeeds, keeps the display and launches the server only. -/
theorem run_of_running (hlast : DisplaysLast host config runs) {s : σ} {identity : Identity}
    (hfound : (Account.resolve users name).result = .ok identity) (hruns : runs identity.uid s)
    (hgranted : ∀ event ∈ (run host config users name handoff s).trace, ¬ event.Stops identity)
    (hdetached : ∀ launch ∈ launches (run host config users name handoff s).trace,
      launch.2 = .ok ()) :
    (run host config users name handoff s).result =
        .ok (Phase.report config identity .skipped) ∧
      launches (run host config users name handoff s).trace =
        [((plannedFor config handoff identity).server, .ok ())] := by
  have hended := run_ended host config users name handoff s
  generalize run host config users name handoff s = outcome at hended hgranted hdetached ⊢
  have hsame {phase : Phase} {t : σ} {trace : List Event} {found : Identity}
      (h : Reached host config users name handoff s phase t trace)
      (hphase : phase.identity? = some found) : found = identity :=
    Except.ok.inj ((found_of_reached h hphase).symm.trans hfound)
  cases hended with
  | @complete found decision t trace h =>
    cases hsame h rfl
    cases decision with
    | launched =>
      obtain ⟨t', earlier', hchecked⟩ := checked_of_decided h rfl rfl
      cases running_of_checked hlast hchecked hruns
    | skipped => exact ⟨rfl, launches_of_reached h⟩
  | @failed phase t trace operation failure h hop herror =>
    -- The display is not to be started, so what failed is among what was refused.
    exfalso
    cases hphase : phase.identity? with
    | none =>
      cases phase <;> cases hphase
      cases hop
      rw [identify_ok t hfound] at herror
      cases herror
    | some found =>
      cases hsame h hphase
      have hstarted : phase ≠ .checked identity false := by
        rintro rfl
        cases running_of_checked hlast h hruns
      rcases refused_of_failed hop herror hphase hstarted with
        ⟨event, hevent, hstops⟩ | ⟨launch, hlaunch, hrefused⟩
      · exact hgranted event (List.mem_append_right _ hevent) hstops
      · rw [launches_append] at hdetached
        exact hrefused (hdetached launch (List.mem_append_right _ hlaunch))

/-! ## Histories -/

/-- **One run of a history**: whom it is for, where the records and the handoff are, and the state
of the host in which it begins. -/
structure Visit (σ : Type) where
  users : Database
  name : String
  handoff : Path
  begins : σ

/-- What a run of a history came to. -/
def Visit.outcome (host : Host σ) (config : Config) (visit : Visit σ) : Outcome σ SessionReport :=
  run host config visit.users visit.name visit.handoff visit.begins

section

variable (host config runs)

/-- **One run after another**: whatever the host does in between, no display ends. -/
def Follows (first next : Visit σ) : Prop :=
  ∀ uid, runs uid (first.outcome host config).state → runs uid next.begins

/-- All that happened in some runs. -/
def historyOf (visits : List (Visit σ)) : List Event :=
  visits.flatMap fun visit => (visit.outcome host config).trace

end

theorem started_outcome (hlast : DisplaysLast host config runs) (visit : Visit σ) :
    displaysStarted (visit.outcome host config).trace = [] ∨
    ∃ identity, (Account.resolve visit.users visit.name).result = .ok identity ∧
      displaysStarted (visit.outcome host config).trace = [displayName identity.uid] ∧
      ¬ runs identity.uid visit.begins ∧ runs identity.uid (visit.outcome host config).state :=
  started_run hlast visit.begins

theorem runs_of_outcome (hlast : DisplaysLast host config runs) {uid : UInt32} {visit : Visit σ}
    (hruns : runs uid visit.begins) : runs uid (visit.outcome host config).state :=
  runs_of_happened hlast (honest_run host config visit.users visit.name visit.handoff _) hruns

/-- Runs follow each other at any distance. -/
theorem pairwise_follows (hlast : DisplaysLast host config runs) {visits : List (Visit σ)}
    (h : visits.IsChain (Follows host config runs)) :
    visits.Pairwise (Follows host config runs) := by
  have htrans : IsTrans (Visit σ) (Follows host config runs) :=
    ⟨fun _ _ _ hfirst hnext uid hruns => hnext uid (runs_of_outcome hlast (hfirst uid hruns))⟩
  exact h.pairwise

/-- **Over a history, no display is started twice**, and none that runs already. -/
theorem history_started_once (hlast : DisplaysLast host config runs) {visits : List (Visit σ)}
    (h : visits.Pairwise (Follows host config runs)) :
    (displaysStarted (historyOf host config visits)).Nodup ∧
    ∀ uid, (∀ visit ∈ visits, runs uid visit.begins) →
      displayName uid ∉ displaysStarted (historyOf host config visits) := by
  induction visits with
  | nil => exact ⟨List.nodup_nil, fun _ _ => List.not_mem_nil⟩
  | cons visit visits ih =>
    obtain ⟨hfollows, hvisits⟩ := List.pairwise_cons.mp h
    obtain ⟨hnodup, hnone⟩ := ih hvisits
    have hlater (uid : UInt32) (hruns : runs uid (visit.outcome host config).state) :
        displayName uid ∉ displaysStarted (historyOf host config visits) :=
      hnone uid fun next hnext => hfollows next hnext uid hruns
    have hcons : displaysStarted (historyOf host config (visit :: visits)) =
        displaysStarted (visit.outcome host config).trace ++
          displaysStarted (historyOf host config visits) := by
      rw [historyOf, List.flatMap_cons, displaysStarted_append]
      rfl
    have hfirst (uid : UInt32) (hruns : ∀ next ∈ visit :: visits, runs uid next.begins) :
        displayName uid ∉ displaysStarted (historyOf host config visits) :=
      hlater uid (runs_of_outcome hlast (hruns visit List.mem_cons_self))
    rw [hcons]
    rcases started_outcome hlast visit with hnothing | ⟨identity, -, hown, hnew, hstarted⟩
    · rw [hnothing, List.nil_append]
      exact ⟨hnodup, hfirst⟩
    · rw [hown, List.singleton_append]
      refine ⟨List.nodup_cons.mpr ⟨hlater identity.uid hstarted, hnodup⟩, ?_⟩
      intro uid hruns
      rw [List.mem_cons, not_or]
      refine ⟨fun hsame => ?_, hfirst uid hruns⟩
      -- A display that ran when the run began is not the one that it started.
      rw [displayName_injective hsame] at hruns
      exact hnew (hruns visit List.mem_cons_self)

/-- **At most one display per user id**, over any runs one after another on a host whose displays
last, however each of them ends.

* No display is started twice.
* A run that succeeds has launched the server of its own user's session, once.
* Once a run has started a display, every later run for its user id keeps it: if the user is found
  and nothing the run asks for is refused, it succeeds and launches the server only. How the run
  that started the display has ended makes no difference. -/
theorem displays_once (hlast : DisplaysLast host config runs) {visits : List (Visit σ)}
    (h : visits.IsChain (Follows host config runs)) :
    (displaysStarted (historyOf host config visits)).Nodup ∧
    (∀ visit ∈ visits, ∀ report, (visit.outcome host config).result = .ok report →
      (Account.resolve visit.users visit.name).result = .ok report.identity ∧
      timesLaunched (plannedFor config visit.handoff report.identity).server
        (visit.outcome host config).trace = 1 ∧
      launches (visit.outcome host config).trace =
        displayLaunches config visit.handoff report.identity report.display ++
          [((plannedFor config visit.handoff report.identity).server, .ok ())]) ∧
    visits.Pairwise fun first next => ∀ identity,
      (Account.resolve next.users next.name).result = .ok identity →
      identity.display ∈ displaysStarted (first.outcome host config).trace →
      (∀ event ∈ (next.outcome host config).trace, ¬ event.Stops identity) →
      (∀ launch ∈ launches (next.outcome host config).trace, launch.2 = .ok ()) →
      (next.outcome host config).result = .ok (Phase.report config identity .skipped) ∧
      launches (next.outcome host config).trace =
        [((plannedFor config next.handoff identity).server, .ok ())] := by
  have hfollows := pairwise_follows hlast h
  refine ⟨(history_started_once hlast hfollows).1, ?_, ?_⟩
  · intro visit _ report hreport
    have hended := run_ended host config visit.users visit.name visit.handoff visit.begins
    rw [Visit.outcome] at hreport ⊢
    generalize run host config visit.users visit.name visit.handoff visit.begins = outcome
      at hended hreport ⊢
    cases hended with
    | complete hreached =>
      cases hreport
      have hcompleted := completed_of_reached hreached
      exact ⟨hcompleted.found, hcompleted.serverOnce, hcompleted.launched⟩
    | failed => cases hreport
  · refine hfollows.imp ?_
    intro first next hnext identity hfound hdisplay hgranted hdetached
    rcases started_outcome hlast first with hnothing | ⟨own, -, hown, -, hstarted⟩
    · rw [hnothing] at hdisplay
      cases hdisplay
    · rw [hown, List.mem_singleton] at hdisplay
      have huid : identity.uid = own.uid := displayName_injective hdisplay
      refine run_of_running hlast hfound ?_ hgranted hdetached
      rw [huid]
      exact hnext own.uid hstarted

/-! ## A rehearsed history -/

/-- A rehearsal whose process table can always be read. -/
def readableRehearsal : Host Rehearsal :=
  { Rehearsal.host with
    probe := fun uid s =>
      ((Rehearsal.probe uid { s with rules := { s.rules with failingProbe := none } }, []), s) }

/-- A planned display of the standard settings is told its directory. -/
theorem argumentAfter_display (handoff : Path) (identity : Identity) :
    Rehearsal.argumentAfter "-fbdir"
        (plannedFor Config.standard handoff identity).display.arguments =
      some (Layout.of Config.standard.session.scratchRoot identity.uid).scratch.shown := by
  have hdisplay : identity.display ≠ "-fbdir" := by
    intro h
    have hhead := congrArg (fun text => text.toList.head?) h
    simp [Identity.display, displayName] at hhead
  have hxinit : Config.standard.display.xinitPath.shown = "/usr/bin/xinit" := rfl
  have hscript :
      Config.standard.display.sessionScript.shown = "/usr/local/bin/run_x_env.sh" := rfl
  have hxvfb : Config.standard.display.xvfbPath.shown = "/usr/bin/Xvfb" := rfl
  have hgeometry : Config.standard.display.geometry = "4096x4096x24" := rfl
  simp [plannedFor, LaunchPlan.of, displayArguments, hxinit, hscript, hxvfb, hgeometry, hdisplay,
    Rehearsal.argumentAfter, List.dropWhile]

/-- **The displays of a rehearsal last** under the standard settings. -/
theorem rehearsal_displaysLast :
    DisplaysLast readableRehearsal Config.standard fun uid s => uid ∈ s.running := by
  refine ⟨?_, ?_, ?_⟩
  · intro uid s hruns
    exact ⟨[Rehearsal.starterPid, uid], if_pos hruns⟩
  · intro handoff identity s hdetached
    have hname : Rehearsal.uidOfDisplay? identity.display = some identity.uid := by
      have hchars : identity.display.toList = ':' :: identity.uid.toNat.repr.toList := by
        simp [Identity.display, displayName]
      rw [Rehearsal.uidOfDisplay?, hchars]
      exact Account.uint32?_repr identity.uid
    have hvariable : Config.standard.childEnv.logVar ≠ "DISPLAY" := by decide
    have henvironment := get?_childEnvironment_display identity hvariable
    have hgranted : (Rehearsal.detach (plannedFor Config.standard handoff identity).display s).1 =
        .ok () := hdetached
    show identity.uid ∈
      (Rehearsal.detach (plannedFor Config.standard handoff identity).display s).2.running
    rw [Rehearsal.detach] at hgranted ⊢
    split at hgranted
    · cases hgranted
    · rename_i hprogram
      rw [if_neg hprogram, argumentAfter_display]
      have hstarted : (plannedFor Config.standard handoff identity).display.environment.get?
          "DISPLAY" = some identity.display := henvironment
      simp [Rehearsal.startDisplay, hstarted, hname]
  · intro uid s event hruns
    cases event with
    | called call outcome =>
      show uid ∈ (Rehearsal.perform call s).2.running
      rw [Rehearsal.perform]
      split <;> exact hruns
    | detached spec outcome =>
      show uid ∈ (Rehearsal.detach spec s).2.running
      rw [Rehearsal.detach]
      split
      · exact hruns
      · split
        · exact hruns
        · exact List.mem_append_right _ hruns
    | _ => exact hruns

instance (identity : Identity) (event : Event) : Decidable (event.Stops identity) :=
  match event with
  | .called _ (.error _) => isTrue trivial
  | .called _ (.ok _) => isFalse id
  | .idsRead ids => inferInstanceAs (Decidable (ids ≠ identity.ids))
  | .noted _ | .reported _ | .probed .. | .directoryAsked .. | .detached .. | .looked ..
  | .slept _ => isFalse id

/-- Two users with one user id. -/
def sharedAccount : Database :=
  Account.ofTable [⟨"alice", 1000, 1000, .ofString "/home/alice"⟩,
    ⟨"anna", 1000, 100, .ofString "/home/anna"⟩] []

/-- The identity of the second of them. -/
def anna : Identity :=
  ⟨"anna", 1000, 100, .ofString "/home/anna", [100]⟩

/-- A visit at which the server cannot be launched. -/
def visitWithoutServer : Visit Rehearsal :=
  ⟨sharedAccount, "alice", .ofString "/tmp/a",
    .start { failingProgram := some "/usr/bin/sanzu_server" }
      ⟨[([Utf8.ofString "var"], .directory 0),
        ([Utf8.ofString "var", Utf8.ofString "tmp"], .directory 0)]⟩⟩

/-- The visit after it, by a fresh process that is refused nothing. -/
def visitAfterwards : Visit Rehearsal :=
  ⟨sharedAccount, "anna", .ofString "/tmp/b",
    { (visitWithoutServer.outcome readableRehearsal Config.standard).state with
      rules := {}, ids := .superuser }⟩

theorem displays_once_shared :
    DisplaysLast readableRehearsal Config.standard (fun uid s => uid ∈ s.running) ∧
    [visitWithoutServer, visitAfterwards].IsChain
      (Follows readableRehearsal Config.standard fun uid s => uid ∈ s.running) ∧
    displaysStarted (historyOf readableRehearsal Config.standard
      [visitWithoutServer, visitAfterwards]) = [":1000"] ∧
    [":1000"].Nodup ∧
    (visitWithoutServer.outcome readableRehearsal Config.standard).result =
      .error (.launch "/usr/bin/sanzu_server" .notPermitted) ∧
    (visitAfterwards.outcome readableRehearsal Config.standard).result =
      .ok (Phase.report Config.standard anna .skipped) := by
  have hfollows : [visitWithoutServer, visitAfterwards].IsChain
      (Follows readableRehearsal Config.standard fun uid s => uid ∈ s.running) :=
    .cons_cons (fun _ hruns => hruns) (.singleton _)
  have hstarted : displaysStarted (historyOf readableRehearsal Config.standard
      [visitWithoutServer, visitAfterwards]) = [":1000"] := by decide +kernel
  obtain ⟨hnodup, -, hlater⟩ := displays_once rehearsal_displaysLast hfollows
  have hpair := (List.pairwise_cons.mp hlater).1 visitAfterwards List.mem_cons_self anna
    (by decide +kernel) (by decide +kernel) (by decide +kernel) (by decide +kernel)
  rw [hstarted] at hnodup
  exact ⟨rehearsal_displaysLast, hfollows, hstarted, hnodup, by decide +kernel, hpair.1⟩

end Bootstrap

end DisplaySession
