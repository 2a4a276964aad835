import DisplaySession.Proofs.Bootstrap.Trail
import DisplaySession.Proofs.Session.Probe
import DisplaySession.Rehearsal

/-
What the look into the process table decides.

A run makes one look, when it is prepared, and everything that follows from it is decided there: a
display is kept exactly if the tool lists processes, and otherwise the run goes on to make a scratch
directory for a new one (`session_checked`). A look that fails counts as none, which may start a
second display, so it is never silent: unless the tool says that nothing matched, exactly one
warning stands between the look and the scratch directory, and it carries the reason.

The tool may answer anything, another thing each time, and asking it may change the host.
-/
set_option autoImplicit false

namespace DisplaySession

/-- **The warnings in a trace**, whoever gave them. -/
def warnings (trace : List Event) : List Diagnostic :=
  (trace.filterMap Event.diagnostic?).filter (·.level = .warn)

/-- **A host that asks a tool about processes**: in each state, a look is what the tool of that
state answers to the question for the user id. -/
def AsksTool {σ : Type} (host : Host σ) (program : Path) (processName : String) (tool : σ → Tool) :
    Prop :=
  ∀ uid s, (host.probe uid s).1 = Probe.ask program (tool s) processName uid

namespace Run

/-- The trace of a step stands in front of what is bound to it, whatever that is. -/
theorem trace_bind {σ α β : Type} (x : Run σ α) (next : α → Run σ β) (s : σ) :
    ∃ rest, ((x >>= next) s).trace = (x s).trace ++ rest := by
  cases h : (x s).result with
  | error failure => exact ⟨[], by rw [bind_of_error _ h, List.append_nil]⟩
  | ok a => exact ⟨_, by rw [bind_of_ok _ h]⟩

end Run

namespace Bootstrap

variable {σ : Type} {host : Host σ} {config : Config} {users : Database} {name : String}
  {handoff : Path}

/-! ## Phases around the check -/

/-- **What was decided about the display was decided at the session check.** -/
theorem checked_of_decided {s t : σ} {trace : List Event} {phase : Phase} {identity : Identity}
    {decision : DisplayDecision} (h : Reached host config users name handoff s phase t trace)
    (hidentity : phase.identity? = some identity) (hdecision : phase.decision? = some decision) :
    ∃ u earlier,
      Reached host config users name handoff s (.checked identity (decision = .skipped)) u
        earlier := by
  induction h with
  | begun => cases hdecision
  | @next phase next t trace operation h hop hok ih =>
    cases leads_of_ok host config users name handoff hop hok with
    | started | kept =>
      cases hidentity
      cases hdecision
      exact ⟨t, trace, h⟩
    | serving | complete => exact ih hidentity hdecision
    | _ => cases hdecision

/-- A run that reports the session check has looked when it was prepared. -/
theorem prepared_of_stage {s t : σ} {trace : List Event} {phase : Phase}
    (h : Reached host config users name handoff s phase t trace)
    (hstage : Stage.sessionChecked ∈ phase.path) :
    ∃ identity u earlier,
      Reached host config users name handoff s (.prepared identity) u earlier := by
  induction h with
  | begun => cases hstage
  | @next phase next t trace operation h hop hok ih =>
    have hleads := leads_of_ok host config users name handoff hop hok
    rw [path_of_leads hleads, List.mem_append, List.mem_singleton] at hstage
    rcases hstage with hearlier | hnow
    · exact ih hearlier
    · cases hleads with
      | checked identity running => exact ⟨identity, t, trace, h⟩
      | kept | started => cases hnow
      | _ => cases hnow

/-- A run reports the stages of the last phase that it comes to. -/
theorem stages_run (host : Host σ) (config : Config) (users : Database) (name : String)
    (handoff : Path) (s : σ) :
    ∃ phase t trace, Reached host config users name handoff s phase t trace ∧
      (run host config users name handoff s).stages = phase.path := by
  have hended := run_ended host config users name handoff s
  generalize run host config users name handoff s = outcome at hended ⊢
  cases hended with
  | complete h => exact ⟨_, _, _, h, stages_of_reached h⟩
  | @failed phase t trace operation failure h hop herror =>
    refine ⟨phase, t, trace, h, ?_⟩
    rw [Outcome.stages, List.filterMap_append, stages_of_reached h, stages_operation hop,
      List.append_nil]

/-- **The display is kept exactly if it was found running.** -/
theorem skipped_iff {s t : σ} {trace : List Event} {identity : Identity} {running : Bool}
    (h : Reached host config users name handoff s (.checked identity running) t trace) :
    Stage.displaySkipped ∈ (run host config users name handoff s).stages ↔ running = true := by
  constructor
  · intro hstage
    obtain ⟨phase, u, earlier, hlast, hstages⟩ := stages_run host config users name handoff s
    rw [hstages] at hstage
    obtain ⟨found, hidentity, hdecision⟩ : ∃ found, phase.identity? = some found ∧
        phase.decision? = some .skipped := by
      cases phase with
      | provided found decision | serving found decision | complete found decision =>
        cases decision with
        | skipped => exact ⟨found, rfl, rfl⟩
        | launched => simp [Phase.path, DisplayDecision.stage] at hstage
      | _ => simp [Phase.path] at hstage
    obtain ⟨u, earlier, hchecked⟩ := checked_of_decided hlast hidentity hdecision
    -- There is one session check in a run, and this one found the display.
    cases (reached_unique h hchecked rfl).1
    rfl
  · rintro rfl
    have hok : (provide host config handoff identity true t).result =
        .ok (.provided identity .skipped) := rfl
    have hprovided := Reached.next h rfl hok
    rw [run_of_reached host config users name handoff hprovided, Outcome.stages,
      List.filterMap_append, stages_of_reached hprovided]
    exact List.mem_append_left _ (by simp [Phase.path, DisplayDecision.stage])

/-! ## After the check -/

/-- Making sure of a directory is asking for it, with reports behind it at most. -/
theorem ensureScratch_asks (storage : Storage σ) (user : σ → UInt32) (scratch : Path) (s : σ) :
    ∃ made, ∃ reports : List Diagnostic, (ensureScratch storage user scratch s).trace =
      .directoryAsked scratch made :: reports.map .reported := by
  refine ⟨(storage.createDirectory scratch s).1, ?_⟩
  have howner (owner expected : UInt32) :
      ∃ reports : List Diagnostic, ownerReport scratch owner expected = reports.map .reported := by
    unfold ownerReport
    split
    · exact ⟨[], rfl⟩
    · exact ⟨[_], rfl⟩
  simp only [ensureScratch]
  split
  · exact ⟨[], by simp [*]⟩
  · split
    · split
      · exact ⟨[], by simp [*]⟩
      · split
        · rename_i found _ _
          obtain ⟨reports, hreports⟩ :=
            howner found.owner (user (storage.createDirectory scratch s).2)
          exact ⟨reports, by simp [*]⟩
        · exact ⟨[], by simp [*]⟩
    · exact ⟨[], by simp [*]⟩

variable (host config handoff) in
/-- **Starting a display**, scratch directory first: how a part of a trace goes on from a state. -/
def StartsDisplay (identity : Identity) (s : σ) (trace : List Event) : Prop :=
  ∃ made rest more,
    (startDisplay host config (Layout.of config.session.scratchRoot identity.uid)
      (plannedFor config handoff identity).display s).trace =
        .directoryAsked (Layout.of config.session.scratchRoot identity.uid).scratch made :: rest ∧
    trace = .directoryAsked (Layout.of config.session.scratchRoot identity.uid).scratch made ::
      rest ++ more

/-- A run that did not find its display says that it starts one, and goes on to do so. -/
theorem startsDisplay_remaining (users : Database) (name : String) (stages : List Stage)
    (identity : Identity) (s : σ) :
    ∃ later, StartsDisplay host config handoff identity s later ∧
      (remaining host config users name handoff stages (.checked identity false) s).trace =
        .reported (.startingDisplay identity.display) :: later := by
  obtain ⟨made, reports, hasked⟩ := ensureScratch_asks host.toStorage host.fileUser
    (Layout.of config.session.scratchRoot identity.uid).scratch s
  obtain ⟨rest', hdetached⟩ := Run.trace_bind (ensureScratch host.toStorage host.fileUser
    (Layout.of config.session.scratchRoot identity.uid).scratch) (fun _ => do
      detach host (plannedFor config handoff identity).display
      waitForDisplay host config.readiness
        (Layout.of config.session.scratchRoot identity.uid).screen) s
  rw [hasked, List.cons_append] at hdetached
  rw [remaining_eq host config users name handoff stages rfl, provide, if_neg Bool.false_ne_true,
    bind_assoc, Run.report_bind, bind_assoc]
  obtain ⟨more, htrace⟩ := Run.trace_bind (startDisplay host config
    (Layout.of config.session.scratchRoot identity.uid)
    (plannedFor config handoff identity).display) (fun _ => do
      let next ← (pure (.provided identity .launched) : Run σ Phase)
      let stages ← advance stages next.stage
      remaining host config users name handoff stages next) s
  refine ⟨_, ⟨made, _, more, hdetached, ?_⟩, rfl⟩
  exact htrace.trans (congrArg (· ++ more) hdetached)

/-- What a run has left behind by the end of its session check. -/
theorem checked_of_prepared {s t : σ} {trace : List Event} {identity : Identity}
    (h : Reached host config users name handoff s (.prepared identity) t trace)
    {answer : Probe} {notes : List Note} {u : σ}
    (hprobe : host.probe identity.uid t = ((answer, notes), u)) :
    Reached host config users name handoff s (.checked identity answer.isRunning) u
      (trace ++ (notes.map .noted ++ [.probed identity.uid answer]) ++
        (answer.report?.toList.map .reported ++ [.reported (.stage .sessionChecked)])) := by
  have hlook : look host identity t =
      ⟨.ok (.checked identity answer.isRunning), u,
        notes.map .noted ++ .probed identity.uid answer ::
          answer.report?.toList.map .reported⟩ := by
    have hcheck : checkSession host identity.uid t =
        ⟨.ok answer.isRunning, u, notes.map .noted ++ .probed identity.uid answer ::
          answer.report?.toList.map .reported⟩ := by
      simp only [checkSession, hprobe]
    rw [look, Run.bind_of_ok (a := answer.isRunning) _ (by rw [hcheck]), hcheck, Run.pure_apply,
      List.append_nil]
  have hok : (look host identity t).result = .ok (.checked identity answer.isRunning) := by
    rw [hlook]
  have hchecked := Reached.next h rfl hok
  rw [hlook] at hchecked
  simpa [Phase.stage] using hchecked

variable (host config handoff) in
/-- **What follows from a look**, by the answer of the tool. `between` is what the run leaves between
the look and its next step, and `later` is what it leaves from there on. -/
structure Decided (program : Path) (identity : Identity) (answer : Tool.Answer) (t : σ)
    (outcome : Outcome σ SessionReport) (between later : List Event) : Prop where
  /-- The run does nothing between the look and its next step. -/
  remarks : ∀ event ∈ between, event.IsRemark
  /-- The display is kept exactly if the tool lists processes. -/
  skipped : Stage.displaySkipped ∈ outcome.stages ↔ ∃ pids, answer.Lists pids
  /-- If it lists processes, those were found. -/
  present : ∀ pids, answer.Lists pids → Probe.ofAnswer program answer = .present pids
  /-- Otherwise the next step is to start a display. -/
  started : (¬ ∃ pids, answer.Lists pids) → StartsDisplay host config handoff identity t later
  /-- There is no warning if the tool says that nothing matched, whatever it printed. -/
  quiet : answer.NothingMatched → warnings between = []
  /-- There is exactly one if it says neither, and it carries the reason. -/
  warned : (¬ ∃ pids, answer.Lists pids) → ¬ answer.NothingMatched →
    ∃ reason, Probe.ofAnswer program answer = .failed reason ∧
      warnings between = [.queryFailed reason]

/-- What is left of a run behind its session check, cut at the next step. -/
theorem decided_of_checked {program : Path} {identity : Identity} {answer : Tool.Answer} {s t : σ}
    {trace : List Event}
    (h : Reached host config users name handoff s
      (.checked identity (Probe.ofAnswer program answer).isRunning) t trace) :
    ∃ between later,
      ((Probe.ofAnswer program answer).report?.toList.map .reported ++
          [.reported (.stage .sessionChecked)]) ++
        (remaining host config users name handoff
          (.start :: (Phase.checked identity (Probe.ofAnswer program answer).isRunning).path)
          (.checked identity (Probe.ofAnswer program answer).isRunning) t).trace =
        between ++ later ∧
      Decided host config handoff program identity answer t
        (run host config users name handoff s) between later := by
  have hskipped := skipped_iff h
  cases hprobe : Probe.ofAnswer program answer with
  | present pids =>
    rw [hprobe] at hskipped
    have hlists := Probe.ofAnswer_eq_present_iff.mp hprobe
    refine ⟨_, _, rfl, ?_, iff_of_true (hskipped.mpr rfl) ⟨pids, hlists⟩, ?_,
      fun hnone => absurd ⟨pids, hlists⟩ hnone, ?_, fun hnone => absurd ⟨pids, hlists⟩ hnone⟩
    · simp [Probe.report?, Event.IsRemark]
    · intro pids hlists
      exact Probe.ofAnswer_eq_present_iff.mpr hlists
    · intro _
      rfl
  | absent =>
    rw [hprobe] at hskipped
    have hmatched := Probe.ofAnswer_eq_absent_iff.mp hprobe
    have hnone : ¬ ∃ pids, answer.Lists pids := by
      rintro ⟨pids, hlists⟩
      cases hprobe.symm.trans (Probe.ofAnswer_eq_present_iff.mpr hlists)
    obtain ⟨later, hstarts, htrace⟩ := startsDisplay_remaining users name _ identity t
    refine ⟨[.reported (.stage .sessionChecked), .reported (.startingDisplay identity.display)],
      later, ?_, ?_, iff_of_false (fun h => by cases hskipped.mp h) hnone,
      fun pids hlists => absurd ⟨pids, hlists⟩ hnone, fun _ => hstarts, fun _ => rfl,
      fun _ hother => absurd hmatched hother⟩
    · exact congrArg _ htrace
    · simp [Event.IsRemark]
  | failed reason =>
    rw [hprobe] at hskipped
    have hnone : ¬ ∃ pids, answer.Lists pids := by
      rintro ⟨pids, hlists⟩
      cases hprobe.symm.trans (Probe.ofAnswer_eq_present_iff.mpr hlists)
    have hother : ¬ answer.NothingMatched := by
      intro hmatched
      cases hprobe.symm.trans (Probe.ofAnswer_eq_absent_iff.mpr hmatched)
    obtain ⟨later, hstarts, htrace⟩ := startsDisplay_remaining users name _ identity t
    refine ⟨[.reported (.queryFailed reason), .reported (.stage .sessionChecked),
        .reported (.startingDisplay identity.display)], later, ?_, ?_,
      iff_of_false (fun h => by cases hskipped.mp h) hnone,
      fun pids hlists => absurd ⟨pids, hlists⟩ hnone, fun _ => hstarts,
      fun hmatched => absurd hmatched hother, fun _ _ => ⟨reason, hprobe, rfl⟩⟩
    · exact congrArg _ htrace
    · simp [Event.IsRemark]

/-- **A failed look is never silent, and only the numbers that the tool lists keep a display.** In
every run that comes to the session check there is one look, made by asking the tool, and what
follows is decided by the tool's answer. -/
theorem session_checked {program : Path} {processName : String} {tool : σ → Tool}
    (hasks : AsksTool host program processName tool) {s : σ}
    (hstage : Stage.sessionChecked ∈ (run host config users name handoff s).stages) :
    ∃ (identity : Identity) (t : σ) (answer : Tool.Answer) (earlier between later : List Event),
      (Account.resolve users name).result = .ok identity ∧
      Happened host s earlier t ∧
      answer = tool t (Probe.question processName identity.uid) ∧
      (run host config users name handoff s).trace = earlier ++
        [.noted (.asked program (Probe.question processName identity.uid) answer),
          .probed identity.uid (Probe.ofAnswer program answer)] ++ (between ++ later) ∧
      Decided host config handoff program identity answer (host.probe identity.uid t).2
        (run host config users name handoff s) between later := by
  obtain ⟨phase, _, _, hlast, hstages⟩ := stages_run host config users name handoff s
  rw [hstages] at hstage
  obtain ⟨identity, t, earlier, hprepared⟩ := prepared_of_stage hlast hstage
  have hprobe : host.probe identity.uid t = ((Probe.ofAnswer program
        (tool t (Probe.question processName identity.uid)),
      [.asked program (Probe.question processName identity.uid)
        (tool t (Probe.question processName identity.uid))]), (host.probe identity.uid t).2) :=
    Prod.ext (hasks identity.uid t) rfl
  have hchecked := checked_of_prepared hprepared hprobe
  obtain ⟨between, later, hcut, hdecided⟩ := decided_of_checked hchecked
  refine ⟨identity, t, _, earlier, between, later, found_of_reached hprepared rfl,
    happened_of_reached hprepared, rfl, ?_, hdecided⟩
  rw [run_of_reached host config users name handoff hchecked, ← hcut]
  exact List.append_assoc _ _ _

/-- A tool that prints a number and fails. -/
def failingTool : Tool := fun _ =>
  .finished (.exited 2) (Utf8.ofString "17\n") []

/-- A rehearsal whose process table is asked through that tool. -/
def failingRehearsal : Host Rehearsal :=
  { Rehearsal.host with
    probe := fun uid s => (Probe.ask (.ofString "pgrep") failingTool "Xvfb" uid, s) }

/-- One user and no groups. -/
def loneAccount : Database :=
  Account.ofTable [⟨"alice", 1000, 1000, .ofString "/home/alice"⟩] []

/-- The number that the tool has printed does not keep the display, and its status is warned of. -/
theorem session_checked_failing :
    AsksTool failingRehearsal (.ofString "pgrep") "Xvfb" (fun _ => failingTool) ∧
    Stage.sessionChecked ∈ (run failingRehearsal Config.standard loneAccount "alice"
      (.ofString "/tmp/a") (.start {} .empty)).stages ∧
    ∃ (identity : Identity) (t : Rehearsal) (earlier between later : List Event),
      (run failingRehearsal Config.standard loneAccount "alice" (.ofString "/tmp/a")
        (.start {} .empty)).trace = earlier ++
          [.noted (.asked (.ofString "pgrep") (Probe.question "Xvfb" identity.uid)
            (failingTool [])), .probed identity.uid (.failed "pgrep exited with status 2")] ++
          (between ++ later) ∧
      StartsDisplay failingRehearsal Config.standard (.ofString "/tmp/a") identity t later ∧
      warnings between = [.queryFailed "pgrep exited with status 2"] := by
  have hasks : AsksTool failingRehearsal (.ofString "pgrep") "Xvfb" fun _ => failingTool :=
    fun _ _ => rfl
  have hstage : Stage.sessionChecked ∈ (run failingRehearsal Config.standard loneAccount "alice"
      (.ofString "/tmp/a") (.start {} .empty)).stages := by decide +kernel
  refine ⟨hasks, hstage, ?_⟩
  obtain ⟨identity, t, answer, earlier, between, later, -, -, rfl, htrace, hdecided⟩ :=
    session_checked hasks hstage
  have hfailed : Probe.ofAnswer (.ofString "pgrep") (failingTool []) =
      .failed "pgrep exited with status 2" := by decide +kernel
  have hnone : ¬ ∃ pids, (failingTool []).Lists pids := by
    rintro ⟨pids, hlists⟩
    cases hfailed.symm.trans (Probe.ofAnswer_eq_present_iff.mpr hlists)
  have hother : ¬ (failingTool []).NothingMatched := by
    intro hmatched
    cases hfailed.symm.trans (Probe.ofAnswer_eq_absent_iff.mpr hmatched)
  obtain ⟨reason, hreason, hwarned⟩ := hdecided.warned hnone hother
  cases hfailed.symm.trans hreason
  exact ⟨identity, _, earlier, between, later, hfailed ▸ htrace, hdecided.started hnone, hwarned⟩

end Bootstrap

end DisplaySession
