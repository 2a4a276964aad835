import DisplaySession.Proofs.Privilege

/-
A session as a sequence of phases.

Between two stages of a run lies one operation. A phase is how far the run has come and all that it
knows by then; its operation, if there is one left, either fails and ends the run or leads to the
next phase, whose stage is then reported. `remaining_eq` says that the run is nothing but these
operations and reports, one after another.

`Reached` collects the phases that a run on a given host comes to, each with the state of the host
and the trace up to then. The stages that the run has collected at a phase are the path that leads
to it (`run_of_reached`). A run either comes to the last phase, with the whole path in its report, or
ends at the first operation that fails (`run_ended`); every statement about whole runs below is an
invariant of `Reached`.
-/
set_option autoImplicit false

namespace DisplaySession

/-- **The stages of a complete run**, by what happened to the display. -/
def DisplayDecision.trail (decision : DisplayDecision) : List Stage :=
  [.start, .identityResolved, .handoffOwnershipTransferred, .privilegeDropped,
    .environmentPrepared, .sessionChecked, decision.stage, .streamingServerLaunched, .done]

/-- **How far a run has come**, with what it knows by then. -/
inductive Phase
  | begun
  | identified (identity : Identity)
  | handedOver (identity : Identity)
  | dropped (identity : Identity)
  | prepared (identity : Identity)
  | checked (identity : Identity) (running : Bool)
  | provided (identity : Identity) (decision : DisplayDecision)
  | serving (identity : Identity) (decision : DisplayDecision)
  | complete (identity : Identity) (decision : DisplayDecision)

namespace Phase

/-- The stage that is reported when a phase is reached. -/
def stage : Phase → Stage
  | begun => .start
  | identified _ => .identityResolved
  | handedOver _ => .handoffOwnershipTransferred
  | dropped _ => .privilegeDropped
  | prepared _ => .environmentPrepared
  | checked _ _ => .sessionChecked
  | provided _ decision => decision.stage
  | serving _ _ => .streamingServerLaunched
  | complete _ _ => .done

/-- **The stages that are reported up to a phase.** -/
def path : Phase → List Stage
  | begun => []
  | identified _ => [.identityResolved]
  | handedOver _ => [.identityResolved, .handoffOwnershipTransferred]
  | dropped _ => [.identityResolved, .handoffOwnershipTransferred, .privilegeDropped]
  | prepared _ =>
    [.identityResolved, .handoffOwnershipTransferred, .privilegeDropped, .environmentPrepared]
  | checked _ _ =>
    [.identityResolved, .handoffOwnershipTransferred, .privilegeDropped, .environmentPrepared,
      .sessionChecked]
  | provided _ decision =>
    [.identityResolved, .handoffOwnershipTransferred, .privilegeDropped, .environmentPrepared,
      .sessionChecked, decision.stage]
  | serving _ decision =>
    [.identityResolved, .handoffOwnershipTransferred, .privilegeDropped, .environmentPrepared,
      .sessionChecked, decision.stage, .streamingServerLaunched]
  | complete _ decision =>
    [.identityResolved, .handoffOwnershipTransferred, .privilegeDropped, .environmentPrepared,
      .sessionChecked, decision.stage, .streamingServerLaunched, .done]

/-- Whose session it is, from the phase on in which that is known. -/
def identity? : Phase → Option Identity
  | begun => none
  | identified identity | handedOver identity | dropped identity | prepared identity
  | checked identity _ | provided identity _ | serving identity _ | complete identity _ =>
    some identity

/-- The number of operations that are left. -/
def left : Phase → Nat
  | begun => 8
  | identified _ => 7
  | handedOver _ => 6
  | dropped _ => 5
  | prepared _ => 4
  | checked _ _ => 3
  | provided _ _ => 2
  | serving _ _ => 1
  | complete _ _ => 0

/-- What a run reports that has come to its last phase. -/
def report (config : Config) (identity : Identity) (decision : DisplayDecision) : SessionReport :=
  ⟨identity, Layout.of config.session.scratchRoot identity.uid, decision, decision.trail⟩

end Phase

/-- **The children of an identity's session** under these settings. -/
def plannedFor (config : Config) (handoff : Path) (identity : Identity) : LaunchPlan :=
  LaunchPlan.of config identity (Layout.of config.session.scratchRoot identity.uid) handoff

namespace Bootstrap

variable {σ : Type} (host : Host σ) (config : Config) (users : Database) (name : String)
  (handoff : Path)

/-! ## Operations -/

/-- Finds the identity, and says whom it found. -/
def identify : Run σ Phase := do
  let identity ← Run.consult (Account.resolve users name)
  Run.report (.identityFound identity.username identity.uid identity.gid identity.groups)
  return .identified identity

/-- Gives the handoff away. -/
def handOver (identity : Identity) : Run σ Phase := do
  Run.report (.handing handoff identity.username)
  transferOwnership host handoff identity
  return .handedOver identity

/-- Becomes the identity. -/
def drop (identity : Identity) : Run σ Phase := do
  dropPrivileges host identity
  Run.report (.runningAs identity.uid)
  return .dropped identity

/-- Looks for a running display. -/
def look (identity : Identity) : Run σ Phase := do
  let running ← checkSession host identity.uid
  return .checked identity running

/-- Starts the display unless it runs. -/
def provide (identity : Identity) (running : Bool) : Run σ Phase := do
  if running then
    Run.report (.displayKept identity.display)
    return .provided identity .skipped
  else
    Run.report (.startingDisplay identity.display)
    startDisplay host config (Layout.of config.session.scratchRoot identity.uid)
      (plannedFor config handoff identity).display
    return .provided identity .launched

/-- Starts the video server. -/
def serve (identity : Identity) (decision : DisplayDecision) : Run σ Phase := do
  Run.report (.startingServer handoff)
  detach host (plannedFor config handoff identity).server
  return .serving identity decision

/-- Says that the session is complete. -/
def finish (identity : Identity) (decision : DisplayDecision) : Run σ Phase := do
  Run.report (.sessionReady identity.username identity.display (decision = .launched))
  return .complete identity decision

/-- **The operation that follows a phase**, if one does. -/
def operation? : Phase → Option (Run σ Phase)
  | .begun => some (identify users name)
  | .identified identity => some (handOver host handoff identity)
  | .handedOver identity => some (drop host identity)
  | .dropped identity => some (return .prepared identity)
  | .prepared identity => some (look host identity)
  | .checked identity running => some (provide host config handoff identity running)
  | .provided identity decision => some (serve host config handoff identity decision)
  | .serving identity decision => some (finish identity decision)
  | .complete _ _ => none

/-! ## The run as operations -/

/-- The end of a run whose server runs. -/
def concluding (stages : List Stage) (identity : Identity) (decision : DisplayDecision) :
    Run σ SessionReport := do
  Run.report (.sessionReady identity.username identity.display (decision = .launched))
  let stages ← advance stages .done
  return ⟨identity, Layout.of config.session.scratchRoot identity.uid, decision, stages⟩

/-- The end of a run whose display is there. -/
def finishing (stages : List Stage) (identity : Identity) (decision : DisplayDecision) :
    Run σ SessionReport := do
  startServer host handoff (plannedFor config handoff identity).server
  let stages ← advance stages .streamingServerLaunched
  concluding config stages identity decision

/-- The part of a run that begins when it is known whether the display runs. -/
def deciding (stages : List Stage) (identity : Identity) (running : Bool) :
    Run σ SessionReport := do
  let decision ← provideDisplay host config identity
    (Layout.of config.session.scratchRoot identity.uid)
    (plannedFor config handoff identity).display running
  let stages ← advance stages decision.stage
  finishing host config handoff stages identity decision

/-- The part of a run that begins when its children are planned. -/
def looking (stages : List Stage) (identity : Identity) : Run σ SessionReport := do
  let running ← checkSession host identity.uid
  let stages ← advance stages .sessionChecked
  deciding host config handoff stages identity running

/-- The part of a run that begins when the process has become the identity. -/
def settling (stages : List Stage) (identity : Identity) : Run σ SessionReport := do
  let stages ← advance stages .environmentPrepared
  looking host config handoff stages identity

/-- The part of a run that begins when the handoff is given away. -/
def becoming (stages : List Stage) (identity : Identity) : Run σ SessionReport := do
  becomeIdentity host identity
  let stages ← advance stages .privilegeDropped
  settling host config handoff stages identity

/-- The part of a run that begins when its identity is found. -/
def handing (stages : List Stage) (identity : Identity) : Run σ SessionReport := do
  giveHandoff host handoff identity
  let stages ← advance stages .handoffOwnershipTransferred
  becoming host config handoff stages identity

/-- **What is left of a run at a phase**, with the stages that were collected up to then. -/
def remaining (stages : List Stage) : Phase → Run σ SessionReport
  | .begun => do
    let identity ← findIdentity users name
    let stages ← advance stages .identityResolved
    handing host config handoff stages identity
  | .identified identity => handing host config handoff stages identity
  | .handedOver identity => becoming host config handoff stages identity
  | .dropped identity => settling host config handoff stages identity
  | .prepared identity => looking host config handoff stages identity
  | .checked identity running => deciding host config handoff stages identity running
  | .provided identity decision => finishing host config handoff stages identity decision
  | .serving identity decision => concluding config stages identity decision
  | .complete identity decision =>
    return ⟨identity, Layout.of config.session.scratchRoot identity.uid, decision, stages⟩

/-- A run begins at its first phase, with that stage collected. -/
theorem run_eq_remaining :
    run host config users name handoff = remaining host config users name handoff [.start] .begun :=
  rfl

/-- **A run is its operations, each followed by the report of its stage**, which is collected. -/
theorem remaining_eq {phase : Phase} {operation : Run σ Phase} (stages : List Stage)
    (h : operation? host config users name handoff phase = some operation) :
    remaining host config users name handoff stages phase = (do
      let next ← operation
      let stages ← advance stages next.stage
      remaining host config users name handoff stages next) := by
  -- Both sides do the same in the same order; the laws of runs bring them into one form.
  cases phase <;> simp only [operation?, Option.some.injEq, reduceCtorEq] at h <;> subst h
  case begun =>
    simp only [remaining, findIdentity, identify, bind_assoc, pure_bind]
    rfl
  case identified identity =>
    simp only [remaining, handing, giveHandoff, handOver, bind_assoc, pure_bind]
    rfl
  case handedOver identity =>
    simp only [remaining, becoming, becomeIdentity, drop, bind_assoc, pure_bind]
    rfl
  case dropped identity =>
    simp only [remaining, settling, pure_bind]
    rfl
  case prepared identity =>
    simp only [remaining, looking, look, bind_assoc, pure_bind]
    rfl
  case checked identity running =>
    cases running
    · simp only [remaining, deciding, provideDisplay, provide, bind_assoc, pure_bind,
        Bool.false_eq_true, if_false]
      rfl
    · simp only [remaining, deciding, provideDisplay, provide, bind_assoc, pure_bind, if_true]
      rfl
  case provided identity decision =>
    simp only [remaining, finishing, startServer, serve, bind_assoc, pure_bind]
    rfl
  case serving identity decision =>
    simp only [remaining, concluding, finish, bind_assoc, pure_bind]
    rfl

/-! ## From phase to phase -/

/-- **Which phase follows which** when an operation succeeds. -/
inductive Leads : Phase → Phase → Prop
  | identified {identity : Identity} (h : (Account.resolve users name).result = .ok identity) :
    Leads .begun (.identified identity)
  | handedOver (identity : Identity) : Leads (.identified identity) (.handedOver identity)
  | dropped (identity : Identity) : Leads (.handedOver identity) (.dropped identity)
  | prepared (identity : Identity) : Leads (.dropped identity) (.prepared identity)
  | checked (identity : Identity) (running : Bool) :
    Leads (.prepared identity) (.checked identity running)
  | kept (identity : Identity) : Leads (.checked identity true) (.provided identity .skipped)
  | started (identity : Identity) : Leads (.checked identity false) (.provided identity .launched)
  | serving (identity : Identity) (decision : DisplayDecision) :
    Leads (.provided identity decision) (.serving identity decision)
  | complete (identity : Identity) (decision : DisplayDecision) :
    Leads (.serving identity decision) (.complete identity decision)

theorem leads_of_ok {phase next : Phase} {operation : Run σ Phase} {s : σ}
    (hop : operation? host config users name handoff phase = some operation)
    (h : (operation s).result = .ok next) : Leads users name phase next := by
  cases phase <;> simp only [operation?, Option.some.injEq, reduceCtorEq] at hop <;> subst hop
  case begun =>
    obtain ⟨identity, hfound, h⟩ := Run.ok_of_bind h
    obtain ⟨_, -, h⟩ := Run.ok_of_bind h
    cases h
    exact .identified hfound
  case identified identity =>
    obtain ⟨_, -, h⟩ := Run.ok_of_bind h
    obtain ⟨_, -, h⟩ := Run.ok_of_bind h
    cases h
    exact .handedOver identity
  case handedOver identity =>
    obtain ⟨_, -, h⟩ := Run.ok_of_bind h
    obtain ⟨_, -, h⟩ := Run.ok_of_bind h
    cases h
    exact .dropped identity
  case dropped identity =>
    cases h
    exact .prepared identity
  case prepared identity =>
    obtain ⟨running, -, h⟩ := Run.ok_of_bind h
    cases h
    exact .checked identity running
  case checked identity running =>
    cases running
    · obtain ⟨_, -, h⟩ := Run.ok_of_bind h
      obtain ⟨_, -, h⟩ := Run.ok_of_bind h
      cases h
      exact .started identity
    · obtain ⟨_, -, h⟩ := Run.ok_of_bind h
      cases h
      exact .kept identity
  case provided identity decision =>
    obtain ⟨_, -, h⟩ := Run.ok_of_bind h
    obtain ⟨_, -, h⟩ := Run.ok_of_bind h
    cases h
    exact .serving identity decision
  case serving identity decision =>
    obtain ⟨_, -, h⟩ := Run.ok_of_bind h
    cases h
    exact .complete identity decision

variable {users name} in
theorem path_of_leads {phase next : Phase} (h : Leads users name phase next) :
    next.path = phase.path ++ [next.stage] := by
  cases h <;> rfl

variable {users name} in
theorem left_of_leads {phase next : Phase} (h : Leads users name phase next) :
    phase.left = next.left + 1 := by
  cases h <;> rfl

/-! ## The phases of a run on a host -/

/-- **The phases that a run comes to**, each with the state of the host and the trace up to then. -/
inductive Reached (s : σ) : Phase → σ → List Event → Prop
  | begun : Reached s .begun s []
  | next {phase next : Phase} {t : σ} {trace : List Event} {operation : Run σ Phase}
    (h : Reached s phase t trace)
    (hop : operation? host config users name handoff phase = some operation)
    (hok : (operation t).result = .ok next) :
    Reached s next (operation t).state
      (trace ++ (operation t).trace ++ [.reported (.stage next.stage)])

variable {host config users name handoff} in
theorem found_of_reached {s t : σ} {phase : Phase} {trace : List Event} {identity : Identity}
    (h : Reached host config users name handoff s phase t trace)
    (hphase : phase.identity? = some identity) :
    (Account.resolve users name).result = .ok identity := by
  induction h with
  | begun => cases hphase
  | next h hop hok ih =>
    cases leads_of_ok host config users name handoff hop hok with
    | identified hfound =>
      cases hphase
      exact hfound
    | _ => exact ih hphase

/-- **From a phase on, a run does what is left of it** in the state it has come to, with the path of
the phase collected. -/
theorem run_of_reached {s t : σ} {phase : Phase} {trace : List Event}
    (h : Reached host config users name handoff s phase t trace) :
    run host config users name handoff s =
      ⟨(remaining host config users name handoff (.start :: phase.path) phase t).result,
        (remaining host config users name handoff (.start :: phase.path) phase t).state,
        trace ++
          (remaining host config users name handoff (.start :: phase.path) phase t).trace⟩ := by
  induction h with
  | begun => rfl
  | next h hop hok ih =>
    rw [ih, remaining_eq host config users name handoff _ hop, Run.bind_of_ok _ hok,
      Run.bind_of_ok _ rfl, List.append_assoc, List.append_assoc,
      path_of_leads (leads_of_ok host config users name handoff hop hok)]
    rfl

variable {host config users name handoff} in
/-- A run comes to one phase at most with so many operations left. -/
theorem reached_unique {s t t' : σ} {phase phase' : Phase} {trace trace' : List Event}
    (h : Reached host config users name handoff s phase t trace)
    (h' : Reached host config users name handoff s phase' t' trace')
    (hleft : phase.left = phase'.left) : phase = phase' ∧ t = t' ∧ trace = trace' := by
  -- The first phase has the most operations left, so nothing leads to another one like it.
  have hmost (phase : Phase) : phase.left ≤ Phase.begun.left := by
    cases phase <;> simp [Phase.left]
  induction h generalizing phase' t' trace' with
  | begun =>
    cases h' with
    | begun => exact ⟨rfl, rfl, rfl⟩
    | @next first _ t' _ _ h' hop' hok' =>
      have hfirst := left_of_leads (leads_of_ok host config users name handoff hop' hok')
      have hbound := hmost first
      omega
  | @next first next t trace operation h hop hok ih =>
    have hnext := left_of_leads (leads_of_ok host config users name handoff hop hok)
    cases h' with
    | begun =>
      have hbound := hmost first
      omega
    | @next first' next' t' trace' operation' h' hop' hok' =>
      have hnext' := left_of_leads (leads_of_ok host config users name handoff hop' hok')
      obtain ⟨rfl, rfl, rfl⟩ := ih h' (by omega)
      obtain rfl := Option.some.inj (hop.symm.trans hop')
      obtain rfl := Except.ok.inj (hok.symm.trans hok')
      exact ⟨rfl, rfl, rfl⟩

/-- **How a run ends**: at its last phase, or with the failure of an operation. -/
inductive Ended (s : σ) : Outcome σ SessionReport → Prop
  | complete {identity : Identity} {decision : DisplayDecision} {t : σ} {trace : List Event}
    (h : Reached host config users name handoff s (.complete identity decision) t trace) :
    Ended s ⟨.ok (Phase.report config identity decision), t, trace⟩
  | failed {phase : Phase} {t : σ} {trace : List Event} {operation : Run σ Phase}
    {failure : Failure} (h : Reached host config users name handoff s phase t trace)
    (hop : operation? host config users name handoff phase = some operation)
    (herror : (operation t).result = .error failure) :
    Ended s ⟨.error failure, (operation t).state, trace ++ (operation t).trace⟩

/-- What is left at a phase that was reached ends in one of the two ways. -/
theorem ended_remaining {s t : σ} {phase : Phase} {trace : List Event}
    (h : Reached host config users name handoff s phase t trace) :
    Ended host config users name handoff s
      ⟨(remaining host config users name handoff (.start :: phase.path) phase t).result,
        (remaining host config users name handoff (.start :: phase.path) phase t).state,
        trace ++
          (remaining host config users name handoff (.start :: phase.path) phase t).trace⟩ := by
  -- A run that goes on has one operation less to make, whatever the operation does.
  induction hn : phase.left generalizing phase t trace with
  | zero =>
    cases phase with
    | complete identity decision =>
      rw [remaining, Run.pure_apply, List.append_nil]
      exact .complete h
    | _ => exact absurd hn (Nat.succ_ne_zero _)
  | succ n ih =>
    cases hop : operation? host config users name handoff phase with
    | none =>
      cases phase <;> simp only [operation?, reduceCtorEq] at hop
      exact absurd hn (Nat.zero_ne_add_one n)
    | some operation =>
      rw [remaining_eq host config users name handoff _ hop]
      cases hr : (operation t).result with
      | error failure =>
        rw [Run.bind_of_error _ hr]
        exact .failed h hop hr
      | ok next =>
        have hleads := leads_of_ok host config users name handoff hop hr
        have hleft := left_of_leads hleads
        have hended := ih (.next h hop hr) (by omega)
        rw [Run.bind_of_ok _ hr, Run.bind_of_ok _ rfl]
        rw [path_of_leads hleads, List.append_assoc, List.append_assoc] at hended
        exact hended

/-- **Every run ends in one of the two ways.** -/
theorem run_ended (s : σ) :
    Ended host config users name handoff s (run host config users name handoff s) :=
  ended_remaining host config users name handoff .begun

end Bootstrap

end DisplaySession
