import DisplaySession.Proofs.Bootstrap.Trail

/-
The parts of a run that reach beyond the process.

Of all that a run does, two parts make directories, launch children or look for files: starting the
display and launching the server. Everything else leaves idle events. So a property of traces that
holds of idle ones and goes over to two traces in a row holds of every run if it holds of these two
parts (`holds_run`), and it is enough to show it of them for the identity that was found.
-/
set_option autoImplicit false

namespace DisplaySession

/-- An event that makes no directory, launches nothing and looks for no file. -/
def Event.IsIdle : Event → Prop
  | .directoryAsked .. | .detached .. | .looked .. => False
  | _ => True

/-- **A property of traces that goes from parts to the whole.** -/
structure Composes (holds : List Event → Prop) : Prop where
  idle : ∀ trace, (∀ event ∈ trace, event.IsIdle) → holds trace
  append : ∀ first second, holds first → holds second → holds (first ++ second)

namespace Bootstrap

variable {σ : Type} {host : Host σ} {config : Config} {users : Database} {name : String}
  {handoff : Path} {holds : List Event → Prop}

/-- **What holds of the two parts for an identity holds of every operation** of its session. -/
theorem holds_operation (hcomposes : Composes holds) {phase : Phase} {operation : Run σ Phase}
    (hstart : ∀ identity, phase.identity? = some identity → ∀ s,
      holds (startDisplay host config (Layout.of config.session.scratchRoot identity.uid)
        (plannedFor config handoff identity).display s).trace)
    (hserve : ∀ identity, phase.identity? = some identity → ∀ s,
      holds (detach host (plannedFor config handoff identity).server s).trace)
    (hop : operation? host config users name handoff phase = some operation) (s : σ) :
    holds (operation s).trace := by
  have hearly (hsettled : settledAs phase = none) :
      ∀ event ∈ (operation s).trace, event.IsIdle :=
    leaves_transition_of (fun _ _ => trivial) (fun _ => trivial) (fun _ => trivial)
      (fun _ _ => trivial) hsettled hop s
  cases phase with
  | begun | identified _ | handedOver _ => exact hcomposes.idle _ (hearly rfl)
  | dropped _ =>
    cases hop
    exact hcomposes.idle _ (Run.leaves_pure _ s)
  | prepared identity =>
    cases hop
    refine hcomposes.idle _ (Run.leaves_bind ?_ (fun _ => Run.leaves_pure _) s)
    intro s event he
    rcases List.mem_append.mp he with he | he
    · obtain ⟨note, -, rfl⟩ := List.mem_map.mp he
      trivial
    rcases List.mem_cons.mp he with rfl | he
    · trivial
    · obtain ⟨d, -, rfl⟩ := List.mem_map.mp he
      trivial
  | checked identity running =>
    cases hop
    cases running with
    | true =>
      exact hcomposes.idle _ (Run.leaves_bind (Run.leaves_report trivial)
        (fun _ => Run.leaves_pure _) s)
    | false =>
      rw [provide, if_neg Bool.false_ne_true, Run.report_bind, Run.trace_bind_pure]
      exact hcomposes.append [_] _ (hcomposes.idle _ (by simp [Event.IsIdle]))
        (hstart identity rfl s)
  | provided identity decision =>
    cases hop
    rw [serve, Run.report_bind, Run.trace_bind_pure]
    exact hcomposes.append [_] _ (hcomposes.idle _ (by simp [Event.IsIdle]))
      (hserve identity rfl s)
  | serving _ _ =>
    cases hop
    exact hcomposes.idle _ (Run.leaves_bind (Run.leaves_report trivial)
      (fun _ => Run.leaves_pure _) s)
  | complete _ _ => cases hop

section

variable (hcomposes : Composes holds)
  (hstart : ∀ identity, (Account.resolve users name).result = .ok identity → ∀ s,
    holds (startDisplay host config (Layout.of config.session.scratchRoot identity.uid)
      (plannedFor config handoff identity).display s).trace)
  (hserve : ∀ identity, (Account.resolve users name).result = .ok identity → ∀ s,
    holds (detach host (plannedFor config handoff identity).server s).trace)

include hcomposes hstart hserve

theorem holds_of_reached {s t : σ} {phase : Phase} {trace : List Event}
    (h : Reached host config users name handoff s phase t trace) : holds trace := by
  induction h with
  | begun => exact hcomposes.idle _ (by simp)
  | @next phase next t trace operation h hop hok ih =>
    refine hcomposes.append _ _ (hcomposes.append _ _ ih ?_)
      (hcomposes.idle _ (by simp [Event.IsIdle]))
    exact holds_operation hcomposes
      (fun identity hphase => hstart identity (found_of_reached h hphase))
      (fun identity hphase => hserve identity (found_of_reached h hphase)) hop t

/-- **What holds of the two parts for the identity that is found holds of every run**, however it
ends. -/
theorem holds_run (s : σ) : holds (run host config users name handoff s).trace := by
  have hended := run_ended host config users name handoff s
  generalize run host config users name handoff s = outcome at hended ⊢
  cases hended with
  | complete h => exact holds_of_reached hcomposes hstart hserve h
  | failed h hop herror =>
    refine hcomposes.append _ _ (holds_of_reached hcomposes hstart hserve h) ?_
    exact holds_operation hcomposes
      (fun identity hphase => hstart identity (found_of_reached h hphase))
      (fun identity hphase => hserve identity (found_of_reached h hphase)) hop _

end

end Bootstrap

end DisplaySession
