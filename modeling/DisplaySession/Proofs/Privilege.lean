import DisplaySession.Proofs.Run

/-
What becoming another user does, and how far it gets.

The drop is a list of privileged calls made in order and a look at the ids at the end. A list of
calls is made up to the first one that is refused (`performAll_cases`), so that the drop ends in one
of three ways (`dropPrivileges_cases`): at a refused call, at ids that are not the ones asked for,
or with everything granted and the right ids read back. Whichever it is, the trace holds the calls
that were granted, in their order, and nothing else before its last event.
-/
set_option autoImplicit false

namespace DisplaySession

namespace Event

/-- The event of a call that was granted. -/
def granted (call : PrivilegedCall) : Event :=
  .called call (.ok ())

/-- The event of a call that was refused. -/
def refused (call : PrivilegedCall) (cause : Cause) : Event :=
  .called call (.error cause)

end Event

open Event (granted refused)

section

variable {σ α : Type} (host : Host σ)

/-! ## Making one call -/

theorem perform_ok {call : PrivilegedCall} (failure : Cause → Failure) {s : σ}
    (h : (host.perform call s).1 = .ok ()) :
    Run.perform host call failure s = ⟨.ok (), (host.perform call s).2, [granted call]⟩ := by
  simp only [Run.perform, h, granted]
  rfl

theorem perform_error {call : PrivilegedCall} (failure : Cause → Failure) {s : σ} {cause : Cause}
    (h : (host.perform call s).1 = .error cause) :
    Run.perform host call failure s =
      ⟨.error (failure cause), (host.perform call s).2, [refused call cause]⟩ := by
  simp only [Run.perform, h, refused]
  rfl

/-! ## Making calls in order -/

/-- A call, and what its refusal ends the run as. -/
abbrev CallStep := PrivilegedCall × (Cause → Failure)

/-- **Makes calls in order**, up to the first one that is refused. -/
def performAll : List CallStep → Run σ Unit
  | [] => return ()
  | step :: steps => do
    Run.perform host step.1 step.2
    performAll steps

/-- **How far a list of calls gets**: to its end, or to the first call that is refused. -/
theorem performAll_cases (steps : List CallStep) (s : σ) :
    ((performAll host steps s).result = .ok () ∧
      (performAll host steps s).trace = steps.map fun step => granted step.1) ∨
    ∃ made step later cause, steps = made ++ step :: later ∧
      (performAll host steps s).result = .error (step.2 cause) ∧
      (performAll host steps s).trace =
        made.map (fun step => granted step.1) ++ [refused step.1 cause] := by
  -- The host may answer as it likes after each call, so the state stays general.
  induction steps generalizing s with
  | nil => exact .inl ⟨rfl, rfl⟩
  | cons step steps ih =>
    cases h : (host.perform step.1 s).1 with
    | error cause =>
      have hstep := perform_error host step.2 h
      right
      refine ⟨[], step, steps, cause, rfl, ?_⟩
      rw [performAll, Run.bind_of_error _ (by rw [hstep]), hstep]
      exact ⟨rfl, rfl⟩
    | ok _ =>
      have hstep := perform_ok host step.2 h
      rw [performAll, Run.bind_of_ok _ (a := ()) (by rw [hstep]), hstep]
      rcases ih (host.perform step.1 s).2 with ⟨hr, ht⟩ | ⟨made, bad, later, cause, rfl, hr, ht⟩
      · left
        refine ⟨hr, ?_⟩
        rw [ht]
        rfl
      · right
        refine ⟨step :: made, bad, later, cause, rfl, hr, ?_⟩
        rw [ht]
        rfl

theorem honest_performAll (steps : List CallStep) : Run.Honest host (performAll host steps) := by
  induction steps with
  | nil => exact Run.honest_pure ()
  | cons step steps ih => exact Run.honest_bind (Run.honest_perform _ _) fun _ => ih

/-! ## The drop -/

/-- The steps of the drop before the ids are read back, each with its call. -/
def dropSteps (identity : Identity) : List (DropStep × PrivilegedCall) :=
  [(.setGroups, .setGroups identity.groups), (.setGid, .setGid identity.gid),
    (.setUid, .setUid identity.uid), (.changeDirectory, .changeDirectory identity.home)]

/-- **The calls by which a process becomes an identity**, in their order. -/
def dropCalls (identity : Identity) : List PrivilegedCall :=
  (dropSteps identity).map (·.2)

/-- A step of the drop as a call whose refusal names the step. -/
def dropCall (step : DropStep × PrivilegedCall) : CallStep :=
  (step.2, .privilegeDrop step.1)

/-- Reads the ids back, and goes on only if they are the identity's. -/
def verifyIds (identity : Identity) : Run σ Unit := do
  let ids ← Run.readIds host
  if ids = identity.ids then Run.done ()
  else Run.fail (.privilegeDrop .verify (.wrongIds ids identity.ids))

theorem dropPrivileges_eq (identity : Identity) :
    dropPrivileges host identity = (do
      performAll host ((dropSteps identity).map dropCall)
      verifyIds host identity) := by
  simp only [dropSteps, dropCall, List.map_cons, List.map_nil, performAll, bind_assoc, pure_bind]
  rfl

theorem verifyIds_cases (identity : Identity) (s : σ) :
    (host.ids s = identity.ids ∧
      verifyIds host identity s = ⟨.ok (), s, [.idsRead identity.ids]⟩) ∨
    (host.ids s ≠ identity.ids ∧
      verifyIds host identity s =
        ⟨.error (.privilegeDrop .verify (.wrongIds (host.ids s) identity.ids)), s,
          [.idsRead (host.ids s)]⟩) := by
  have hread : (Run.readIds host s).result = .ok (host.ids s) := rfl
  by_cases h : host.ids s = identity.ids
  · left
    refine ⟨h, ?_⟩
    rw [verifyIds, Run.bind_of_ok _ hread, if_pos h, ← h]
    rfl
  · right
    refine ⟨h, ?_⟩
    rw [verifyIds, Run.bind_of_ok _ hread, if_neg h]
    rfl

/-- **How far a process gets in becoming an identity**: the result and the trace of a drop. -/
inductive Drop (identity : Identity) : Except Failure Unit → List Event → Prop
  /-- Everything was granted, and the ids are right. -/
  | complete :
    Drop identity (.ok ()) ((dropCalls identity).map granted ++ [.idsRead identity.ids])
  /-- The call of a step was refused. -/
  | refused {made later : List (DropStep × PrivilegedCall)} {step : DropStep × PrivilegedCall}
    (cause : Cause) (h : dropSteps identity = made ++ step :: later) :
    Drop identity (.error (.privilegeDrop step.1 cause))
      ((made.map (·.2)).map granted ++ [Event.refused step.2 cause])
  /-- Everything was granted, and the ids are wrong. -/
  | strayed {ids : ProcessIds} (h : ids ≠ identity.ids) :
    Drop identity (.error (.privilegeDrop .verify (.wrongIds ids identity.ids)))
      ((dropCalls identity).map granted ++ [.idsRead ids])

/-- **Every drop ends in one of the three ways.** -/
theorem dropPrivileges_cases (identity : Identity) (s : σ) :
    Drop identity (dropPrivileges host identity s).result
      (dropPrivileges host identity s).trace := by
  have hgranted (steps : List (DropStep × PrivilegedCall)) :
      (steps.map dropCall).map (fun step => granted step.1) = (steps.map (·.2)).map granted := by
    rw [List.map_map, List.map_map]
    rfl
  rw [dropPrivileges_eq]
  rcases performAll_cases host ((dropSteps identity).map dropCall) s with
    ⟨hr, ht⟩ | ⟨made, step, later, cause, hsteps, hr, ht⟩
  · rw [Run.bind_of_ok _ hr, ht, hgranted]
    rcases verifyIds_cases host identity
      (performAll host ((dropSteps identity).map dropCall) s).state with ⟨-, hv⟩ | ⟨hids, hv⟩
    · rw [hv]
      exact .complete
    · rw [hv]
      exact .strayed hids
  · -- The calls of the list are the images of steps, so its cut is the image of a cut.
    obtain ⟨first, rest, hcut, hfirst, hrest⟩ := List.map_eq_append_iff.mp hsteps
    obtain ⟨bad, last, rfl, rfl, -⟩ := List.map_eq_cons_iff.mp hrest
    rw [Run.bind_of_error _ hr, ht, ← hfirst, hgranted]
    exact .refused cause hcut

theorem honest_dropPrivileges (identity : Identity) :
    Run.Honest host (dropPrivileges host identity) := by
  rw [dropPrivileges_eq]
  refine Run.honest_bind (honest_performAll host _) fun _ => ?_
  refine Run.honest_bind Run.honest_readIds fun ids => ?_
  split
  · exact Run.honest_pure ()
  · exact Run.honest_fail _

end

end DisplaySession
