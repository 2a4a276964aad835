import DisplaySession.Machine
import DisplaySession.Proofs.Privilege
import DisplaySession.Rehearsal

/-
How far a drop gets, and what is left of it.

The calls of a drop are made one after another up to the first one that is refused, and the failure
names the step of that call and carries the cause it was refused for. Behind four granted calls the
ids decide: only the identity's own end the drop well. Nothing is taken back and nothing is tried
again, so the process is where the granted calls have led it (`dropPrivileges_reach`).

What a refused call does to the ids is up to the host. The hosts of this library leave them alone
(`Host.RefusesInPlace`), and on every such host the ids are those that the granted calls make.
-/
set_option autoImplicit false

namespace DisplaySession

open Event (granted refused)

/-- **A call that is refused leaves the ids of the process as they are.** -/
def Host.RefusesInPlace {σ : Type} (host : Host σ) : Prop :=
  ∀ call s cause, (host.perform call s).1 = .error cause →
    host.ids (host.perform call s).2 = host.ids s

theorem Rehearsal.refusesInPlace : Rehearsal.host.RefusesInPlace := by
  intro call s cause h
  by_cases hfails : s.rules.failingCall = some call.name
  · show (Rehearsal.perform call s).2.ids = s.ids
    rw [Rehearsal.perform, if_pos hfails]
  · have hgranted : (Rehearsal.perform call s).1 = .error cause := h
    rw [Rehearsal.perform, if_neg hfails] at hgranted
    cases hgranted

theorem Machine.refusesInPlace (settings : SessionSettings) :
    (Machine.host settings).RefusesInPlace := by
  intro call machine cause h
  have hrefused : (Machine.perform call machine).1 = .error cause := h
  show (Machine.perform call machine).2.ids = machine.ids
  unfold Machine.perform at hrefused ⊢
  cases hcall : machine.call call with
  | ok machine' =>
    rw [hcall] at hrefused
    cases hrefused
  | error cause' => rfl

section

variable {σ : Type} (host : Host σ) (identity : Identity) (s : σ)

/-- **How far a drop gets from a state.** The granted calls lead to the state `t`; there the drop
ends at a call that is refused, or behind the last call with a look at the ids. -/
inductive DropReach (t : σ) : Outcome σ Unit → Prop
  /-- The call of a step was refused in `t`, and no further call was made. -/
  | refused {made later : List (DropStep × PrivilegedCall)} {step : DropStep × PrivilegedCall}
    {cause : Cause} (hsteps : dropSteps identity = made ++ step :: later)
    (hmade : Happened host s ((made.map (·.2)).map granted) t)
    (hrefused : (host.perform step.2 t).1 = .error cause) :
    DropReach t ⟨.error (.privilegeDrop step.1 cause), (host.perform step.2 t).2,
      (made.map (·.2)).map granted ++ [refused step.2 cause]⟩
  /-- All calls were granted, and the ids in `t` are the identity's. -/
  | verified (hmade : Happened host s ((dropCalls identity).map granted) t)
    (hids : host.ids t = ⟨identity.uid, identity.uid, identity.gid, identity.gid⟩) :
    DropReach t ⟨.ok (), t, (dropCalls identity).map granted ++ [.idsRead (host.ids t)]⟩
  /-- All calls were granted, and the ids in `t` are others. -/
  | strayed (hmade : Happened host s ((dropCalls identity).map granted) t)
    (hids : host.ids t ≠ ⟨identity.uid, identity.uid, identity.gid, identity.gid⟩) :
    DropReach t ⟨.error (.privilegeDrop .verify (.wrongIds (host.ids t)
        ⟨identity.uid, identity.uid, identity.gid, identity.gid⟩)), t,
      (dropCalls identity).map granted ++ [.idsRead (host.ids t)]⟩

theorem exists_dropReach :
    ∃ t, DropReach host identity s t (dropPrivileges host identity s) := by
  have hdrop := dropPrivileges_cases host identity s
  have hhappened := honest_dropPrivileges host identity s
  generalize dropPrivileges host identity s = outcome at hdrop hhappened ⊢
  obtain ⟨result, state, trace⟩ := outcome
  dsimp only at hdrop hhappened
  -- The trace is what happened to the host, so it splits at the state behind the granted calls.
  cases hdrop with
  | complete =>
    obtain ⟨_, hmade, hids, rfl⟩ := happened_split hhappened
    have hread : host.ids state = identity.ids := hids
    rw [← hread]
    exact ⟨state, .verified hmade hread⟩
  | refused cause hsteps =>
    obtain ⟨t, hmade, hrefused, rfl⟩ := happened_split hhappened
    exact ⟨t, .refused hsteps hmade hrefused⟩
  | strayed hids =>
    obtain ⟨_, hmade, hread, rfl⟩ := happened_split hhappened
    obtain rfl : host.ids state = _ := hread
    exact ⟨state, .strayed hmade hids⟩

variable {host identity s} {t : σ} {outcome : Outcome σ Unit}

/-- **A drop ends well exactly if every call is granted and the ids are right.** -/
theorem DropReach.ok_iff (h : DropReach host identity s t outcome) :
    outcome.result = .ok () ↔ Happened host s ((dropCalls identity).map granted) t ∧
      host.ids t = ⟨identity.uid, identity.uid, identity.gid, identity.gid⟩ := by
  cases h with
  | @refused made later step cause hsteps hmade hrefused =>
    refine ⟨nofun, ?_⟩
    rintro ⟨hall, -⟩
    -- If all calls were granted, this one was, in the state in which it was refused.
    rw [dropCalls, hsteps, List.map_append, List.map_append] at hall
    obtain ⟨u, hmade', hgranted, -⟩ := happened_split hall
    rw [happened_unique hmade' hmade] at hgranted
    cases hrefused.symm.trans hgranted
  | verified hmade hids => exact ⟨fun _ => ⟨hmade, hids⟩, fun _ => rfl⟩
  | strayed hmade hids => exact ⟨nofun, fun h => absurd h.2 hids⟩

/-- Where refusals leave the ids alone, they are those that the granted calls make. -/
theorem DropReach.ids_state (h : DropReach host identity s t outcome)
    (hhost : host.RefusesInPlace) : host.ids outcome.state = host.ids t := by
  cases h with
  | refused hsteps hmade hrefused => exact hhost _ _ _ hrefused
  | verified hmade hids => rfl
  | strayed hmade hids => rfl

end

/-- **A drop says exactly how far it got.** On every host, from every state, the granted calls lead
to one state, and there the drop ends at the first call that is refused, with the step and the cause
of that call, or behind the last one, by what the ids are. It ends well only if every call is granted
and the ids are the identity's. If the host leaves the ids alone when it refuses a call, the ids
afterwards are those that the granted calls make, whichever way the drop ends. -/
theorem dropPrivileges_reach {σ : Type} (host : Host σ) (identity : Identity) (s : σ) :
    ∃ t, DropReach host identity s t (dropPrivileges host identity s) ∧
      ((dropPrivileges host identity s).result = .ok () ↔
        Happened host s ((dropCalls identity).map granted) t ∧
          host.ids t = ⟨identity.uid, identity.uid, identity.gid, identity.gid⟩) ∧
      (host.RefusesInPlace → host.ids (dropPrivileges host identity s).state = host.ids t) := by
  obtain ⟨t, hreach⟩ := exists_dropReach host identity s
  refine ⟨t, hreach, hreach.ok_iff, ?_⟩
  intro hhost
  exact hreach.ids_state hhost

/-- A rehearsal that refuses the user id, and in which one of the group ids does not move. -/
def refusingUserId : Rehearsal :=
  .start { failingCall := some "setuid", cause := .number 11, stuckEgid := some 7 } .empty

theorem dropPrivileges_reach_refusingUserId :
    let identity : Identity := ⟨"alice", 1000, 1000, .ofString "/home/alice", [44, 1000]⟩
    let outcome := dropPrivileges Rehearsal.host identity refusingUserId
    Rehearsal.host.RefusesInPlace ∧
    outcome.result = .error (.privilegeDrop .setUid (.number 11)) ∧
    ∃ t, DropReach Rehearsal.host identity refusingUserId t outcome ∧
      Rehearsal.host.ids t = ⟨0, 0, 1000, 7⟩ := by
  intro identity outcome
  obtain ⟨t, hreach, -, hids⟩ :=
    dropPrivileges_reach Rehearsal.host identity refusingUserId
  refine ⟨Rehearsal.refusesInPlace, rfl, t, hreach, ?_⟩
  rw [← hids Rehearsal.refusesInPlace]
  rfl

end DisplaySession
