import DisplaySession.Proofs.Bootstrap.Gate
import DisplaySession.Proofs.Bootstrap.History
import DisplaySession.Proofs.Bootstrap.Parts
import DisplaySession.Proofs.Config.RoundTrip
import DisplaySession.Proofs.Launch.Plan

/-
Where the server serves.

The handoff takes two ways through a run: the chown gets its bytes, and the server gets its text. The
bytes are always those of the handoff. The text spells them only if they are text; of any other
handoff it spells another path, which may be the handoff of another run (`endpoint_confused`). So
the server serves on the path that was given away exactly if that path is text, and runs whose
handoffs are text never share an endpoint (`served_on_handoff`).
-/
set_option autoImplicit false

namespace DisplaySession

open Event (granted)

/-- **The endpoint that a child is told**: what follows the flag for it, behind the program. -/
def ChildSpec.endpoint? (spec : ChildSpec) : Option String :=
  Rehearsal.argumentAfter "-l" spec.arguments.tail

/-- **The server is told the handoff's text**, whatever its other settings are. -/
theorem endpoint?_server (config : Config) (handoff : Path) (identity : Identity) :
    (plannedFor config handoff identity).server.endpoint? = some handoff.shown := by
  rfl

/-- Paths that are text are told apart by their texts. -/
theorem Path.eq_of_shown {path other : Path} (hpath : path.text?.isSome = true)
    (hother : other.text?.isSome = true) (h : path.shown = other.shown) : path = other := by
  rw [← Path.ofString_shown hpath, h, Path.ofString_shown hother]

/-- The text of a path spells the path exactly if the path is text. -/
theorem Path.ofString_shown_iff {path : Path} :
    Path.ofString path.shown = path ↔ path.text?.isSome = true := by
  constructor
  · intro h
    rw [← h, Path.text?_eq_some_iff.mpr rfl]
    rfl
  · exact Path.ofString_shown

namespace Bootstrap

variable {σ : Type} {host : Host σ} {config : Config} {users : Database} {name : String}
  {handoff : Path}

/-- Starting a display launches no other child. -/
theorem launches_startDisplay (layout : Layout) (display : ChildSpec) :
    Run.Leaves (fun event => ∀ launch, event.launch? = some launch → launch.1 = display)
      (startDisplay host config layout display) := by
  have hquiet {event : Event} (h : event.IsQuiet) :
      ∀ launch, event.launch? = some launch → launch.1 = display := by
    intro launch hlaunch
    rw [h.2] at hlaunch
    cases hlaunch
  refine Run.leaves_bind (Run.leaves_mono (fun _ => hquiet) (quiet_ensureScratch _ _ _))
    fun _ => ?_
  refine Run.leaves_bind ?_
    fun _ => Run.leaves_mono (fun _ => hquiet) (quiet_waitForDisplay host _ _)
  intro s event h launch hlaunch
  rcases List.mem_cons.mp h with rfl | h
  · obtain rfl := Option.some.inj hlaunch
    rfl
  · obtain ⟨note, -, rfl⟩ := List.mem_map.mp h
    cases hlaunch

variable (config users name handoff) in
/-- **What a trace launches and is no display is the server** of the identity that is found. -/
def OnlyServer (trace : List Event) : Prop :=
  ∀ spec outcome, .detached spec outcome ∈ trace → spec.display? = none →
    ∃ identity, (Account.resolve users name).result = .ok identity ∧
      spec = (plannedFor config handoff identity).server

theorem composes_onlyServer : Composes (OnlyServer config users name handoff) := by
  refine ⟨fun trace hidle spec outcome h => (hidle _ h).elim, ?_⟩
  intro first second hfirst hsecond spec outcome h
  exact (List.mem_append.mp h).elim (hfirst spec outcome) (hsecond spec outcome)

theorem onlyServer_run (s : σ) :
    OnlyServer config users name handoff (run host config users name handoff s).trace := by
  refine holds_run composes_onlyServer ?_ ?_ s
  · intro identity hfound t spec outcome h hnone
    have hdisplay : spec = (plannedFor config handoff identity).display :=
      launches_startDisplay _ _ t _ h (spec, outcome) rfl
    rw [hdisplay, display?_display] at hnone
    cases hnone
  · intro identity hfound t spec outcome h _
    have hmem : spec = (plannedFor config handoff identity).server ∧
        outcome = (host.detach (plannedFor config handoff identity).server t).1.1 := by
      simpa [detach] using h
    exact ⟨identity, hfound, hmem.1⟩

/-- **Before anything is launched, the handoff was given away.** -/
theorem granted_before_launch {s : σ} {identity : Identity} {spec : ChildSpec}
    {outcome : Except Failure Unit} (hfound : (Account.resolve users name).result = .ok identity)
    (hlaunched : .detached spec outcome ∈ (run host config users name handoff s).trace) :
    ∃ before after, (run host config users name handoff s).trace =
        before ++ .detached spec outcome :: after ∧
      before.filterMap Event.call? = transitionCalls handoff identity ∧
      granted (.changeOwner handoff identity.uid identity.gid) ∈ before := by
  obtain ⟨early, late, htrace, hearly, hlate, hmade⟩ :=
    run_split host config users name handoff s hfound
  rw [htrace] at hlaunched ⊢
  have hacts : .detached spec outcome ∈ early ++ late := by
    rcases List.mem_append.mp hlaunched with h | h
    · obtain ⟨note, -, hnote⟩ := List.mem_map.mp h
      cases hnote
    · exact h
  obtain ⟨before, after, hcut⟩ := List.append_of_mem hacts
  have htransition := transition_of_guarded handoff hearly hlate hmade hcut rfl
  have hcalls : (opening users name).filterMap Event.call? = [] := by
    simp [opening, Event.call?]
  refine ⟨opening users name ++ before, after, by rw [hcut, List.append_assoc], ?_, ?_⟩
  · rw [List.filterMap_append, hcalls, List.nil_append, ← filterMap_call_filter, htransition,
      transition, List.filterMap_append, filterMap_call_granted]
    exact List.append_nil _
  · have hmem : granted (.changeOwner handoff identity.uid identity.gid) ∈
        before.filter Event.isPrivileged := by
      rw [htransition, transition, transitionCalls, List.map_cons, List.cons_append]
      exact List.mem_cons_self
    exact List.mem_append_right _ (List.mem_filter.mp hmem).1

/-- **The server serves on the handoff if the handoff is text.** In every run that launches a child
that is no display, whatever came of the launch:

* the child is the server of the identity that was found, and before it was launched the handoff
  was given to that identity, and no other path to anybody;
* it is told the handoff's text, which spells the handoff exactly if that is text;
* no other run launches a server on the same endpoint for another handoff, if both are text. -/
theorem served_on_handoff {s : σ} {spec : ChildSpec} {outcome : Except Failure Unit}
    (hlaunched : .detached spec outcome ∈ (run host config users name handoff s).trace)
    (hserver : spec.display? = none) :
    ∃ identity argument before after,
      (Account.resolve users name).result = .ok identity ∧
      spec = (plannedFor config handoff identity).server ∧
      (run host config users name handoff s).trace =
        before ++ .detached spec outcome :: after ∧
      granted (.changeOwner handoff identity.uid identity.gid) ∈ before ∧
      (∀ path uid gid, .changeOwner path uid gid ∈ before.filterMap Event.call? →
        path = handoff) ∧
      spec.endpoint? = some argument ∧
      (Path.ofString argument = handoff ↔ handoff.text?.isSome = true) ∧
      (handoff.text?.isSome = true →
        ∀ {τ : Type} (host' : Host τ) (config' : Config) (users' : Database) (name' : String)
          (handoff' : Path) (t : τ) (spec' : ChildSpec) (outcome' : Except Failure Unit),
          .detached spec' outcome' ∈ (run host' config' users' name' handoff' t).trace →
          spec'.display? = none → spec'.endpoint? = some argument →
          handoff'.text?.isSome = true → handoff' = handoff) := by
  obtain ⟨identity, hfound, rfl⟩ := onlyServer_run s spec outcome hlaunched hserver
  obtain ⟨before, after, hcut, hcalls, hgranted⟩ := granted_before_launch hfound hlaunched
  refine ⟨identity, handoff.shown, before, after, hfound, rfl, hcut, hgranted, ?_,
    endpoint?_server config handoff identity, Path.ofString_shown_iff, ?_⟩
  · intro path uid gid hcall
    rw [hcalls] at hcall
    simp only [transitionCalls, dropCalls, dropSteps, List.map_cons, List.map_nil, List.mem_cons,
      PrivilegedCall.changeOwner.injEq, reduceCtorEq, List.not_mem_nil, or_false] at hcall
    exact hcall.1
  · intro htext τ host' config' users' name' handoff' t spec' outcome' hlaunched' hserver' hsame
      htext'
    obtain ⟨identity', -, rfl⟩ := onlyServer_run t spec' outcome' hlaunched' hserver'
    rw [endpoint?_server, Option.some.injEq] at hsame
    exact Path.eq_of_shown htext' htext hsame

/-- A rehearsal in which the scratch directory can be made. -/
def rehearsalWithScratch : Rehearsal :=
  .start {} ⟨[([Utf8.ofString "var"], .directory 0),
    ([Utf8.ofString "var", Utf8.ofString "tmp"], .directory 0)]⟩

/-- What a run for the one user comes to in it. -/
def rehearsedFor (handoff : Path) : Outcome Rehearsal SessionReport :=
  run Rehearsal.host Config.standard loneAccount "alice" handoff rehearsalWithScratch

theorem served_on_handoff_text :
    ∃ spec outcome,
      .detached spec outcome ∈ (rehearsedFor (.ofString "/tmp/s")).trace ∧
      spec.display? = none ∧ (Path.ofString "/tmp/s").text?.isSome = true ∧
      spec.endpoint? = some "/tmp/s" ∧
      ∃ (identity : Identity) (before after : List Event),
        (rehearsedFor (.ofString "/tmp/s")).trace = before ++ .detached spec outcome :: after ∧
        granted (.changeOwner (.ofString "/tmp/s") identity.uid identity.gid) ∈ before := by
  have hlaunches : ((plannedFor Config.standard (.ofString "/tmp/s") alice).server, .ok ()) ∈
      launches (rehearsedFor (.ofString "/tmp/s")).trace := by decide +kernel
  obtain ⟨event, hmem, hevent⟩ := List.mem_filterMap.mp hlaunches
  have hlaunched : .detached (plannedFor Config.standard (.ofString "/tmp/s") alice).server
      (.ok ()) ∈ (rehearsedFor (.ofString "/tmp/s")).trace := by
    cases event with
    | detached spec outcome =>
      cases hevent
      exact hmem
    | _ => cases hevent
  have htext : (Path.ofString "/tmp/s").text?.isSome = true := by decide
  obtain ⟨identity, argument, before, after, -, -, hcut, hgranted, -, hendpoint, -, -⟩ :=
    served_on_handoff hlaunched rfl
  exact ⟨_, _, hlaunched, rfl, htext, rfl, identity, before, after, hcut, hgranted⟩

/-- A handoff whose last byte is no text. -/
def strayHandoff : Path :=
  ⟨Utf8.ofString "/tmp/" ++ [0xff]⟩

/-- **Two handoffs, one endpoint**: both runs succeed, each has given away its own handoff, and both
servers serve on the second one. -/
theorem endpoint_confused :
    strayHandoff ≠ .ofString "/tmp/�" ∧
    (rehearsedFor strayHandoff).result = (rehearsedFor (.ofString "/tmp/�")).result ∧
    (rehearsedFor strayHandoff).trace.filterMap Event.call? =
      transitionCalls strayHandoff alice ∧
    (rehearsedFor (.ofString "/tmp/�")).trace.filterMap Event.call? =
      transitionCalls (.ofString "/tmp/�") alice ∧
    ((launches (rehearsedFor strayHandoff).trace).map fun launch => launch.1.endpoint?) =
      [none, some "/tmp/�"] ∧
    ((launches (rehearsedFor (.ofString "/tmp/�")).trace).map fun launch =>
      launch.1.endpoint?) = [none, some "/tmp/�"] := by
  decide +kernel

end Bootstrap

end DisplaySession
