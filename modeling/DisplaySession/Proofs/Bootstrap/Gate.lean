import DisplaySession.Proofs.Bootstrap.Operation

/-
Nothing is done for a session before the process is its user.

The privileged part of a run is the handoff's chown, the calls of the drop and the look at the ids.
Everything else that reaches beyond the program is guarded: tools that are asked about processes,
looks into the process table, directories, launches, looks for the screen file and pauses. A run
splits into an early part with no guarded event and a late part with no privileged one, and there is
a late part only if the early one holds the complete transition (`gated_of_reached`).

The main statement is `run_gated`: at every guarded event, what was done with privileges is exactly
the transition to the resolved identity, and a refused call or foreign ids are the last event of
all. Nothing is assumed about the host, the database or the settings.
-/
set_option autoImplicit false

namespace DisplaySession

open Event (granted refused)

/-! ## Kinds of event -/

namespace Event

/-- Anything that happens for a session and has to wait for the transition: all but privileged
events and the run's own reports. -/
def isGuarded : Event → Bool
  | .called .. | .idsRead _ | .reported _ => false
  | _ => true

/-- The privileged call that an event is. -/
def call? : Event → Option PrivilegedCall
  | .called call _ => some call
  | _ => none

/-- **An event that stops the transition**: a refused call, or ids that are not the identity's. -/
def Stops (identity : Identity) : Event → Prop
  | .called _ (.error _) => True
  | .idsRead ids => ids ≠ identity.ids
  | _ => False

end Event

/-! ## The transition -/

/-- **The privileged calls of a run**, in their order: the chown, and then the drop. -/
def transitionCalls (handoff : Path) (identity : Identity) : List PrivilegedCall :=
  .changeOwner handoff identity.uid identity.gid :: dropCalls identity

/-- **The complete transition to an identity**: every call granted, and the identity's ids. -/
def transition (handoff : Path) (identity : Identity) : List Event :=
  (transitionCalls handoff identity).map granted ++ [.idsRead identity.ids]

/-- **A transition that stopped**: what happened up to the event that stopped it. -/
inductive Interrupted (handoff : Path) (identity : Identity) : List Event → Prop
  | refused {before : List Event} {made later : List PrivilegedCall} {call : PrivilegedCall}
    (cause : Cause) (hcalls : transitionCalls handoff identity = made ++ call :: later)
    (hmade : before.filter Event.isPrivileged = made.map granted) :
    Interrupted handoff identity (before ++ [Event.refused call cause])
  | strayed {before : List Event} {ids : ProcessIds} (hids : ids ≠ identity.ids)
    (hmade : before.filter Event.isPrivileged = (transitionCalls handoff identity).map granted) :
    Interrupted handoff identity (before ++ [.idsRead ids])

theorem filter_granted (calls : List PrivilegedCall) :
    (calls.map granted).filter Event.isPrivileged = calls.map granted := by
  rw [List.filter_eq_self]
  intro event h
  obtain ⟨call, -, rfl⟩ := List.mem_map.mp h
  rfl

theorem not_stops_of_mem_granted {identity : Identity} {calls : List PrivilegedCall} {event : Event}
    (h : event ∈ calls.map granted) : ¬ event.Stops identity := by
  obtain ⟨call, -, rfl⟩ := List.mem_map.mp h
  exact id

theorem not_stops_of_mem_transition {handoff : Path} {identity : Identity} {event : Event}
    (h : event ∈ transition handoff identity) : ¬ event.Stops identity := by
  rcases List.mem_append.mp h with h | h
  · exact not_stops_of_mem_granted h
  · rw [List.mem_singleton.mp h]
    exact fun hne => hne rfl

theorem isPrivileged_of_stops {identity : Identity} {event : Event} (h : event.Stops identity) :
    event.isPrivileged = true := by
  cases event <;> first | rfl | exact h.elim

/-- The calls of a trace are those of its privileged events. -/
theorem filterMap_call_filter (trace : List Event) :
    (trace.filter Event.isPrivileged).filterMap Event.call? = trace.filterMap Event.call? := by
  rw [List.filterMap_filter]
  congr
  funext event
  cases event <;> rfl

/-- Events that are not privileged are all taken out. -/
theorem filter_unprivileged {trace : List Event} (h : ∀ event ∈ trace, event.isPrivileged = false) :
    trace.filter Event.isPrivileged = [] := by
  rw [List.filter_eq_nil_iff]
  intro event hevent
  rw [h event hevent]
  exact Bool.false_ne_true

theorem filterMap_call_granted (calls : List PrivilegedCall) :
    (calls.map granted).filterMap Event.call? = calls := by
  rw [List.filterMap_map]
  exact List.filterMap_some

/-! ## The gate at every phase -/

namespace Bootstrap

variable {σ : Type} (host : Host σ) (config : Config) (users : Database) (name : String)
  (handoff : Path)

/-- **What a trace looks like at a phase**: nothing is guarded before the transition is complete,
and nothing is privileged after it. -/
inductive Gated : Phase → List Event → Prop
  | begun : Gated .begun []
  | identified {identity : Identity} {early : List Event}
    (hfound : (Account.resolve users name).result = .ok identity)
    (hearly : ∀ event ∈ early, event.isGuarded = false)
    (hmade : early.filter Event.isPrivileged = []) :
    Gated (.identified identity) (opening users name ++ early)
  | handedOver {identity : Identity} {early : List Event}
    (hfound : (Account.resolve users name).result = .ok identity)
    (hearly : ∀ event ∈ early, event.isGuarded = false)
    (hmade : early.filter Event.isPrivileged =
      [granted (.changeOwner handoff identity.uid identity.gid)]) :
    Gated (.handedOver identity) (opening users name ++ early)
  | settled {phase : Phase} {identity : Identity} {early late : List Event}
    (hphase : settledAs phase = some identity)
    (hfound : (Account.resolve users name).result = .ok identity)
    (hearly : ∀ event ∈ early, event.isGuarded = false)
    (hmade : early.filter Event.isPrivileged = transition handoff identity)
    (hlate : ∀ event ∈ late, event.isPrivileged = false) :
    Gated phase (opening users name ++ (early ++ late))

variable {users name} in
theorem settledAs_of_leads {phase next : Phase} {identity : Identity}
    (h : Leads users name phase next) (hphase : settledAs phase = some identity) :
    settledAs next = some identity := by
  cases h <;> first | exact hphase | cases hphase

theorem filter_drop {identity : Identity} {result : Except Failure Unit} {trace : List Event}
    (h : Drop identity result trace) :
    trace.filter Event.isPrivileged = trace ∧ ∀ event ∈ trace, event.isGuarded = false := by
  have hgranted (calls : List PrivilegedCall) :
      ∀ event ∈ calls.map granted, event.isGuarded = false := by
    intro event hevent
    obtain ⟨call, -, rfl⟩ := List.mem_map.mp hevent
    rfl
  -- In all three ways to end, one privileged event stands behind some granted calls.
  cases h <;>
    refine ⟨by rw [List.filter_append, filter_granted]; rfl, fun event hevent => ?_⟩ <;>
    rcases List.mem_append.mp hevent with hevent | hevent <;>
    first
      | exact hgranted _ event hevent
      | (rw [List.mem_singleton.mp hevent]; rfl)

/-- A drop that fails after the chown is a transition that stopped. -/
theorem interrupted_of_drop {identity : Identity} {failure : Failure} {early dropped : List Event}
    (hmade : early.filter Event.isPrivileged =
      [granted (.changeOwner handoff identity.uid identity.gid)])
    (h : Drop identity (.error failure) dropped) :
    Interrupted handoff identity (early ++ dropped) := by
  cases h with
  | @refused made later step cause hsteps =>
    have hcalls : transitionCalls handoff identity =
        (.changeOwner handoff identity.uid identity.gid :: made.map (·.2)) ++
          step.2 :: later.map (·.2) := by
      rw [transitionCalls, dropCalls, hsteps, List.map_append]
      rfl
    rw [← List.append_assoc]
    refine .refused cause hcalls ?_
    rw [List.filter_append, hmade, filter_granted]
    rfl
  | strayed hids =>
    rw [← List.append_assoc]
    refine .strayed hids ?_
    rw [List.filter_append, hmade, filter_granted]
    rfl

/-- **Every phase that a run comes to is gated.** -/
theorem gated_of_reached {s t : σ} {phase : Phase} {trace : List Event}
    (h : Reached host config users name handoff s phase t trace) :
    Gated users name handoff phase trace := by
  induction h with
  | begun => exact .begun
  | @next phase next t trace operation h hop hok ih =>
    have hleads := leads_of_ok host config users name handoff hop hok
    cases ih with
    | begun =>
      cases hop
      cases hleads with
      | identified hfound =>
        rw [identify_ok t hfound, List.nil_append, List.append_assoc]
        exact .identified hfound (by simp [Event.isGuarded]) rfl
    | @identified identity early hfound hearly hmade =>
      cases hop
      cases hleads
      rcases handOver_cases host handoff identity t with ⟨u, hu⟩ | ⟨cause, u, hu⟩
      · rw [hu, List.append_assoc, List.append_assoc]
        refine .handedOver hfound ?_ ?_
        · simpa [or_imp, forall_and, Event.isGuarded, granted] using hearly
        · rw [List.filter_append, hmade]
          rfl
      · rw [hu] at hok
        cases hok
    | @handedOver identity early hfound hearly hmade =>
      cases hop
      cases hleads
      rcases drop_cases host identity t with ⟨u, hu⟩ | ⟨failure, u, dropped, hu, -⟩
      · obtain ⟨hpriv, hfree⟩ := filter_drop (Drop.complete : Drop identity _ _)
        rw [hu, List.append_assoc, List.append_assoc, ← List.append_assoc early]
        refine .settled rfl hfound ?_ ?_ ?_
        · rw [List.forall_mem_append, List.forall_mem_append]
          exact ⟨hearly, hfree, List.forall_mem_singleton.mpr rfl⟩
        · rw [List.filter_append, List.filter_append, hmade, hpriv]
          rfl
        · intro event hevent
          rw [List.mem_singleton.mp hevent]
          rfl
      · rw [hu] at hok
        cases hok
    | @settled _ identity early late hphase hfound hearly hmade hlate =>
      have hleaves := leaves_operation host config users name handoff hphase hop
      rw [List.append_assoc, List.append_assoc, List.append_assoc]
      -- The operation is behind the drop and the report of its stage behind the operation, so both
      -- go to the late part.
      refine .settled (settledAs_of_leads hleads hphase) hfound hearly hmade ?_
      rw [List.forall_mem_append, List.forall_mem_append]
      exact ⟨hlate, fun event hevent => (hleaves t event hevent).1,
        List.forall_mem_singleton.mpr rfl⟩

/-! ## The gate of a whole run -/

/-- **A run in two parts**: nothing guarded in the first one, nothing privileged in the second one,
and a second one only after the complete transition. -/
theorem run_split {identity : Identity} (s : σ)
    (hfound : (Account.resolve users name).result = .ok identity) :
    ∃ early late,
      (run host config users name handoff s).trace = opening users name ++ (early ++ late) ∧
      (∀ event ∈ early, event.isGuarded = false) ∧
      (∀ event ∈ late, event.isPrivileged = false) ∧
      (early.filter Event.isPrivileged = transition handoff identity ∨
        Interrupted handoff identity early ∧ late = []) := by
  have hended := run_ended host config users name handoff s
  generalize run host config users name handoff s = outcome at hended ⊢
  have hsame {found : Identity} (h : (Account.resolve users name).result = .ok found) :
      found = identity := Except.ok.inj (h.symm.trans hfound)
  -- A complete run is settled. A run that failed has its last phase and the operation that failed
  -- there, which is described exactly up to the drop.
  cases hended with
  | @complete found decision t trace h =>
    cases gated_of_reached host config users name handoff h with
    | settled hphase hfound' hearly hmade hlate =>
      cases hsame hfound'
      exact ⟨_, _, rfl, hearly, hlate, .inl hmade⟩
  | @failed phase t trace operation failure h hop herror =>
    cases gated_of_reached host config users name handoff h with
    | begun =>
      cases hop
      rw [identify_ok t hfound] at herror
      cases herror
    | @identified found early hfound' hearly hmade =>
      cases hsame hfound'
      cases hop
      rcases handOver_cases host handoff identity t with ⟨u, hu⟩ | ⟨cause, u, hu⟩
      · rw [hu] at herror
        cases herror
      · refine ⟨early ++ [.reported (.handing handoff identity.username)] ++
          [Event.refused (.changeOwner handoff identity.uid identity.gid) cause],
          [], ?_, ?_, ?_, ?_⟩
        · simp [hu]
        · simpa [or_imp, forall_and, Event.isGuarded, Event.refused] using hearly
        · simp
        · have hcalls : transitionCalls handoff identity =
              [] ++ .changeOwner handoff identity.uid identity.gid :: dropCalls identity := rfl
          refine .inr ⟨.refused cause hcalls ?_, rfl⟩
          rw [List.filter_append, hmade]
          rfl
    | @handedOver found early hfound' hearly hmade =>
      cases hsame hfound'
      cases hop
      rcases drop_cases host identity t with ⟨u, hu⟩ | ⟨failure, u, dropped, hu, hdrop⟩
      · rw [hu] at herror
        cases herror
      · refine ⟨early ++ dropped, [], ?_, ?_, ?_, ?_⟩
        · simp [hu]
        · exact List.forall_mem_append.mpr ⟨hearly, (filter_drop hdrop).2⟩
        · simp
        · exact .inr ⟨interrupted_of_drop handoff hmade hdrop, rfl⟩
    | @settled _ found early late hphase hfound' hearly hmade hlate =>
      cases hsame hfound'
      have hleaves := leaves_operation host config users name handoff hphase hop
      refine ⟨early, late ++ (operation t).trace, ?_, hearly, ?_, .inl hmade⟩
      · simp
      · exact List.forall_mem_append.mpr ⟨hlate, fun event hevent => (hleaves t event hevent).1⟩

/-- Whatever stops a transition is the last event of all. -/
theorem eq_nil_of_stops {identity : Identity} {early late before after : List Event} {event : Event}
    (hlate : ∀ event ∈ late, event.isPrivileged = false)
    (hmade : early.filter Event.isPrivileged = transition handoff identity ∨
      Interrupted handoff identity early ∧ late = [])
    (hcut : early ++ late = before ++ event :: after) (hstops : event.Stops identity) :
    after = [] := by
  have hpriv := isPrivileged_of_stops hstops
  -- What was granted before the transition stopped did not stop it, so the event is the last one.
  have hlast {made : List Event} {calls : List PrivilegedCall} {last : Event}
      (hcalls : made.filter Event.isPrivileged = calls.map granted)
      (hcut : made ++ [last] = before ++ event :: after) : after = [] := by
    rcases event_split hcut with ⟨rest, hfirst, -⟩ | ⟨rest, -, hsecond⟩
    · have hmem : event ∈ made.filter Event.isPrivileged := by
        rw [List.mem_filter, hfirst]
        exact ⟨by simp, hpriv⟩
      rw [hcalls] at hmem
      exact absurd hstops (not_stops_of_mem_granted hmem)
    · cases rest with
      | nil => exact (List.cons.inj hsecond).2.symm
      | cons _ rest => simp at hsecond
  rcases hmade with hmade | ⟨hstopped, rfl⟩
  · have hmem : event ∈ early ++ late := by
      rw [hcut]
      simp
    rcases List.mem_append.mp hmem with hmem | hmem
    · have hfiltered := List.mem_filter.mpr ⟨hmem, hpriv⟩
      rw [hmade] at hfiltered
      exact absurd hstops (not_stops_of_mem_transition hfiltered)
    · rw [hlate event hmem] at hpriv
      cases hpriv
  · rw [List.append_nil] at hcut
    cases hstopped with
    | refused cause hcalls hmade => exact hlast hmade hcut
    | strayed hids hmade => exact hlast hmade hcut

/-- The privileged calls of a run are the first ones of the transition. -/
theorem calls_prefix {identity : Identity} {early late : List Event}
    (hlate : ∀ event ∈ late, event.isPrivileged = false)
    (hmade : early.filter Event.isPrivileged = transition handoff identity ∨
      Interrupted handoff identity early ∧ late = []) :
    (early ++ late).filterMap Event.call? <+: transitionCalls handoff identity := by
  rw [← filterMap_call_filter, List.filter_append, filter_unprivileged hlate, List.append_nil]
  rcases hmade with hmade | ⟨hstopped, -⟩
  · rw [hmade, transition, List.filterMap_append, filterMap_call_granted]
    exact ⟨[], by simp [Event.call?]⟩
  · cases hstopped with
    | @refused before made later call cause hcalls hmade =>
      rw [List.filter_append, hmade, List.filterMap_append, filterMap_call_granted, hcalls]
      exact ⟨later, by rw [List.append_assoc]; rfl⟩
    | strayed hids hmade =>
      rw [List.filter_append, hmade, List.filterMap_append, filterMap_call_granted]
      exact ⟨[], by simp [Event.call?, Event.isPrivileged]⟩

/-- What was done with privileges before a guarded event is the complete transition. -/
theorem transition_of_guarded {identity : Identity} {early late before after : List Event}
    {event : Event} (hearly : ∀ event ∈ early, event.isGuarded = false)
    (hlate : ∀ event ∈ late, event.isPrivileged = false)
    (hmade : early.filter Event.isPrivileged = transition handoff identity ∨
      Interrupted handoff identity early ∧ late = [])
    (hcut : early ++ late = before ++ event :: after) (hguarded : event.isGuarded = true) :
    before.filter Event.isPrivileged = transition handoff identity := by
  -- A guarded event is in the late part, and there is one only behind a complete transition.
  rcases event_split hcut with ⟨rest, hfirst, -⟩ | ⟨rest, hbefore, hsecond⟩
  · have hfree := hearly event (by rw [hfirst]; simp)
    rw [hfree] at hguarded
    cases hguarded
  · rcases hmade with hmade | ⟨-, hnil⟩
    · have hrest : ∀ e ∈ rest, e.isPrivileged = false := by
        intro e he
        rw [hsecond] at hlate
        exact hlate e (List.mem_append_left _ he)
      rw [hbefore, List.filter_append, hmade, filter_unprivileged hrest, List.append_nil]
    · rw [hnil] at hsecond
      simp at hsecond

/-- **Nothing is done for a session before the process is its user**, whatever the host, the
settings and the database are. What the trace says happened to the host. If nobody is found, nothing
happens. If somebody is found, then behind what the database noted

* everything that is guarded comes after the complete transition, made once and in order;
* a refused call, or ids that are not the identity's, are the last event of all;
* the privileged calls are a first part of the transition, so that none is made twice and the chown
  is made before all others. -/
theorem run_gated (s : σ) :
    Happened host s (run host config users name handoff s).trace
      (run host config users name handoff s).state ∧
    (∀ failure, (Account.resolve users name).result = .error failure →
      run host config users name handoff s = ⟨.error failure, s, opening users name⟩) ∧
    (∀ identity, (Account.resolve users name).result = .ok identity →
      ∃ acts, (run host config users name handoff s).trace = opening users name ++ acts ∧
        (∀ before event after, acts = before ++ event :: after → event.isGuarded = true →
          before.filter Event.isPrivileged = transition handoff identity) ∧
        (∀ before event after, acts = before ++ event :: after → event.Stops identity →
          after = []) ∧
        acts.filterMap Event.call? <+: transitionCalls handoff identity) := by
  refine ⟨honest_run host config users name handoff s, ?_, ?_⟩
  · intro failure hfound
    have hidentify := identify_error s hfound
    rw [run_eq_remaining, remaining_eq host config users name handoff _ rfl,
      Run.bind_of_error _ (by rw [hidentify]), hidentify]
  · intro identity hfound
    obtain ⟨early, late, htrace, hearly, hlate, hmade⟩ :=
      run_split host config users name handoff s hfound
    refine ⟨early ++ late, htrace, ?_, ?_, calls_prefix handoff hlate hmade⟩
    · intro before event after hcut hguarded
      exact transition_of_guarded handoff hearly hlate hmade hcut hguarded
    · intro before event after hcut hstops
      exact eq_nil_of_stops handoff hlate hmade hcut hstops

end Bootstrap

end DisplaySession
