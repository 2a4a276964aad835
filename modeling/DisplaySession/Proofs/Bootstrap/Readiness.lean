import DisplaySession.Proofs.Run
import DisplaySession.Proofs.Session.Waiting
import DisplaySession.Bootstrap

/-
Waiting decides nothing.

How a run waits for its display, and whether the screen file is seen, shows in the time that passes
and in what is reported about the looks. It shows nowhere else: two runs that wait in different
ways, with the file coming and going as it likes in each, come to the same result and the same state
of the host by the same calls, looks, launches and other reports in the same order
(`readiness_immaterial`).

Two runs are compared step by step. Steps that are the same in both stay the same, and a wait may be
put in the place of any other wait (`same_waitForDisplay`).
-/
set_option autoImplicit false

namespace DisplaySession

/-- An event of waiting: a look for the screen file, a pause, or the run's own report of what the
looks came to. -/
def Event.isWaiting : Event → Bool
  | .looked .. | .slept _ => true
  | .reported (.screenAppeared ..) | .reported (.screenMissing ..) => true
  | _ => false

/-- **A trace without its waiting**: every call, every look at the ids and at the process table,
every directory and every child that was asked for, every note, and every other report. -/
def withoutWaiting (trace : List Event) : List Event :=
  trace.filter fun event => !event.isWaiting

theorem withoutWaiting_append (first second : List Event) :
    withoutWaiting (first ++ second) = withoutWaiting first ++ withoutWaiting second :=
  List.filter_append ..

theorem Event.isWaiting_of_waits {screen : Path} {event : Event} (h : event.Waits screen) :
    event.isWaiting = true := by
  cases h <;> rfl

/-- Nothing is left of a wait. -/
theorem withoutWaiting_waitEvents (found : Nat → Bool) (screen : Path) (readiness : Readiness) :
    withoutWaiting (waitEvents found screen readiness) = [] := by
  rw [withoutWaiting, List.filter_eq_nil_iff]
  intro event h
  rw [Event.isWaiting_of_waits (waits_waitEvents found screen readiness event h)]
  exact Bool.false_ne_true

/-! ## Runs that differ in waiting only -/

/-- **Two outcomes that differ in waiting only.** -/
structure Outcome.SameButWaiting {σ α : Type} (outcome outcome' : Outcome σ α) : Prop where
  result : outcome.result = outcome'.result
  state : outcome.state = outcome'.state
  rest : withoutWaiting outcome.trace = withoutWaiting outcome'.trace

namespace Run

variable {σ α β : Type}

/-- **Two runs that differ in waiting only**, from whatever state. -/
def SameButWaiting (x y : Run σ α) : Prop :=
  ∀ s, (x s).SameButWaiting (y s)

theorem same_refl (x : Run σ α) : SameButWaiting x x :=
  fun _ => ⟨rfl, rfl, rfl⟩

theorem same_bind {x y : Run σ α} {next next' : α → Run σ β} (h : SameButWaiting x y)
    (hnext : ∀ a, SameButWaiting (next a) (next' a)) :
    SameButWaiting (x >>= next) (y >>= next') := by
  intro s
  obtain ⟨hresult, hstate, hrest⟩ := h s
  cases hx : (x s).result with
  | error failure =>
    rw [bind_of_error next hx, bind_of_error next' (hresult ▸ hx)]
    exact ⟨rfl, hstate, hrest⟩
  | ok a =>
    -- Both go on in the same state with what they have in common, and add to it the same.
    rw [bind_of_ok next hx, bind_of_ok next' (hresult ▸ hx), ← hstate]
    obtain ⟨hresult', hstate', hrest'⟩ := hnext a (x s).state
    refine ⟨hresult', hstate', ?_⟩
    rw [withoutWaiting_append, withoutWaiting_append, hrest, hrest']

/-- Behind what is the same in both, two runs may differ in waiting. -/
theorem same_behind (x : Run σ α) {next next' : α → Run σ β}
    (hnext : ∀ a, SameButWaiting (next a) (next' a)) :
    SameButWaiting (x >>= next) (x >>= next') :=
  same_bind (same_refl x) hnext

end Run

/-! ## Runs that wait in different ways -/

section

variable {σ : Type}

/-- **A host on which the screen file comes and goes by a schedule**: at which look of a wait it is
there. -/
def Host.withSchedule (host : Host σ) (found : Path → Nat → σ → Bool) : Host σ :=
  { host with isPresent := found }

/-- **One wait may take the place of another.** -/
theorem same_waitForDisplay (host host' : Host σ) (readiness readiness' : Readiness)
    (screen screen' : Path) :
    Run.SameButWaiting (waitForDisplay host readiness screen)
      (waitForDisplay host' readiness' screen') := by
  intro s
  refine ⟨rfl, rfl, ?_⟩
  rw [waitForDisplay, waitForDisplay, withoutWaiting_waitEvents, withoutWaiting_waitEvents]

namespace Bootstrap

variable (host : Host σ) (config : Config) (readiness readiness' : Readiness)
  (found found' : Path → Nat → σ → Bool)

theorem same_startDisplay (layout : Layout) (display : ChildSpec) :
    Run.SameButWaiting
      (startDisplay (host.withSchedule found) { config with readiness := readiness } layout display)
      (startDisplay (host.withSchedule found') { config with readiness := readiness' } layout
        display) := by
  refine Run.same_behind _ fun _ => ?_
  refine Run.same_behind _ fun _ => ?_
  exact same_waitForDisplay _ _ readiness readiness' layout.screen layout.screen

theorem same_provideDisplay (identity : Identity) (layout : Layout) (display : ChildSpec)
    (running : Bool) :
    Run.SameButWaiting
      (provideDisplay (host.withSchedule found) { config with readiness := readiness } identity
        layout display running)
      (provideDisplay (host.withSchedule found') { config with readiness := readiness' } identity
        layout display running) := by
  by_cases hrunning : running = true
  · rw [provideDisplay, provideDisplay, if_pos hrunning, if_pos hrunning]
    exact Run.same_refl _
  · rw [provideDisplay, provideDisplay, if_neg hrunning, if_neg hrunning]
    refine Run.same_behind _ fun _ => ?_
    apply Run.same_bind
    · exact same_startDisplay host config readiness readiness' found found' layout display
    intro _
    exact Run.same_refl _

/-- **Readiness is no matter of correctness.** Two runs whose settings differ in how they wait for
the display, on hosts that differ in when the screen file is there, give the same result and end in
the same state, files included; and but for the pauses, the looks for the screen file and the
reports of these looks, the same happens in both, in the same order. -/
theorem readiness_immaterial (users : Database) (name : String) (handoff : Path) (s : σ) :
    (run (host.withSchedule found) { config with readiness := readiness } users name handoff
      s).SameButWaiting
      (run (host.withSchedule found') { config with readiness := readiness' } users name handoff
        s) := by
  revert s
  -- Before the display nothing waits, and behind it nothing depends on how the run has waited.
  refine Run.same_behind _ fun identity => ?_
  refine Run.same_behind _ fun _ => ?_
  refine Run.same_behind _ fun _ => ?_
  refine Run.same_behind _ fun _ => ?_
  refine Run.same_behind _ fun _ => ?_
  refine Run.same_behind _ fun _ => ?_
  refine Run.same_behind _ fun _ => ?_
  refine Run.same_behind _ fun running => ?_
  refine Run.same_behind _ fun _ => ?_
  apply Run.same_bind (same_provideDisplay host config readiness readiness' found found' identity
    _ _ running)
  intro decision
  exact Run.same_refl _

end Bootstrap

end

end DisplaySession
