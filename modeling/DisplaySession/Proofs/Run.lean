import DisplaySession.Bootstrap

/-
The laws of runs.

A run is opened one step at a time. What is bound to a step happens only if the step gave a result
(`bind_of_ok`, `bind_of_error`), and its trace goes behind the step's. Two notions carry over from
steps to whole runs: a run that leaves events of one kind only (`Run.Leaves`), and a run whose trace
is what happened to the host (`Run.Honest`).

The second one is what makes statements about traces statements about hosts. A trace is written by
the run itself, so by itself it proves nothing; but if every event in it agrees with the host in the
state in which it happened, and the events together lead to the state after the run, then nothing
was left out and nothing was made up.
-/
set_option autoImplicit false

namespace DisplaySession

/-! ## Opening a run -/

namespace Run

variable {σ α β γ : Type}

/-- A step that gave a result is followed by what is bound to it. -/
theorem bind_of_ok {x : Run σ α} {s : σ} {a : α} (next : α → Run σ β)
    (h : (x s).result = .ok a) :
    (x >>= next) s = ⟨(next a (x s).state).result, (next a (x s).state).state,
      (x s).trace ++ (next a (x s).state).trace⟩ := by
  show andThen x next s = _
  simp only [andThen, h]

/-- A step that failed is followed by nothing. -/
theorem bind_of_error {x : Run σ α} {s : σ} {failure : Failure} (next : α → Run σ β)
    (h : (x s).result = .error failure) :
    (x >>= next) s = ⟨.error failure, (x s).state, (x s).trace⟩ := by
  show andThen x next s = _
  simp only [andThen, h]

/-- A step and what is bound to it give a result together only if both do. -/
theorem ok_of_bind {x : Run σ α} {next : α → Run σ β} {s : σ} {b : β}
    (h : ((x >>= next) s).result = .ok b) :
    ∃ a, (x s).result = .ok a ∧ (next a (x s).state).result = .ok b := by
  cases hx : (x s).result with
  | error failure =>
    rw [bind_of_error next hx] at h
    cases h
  | ok a =>
    rw [bind_of_ok next hx] at h
    exact ⟨a, rfl, h⟩

theorem report_bind (d : Diagnostic) (next : Unit → Run σ β) (s : σ) :
    (report d >>= next) s =
      ⟨(next () s).result, (next () s).state, .reported d :: (next () s).trace⟩ :=
  bind_of_ok (x := report d) next rfl

@[simp] theorem pure_apply (a : α) (s : σ) : (pure a : Run σ α) s = ⟨.ok a, s, []⟩ :=
  rfl

/-- What is made of a result leaves no trace. -/
theorem trace_bind_pure (x : Run σ α) (f : α → β) (s : σ) :
    ((x >>= fun a => pure (f a)) s).trace = (x s).trace := by
  cases h : (x s).result with
  | error failure => rw [bind_of_error _ h]
  | ok a => rw [bind_of_ok _ h, pure_apply, List.append_nil]

instance : LawfulMonad (Run σ) := by
  -- Each law is about one state, and there the first step that fails decides.
  refine LawfulMonad.mk' _ ?_ ?_ ?_
  · intro α x
    funext s
    show (x >>= fun a => pure a) s = x s
    cases h : (x s).result with
    | error failure => rw [bind_of_error _ h, ← h]
    | ok a => rw [bind_of_ok _ h, pure_apply, List.append_nil, ← h]
  · intro α β a next
    funext s
    rw [bind_of_ok next (a := a) rfl]
    rfl
  · intro α β γ x next last
    funext s
    cases h : (x s).result with
    | error failure =>
      have hfirst := bind_of_error next h
      rw [bind_of_error _ h, bind_of_error last (by rw [hfirst]), hfirst]
    | ok a =>
      have hfirst := bind_of_ok next h
      rw [bind_of_ok _ h]
      cases h' : (next a (x s).state).result with
      | error failure =>
        rw [bind_of_error last (by rw [hfirst, h']), bind_of_error last h', hfirst]
      | ok b =>
        rw [bind_of_ok last (by rw [hfirst, h']), bind_of_ok last h', hfirst, List.append_assoc]

/-! ## Runs that leave events of one kind -/

/-- **Every event that a run leaves is of a kind.** -/
def Leaves (kind : Event → Prop) (x : Run σ α) : Prop :=
  ∀ s, ∀ event ∈ (x s).trace, kind event

variable {kind : Event → Prop}

theorem leaves_mono {kind' : Event → Prop} {x : Run σ α} (himp : ∀ event, kind event → kind' event)
    (h : Leaves kind x) : Leaves kind' x :=
  fun s event he => himp event (h s event he)

theorem leaves_pure (a : α) : Leaves kind (pure a : Run σ α) := by
  intro s event h
  simp at h

theorem leaves_report {d : Diagnostic} (h : kind (.reported d)) :
    Leaves kind (report d : Run σ Unit) := by
  intro s event he
  rw [List.mem_singleton.mp he]
  exact h

theorem leaves_bind {x : Run σ α} {next : α → Run σ β} (hx : Leaves kind x)
    (hnext : ∀ a, Leaves kind (next a)) : Leaves kind (x >>= next) := by
  intro s event he
  cases h : (x s).result with
  | error failure =>
    rw [bind_of_error next h] at he
    exact hx s event he
  | ok a =>
    rw [bind_of_ok next h] at he
    rcases List.mem_append.mp he with he | he
    · exact hx s event he
    · exact hnext a _ event he

end Run

/-! ## Places in a trace -/

theorem event_split {first second before after : List Event} {event : Event}
    (h : first ++ second = before ++ event :: after) :
    (∃ rest, first = before ++ event :: rest ∧ after = rest ++ second) ∨
    (∃ rest, before = first ++ rest ∧ second = rest ++ event :: after) := by
  rcases List.append_eq_append_iff.mp h with ⟨rest, hbefore, hsecond⟩ | ⟨rest, hfirst, hevent⟩
  · exact .inr ⟨rest, hbefore, hsecond⟩
  · -- The cut may fall exactly between the parts, and then the event is the second part's first.
    cases rest with
    | nil => exact .inr ⟨[], by rw [hfirst, List.append_nil, List.append_nil], hevent.symm⟩
    | cons e rest =>
      obtain ⟨rfl, rfl⟩ := List.cons.inj hevent
      exact .inl ⟨rest, hfirst, rfl⟩

/-! ## What a trace says about the host -/

namespace Event

variable {σ : Type}

/-- The state after an event, as the host has it. -/
def stateAfter (host : Host σ) (s : σ) : Event → σ
  | .called call _ => (host.perform call s).2
  | .probed uid _ => (host.probe uid s).2
  | .directoryAsked path _ => (host.createDirectory path s).2
  | .detached spec _ => (host.detach spec s).2
  | _ => s

/-- **An event agrees with the host**: the outcome in it is the one that the host gives in this
state. What was noted or reported and how long a pause was is not up to the host. -/
def Agrees (host : Host σ) (s : σ) : Event → Prop
  | .called call outcome => (host.perform call s).1 = outcome
  | .idsRead ids => host.ids s = ids
  | .probed uid answer => (host.probe uid s).1.1 = answer
  | .directoryAsked path outcome => (host.createDirectory path s).1 = outcome
  | .detached spec outcome => (host.detach spec s).1.1 = outcome
  | .looked path found => ∃ look, host.isPresent path look s = found
  | .noted _ | .reported _ | .slept _ => True

end Event

/-- **What happened to a host** between two states: every event agrees with the host in the state in
which it happened, and the last one leads to the second state. -/
def Happened {σ : Type} (host : Host σ) : σ → List Event → σ → Prop
  | s, [], t => t = s
  | s, event :: events, t => event.Agrees host s ∧ Happened host (event.stateAfter host s) events t

section Honest

variable {σ α β : Type} {host : Host σ}

theorem happened_append {first second : List Event} {s t u : σ} (hfirst : Happened host s first t)
    (hsecond : Happened host t second u) : Happened host s (first ++ second) u := by
  induction first generalizing s with
  | nil =>
    have hst : t = s := hfirst
    rw [List.nil_append, ← hst]
    exact hsecond
  | cons event first ih => exact ⟨hfirst.1, ih hfirst.2⟩

theorem happened_split {before after : List Event} {s t : σ}
    (h : Happened host s (before ++ after) t) :
    ∃ u, Happened host s before u ∧ Happened host u after t := by
  induction before generalizing s with
  | nil => exact ⟨s, rfl, h⟩
  | cons event before ih =>
    obtain ⟨u, hbefore, hafter⟩ := ih h.2
    exact ⟨u, ⟨h.1, hbefore⟩, hafter⟩

/-- What happened to a host from a state leads to one state only. -/
theorem happened_unique {trace : List Event} {s t u : σ} (h : Happened host s trace t)
    (h' : Happened host s trace u) : t = u := by
  induction trace generalizing s with
  | nil =>
    have ht : t = s := h
    have hu : u = s := h'
    rw [ht, hu]
  | cons event trace ih => exact ih h.2 h'.2

/-- Events that are no business of the host leave it alone. -/
theorem happened_idle {events : List Event} (s : σ)
    (h : ∀ event ∈ events, event.Agrees host s ∧ event.stateAfter host s = s) :
    Happened host s events s := by
  induction events with
  | nil => rfl
  | cons event events ih =>
    have hevent := h event List.mem_cons_self
    refine ⟨hevent.1, ?_⟩
    rw [hevent.2]
    exact ih fun e he => h e (List.mem_cons_of_mem _ he)

theorem happened_notes (notes : List Note) (s : σ) :
    Happened host s (notes.map .noted) s := by
  apply happened_idle
  intro event h
  obtain ⟨note, -, rfl⟩ := List.mem_map.mp h
  exact ⟨trivial, rfl⟩

theorem happened_reports (reports : List Diagnostic) (s : σ) :
    Happened host s (reports.map .reported) s := by
  apply happened_idle
  intro event h
  obtain ⟨d, -, rfl⟩ := List.mem_map.mp h
  exact ⟨trivial, rfl⟩

/-- **A run is honest** if its trace is what happened to the host. -/
def Run.Honest (host : Host σ) (x : Run σ α) : Prop :=
  ∀ s, Happened host s (x s).trace (x s).state

namespace Run

theorem honest_pure (a : α) : Honest host (pure a : Run σ α) :=
  fun _ => rfl

theorem honest_fail (failure : Failure) : Honest host (fail failure : Run σ α) :=
  fun _ => rfl

theorem honest_report (d : Diagnostic) : Honest host (report d : Run σ Unit) :=
  fun s => happened_reports [d] s

theorem honest_consult (lookup : Lookup α) : Honest host (consult lookup : Run σ α) :=
  fun s => happened_notes lookup.notes s

theorem honest_bind {x : Run σ α} {next : α → Run σ β} (hx : Honest host x)
    (hnext : ∀ a, Honest host (next a)) : Honest host (x >>= next) := by
  intro s
  cases h : (x s).result with
  | error failure =>
    rw [bind_of_error next h]
    exact hx s
  | ok a =>
    rw [bind_of_ok next h]
    exact happened_append (hx s) (hnext a _)

theorem honest_perform (call : PrivilegedCall) (failure : Cause → Failure) :
    Honest host (perform host call failure) :=
  fun _ => ⟨rfl, rfl⟩

theorem honest_readIds : Honest host (readIds host) :=
  fun _ => ⟨rfl, rfl⟩

end Run

end Honest

end DisplaySession
