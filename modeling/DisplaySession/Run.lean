import DisplaySession.Host

/-
Runs: computations on a host that may end early and that leave a trace.

The trace is everything that happened, in order: what was asked and reported, each call with its
outcome, each look and each pause. What a database, a process table or a launcher reports on its own
is told apart from what the run reports. A run that ends early keeps the state and the trace it has
come to.
-/
set_option autoImplicit false

namespace DisplaySession

/-- **One thing that happened in a run.** -/
inductive Event
  /-- A note that whoever was asked made on the way to an answer. -/
  | noted (note : Note)
  /-- The run itself reported something. -/
  | reported (diagnostic : Diagnostic)
  /-- A privileged call was made. -/
  | called (call : PrivilegedCall) (outcome : Except Cause Unit)
  /-- The ids of the process were read. -/
  | idsRead (ids : ProcessIds)
  /-- The process table was looked at. -/
  | probed (uid : UInt32) (answer : Probe)
  /-- A directory was to be made. -/
  | directoryAsked (path : Path) (outcome : Except Cause Unit)
  /-- A child was to be launched. -/
  | detached (spec : ChildSpec) (outcome : Except Failure Unit)
  /-- The screen file was looked for. -/
  | looked (path : Path) (found : Bool)
  /-- So many milliseconds passed. -/
  | slept (milliseconds : Nat)

namespace Event

/-- The report that an event is, whoever made it. -/
def diagnostic? : Event → Option Diagnostic
  | .noted note => note.diagnostic?
  | .reported d => some d
  | _ => none

/-- The stage that the run reports by an event. -/
def stage? : Event → Option Stage
  | .reported (.stage s) => some s
  | _ => none

end Event

/-- **What a run came to.** -/
structure Outcome (σ α : Type) where
  /-- The result. -/
  result : Except Failure α
  /-- The state of the host afterwards. -/
  state : σ
  /-- Everything that happened, in order. -/
  trace : List Event

/-- The reports of a run, in order. -/
def Outcome.diagnostics {σ α : Type} (outcome : Outcome σ α) : List Diagnostic :=
  outcome.trace.filterMap Event.diagnostic?

/-- The stages that a run reported, in order. -/
def Outcome.stages {σ α : Type} (outcome : Outcome σ α) : List Stage :=
  outcome.trace.filterMap Event.stage?

/-- **A run on a host with states of a type.** -/
def Run (σ α : Type) : Type :=
  σ → Outcome σ α

namespace Run

variable {σ α β : Type}

/-- The run in which nothing happens. -/
def done (a : α) : Run σ α :=
  fun s => ⟨.ok a, s, []⟩

/-- The run that ends early at once. -/
def fail (failure : Failure) : Run σ α :=
  fun s => ⟨.error failure, s, []⟩

/-- One run after another; the second happens only if the first did not end early. -/
def andThen (first : Run σ α) (next : α → Run σ β) : Run σ β :=
  fun s =>
    let o := first s
    match o.result with
    | .error failure => ⟨.error failure, o.state, o.trace⟩
    | .ok a =>
      let o' := next a o.state
      ⟨o'.result, o'.state, o.trace ++ o'.trace⟩

instance : Monad (Run σ) where
  pure := done
  bind := andThen

/-- The run that only leaves these events. -/
def record (events : List Event) : Run σ Unit :=
  fun s => ⟨.ok (), s, events⟩

/-- The run that only reports something. -/
def report (d : Diagnostic) : Run σ Unit :=
  record [.reported d]

/-- **The run that reports a stage.** -/
def reach (stage : Stage) : Run σ Unit :=
  report (.stage stage)

/-- The run that asks a question. -/
def consult (lookup : Lookup α) : Run σ α :=
  fun s => ⟨lookup.result, s, lookup.notes.map .noted⟩

end Run

end DisplaySession
