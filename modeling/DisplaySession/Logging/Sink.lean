import DisplaySession.Diagnostic

/-
Where messages go.

Every part of a run reports to a sink that it is given. A sink keeps the messages, passes them on
to a log under a fixed target, or drops them. A log has a greatest level; what is less serious
than the least admitted level is not written.
-/
set_option autoImplicit false

namespace DisplaySession

/-- **A line of a log.** -/
structure LogLine where
  level : Level
  target : String
  text : String
  deriving DecidableEq

/-- **A sink for messages.** -/
inductive Sink
  /-- Keeps every message. -/
  | keep
  /-- Writes to a log that admits messages from this level on, or none. -/
  | log (target : String) (least : Option Level)
  /-- Drops every message. -/
  | drop

namespace Sink

/-- The target of a program's log when none is given. -/
def standardTarget : String := "session_bootstrap"

/-- The messages that a sink keeps. -/
def kept (sink : Sink) (messages : List Message) : List Message :=
  match sink with
  | .keep => messages
  | _ => []

/-- **The lines that a sink writes to its log.** -/
def written (sink : Sink) (messages : List Message) : List LogLine :=
  match sink with
  | .log target (some least) =>
    (messages.filter (least.rank ≤ ·.level.rank)).map fun m => ⟨m.level, target, m.text⟩
  | _ => []

end Sink

end DisplaySession
