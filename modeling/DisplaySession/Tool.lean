import DisplaySession.Text.Utf8
import DisplaySession.Cause

/-
External programs that answer questions: the record query and the process table query.

A tool is what it does with an argument list. It may not be there to run at all; if it runs, it ends
with a status or by a signal after printing something.
-/
set_option autoImplicit false

namespace DisplaySession

namespace Tool

/-- How a program ended. -/
inductive Ending
  /-- With an exit status. -/
  | exited (status : Int)
  /-- By a signal, maybe with a core dump. -/
  | killed (signal : Nat) (dumped : Bool := false)
  deriving DecidableEq

/-- The name of a signal. -/
def signalName? : Nat → Option String
  | 0 => none
  | n + 1 =>
    ["SIGHUP", "SIGINT", "SIGQUIT", "SIGILL", "SIGTRAP", "SIGABRT", "SIGBUS", "SIGFPE", "SIGKILL",
      "SIGUSR1", "SIGSEGV", "SIGUSR2", "SIGPIPE", "SIGALRM", "SIGTERM", "SIGSTKFLT", "SIGCHLD",
      "SIGCONT", "SIGSTOP", "SIGTSTP", "SIGTTIN", "SIGTTOU", "SIGURG", "SIGXCPU", "SIGXFSZ",
      "SIGVTALRM", "SIGPROF", "SIGWINCH", "SIGIO", "SIGPWR", "SIGSYS"][n]?

/-- **The text of an ending.** -/
def Ending.shown : Ending → String
  | .exited status => "exit status: " ++ toString status
  | .killed signal dumped =>
    "signal: " ++ signal.repr ++
      (match signalName? signal with
      | some name => " (" ++ name ++ ")"
      | none => "") ++
      if dumped then " (core dumped)" else ""

/-- **What came of running a program.** -/
inductive Answer
  /-- It could not be started. -/
  | unavailable (cause : Cause)
  /-- It ran, ended so, and printed this. -/
  | finished (ending : Ending) (output errors : Bytes)
  deriving DecidableEq

end Tool

/-- **A tool**: what each argument list leads to. -/
abbrev Tool := List String → Tool.Answer

end DisplaySession
