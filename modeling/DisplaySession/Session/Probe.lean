import DisplaySession.Text.Blank
import DisplaySession.Text.Lines
import DisplaySession.Text.Numeral
import DisplaySession.Lookup

/-
Does a display of this user id run already?

There is no list of sessions: a session exists when the process table shows its display at the
moment of the look. A look that gives no usable answer counts as "no display", which may start a
second one, so that it is always reported as a warning.
-/
set_option autoImplicit false

namespace DisplaySession

/-- **The outcome of a look into the process table** (`SessionProbe`). -/
inductive Probe
  /-- These processes run. -/
  | present (pids : List UInt32)
  /-- None runs. -/
  | absent
  /-- There is no usable answer, for this reason. -/
  | failed (reason : String)
  deriving DecidableEq

namespace Probe

/-- **Is a display running?** A failed look counts as no (`fail_open`). -/
def isRunning : Probe → Bool
  | .present _ => true
  | .absent => false
  | .failed _ => false

/-- What is reported about a look (`fail_open`, too). -/
def report? : Probe → Option Diagnostic
  | .present pids => some (.displayFound pids)
  | .absent => none
  | .failed reason => some (.queryFailed reason)

/-- The process numbers in a text: one a line, trimmed; other lines say nothing. -/
def pids (output : List Char) : List UInt32 :=
  (Text.lines output).filterMap fun line => Text.uint32? (Text.trim line)

/-- **The answer in an exit status and an output** (`interpret_pgrep`); no status means that a
signal ended the tool. -/
def ofStatus (status : Option Int) (output : List Char) : Probe :=
  match status with
  | none => .failed "pgrep killed by signal"
  | some code =>
    if code = 0 then
      if pids output = [] then .failed "pgrep reported a match but printed no pids"
      else .present (pids output)
    else if code = 1 then .absent
    else .failed ("pgrep exited with status " ++ toString code)

/-- The exit status of an ending. -/
def status? : Tool.Ending → Option Int
  | .exited status => some status
  | .killed _ _ => none

/-- The probe in the answer of the process table tool. -/
def ofAnswer (program : Path) : Tool.Answer → Probe
  | .unavailable cause => .failed ("running " ++ program.shown ++ ": " ++ cause.shown)
  | .finished ending output _ => ofStatus (status? ending) (Utf8.decodeLossy output)

/-- What the process table tool is asked. -/
def question (processName : String) (uid : UInt32) : List String :=
  ["-u", uid.toNat.repr, processName]

/-- **Asks the process table tool** (`probe` of `PgrepDetector`), with the note of having asked. -/
def ask (program : Path) (tool : Tool) (processName : String) (uid : UInt32) :
    Probe × List Note :=
  let answer := tool (question processName uid)
  (ofAnswer program answer, [.asked program (question processName uid) answer])

end Probe

end DisplaySession
