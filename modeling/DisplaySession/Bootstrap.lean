import DisplaySession.Account.Database
import DisplaySession.Launch.Plan
import DisplaySession.Privilege
import DisplaySession.Session.Scratch
import DisplaySession.Session.Waiting

/-
One session, from a user name to a running video server.

A run goes once from top to bottom: find the identity, give it the handoff, become it, lay out the
session, look for its display, start a display unless one runs, start the video server. Anything
that fails ends the run; nothing is tried again, and nothing launched before is taken back.
-/
set_option autoImplicit false

namespace DisplaySession

/-- **What happened to the display** (`DisplayDecision`). -/
inductive DisplayDecision
  /-- It was launched. -/
  | launched
  /-- It was running already. -/
  | skipped
  deriving DecidableEq

namespace DisplayDecision

/-- The stage that reports a decision. -/
def stage : DisplayDecision → Stage
  | .launched => .displayLaunched
  | .skipped => .displaySkipped

end DisplayDecision

/-- **What a complete run reports** (`BootstrapReport`). -/
structure SessionReport where
  identity : Identity
  layout : Layout
  display : DisplayDecision
  /-- The stages of the run, the first one included. -/
  stages : List Stage
  deriving DecidableEq

namespace Bootstrap

variable {σ : Type}

/-- Looks for a running display. A look that fails is reported and counts as none. -/
def checkSession (host : Host σ) (uid : UInt32) : Run σ Bool :=
  fun s =>
    let ((answer, notes), s') := host.probe uid s
    ⟨.ok answer.isRunning, s',
      notes.map .noted ++ .probed uid answer :: answer.report?.toList.map .reported⟩

/-- Launches a child. -/
def detach (host : Host σ) (spec : ChildSpec) : Run σ Unit :=
  fun s =>
    let ((outcome, notes), s') := host.detach spec s
    ⟨outcome, s', .detached spec outcome :: notes.map .noted⟩

/-- Starts the display and waits for it. -/
def startDisplay (host : Host σ) (config : Config) (layout : Layout) (display : ChildSpec) :
    Run σ Unit := do
  ensureScratch host.toStorage host.fileUser layout.scratch
  detach host display
  waitForDisplay host config.readiness layout.screen

/-- Reports a stage and adds it to those that were reached before (`advance`). -/
def advance (stages : List Stage) (stage : Stage) : Run σ (List Stage) := do
  Run.reach stage
  return stages ++ [stage]

/-- Finds the identity, and says whom it found. -/
def findIdentity (users : Database) (name : String) : Run σ Identity := do
  let identity ← Run.consult (Account.resolve users name)
  Run.report (.identityFound identity.username identity.uid identity.gid identity.groups)
  return identity

/-- Gives the handoff away. -/
def giveHandoff (host : Host σ) (handoff : Path) (identity : Identity) : Run σ Unit := do
  Run.report (.handing handoff identity.username)
  transferOwnership host handoff identity

/-- Becomes the identity. -/
def becomeIdentity (host : Host σ) (identity : Identity) : Run σ Unit := do
  dropPrivileges host identity
  Run.report (.runningAs identity.uid)

/-- **Starts the display unless it runs.** -/
def provideDisplay (host : Host σ) (config : Config) (identity : Identity) (layout : Layout)
    (display : ChildSpec) (running : Bool) : Run σ DisplayDecision := do
  if running then
    Run.report (.displayKept identity.display)
    return .skipped
  else
    Run.report (.startingDisplay identity.display)
    startDisplay host config layout display
    return .launched

/-- Starts the video server. -/
def startServer (host : Host σ) (handoff : Path) (server : ChildSpec) : Run σ Unit := do
  Run.report (.startingServer handoff)
  detach host server

/-- **The whole run** (`run`). Behind each operation its stage is reported and collected. -/
def run (host : Host σ) (config : Config) (users : Database) (name : String) (handoff : Path) :
    Run σ SessionReport := do
  let identity ← findIdentity users name
  let stages ← advance [.start] .identityResolved
  giveHandoff host handoff identity
  let stages ← advance stages .handoffOwnershipTransferred
  becomeIdentity host identity
  let stages ← advance stages .privilegeDropped
  let layout := Layout.of config.session.scratchRoot identity.uid
  let plan := LaunchPlan.of config identity layout handoff
  let stages ← advance stages .environmentPrepared
  let running ← checkSession host identity.uid
  let stages ← advance stages .sessionChecked
  let decision ← provideDisplay host config identity layout plan.display running
  let stages ← advance stages decision.stage
  startServer host handoff plan.server
  let stages ← advance stages .streamingServerLaunched
  Run.report (.sessionReady identity.username identity.display (decision = .launched))
  let stages ← advance stages .done
  return ⟨identity, layout, decision, stages⟩

end Bootstrap

end DisplaySession
