import DisplaySession.Account.Identity
import DisplaySession.Config.Basic
import DisplaySession.Launch.Spec
import DisplaySession.Session.Layout

/-
The two children of a session: the display and the video server.

Both argument lists are fixed templates and both children get the same fixed environment. A path
becomes an argument by being shown, so a path that is no text changes on the way.
-/
set_option autoImplicit false

namespace DisplaySession

/-- **The environment of every child** (`child_environment`). The log variable is set last and so
replaces a variable of the same name. -/
def childEnvironment (identity : Identity) (settings : ChildEnvSettings) : Environment :=
  Environment.ofList
    [("DISPLAY", identity.display),
      ("USERNAME", identity.username),
      ("USER", identity.username),
      ("HOME", identity.home.shown),
      (settings.logVar, settings.logLevel)]

/-- **The display's arguments** (`display_argv`): a display starter with its script, and behind the
dashes a server for the named display that keeps its screen in the scratch directory. -/
def displayArguments (settings : DisplaySettings) (display : String) (layout : Layout) :
    List String :=
  [settings.xinitPath.shown, settings.sessionScript.shown, "--", settings.xvfbPath.shown, display,
    "-screen", "0", settings.geometry, "-fbdir", layout.scratch.shown, "-nocursor"]

/-- **The video server's arguments** (`server_argv`): it serves on the handoff and reads the screen
file. -/
def serverArguments (settings : ServerSettings) (handoff : Path) (layout : Layout) :
    List String :=
  [settings.binary.shown, "-u", "-c", "-l", handoff.shown, "-f", settings.configPath.shown, "-a",
    "-s", "-e", settings.encoder, "-k", layout.screen.shown]

/-- **The children of a session** (`LaunchPlan`). -/
structure LaunchPlan where
  /-- The display. -/
  display : ChildSpec
  /-- The video server. -/
  server : ChildSpec

/-- The children of an identity's session. -/
def LaunchPlan.of (config : Config) (identity : Identity) (layout : Layout) (handoff : Path) :
    LaunchPlan :=
  let environment := childEnvironment identity config.childEnv
  ⟨⟨displayArguments config.display identity.display layout, environment⟩,
    ⟨serverArguments config.server handoff layout, environment⟩⟩

end DisplaySession
