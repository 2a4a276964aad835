import DisplaySession.Launch.Plan
import DisplaySession.Proofs.Launch.Image

/-
Which settings make children that can be launched.

The check of the settings asks for what has to hold of a program's path and of the log variable's
name. It does not ask whether a setting holds a zero, and the launch refuses a command with one. So
of the settings that pass the check, those with a zero in a text or a path that is handed on fail
when the children are launched, and no others do.
-/
set_option autoImplicit false

namespace DisplaySession

/-! ## What the check asks for -/

namespace Config

/-- **What holds of settings that pass the check**, as far as the children are concerned. -/
structure Checked (config : Config) : Prop where
  starter : config.display.xinitPath.isAbsolute = true
  server : config.server.binary.isAbsolute = true
  named : config.childEnv.logVar ≠ ""
  separable : '=' ∉ config.childEnv.logVar.toList

theorem checked_of_check {config : Config} (h : config.check = .ok ()) : config.Checked := by
  -- The check gives its answer only if each question before the last was answered the same way.
  have hstep {first : Except ConfigFault Unit} {rest : Except ConfigFault Unit}
      (hboth : (first >>= fun _ => rest) = .ok ()) : first = .ok () ∧ rest = .ok () := by
    cases first with
    | error fault => cases hboth
    | ok _ => exact ⟨rfl, hboth⟩
  obtain ⟨hstarter, h⟩ := hstep h
  obtain ⟨hserver, h⟩ := hstep h
  obtain ⟨_, h⟩ := hstep h
  obtain ⟨_, h⟩ := hstep h
  obtain ⟨hvariable, _⟩ := hstep h
  have habsolute {key : String} {path : Path} (hpath : checkAbsolute key path = .ok ()) :
      path.isAbsolute = true := by
    by_cases hroot : path.isAbsolute = true
    · exact hroot
    · rw [checkAbsolute, if_neg hroot] at hpath
      cases hpath
  have hname : ¬(config.childEnv.logVar = "" ∨ '=' ∈ config.childEnv.logVar.toList) := by
    intro hbad
    rw [checkLogVariable, if_pos hbad] at hvariable
    cases hvariable
  rw [not_or] at hname
  exact ⟨habsolute hstarter, habsolute hserver, hname.1, hname.2⟩

end Config

/-! ## Paths as arguments -/

namespace Path

theorem not_mem_join {path : Path} {name : Bytes} (h : 0 ∉ name) :
    0 ∉ (path.join name).bytes ↔ 0 ∉ path.bytes := by
  have hslash : (0 : UInt8) ≠ slash := by decide
  by_cases hend : path.bytes = [] ∨ path.bytes.getLast? = some slash
  · rw [join, if_pos hend]
    simp [h]
  · rw [join, if_neg hend]
    simp [h, hslash]

/-- **A path from the root is shown as one.** -/
theorem isAbsolute_shown {path : Path} (h : path.isAbsolute = true) :
    (ofString path.shown).isAbsolute = true := by
  obtain ⟨bytes⟩ := path
  cases bytes with
  | nil => cases h
  | cons b rest =>
    -- A separator is a character by itself, whatever the bytes behind it are.
    obtain rfl : b = slash := by simpa [isAbsolute] using h
    have hlead : Utf8.lead slash = .one := by decide
    have hpieces : Utf8.pieces (slash :: rest) = some '/' :: Utf8.pieces rest := by
      rw [Utf8.pieces, hlead]
      rfl
    have hshown : Utf8.decodeLossy (slash :: rest) = '/' :: Utf8.decodeLossy rest := by
      rw [Utf8.decodeLossy, hpieces]
      rfl
    rw [shown, Utf8.shown, hshown, ofString, Utf8.ofString, String.toList_ofList]
    rfl

end Path

namespace Layout

variable {root : Path} {uid : UInt32}

theorem not_mem_scratch : 0 ∉ (Layout.of root uid).scratch.bytes ↔ 0 ∉ root.bytes :=
  Path.not_mem_join ((zeroFree_iff _).mp (zeroFree_repr _))

theorem not_mem_screen : 0 ∉ (Layout.of root uid).screen.bytes ↔ 0 ∉ root.bytes :=
  (Path.not_mem_join (by decide)).trans not_mem_scratch

end Layout

/-! ## The strings of the children -/

/-- The log variable's settings hold no zero. -/
structure ChildEnvSettings.ZeroFree (settings : ChildEnvSettings) : Prop where
  logVar : DisplaySession.ZeroFree settings.logVar
  logLevel : DisplaySession.ZeroFree settings.logLevel

/-- The display's settings hold no zero. -/
structure DisplaySettings.ZeroFree (settings : DisplaySettings) : Prop where
  xinitPath : 0 ∉ settings.xinitPath.bytes
  sessionScript : 0 ∉ settings.sessionScript.bytes
  xvfbPath : 0 ∉ settings.xvfbPath.bytes
  geometry : DisplaySession.ZeroFree settings.geometry

/-- The video server's settings hold no zero. -/
structure ServerSettings.ZeroFree (settings : ServerSettings) : Prop where
  binary : 0 ∉ settings.binary.bytes
  configPath : 0 ∉ settings.configPath.bytes
  encoder : DisplaySession.ZeroFree settings.encoder

/-- **The display's arguments hold no zero exactly if the settings in them hold none.** -/
theorem zeroFree_displayArguments {settings : DisplaySettings} {display : String} {layout : Layout}
    (hdisplay : ZeroFree display) :
    (∀ a ∈ displayArguments settings display layout, ZeroFree a) ↔
      settings.ZeroFree ∧ 0 ∉ layout.scratch.bytes := by
  simp only [displayArguments, List.forall_mem_cons, zeroFree_shown]
  constructor
  · rintro ⟨hstarter, hscript, -, hserver, -, -, -, hgeometry, -, hscratch, -⟩
    exact ⟨⟨hstarter, hscript, hserver, hgeometry⟩, hscratch⟩
  · rintro ⟨⟨hstarter, hscript, hserver, hgeometry⟩, hscratch⟩
    exact ⟨hstarter, hscript, by decide, hserver, hdisplay, by decide, by decide, hgeometry,
      by decide, hscratch, by decide, fun _ hnone => nomatch hnone⟩

/-- **The video server's arguments hold no zero exactly if the settings in them hold none.** -/
theorem zeroFree_serverArguments {settings : ServerSettings} {handoff : Path} {layout : Layout}
    (hhandoff : 0 ∉ handoff.bytes) :
    (∀ a ∈ serverArguments settings handoff layout, ZeroFree a) ↔
      settings.ZeroFree ∧ 0 ∉ layout.screen.bytes := by
  simp only [serverArguments, List.forall_mem_cons, zeroFree_shown]
  constructor
  · rintro ⟨hbinary, -, -, -, -, -, hconfig, -, -, -, hencoder, -, hscreen, -⟩
    exact ⟨⟨hbinary, hconfig, hencoder⟩, hscreen⟩
  · rintro ⟨⟨hbinary, hconfig, hencoder⟩, hscreen⟩
    exact ⟨hbinary, by decide, by decide, by decide, hhandoff, by decide, hconfig, by decide,
      by decide, by decide, hencoder, by decide, hscreen, fun _ hnone => nomatch hnone⟩

theorem Identity.zeroFree_display (identity : Identity) : ZeroFree identity.display :=
  zeroFree_append.mpr ⟨by decide, zeroFree_repr _⟩

/-- **The children's variables can be handed exactly if the log variable's settings hold no zero.**
-/
theorem launchable_childEnvironment {identity : Identity} {settings : ChildEnvSettings}
    (hnamed : settings.logVar ≠ "") (hseparable : '=' ∉ settings.logVar.toList)
    (husername : ZeroFree identity.username) (hhome : 0 ∉ identity.home.bytes) :
    (∀ v ∈ (childEnvironment identity settings).entries, Variable.Launchable v) ↔
      settings.ZeroFree := by
  constructor
  · intro h
    -- The log variable is set last, so it is there even if its name is one of the others'.
    have hlast := h (settings.logVar, settings.logLevel) (Environment.last_mem_ofList
      [("DISPLAY", identity.display), ("USERNAME", identity.username),
        ("USER", identity.username), ("HOME", identity.home.shown)] _)
    exact ⟨hlast.name, hlast.value⟩
  · rintro ⟨hname, hvalue⟩ v hv
    have hfixed : ∀ name ∈ ["DISPLAY", "USERNAME", "USER", "HOME"],
        name ≠ "" ∧ '=' ∉ name.toList ∧ ZeroFree name := by decide
    have hwith {name text : String} (hmem : name ∈ ["DISPLAY", "USERNAME", "USER", "HOME"])
        (htext : ZeroFree text) : Variable.Launchable (name, text) := by
      obtain ⟨hne, heq, hzero⟩ := hfixed name hmem
      exact ⟨hne, heq, hzero, htext⟩
    have hset := Environment.mem_of_ofList hv
    simp only [List.mem_cons, List.not_mem_nil, or_false] at hset
    rcases hset with rfl | rfl | rfl | rfl | rfl
    · exact hwith (by decide) identity.zeroFree_display
    · exact hwith (by decide) husername
    · exact hwith (by decide) husername
    · exact hwith (by decide) ((zeroFree_shown _).mpr hhome)
    · exact ⟨hnamed, hseparable, hname, hvalue⟩

/-! ## The children that can be launched -/

/-- **A launch goes by a condition.** If it holds, the child has an image and is launched; if it
does not, the launch refuses the command. The program is a path from the root in any case. -/
structure ChildSpec.LaunchedIff (spec : ChildSpec) (condition : Prop) : Prop where
  taken : condition → ∃ image, Image.ofSpec spec = .ok image ∧
    (detachChild spec).result = .ok image
  refused : ¬condition → ∃ defect, Image.ofSpec spec = .error defect ∧
    (detachChild spec).result = .error (.invalidCommand defect)
  absolute : (Path.ofString spec.program).isAbsolute = true

/-- A launch goes by what its arguments and its variables go by. -/
theorem ChildSpec.launchedIff_of {spec : ChildSpec} {handed named : Prop}
    (hpresent : spec.arguments ≠ []) (harguments : (∀ a ∈ spec.arguments, ZeroFree a) ↔ handed)
    (hvariables : (∀ v ∈ spec.environment.entries, Variable.Launchable v) ↔ named)
    (habsolute : (Path.ofString spec.program).isAbsolute = true) :
    spec.LaunchedIff (handed ∧ named) := by
  have hiff : spec.Launchable ↔ handed ∧ named := by
    constructor
    · intro h
      exact ⟨harguments.mp h.arguments, hvariables.mp h.environment⟩
    · rintro ⟨hhanded, hnamed⟩
      exact ⟨hpresent, harguments.mpr hhanded, hvariables.mpr hnamed⟩
  rcases detachChild_cases spec with ⟨hlaunchable, htaken⟩ | ⟨hlaunchable, hrefused⟩
  · exact ⟨fun _ => htaken, fun hnot => absurd (hiff.mp hlaunchable) hnot, habsolute⟩
  · exact ⟨fun hholds => absurd (hiff.mpr hholds) hlaunchable, fun _ => hrefused, habsolute⟩

/-- **With settings that pass the check, the display is launched exactly if the settings it is
handed hold no zero, and so is the video server**; otherwise the launch refuses the command. -/
theorem launchedIff_plan {config : Config} (hcheck : config.check = .ok ()) {identity : Identity}
    (husername : ZeroFree identity.username) (hhome : 0 ∉ identity.home.bytes) {handoff : Path}
    (hhandoff : 0 ∉ handoff.bytes) :
    (LaunchPlan.of config identity (Layout.of config.session.scratchRoot identity.uid)
      handoff).display.LaunchedIff
        ((config.display.ZeroFree ∧ 0 ∉ config.session.scratchRoot.bytes) ∧
          config.childEnv.ZeroFree) ∧
    (LaunchPlan.of config identity (Layout.of config.session.scratchRoot identity.uid)
      handoff).server.LaunchedIff
        ((config.server.ZeroFree ∧ 0 ∉ config.session.scratchRoot.bytes) ∧
          config.childEnv.ZeroFree) := by
  have hchecked := Config.checked_of_check hcheck
  have hvariables := launchable_childEnvironment hchecked.named hchecked.separable husername hhome
  constructor
  · refine ChildSpec.launchedIff_of (List.cons_ne_nil _ _) ?_ hvariables
      (Path.isAbsolute_shown hchecked.starter)
    rw [← @Layout.not_mem_scratch _ identity.uid]
    exact zeroFree_displayArguments identity.zeroFree_display
  · refine ChildSpec.launchedIff_of (List.cons_ne_nil _ _) ?_ hvariables
      (Path.isAbsolute_shown hchecked.server)
    rw [← @Layout.not_mem_screen _ identity.uid]
    exact zeroFree_serverArguments hhandoff

/-- A user. -/
def alice : Identity :=
  ⟨"alice", 1000, 1000, .ofString "/home/alice", [1000]⟩

/-- The children of the user with some settings. -/
def childrenOfAlice (config : Config) : LaunchPlan :=
  LaunchPlan.of config alice (Layout.of config.session.scratchRoot alice.uid) (.ofString "/tmp/s")

/-- Settings with a zero in the size of the screen. -/
def zeroInGeometry : Config :=
  { display := { geometry := "800x600\x00x24" } }

/-- The size of the screen is handed to the display only, so only the display is refused. -/
theorem launchedIff_plan_zeroInGeometry :
    zeroInGeometry.check = .ok () ∧ ZeroFree alice.username ∧ 0 ∉ alice.home.bytes ∧
      0 ∉ (Path.ofString "/tmp/s").bytes ∧
      (∃ defect, Image.ofSpec (childrenOfAlice zeroInGeometry).display = .error defect ∧
        (detachChild (childrenOfAlice zeroInGeometry).display).result =
          .error (.invalidCommand defect)) ∧
      ∃ image, Image.ofSpec (childrenOfAlice zeroInGeometry).server = .ok image ∧
        (detachChild (childrenOfAlice zeroInGeometry).server).result = .ok image := by
  have hcheck : zeroInGeometry.check = .ok () := rfl
  have husername : ZeroFree alice.username := by decide
  have hhome : 0 ∉ alice.home.bytes := by decide
  have hhandoff : 0 ∉ (Path.ofString "/tmp/s").bytes := by decide
  obtain ⟨hdisplay, hserver⟩ := launchedIff_plan hcheck husername hhome hhandoff
  have hzero : ¬ZeroFree zeroInGeometry.display.geometry := by decide
  have hscratch : 0 ∉ zeroInGeometry.session.scratchRoot.bytes := by decide
  have henvironment : zeroInGeometry.childEnv.ZeroFree := ⟨by decide, by decide⟩
  refine ⟨hcheck, husername, hhome, hhandoff, hdisplay.refused ?_, hserver.taken ?_⟩
  · rintro ⟨⟨hsettings, -⟩, -⟩
    exact hzero hsettings.geometry
  · exact ⟨⟨⟨by decide, by decide, by decide⟩, hscratch⟩, henvironment⟩

/-- **A zero in the size of the screen passes the check**, and the launch of the display refuses the
command for it. -/
theorem zeroInGeometry_refused :
    zeroInGeometry.check = .ok () ∧
      Image.ofSpec (childrenOfAlice zeroInGeometry).display =
        .error (.zeroByte "/usr/bin/xinit" 7) ∧
      (detachChild (childrenOfAlice zeroInGeometry).display).result =
        .error (.invalidCommand (.zeroByte "/usr/bin/xinit" 7)) := by
  have himage : Image.ofSpec (childrenOfAlice zeroInGeometry).display =
      .error (.zeroByte "/usr/bin/xinit" 7) := by rfl
  refine ⟨rfl, himage, ?_⟩
  rw [detachChild, himage]
  rfl

end DisplaySession
