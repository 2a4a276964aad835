import DisplaySession.Proofs.Bootstrap.History
import DisplaySession.Proofs.Launch.Endpoint

/-
Whose environment a child gets.

Four variables belong to the identity, and a fifth is the log variable, whose name is a setting. It
is set last, and of two values for one name the later one counts. So the log variable and its value
are always there, and nothing else is; but the identity's own variables are there only as long as
the log variable is none of them or has the same value anyway. The check of the settings does not
ask for that: a log variable of the name "DISPLAY" passes it, and sends the video server to another
display than the one that was started for it (`display_overridden`).

The home directory is handed on as its text, so the variable spells it only if it is text
(`own_environment_iff`).
-/
set_option autoImplicit false

namespace DisplaySession

/-! ## The identity's own variables -/

/-- **The variables of an identity**, whatever the settings are. -/
def Identity.variables (identity : Identity) : List Variable :=
  [("DISPLAY", identity.display), ("USERNAME", identity.username), ("USER", identity.username),
    ("HOME", identity.home.shown)]

/-- **The log variable stays clear** of an identity's variables: it is none of them, or it has the
value that the variable of its name has anyway. -/
def ChildEnvSettings.StaysClear (settings : ChildEnvSettings) (identity : Identity) : Prop :=
  ∀ v ∈ identity.variables, v.1 = settings.logVar → v.2 = settings.logLevel

instance (settings : ChildEnvSettings) (identity : Identity) :
    Decidable (settings.StaysClear identity) :=
  inferInstanceAs (Decidable (∀ v ∈ identity.variables, _))

/-- **An environment of an identity's own**: its display, its name twice, its home directory, the
log variable with its level, and no other variable. -/
structure Environment.IsOwn (env : Environment) (identity : Identity)
    (settings : ChildEnvSettings) : Prop where
  display : env.get? "DISPLAY" = some (":" ++ identity.uid.toNat.repr)
  username : env.get? "USERNAME" = some identity.username
  user : env.get? "USER" = some identity.username
  /-- The path that the variable spells is the home directory. -/
  home : (env.get? "HOME").map Path.ofString = some identity.home
  log : env.get? settings.logVar = some settings.logLevel
  others : ∀ v ∈ env.entries, v.1 ∈ ["DISPLAY", "USERNAME", "USER", "HOME", settings.logVar]

section

variable (identity : Identity) (settings : ChildEnvSettings)

theorem childEnvironment_eq :
    childEnvironment identity settings =
      (Environment.ofList identity.variables).set (settings.logVar, settings.logLevel) :=
  rfl

/-- **The log variable has its level** in the environment of every child. -/
theorem get?_childEnvironment_log :
    (childEnvironment identity settings).get? settings.logVar = some settings.logLevel := by
  rw [childEnvironment_eq, Environment.get?_set, if_pos rfl]

variable {identity settings}

theorem get?_variables {v : Variable} (hv : v ∈ identity.variables) :
    (Environment.ofList identity.variables).get? v.1 = some v.2 := by
  simp only [Identity.variables, List.mem_cons, List.not_mem_nil, or_false] at hv
  rcases hv with rfl | rfl | rfl | rfl <;>
    simp [Identity.variables, Environment.ofList, Environment.get?_set]

/-- **A variable of the identity has the identity's value** exactly if the log variable lets it. -/
theorem get?_childEnvironment_iff {v : Variable} (hv : v ∈ identity.variables) :
    (childEnvironment identity settings).get? v.1 = some v.2 ↔
      (v.1 = settings.logVar → v.2 = settings.logLevel) := by
  rw [childEnvironment_eq, Environment.get?_set]
  by_cases hname : v.1 = settings.logVar
  · rw [if_pos hname, Option.some.injEq]
    exact ⟨fun hlevel _ => hlevel.symm, fun hlevel => (hlevel hname).symm⟩
  · rw [if_neg hname, get?_variables hv]
    exact ⟨fun _ h => absurd h hname, fun _ => rfl⟩

/-- There is no variable but those of the identity and the log variable. -/
theorem names_childEnvironment :
    ∀ v ∈ (childEnvironment identity settings).entries,
      v.1 ∈ ["DISPLAY", "USERNAME", "USER", "HOME", settings.logVar] := by
  intro v hv
  have hset := Environment.mem_of_ofList hv
  simp only [List.mem_cons, List.not_mem_nil, or_false] at hset ⊢
  rcases hset with rfl | rfl | rfl | rfl | rfl <;> simp

/-- **A child's environment is its identity's own** exactly if the log variable stays clear and the
home directory is text. -/
theorem isOwn_childEnvironment_iff :
    (childEnvironment identity settings).IsOwn identity settings ↔
      settings.StaysClear identity ∧ identity.home.text?.isSome = true := by
  constructor
  · intro hown
    -- The text of the home directory is what its variable says, so it spells the directory.
    obtain ⟨home, hvalue, hspells⟩ := Option.map_eq_some_iff.mp hown.home
    have hhome : identity.home.shown = home := by rw [← hspells, Path.shown_ofString]
    refine ⟨?_, ?_⟩
    · intro v hv
      refine (get?_childEnvironment_iff hv).mp ?_
      simp only [Identity.variables, List.mem_cons, List.not_mem_nil, or_false] at hv
      rcases hv with rfl | rfl | rfl | rfl
      · exact hown.display
      · exact hown.username
      · exact hown.user
      · rw [hvalue, hhome]
    · rw [← Path.ofString_shown_iff, hhome, hspells]
  · rintro ⟨hclear, htext⟩
    have hvalue (v : Variable) (hv : v ∈ identity.variables) :
        (childEnvironment identity settings).get? v.1 = some v.2 :=
      (get?_childEnvironment_iff hv).mpr (hclear v hv)
    have hhome := hvalue ("HOME", identity.home.shown) (by simp [Identity.variables])
    refine ⟨hvalue ("DISPLAY", identity.display) (by simp [Identity.variables]),
      hvalue ("USERNAME", identity.username) (by simp [Identity.variables]),
      hvalue ("USER", identity.username) (by simp [Identity.variables]), ?_,
      get?_childEnvironment_log identity settings, names_childEnvironment⟩
    rw [hhome, Option.map_some, Path.ofString_shown htext]

end

/-- The standard settings stay clear of every variable of the user. -/
example : Config.standard.childEnv.StaysClear alice := by decide

/-- **Both children get their identity's own environment exactly if the log variable stays clear of
it and the home directory is text**, for all settings, identities, layouts and handoffs. The display
is started under the name of the identity in any case. -/
theorem own_environment_iff (config : Config) (identity : Identity) (layout : Layout)
    (handoff : Path) :
    (LaunchPlan.of config identity layout handoff).display.display? =
        some (":" ++ identity.uid.toNat.repr) ∧
      ((LaunchPlan.of config identity layout handoff).display.environment.IsOwn identity
            config.childEnv ∧
          (LaunchPlan.of config identity layout handoff).server.environment.IsOwn identity
            config.childEnv ↔
        config.childEnv.StaysClear identity ∧ identity.home.text?.isSome = true) := by
  refine ⟨rfl, ?_⟩
  -- The children share one environment.
  rw [← isOwn_childEnvironment_iff]
  exact and_self_iff

/-- Settings whose log variable has the name of the display's. -/
def displayAsLogVariable : Config :=
  { childEnv := { logVar := "DISPLAY" } }

/-- **A log variable of the display's name passes the check**, and then the server is sent to a
display of the name of the log level, while the one that was started is the identity's. -/
theorem display_overridden :
    displayAsLogVariable.check = .ok () ∧
      (childrenOfAlice displayAsLogVariable).display.display? = some ":1000" ∧
      (childrenOfAlice displayAsLogVariable).display.environment.get? "DISPLAY" = some "info" ∧
      (childrenOfAlice displayAsLogVariable).server.environment.get? "DISPLAY" = some "info" := by
  refine ⟨rfl, rfl, ?_, ?_⟩ <;> exact get?_childEnvironment_log alice displayAsLogVariable.childEnv

end DisplaySession
