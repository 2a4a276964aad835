import DisplaySession.Proofs.Bootstrap.History
import DisplaySession.Proofs.Bootstrap.Parts
import DisplaySession.Proofs.Config.RoundTrip
import DisplaySession.Proofs.Session.Scratch

/-
Display and server agree on the screen file.

The place of the screen is derived three times: as a path, in which the scratch directory is made
and the file is looked for, and as two texts, one for the display and one for the server. Each text
is shown leniently on its own, so what the two have in common has to survive the showing. It does,
because a separator is a character by itself, whatever unfinished sequence stands in front of it:
the children agree whatever the scratch root is, and they agree with the run if it is a text
(`framebuffer_agreed`).
-/
set_option autoImplicit false

namespace DisplaySession

/-! ## Names below a path -/

namespace Path

theorem ofString_slash (name : String) :
    Utf8.ofString ("/" ++ name) = slash :: Utf8.ofString name := by
  rw [Utf8.ofString_append]
  rfl

/-- **A name is shown as it is below any path**, also where the path ends inside a sequence. -/
theorem shown_append_slash (front : Bytes) (name : String) :
    Utf8.shown (front ++ slash :: Utf8.ofString name) = Utf8.shown front ++ ("/" ++ name) := by
  rw [Utf8.shown_append (by decide), ← ofString_slash]
  exact congrArg _ (shown_ofString ("/" ++ name))

theorem shown_join (path : Path) (name : String) :
    ∃ front, (path.join (Utf8.ofString name)).shown = front ++ name := by
  rw [shown]
  rcases path.bytes_join (Utf8.ofString name) with hbytes | ⟨front, hbytes⟩
  · exact ⟨"", by rw [hbytes, String.empty_append]; exact shown_ofString name⟩
  · exact ⟨Utf8.shown front ++ "/", by rw [hbytes, shown_append_slash, String.append_assoc]⟩

/-- **Showing a name below a path** comes to the same as putting the name below what is shown. -/
theorem ofString_shown_join (path : Path) (name : String) :
    ofString (path.join (Utf8.ofString name)).shown =
      (ofString path.shown).join (Utf8.ofString name) := by
  have hbelow (front : Bytes) (name : String) :
      Utf8.ofString (Utf8.shown (front ++ slash :: Utf8.ofString name)) =
        Utf8.ofString (Utf8.shown front) ++ slash :: Utf8.ofString name := by
    rw [shown_append_slash, Utf8.ofString_append, ofString_slash]
  have hends : ((ofString path.shown).bytes = [] ∨
      (ofString path.shown).bytes.getLast? = some slash) ↔
      (path.bytes = [] ∨ path.bytes.getLast? = some slash) :=
    or_congr Utf8.ofString_shown_eq_nil_iff (Utf8.getLast?_ofString_shown (by decide) path.bytes)
  by_cases hend : path.bytes = [] ∨ path.bytes.getLast? = some slash
  · rw [join, join, if_pos hend, if_pos (hends.mpr hend)]
    refine congrArg Path.mk ?_
    show Utf8.ofString (Utf8.shown (path.bytes ++ Utf8.ofString name)) =
      Utf8.ofString (Utf8.shown path.bytes) ++ Utf8.ofString name
    rcases hend with hempty | hslash
    · rw [hempty]
      exact congrArg Utf8.ofString (shown_ofString name)
    · obtain ⟨front, hfront⟩ := List.getLast?_eq_some_iff.mp hslash
      have hshown : Utf8.ofString (Utf8.shown (front ++ [slash])) =
          Utf8.ofString (Utf8.shown front) ++ [slash] := hbelow front ""
      rw [hfront, hshown, List.append_assoc, List.append_assoc, List.singleton_append, hbelow]
  · rw [join, join, if_neg hend, if_neg (mt hends.mp hend)]
    exact congrArg Path.mk (hbelow path.bytes name)

/-- A name that is text below a path that is text gives a path that is text. -/
theorem isSome_text?_join {path : Path} (h : path.text?.isSome = true) (name : String) :
    (path.join (Utf8.ofString name)).text?.isSome = true := by
  have hjoined := ofString_shown_join path name
  rw [ofString_shown h] at hjoined
  rw [text?_eq_some_iff.mpr hjoined.symm]
  rfl

end Path

/-! ## The places of a display -/

namespace Layout

variable (root : Path) (uid : UInt32)

/-- The last character of a scratch directory is a digit. -/
theorem isDigit_getLast_scratch :
    ∃ c, (Layout.of root uid).scratch.shown.toList.getLast? = some c ∧ c.isDigit = true := by
  obtain ⟨front, hfront⟩ := root.shown_join uid.toNat.repr
  have hne := Text.repr_ne_empty uid.toNat
  have hlast : (Layout.of root uid).scratch.shown.toList.getLast? =
      some (uid.toNat.repr.toList.getLast hne) := by
    show (root.join (Utf8.ofString uid.toNat.repr)).shown.toList.getLast? = _
    rw [hfront, String.toList_append, List.getLast?_append_of_ne_nil _ hne,
      List.getLast?_eq_some_getLast hne]
  exact ⟨_, hlast, Text.isDigit_of_mem_repr (List.getLast_mem hne)⟩

theorem bytes_screen :
    (Layout.of root uid).screen.bytes =
      (Layout.of root uid).scratch.bytes ++ slash :: screenName := by
  -- The scratch directory ends in a digit, so a separator is put behind it.
  have hend : ¬((Layout.of root uid).scratch.bytes = [] ∨
      (Layout.of root uid).scratch.bytes.getLast? = some slash) :=
    not_or.mpr ⟨Path.bytes_join_ne_nil root (isName_scratchName uid),
      Path.getLast?_join root (isName_scratchName uid)⟩
  show ((Layout.of root uid).scratch.join screenName).bytes = _
  rw [Path.join, if_neg hend]

/-- **The screen file is shown below the scratch directory**, whatever the scratch root is. -/
theorem shown_screen :
    (Layout.of root uid).screen.shown = (Layout.of root uid).scratch.shown ++ "/Xvfb_screen0" := by
  rw [Path.shown, bytes_screen]
  exact Path.shown_append_slash _ "Xvfb_screen0"

/-- **A scratch directory as the display is told it** is the one in the scratch root as it is shown.
-/
theorem ofString_shown_scratch :
    Path.ofString (Layout.of root uid).scratch.shown =
      (Layout.of (.ofString root.shown) uid).scratch :=
  Path.ofString_shown_join root _

variable {root} in
theorem ofString_shown_screen (h : root.text?.isSome = true) :
    Path.ofString ((Layout.of root uid).scratch.shown ++ "/Xvfb_screen0") =
      (Layout.of root uid).screen := by
  rw [← shown_screen]
  exact Path.ofString_shown (Path.isSome_text?_join (Path.isSome_text?_join h _) "Xvfb_screen0")

end Layout

/-! ## The arguments behind a flag -/

/-- **The value of a flag**: the argument behind its last place in a list of arguments. -/
def valueOf? (flag : String) : List String → Option String
  | [] => none
  | argument :: rest =>
    (valueOf? flag rest).or (if argument = flag then rest.head? else none)

/-- What a flag is told last is its value, whatever stands in front. -/
theorem valueOf?_append {flag value : String} (before : List String) {after : List String}
    (h : valueOf? flag after = some value) : valueOf? flag (before ++ after) = some value := by
  induction before with
  | nil => exact h
  | cons argument before ih => rw [List.cons_append, valueOf?, ih, Option.some_or]

section

variable (config : Config) (handoff : Path) (identity : Identity)

/-- **The display is told its scratch directory.** -/
theorem valueOf?_display :
    valueOf? "-fbdir" (plannedFor config handoff identity).display.arguments =
      some (Layout.of config.session.scratchRoot identity.uid).scratch.shown := by
  obtain ⟨c, hlast, hdigit⟩ := Layout.isDigit_getLast_scratch config.session.scratchRoot identity.uid
  have hflag : (Layout.of config.session.scratchRoot identity.uid).scratch.shown ≠ "-fbdir" := by
    intro heq
    rw [heq] at hlast
    obtain rfl := Option.some.inj hlast
    cases hdigit
  have hlast : valueOf? "-fbdir" ["-fbdir",
      (Layout.of config.session.scratchRoot identity.uid).scratch.shown, "-nocursor"] =
      some (Layout.of config.session.scratchRoot identity.uid).scratch.shown := by
    simp [valueOf?, hflag]
  exact valueOf?_append [_, _, _, _, _, _, _, _] hlast

/-- **The server is told the screen file.** -/
theorem valueOf?_server :
    valueOf? "-k" (plannedFor config handoff identity).server.arguments =
      some (Layout.of config.session.scratchRoot identity.uid).screen.shown := by
  have hflag : (Layout.of config.session.scratchRoot identity.uid).screen.shown ≠ "-k" := by
    intro heq
    have hlength := congrArg String.length heq
    rw [Layout.shown_screen, String.length_append] at hlength
    have hscreen : "/Xvfb_screen0".length = 13 := rfl
    have hk : "-k".length = 2 := rfl
    omega
  have hlast : valueOf? "-k" ["-k",
      (Layout.of config.session.scratchRoot identity.uid).screen.shown] =
      some (Layout.of config.session.scratchRoot identity.uid).screen.shown := by
    simp [valueOf?, hflag]
  exact valueOf?_append [_, _, _, _, _, _, _, _, _, _, _] hlast

end

/-! ## The places in a run -/

/-- An event that makes no other directory and looks for no other file. -/
def Event.IsAt (directory screen : Path) : Event → Prop
  | .directoryAsked path _ => path = directory
  | .looked path _ => path = screen
  | _ => True

/-- **The places of a display in a trace**: no other directory is made and no other file is looked
for. A display is launched only after its directory was asked for, and if it was launched, the run
waits for its screen file. -/
structure UsesPlaces (readiness : Readiness) (display : ChildSpec) (directory screen : Path)
    (trace : List Event) : Prop where
  places : ∀ event ∈ trace, event.IsAt directory screen
  asked : ∀ outcome, .detached display outcome ∈ trace → ∃ made,
    .directoryAsked directory made ∈ trace
  waited : .detached display (.ok ()) ∈ trace →
    ∃ found, waitEvents found screen readiness <:+: trace

section

variable {readiness : Readiness} {display : ChildSpec} {directory screen : Path}

variable (readiness display directory screen) in
theorem composes_usesPlaces : Composes (UsesPlaces readiness display directory screen) := by
  constructor
  · intro trace h
    refine ⟨fun event he => ?_, fun _ he => (h _ he).elim, fun he => (h _ he).elim⟩
    cases event <;> first | exact trivial | exact (h _ he).elim
  · intro first second hfirst hsecond
    refine ⟨List.forall_mem_append.mpr ⟨hfirst.places, hsecond.places⟩, fun outcome h => ?_,
      fun h => ?_⟩
    · rcases List.mem_append.mp h with h | h
      · obtain ⟨made, hmade⟩ := hfirst.asked outcome h
        exact ⟨made, List.mem_append_left _ hmade⟩
      · obtain ⟨made, hmade⟩ := hsecond.asked outcome h
        exact ⟨made, List.mem_append_right _ hmade⟩
    · rcases List.mem_append.mp h with h | h
      · obtain ⟨found, hfound⟩ := hfirst.waited h
        exact ⟨found, hfound.trans (List.prefix_append _ _).isInfix⟩
      · obtain ⟨found, hfound⟩ := hsecond.waited h
        exact ⟨found, hfound.trans (List.suffix_append _ _).isInfix⟩

theorem isAt_waitEvents (found : Nat → Bool) :
    ∀ event ∈ waitEvents found screen readiness, event.IsAt directory screen := by
  intro event h
  cases waits_waitEvents found screen readiness event h <;> simp [Event.IsAt]

end

namespace Bootstrap

variable {σ : Type} {host : Host σ} {config : Config} {users : Database} {name : String}
  {handoff : Path}

/-- **A display is started at its places.** -/
theorem usesPlaces_startDisplay (layout : Layout) (display : ChildSpec) (s : σ) :
    UsesPlaces config.readiness display layout.scratch layout.screen
      (startDisplay host config layout display s).trace := by
  have hensure : Run.Leaves (Event.IsAt layout.scratch layout.screen)
      (ensureScratch host.toStorage host.fileUser layout.scratch) := by
    intro s
    obtain ⟨made, reports, hasked⟩ :=
      ensureScratch_asks host.toStorage host.fileUser layout.scratch s
    rw [hasked]
    simp [Event.IsAt]
  have hdetach : Run.Leaves (Event.IsAt layout.scratch layout.screen) (detach host display) := by
    intro s
    simp [detach, Event.IsAt]
  have hwait : Run.Leaves (Event.IsAt layout.scratch layout.screen)
      (waitForDisplay host config.readiness layout.screen) := fun _ => isAt_waitEvents _
  obtain ⟨made, reports, hasked⟩ :=
    ensureScratch_asks host.toStorage host.fileUser layout.scratch s
  refine ⟨Run.leaves_bind hensure (fun _ => Run.leaves_bind hdetach fun _ => hwait) s, ?_, ?_⟩
  · intro outcome _
    obtain ⟨rest, htrace⟩ := Run.trace_bind (ensureScratch host.toStorage host.fileUser
      layout.scratch) (fun _ => do
        detach host display
        waitForDisplay host config.readiness layout.screen) s
    refine ⟨made, ?_⟩
    rw [startDisplay, htrace, hasked]
    exact List.mem_append_left _ List.mem_cons_self
  · intro hlaunched
    rw [startDisplay] at hlaunched ⊢
    cases hensured : (ensureScratch host.toStorage host.fileUser layout.scratch s).result with
    | error failure =>
      rw [Run.bind_of_error _ hensured, hasked] at hlaunched
      simp at hlaunched
    | ok _ =>
      rw [Run.bind_of_ok _ hensured, hasked] at hlaunched
      rw [Run.bind_of_ok _ hensured]
      generalize (ensureScratch host.toStorage host.fileUser layout.scratch s).state = t
        at hlaunched ⊢
      cases hdetached : (detach host display t).result with
      | error failure =>
        -- The launch that the trace holds is the one that failed.
        rw [Run.bind_of_error _ hdetached] at hlaunched
        have hfailed : (host.detach display t).1.1 = .error failure := hdetached
        simp [detach, hfailed] at hlaunched
      | ok _ =>
        rw [Run.bind_of_ok _ hdetached, ← List.append_assoc]
        exact ⟨_, (List.suffix_append _ _).isInfix⟩

variable (host config users name handoff) in
/-- **A run keeps to the places of its identity's display**, however it ends. -/
theorem usesPlaces_run {identity : Identity}
    (hfound : (Account.resolve users name).result = .ok identity) (s : σ) :
    UsesPlaces config.readiness (plannedFor config handoff identity).display
      (Layout.of config.session.scratchRoot identity.uid).scratch
      (Layout.of config.session.scratchRoot identity.uid).screen
      (run host config users name handoff s).trace := by
  have hsame {found : Identity} (h : (Account.resolve users name).result = .ok found) :
      found = identity := Except.ok.inj (h.symm.trans hfound)
  refine holds_run (composes_usesPlaces _ _ _ _) (fun found h s => ?_) (fun found h s => ?_) s
  · rw [hsame h]
    exact usesPlaces_startDisplay _ _ s
  · -- The server is another child, so its launch says nothing about the display.
    have hother := display_ne_server config handoff identity
    rw [hsame h]
    refine ⟨?_, ?_, ?_⟩ <;> simp [detach, Event.IsAt, hother]

end Bootstrap

/-- **Display and server agree on the screen file**, for all settings, identities and handoffs.

* The screen that the server is told to read is the screen file in the directory that the display is
  told to keep it in. What a child is told last counts.
* The display is named by the user id in digits, and both children get one environment.
* If the scratch root is text, that directory is the one that every run asks for, byte for byte, and
  the file in it is the one that every run waits for. -/
theorem framebuffer_agreed (config : Config) (identity : Identity) (handoff : Path) :
    ∃ directory,
      valueOf? "-fbdir" (plannedFor config handoff identity).display.arguments = some directory ∧
      valueOf? "-k" (plannedFor config handoff identity).server.arguments =
        some (directory ++ "/Xvfb_screen0") ∧
      (plannedFor config handoff identity).display.display? =
        some (":" ++ identity.uid.toNat.repr) ∧
      (plannedFor config handoff identity).display.environment =
        (plannedFor config handoff identity).server.environment ∧
      (config.session.scratchRoot.text?.isSome = true →
        ∀ {σ : Type} (host : Host σ) (users : Database) (name : String) (s : σ),
          (Account.resolve users name).result = .ok identity →
          UsesPlaces config.readiness (plannedFor config handoff identity).display
            (.ofString directory) (.ofString (directory ++ "/Xvfb_screen0"))
            (Bootstrap.run host config users name handoff s).trace) := by
  refine ⟨_, valueOf?_display config handoff identity, ?_, rfl, rfl, ?_⟩
  · rw [valueOf?_server, Layout.shown_screen]
  · intro htext σ host users name s hfound
    rw [Layout.ofString_shown_scratch, Path.ofString_shown htext,
      Layout.ofString_shown_screen _ htext]
    exact Bootstrap.usesPlaces_run host config users name handoff hfound s

/-- A scratch root that ends inside a sequence is shown in the same way to both. -/
example :
    (Layout.of ⟨[slash, 0xe2, 0x82]⟩ 7).scratch.shown = "/�/7" ∧
      (Layout.of ⟨[slash, 0xe2, 0x82]⟩ 7).screen.shown = "/�/7/Xvfb_screen0" := by
  decide

end DisplaySession
