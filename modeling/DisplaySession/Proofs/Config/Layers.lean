import DisplaySession.Proofs.Config.Load
import Mathlib

/-
Each setting comes from the highest layer that gives it: a variable, the file, the standard.

A file gives texts when its sections are tables with texts under the keys of the settings, and
variables give texts when each of them names one setting and reads as nothing else than text. For
such files and variables the settings that are loaded can be said at once, key by key (`chosen`), and
nothing that is given for one key makes a difference to another. Whatever else is in the file is
passed over, with one exception: a name at the root of a document is read as a path, so that a name
in quotes may lead into a section (`QuotedPathFree`).

The readiness has no texts but the name of its mode, and comes from the file alone (`WaitGiven`).
-/
set_option autoImplicit false

namespace DisplaySession.Config

open Toml

/-! ## Settings that are texts -/

/-- **The settings that are texts**, by section and key. -/
def textSettings : List (String × String) :=
  [("identity", "source"), ("identity", "getent_path"), ("identity", "passwd_path"),
    ("identity", "group_path"), ("session", "scratch_root"), ("session", "pgrep_path"),
    ("session", "process_name"), ("display", "xinit_path"), ("display", "session_script"),
    ("display", "xvfb_path"), ("display", "geometry"), ("server", "binary"),
    ("server", "config_path"), ("server", "encoder"), ("child_env", "log_var"),
    ("child_env", "log_level")]

/-- The names of the record sources. -/
def sourceNames : List String :=
  ["files", "getent"]

/-- **A document that gives texts**: its sections are tables, with texts under the keys of the
settings, and the readiness is anything but a list. -/
structure GivesTexts (document : Table) : Prop where
  sections : ∀ setting ∈ textSettings, ∀ v, lookUp setting.1 document = some v →
    ∃ entries, v = .table entries ∧ ∀ w, lookUp setting.2 entries = some w → ∃ s, w = .text s
  source : ∀ entries s, lookUp "identity" document = some (.table entries) →
    lookUp "source" entries = some (.text s) → s ∈ sourceNames
  readiness : ∀ items, lookUp "readiness" document ≠ some (.array items)

/-- **No name of a document leads into a section as a path** but the section's own. -/
def QuotedPathFree (document : Table) : Prop :=
  ∀ e ∈ document, ∀ name ∈ sectionNames, ∀ steps, pathOf? e.1 = some (name, steps) → e.1 = name

/-- The text that a document gives for a setting. -/
def documentText? (document : Table) (setting : String × String) : Option String :=
  match lookUp setting.1 document with
  | some (.table entries) =>
    match lookUp setting.2 entries with
    | some (.text s) => some s
    | _ => none
  | _ => none

/-- The letters of a name in lower case. -/
def loweredName (name : String) : List Char :=
  name.toList.map lowered

/-- The name of the variable for a setting, in lower case. -/
def variableName (setting : String × String) : List Char :=
  variableStart ++ setting.1.toList ++ ['_', '_'] ++ setting.2.toList

/-- **A text that reads as text**: as no boolean, no integer and no other number. -/
structure ReadsAsText (text : String) : Prop where
  boolean : String.ofList (text.toList.map Char.toLower) ∉ ["true", "false"]
  integer : Text.int64? text.toList = none
  float : number? text.toList = none

/-- **Variables that give texts**: those of the program name one setting each, and their texts read
as text. Other variables may hold anything. -/
def GiveTexts (environment : List (String × Bytes)) : Prop :=
  ∀ v ∈ environment, variableStart <+: loweredName v.1 →
    ∃ setting ∈ textSettings, loweredName v.1 = variableName setting ∧
      ∃ text, Utf8.decode? v.2 = some text ∧ ReadsAsText (String.ofList text) ∧
        (setting = ("identity", "source") → String.ofList text ∈ sourceNames)

/-- The text of a variable, if it is one for a setting. -/
def textFor? (setting : String × String) (v : String × Bytes) : Option String :=
  if loweredName v.1 = variableName setting then (Utf8.decode? v.2).map String.ofList else none

/-- The text that some variables give for a setting; of several the last one counts. -/
def variableText? (environment : List (String × Bytes)) (setting : String × String) :
    Option String :=
  environment.reverse.findSome? (textFor? setting)

/-- **The text that is given for a setting**, by a variable or else by the document. -/
def given? (environment : List (String × Bytes)) (document : Table) (setting : String × String) :
    Option String :=
  variableText? environment setting <|> documentText? document setting

/-- A text setting as it was given, or the standard. -/
def chosenText (given? : String × String → Option String) (setting : String × String)
    (standard : String) : String :=
  (given? setting).getD standard

/-- A path setting as it was given, or the standard. -/
def chosenPath (given? : String × String → Option String) (setting : String × String)
    (standard : Path) : Path :=
  ((given? setting).map Path.ofString).getD standard

/-- The record source as it was given, or the standard. -/
def chosenSource (given? : String × String → Option String) : RecordSource :=
  match given? ("identity", "source") with
  | none => standard.identity.source
  | some name => if name = "files" then .files else .getent

/-- **The settings that are chosen**, each from what is given for it. -/
def chosen (given? : String × String → Option String) (readiness : Readiness) : Config where
  identity :=
    { source := chosenSource given?
      getentPath := chosenPath given? ("identity", "getent_path") (.ofString "getent")
      passwdPath := chosenPath given? ("identity", "passwd_path") (.ofString "/etc/passwd")
      groupPath := chosenPath given? ("identity", "group_path") (.ofString "/etc/group") }
  session :=
    { scratchRoot := chosenPath given? ("session", "scratch_root") (.ofString "/var/tmp")
      pgrepPath := chosenPath given? ("session", "pgrep_path") (.ofString "pgrep")
      processName := chosenText given? ("session", "process_name") "xinit" }
  display :=
    { xinitPath := chosenPath given? ("display", "xinit_path") (.ofString "/usr/bin/xinit")
      sessionScript := chosenPath given? ("display", "session_script")
        (.ofString "/usr/local/bin/run_x_env.sh")
      xvfbPath := chosenPath given? ("display", "xvfb_path") (.ofString "/usr/bin/Xvfb")
      geometry := chosenText given? ("display", "geometry") "4096x4096x24" }
  server :=
    { binary := chosenPath given? ("server", "binary") (.ofString "/usr/bin/sanzu_server")
      configPath := chosenPath given? ("server", "config_path") (.ofString "/etc/sanzu.toml")
      encoder := chosenText given? ("server", "encoder") "libx264" }
  childEnv :=
    { logVar := chosenText given? ("child_env", "log_var") "RUST_LOG"
      logLevel := chosenText given? ("child_env", "log_level") "info" }
  readiness := readiness

/-- **A number that is given**: the standard where nothing is said, or an integer below a bound. -/
def NumberGiven (table : Table) (key : String) (bound standard n : Nat) : Prop :=
  lookUp key table = none ∧ n = standard ∨ lookUp key table = some (.integer n) ∧ n < bound

/-- **The readiness that a document gives.** A mode takes its own numbers and no others. -/
inductive WaitGiven (document : Table) : Readiness → Prop
  | unsaid (h : lookUp "readiness" document = none) : WaitGiven document (.fixed 500)
  | fixed {table : Table} {settle : Nat} (h : lookUp "readiness" document = some (.table table))
    (hmode : lookUp "mode" table = some (.text "fixed"))
    (hsettle : NumberGiven table "settle_ms" UInt64.size 500 settle) :
    WaitGiven document (.fixed (UInt64.ofNat settle))
  | poll {table : Table} {interval attempts : Nat}
    (h : lookUp "readiness" document = some (.table table))
    (hmode : lookUp "mode" table = some (.text "poll"))
    (hinterval : NumberGiven table "interval_ms" UInt64.size 100 interval)
    (hattempts : NumberGiven table "attempts" UInt32.size 50 attempts) :
    WaitGiven document (.poll (UInt64.ofNat interval) (UInt32.ofNat attempts))

/-! ## The file's layer -/

/-- **A document lies under the variables as it is**, section by section, in whatever order its names
are set. -/
theorem lookUp_document {document : Table} (hproper : Proper Value.WellFormed document)
    (hfree : QuotedPathFree document) (order : Order) {name : String} (hname : name ∈ sectionNames) :
    lookUp name (layered [] (order.arrange document)) = lookUp name document := by
  have hbare : ∀ name ∈ sectionNames, pathOf? name = some (name, []) := by decide +kernel
  have hperm := order.perm document
  rw [lookUp_layered_nil (proper_perm hperm hproper) (hbare name hname),
    lookUp_perm hproper.distinct hperm]
  exact fun e he => hfree e (hperm.mem_iff.mp he) name hname

/-! ## The layer of the variables -/

/-- The name of a setting, which is a path. -/
def settingPath (setting : String × String) : String :=
  setting.1 ++ "." ++ setting.2

/-- **The overrides of variables that give texts**: each is for a setting, and each setting has the
text of its variables. -/
structure HoldsTexts (environment : List (String × Bytes)) (settings : List (String × Value)) :
    Prop where
  distinct : (keysOf settings).Nodup
  named : ∀ s ∈ settings, ∃ setting ∈ textSettings, s.1 = settingPath setting
  texts : ∀ setting ∈ textSettings,
    lookUp (settingPath setting) settings = (variableText? environment setting).map .text

/-- In another order, they are the same. -/
theorem holdsTexts_perm {environment : List (String × Bytes)}
    {settings settings' : List (String × Value)} (h : HoldsTexts environment settings)
    (hperm : settings'.Perm settings) : HoldsTexts environment settings' where
  distinct := (hperm.map _).nodup_iff.mpr h.distinct
  named := fun s hs => h.named s (hperm.mem_iff.mp hs)
  texts := fun setting hsetting => by
    rw [lookUp_perm h.distinct hperm]
    exact h.texts setting hsetting

/-- Different settings have variables of different names. -/
theorem variableName_injective : ∀ first ∈ textSettings, ∀ second ∈ textSettings,
    variableName first = variableName second → first = second := by
  decide +kernel

/-- The names of the settings are different, and each leads to a key in a section. -/
theorem settingPath_injective : ∀ first ∈ textSettings, ∀ second ∈ textSettings,
    settingPath first = settingPath second → first = second := by
  decide +kernel

theorem stepsOf_settingPath : ∀ setting ∈ textSettings,
    stepsOf (settingPath setting) = [.key setting.1, .key setting.2] := by
  decide +kernel

theorem variableValue_text {text : String} (h : ReadsAsText text) :
    variableValue text = .text text := by
  have hboolean := h.boolean
  simp only [List.mem_cons, List.not_mem_nil, or_false, not_or] at hboolean
  simp [variableValue, hboolean, h.integer, h.float]

theorem settingName?_eq {name : String} {setting : String × String}
    (hsetting : setting ∈ textSettings) (h : loweredName name = variableName setting) :
    settingName? name = some (settingPath setting) := by
  have hall : ∀ setting ∈ textSettings,
      variableStart.isPrefixOf (variableName setting) = true ∧
      String.ofList (pointed ((variableName setting).drop variableStart.length)) =
        settingPath setting := by decide +kernel
  obtain ⟨hstart, hpointed⟩ := hall setting hsetting
  have hname : name.toList.map lowered = variableName setting := h
  simp only [settingName?, hname, hstart, if_true, hpointed]

theorem settingName?_eq_none {name : String} (h : ¬ variableStart <+: loweredName name) :
    settingName? name = none := by
  have hstart : ¬ variableStart.isPrefixOf (name.toList.map lowered) = true :=
    fun hstart => h (List.isPrefixOf_iff_prefix.mp hstart)
  simp only [settingName?, if_neg hstart]

theorem variableText?_cons (v : String × Bytes) (environment : List (String × Bytes))
    (setting : String × String) : variableText? (v :: environment) setting =
      (variableText? environment setting).or (textFor? setting v) := by
  rw [variableText?, List.reverse_cons, List.findSome?_append, List.findSome?_singleton]
  rfl

/-- **Variables that give texts have overrides that hold them.** -/
theorem overridesIn_texts {environment : List (String × Bytes)} (h : GiveTexts environment) :
    ∃ settings, overridesIn environment = .ok settings ∧ HoldsTexts environment settings := by
  induction environment with
  | nil => exact ⟨[], rfl, List.nodup_nil, by simp, fun _ _ => rfl⟩
  | cons v environment ih =>
    obtain ⟨later, hlater, hholds⟩ := ih fun v hv => h v (List.mem_cons_of_mem _ hv)
    by_cases hstart : variableStart <+: loweredName v.1
    · obtain ⟨own, hown, hname, s, htext, hreads, -⟩ := h v List.mem_cons_self hstart
      have hsettings : overridesIn (v :: environment) =
          .ok (if (lookUp (settingPath own) later).isSome then later
            else (settingPath own, .text (String.ofList s)) :: later) :=
        overridesIn_cons_eq_ok_iff.mpr (.inr ⟨_, s, later, settingName?_eq hown hname, htext, hlater,
          by rw [variableValue_text hreads]⟩)
      refine ⟨_, hsettings, distinct_overridesIn hsettings, ?_, ?_⟩
      · intro s hs
        split at hs
        · exact hholds.named s hs
        · rcases List.mem_cons.mp hs with rfl | hs
          · exact ⟨own, hown, rfl⟩
          · exact hholds.named s hs
      · intro setting hsetting
        rw [variableText?_cons]
        by_cases hsame : setting = own
        · subst hsame
          have hfor : textFor? setting v = some (String.ofList s) := by
            rw [textFor?, if_pos hname, htext]
            rfl
          rw [hfor, hholds.texts setting hsetting]
          cases hvariable : variableText? environment setting with
          | none => simp
          | some text => simp [hholds.texts setting hsetting, hvariable]
        · have hfor : textFor? setting v = none :=
            if_neg fun h => hsame (variableName_injective _ hsetting _ hown (h.symm.trans hname))
          have hpath : settingPath own ≠ settingPath setting :=
            fun h => hsame (settingPath_injective _ hsetting _ hown h.symm)
          rw [hfor, Option.or_none, ← hholds.texts setting hsetting]
          split
          · rfl
          · rw [lookUp_cons, if_neg hpath]
    · refine ⟨later, ?_, hholds.distinct, hholds.named, fun setting hsetting => ?_⟩
      · exact overridesIn_cons_eq_ok_iff.mpr (.inl ⟨settingName?_eq_none hstart, hlater⟩)
      · have hfor : textFor? setting v = none := by
          refine if_neg fun hname => hstart ?_
          rw [hname, variableName, List.append_assoc, List.append_assoc]
          exact List.prefix_append _ _
        rw [variableText?_cons, hfor, Option.or_none, hholds.texts setting hsetting]

section

variable {environment : List (String × Bytes)} {settings : List (String × Value)}

/-- What is under a setting of a section is assigned by the variables of that setting. -/
theorem behind_texts (h : HoldsTexts environment settings) {setting : String × String}
    (hsetting : setting ∈ textSettings) :
    behind (.key setting.2) (behind (.key setting.1) (assignmentsOf settings)) =
      ((variableText? environment setting).map .text).toList.map fun v => ([], v) := by
  rw [behind, behind, assignmentsOf, List.filterMap_map, List.filterMap_filterMap,
    ← h.texts setting hsetting]
  refine filterMap_unique h.distinct (fun v => ?_) fun s hs hother => ?_
  · simp [stepsOf_settingPath setting hsetting, behind?]
  · obtain ⟨own, hown, hname⟩ := h.named s hs
    have hne : own ≠ setting := fun heq => hother (heq ▸ hname)
    simp only [Function.comp_apply, hname, stepsOf_settingPath own hown, behind?, PathStep.key.injEq]
    by_cases hsection : own.1 = setting.1
    · have hkey : own.2 ≠ setting.2 := fun hkey => hne (Prod.ext hsection hkey)
      simp [hsection, hkey, behind?]
    · simp [hsection]

/-- Every section is assigned by keys. -/
theorem startsWithKey_texts (h : HoldsTexts environment settings) (name : String) :
    ∀ a ∈ behind (.key name) (assignmentsOf settings), StartsWithKey a := by
  intro a ha
  obtain ⟨s, hs, hassignment⟩ := List.mem_map.mp (mem_behind_iff.mp ha)
  obtain ⟨own, hown, hname⟩ := h.named s hs
  have hsteps := congrArg Prod.fst hassignment
  rw [hname, stepsOf_settingPath own hown] at hsteps
  exact ⟨own.2, [], (List.cons.inj hsteps).2.symm⟩

/-- The readiness is not assigned at all. -/
theorem behind_readiness_texts (h : HoldsTexts environment settings) :
    behind (.key "readiness") (assignmentsOf settings) = [] := by
  have hnone : ∀ setting ∈ textSettings, setting.1 ≠ "readiness" := by decide
  refine List.eq_nil_iff_forall_not_mem.mpr fun a ha => ?_
  obtain ⟨s, hs, hassignment⟩ := List.mem_map.mp (mem_behind_iff.mp ha)
  obtain ⟨own, hown, hname⟩ := h.named s hs
  have hsteps := congrArg Prod.fst hassignment
  rw [hname, stepsOf_settingPath own hown] at hsteps
  exact hnone own hown (PathStep.key.inj (List.cons.inj hsteps).1)

end

/-! ## Choosing -/

section

variable {root : Table} {given? : String × String → Option String}

variable (root given?) in
/-- **A table in which every text setting is what was given**: its section is a table or missing, and
under its key is the text or nothing. -/
def HoldsGiven : Prop :=
  ∀ setting ∈ textSettings, (∀ v, lookUp setting.1 root = some v → ∃ entries, v = .table entries) ∧
    lookUp setting.2 (entriesOf (lookUp setting.1 root)) = (given? setting).map .text

/-- A section that is a table or missing is read as its entries. -/
theorem sectionAt_entries {name : String}
    (h : ∀ v, lookUp name root = some v → ∃ entries, v = .table entries) (keys : List String) :
    sectionAt root name keys = .ok (entriesOf (lookUp name root)) := by
  cases hfound : lookUp name root with
  | none =>
    rw [sectionAt, hfound]
    rfl
  | some v =>
    obtain ⟨entries, rfl⟩ := h v hfound
    exact sectionAt_table hfound keys

theorem textAt_given (h : HoldsGiven root given?) {name key : String}
    (hsetting : (name, key) ∈ textSettings) (standard : String) :
    textAt (entriesOf (lookUp name root)) key standard =
      .ok (chosenText given? (name, key) standard) := by
  rw [textAt, (h _ hsetting).2, chosenText]
  cases given? (name, key) <;> rfl

theorem pathAt_given (h : HoldsGiven root given?) {name key : String}
    (hsetting : (name, key) ∈ textSettings) (standard : Path) :
    pathAt (entriesOf (lookUp name root)) key standard =
      .ok (chosenPath given? (name, key) standard) := by
  rw [pathAt, (h _ hsetting).2, chosenPath]
  cases given? (name, key) <;> rfl

theorem sourceAt_given (h : HoldsGiven root given?)
    (hsource : ∀ s, given? ("identity", "source") = some s → s ∈ sourceNames) :
    sourceAt (entriesOf (lookUp "identity" root)) = .ok (chosenSource given?) := by
  rw [sourceAt, (h ("identity", "source") (by decide)).2, chosenSource]
  cases hgiven : given? ("identity", "source") with
  | none => rfl
  | some s =>
    have hname := hsource s hgiven
    simp only [sourceNames, List.mem_cons, List.not_mem_nil, or_false] at hname
    rcases hname with rfl | rfl <;> rfl

/-- **Settings are decoded as they are chosen** from what was given. -/
theorem decode_given (h : HoldsGiven root given?)
    (hsource : ∀ s, given? ("identity", "source") = some s → s ∈ sourceNames)
    {readiness : Readiness} (hreadiness : decodeReadiness root = .ok readiness) :
    decode root = .ok (chosen given? readiness) := by
  refine decode_eq_ok_iff.mpr ⟨?_, ?_, ?_, ?_, ?_, hreadiness⟩
  · exact decodeIdentity_eq_ok_iff.mpr ⟨_,
      sectionAt_entries (h ("identity", "source") (by decide)).1 _, sourceAt_given h hsource,
      pathAt_given h (by decide) _, pathAt_given h (by decide) _, pathAt_given h (by decide) _⟩
  · exact decodeSession_eq_ok_iff.mpr ⟨_,
      sectionAt_entries (h ("session", "scratch_root") (by decide)).1 _,
      pathAt_given h (by decide) _, pathAt_given h (by decide) _, textAt_given h (by decide) _⟩
  · exact decodeDisplay_eq_ok_iff.mpr ⟨_,
      sectionAt_entries (h ("display", "xinit_path") (by decide)).1 _,
      pathAt_given h (by decide) _, pathAt_given h (by decide) _, pathAt_given h (by decide) _,
      textAt_given h (by decide) _⟩
  · exact decodeServer_eq_ok_iff.mpr ⟨_,
      sectionAt_entries (h ("server", "binary") (by decide)).1 _,
      pathAt_given h (by decide) _, pathAt_given h (by decide) _, textAt_given h (by decide) _⟩
  · exact decodeChildEnv_eq_ok_iff.mpr ⟨_,
      sectionAt_entries (h ("child_env", "log_var") (by decide)).1 _,
      textAt_given h (by decide) _, textAt_given h (by decide) _⟩

end

/-- **The readiness is decoded exactly as the document gives it.** -/
theorem decodeReadiness_given_iff {document root : Table}
    (hlist : ∀ items, lookUp "readiness" document ≠ some (.array items))
    (hsame : lookUp "readiness" root = lookUp "readiness" document) {readiness : Readiness} :
    decodeReadiness root = .ok readiness ↔ WaitGiven document readiness := by
  cases hfound : lookUp "readiness" document with
  | none =>
    rw [decodeReadiness, hsame, hfound]
    constructor
    · rintro ⟨⟩
      exact .unsaid hfound
    · rintro (_ | ⟨h, -, -⟩ | ⟨h, -, -, -⟩)
      · rfl
      · cases hfound.symm.trans h
      · cases hfound.symm.trans h
  | some v =>
    cases v with
    | table table =>
      rw [decodeReadiness_table_iff (hsame.trans hfound)]
      constructor
      · rintro (⟨hmode, h⟩ | ⟨hmode, h⟩)
        · obtain ⟨settle, hsettle, rfl⟩ := decodeFixed_eq_ok_iff.mp h
          exact .fixed hfound hmode (numberAt_eq_ok_iff.mp hsettle)
        · obtain ⟨interval, attempts, hinterval, hattempts, rfl⟩ := decodePoll_eq_ok_iff.mp h
          exact .poll hfound hmode (numberAt_eq_ok_iff.mp hinterval)
            (numberAt_eq_ok_iff.mp hattempts)
      · rintro (h | ⟨h, hmode, hsettle⟩ | ⟨h, hmode, hinterval, hattempts⟩)
        · cases hfound.symm.trans h
        · cases hfound.symm.trans h
          exact .inl ⟨hmode, decodeFixed_eq_ok_iff.mpr
            ⟨_, numberAt_eq_ok_iff.mpr hsettle, rfl⟩⟩
        · cases hfound.symm.trans h
          exact .inr ⟨hmode, decodePoll_eq_ok_iff.mpr
            ⟨_, _, numberAt_eq_ok_iff.mpr hinterval, numberAt_eq_ok_iff.mpr hattempts, rfl⟩⟩
    | array items => exact absurd hfound (hlist items)
    | text _ | integer _ | float _ | boolean _ =>
      rw [decodeReadiness, hsame, hfound]
      refine iff_of_false (fun h => by cases h) ?_
      rintro (h | ⟨h, -, -⟩ | ⟨h, -, -, -⟩) <;> cases hfound.symm.trans h

/-! ## All layers -/

/-- What a document has under a setting is the text that it gives. -/
theorem lookUp_documentText? {document : Table} (h : GivesTexts document)
    {setting : String × String} (hsetting : setting ∈ textSettings) :
    lookUp setting.2 (entriesOf (lookUp setting.1 document)) =
      (documentText? document setting).map .text := by
  rw [documentText?]
  cases hfound : lookUp setting.1 document with
  | none => rfl
  | some v =>
    obtain ⟨entries, rfl, htexts⟩ := h.sections setting hsetting v hfound
    show lookUp setting.2 entries = _
    cases htext : lookUp setting.2 entries with
    | none => simp [htext]
    | some w =>
      obtain ⟨s, rfl⟩ := htexts w htext
      simp [htext]

/-- **The layers hold what was given**, setting by setting. -/
theorem holdsGiven_layered {document : Table} {environment : List (String × Bytes)}
    {settings : List (String × Value)} (htexts : GivesTexts document)
    (hproper : Proper Value.WellFormed document) (hfree : QuotedPathFree document) (order : Order)
    (hholds : HoldsTexts environment settings) :
    HoldsGiven (layered (layered [] (order.arrange document)) settings)
      (given? environment document) := by
  intro setting hsetting
  have hname : setting.1 ∈ sectionNames := by
    have hall : ∀ setting ∈ textSettings, setting.1 ∈ sectionNames := by decide
    exact hall setting hsetting
  have hkeys := startsWithKey_texts hholds setting.1
  rw [lookUp_layered, lookUp_document hproper hfree order hname]
  refine ⟨?_, ?_⟩
  · intro v hv
    by_cases hnone : behind (.key setting.1) (assignmentsOf settings) = []
    · rw [hnone] at hv
      obtain ⟨entries, rfl, -⟩ := htexts.sections setting hsetting v hv
      exact ⟨entries, rfl⟩
    · obtain ⟨entries, hentries, -⟩ := assign_table hkeys hnone (lookUp setting.1 document)
      exact ⟨entries, Option.some.inj (hv.symm.trans hentries)⟩
  · rw [lookUp_assign hkeys, behind_texts hholds hsetting, lookUp_documentText? htexts hsetting,
      given?]
    cases variableText? environment setting with
    | none => rfl
    | some s =>
      have hscalar : (Value.text s).IsScalar := trivial
      exact congrArg some (setAt_scalar hscalar _)

/-- A record source that is given has one of the names. -/
theorem source_given {document : Table} {environment : List (String × Bytes)}
    (htexts : GivesTexts document) (hvariables : GiveTexts environment) {s : String}
    (h : given? environment document ("identity", "source") = some s) : s ∈ sourceNames := by
  rw [given?] at h
  cases hvariable : variableText? environment ("identity", "source") with
  | some text =>
    rw [hvariable] at h
    cases h
    obtain ⟨v, hv, htext⟩ := List.exists_of_findSome?_eq_some hvariable
    rw [textFor?] at htext
    split at htext
    · rename_i hname
      obtain ⟨cs, hcs, rfl⟩ := Option.map_eq_some_iff.mp htext
      have hstart : variableStart <+: loweredName v.1 := by
        rw [hname, variableName, List.append_assoc, List.append_assoc]
        exact List.prefix_append _ _
      obtain ⟨setting, hsetting, hname', cs', hcs', -, hsource⟩ :=
        hvariables v (List.mem_reverse.mp hv) hstart
      cases hcs.symm.trans hcs'
      exact hsource (variableName_injective setting hsetting _ (by decide)
        (hname'.symm.trans hname))
    · cases htext
  | none =>
    rw [hvariable] at h
    have hdocument : documentText? document ("identity", "source") = some s := h
    rw [documentText?] at hdocument
    split at hdocument
    · rename_i entries hentries
      split at hdocument
      · rename_i text htext
        cases hdocument
        exact htexts.source entries s hentries htext
      · cases hdocument
    · cases hdocument

/-- **Each setting comes from the highest layer that gives it.** From a file and variables that give
texts, the settings that are loaded are the ones that are chosen setting by setting, a variable
before the file and the file before the standard, with the readiness that the document gives, if they
pass the check. A document in which something else stands for the readiness is a fault. The order in
which names are set makes no difference. -/
theorem load_chosen {file : Option Bytes} {document : Table} {environment : List (String × Bytes)}
    (hdocument : documentIn file = .ok document) (htexts : GivesTexts document)
    (hfree : QuotedPathFree document) (hvariables : GiveTexts environment) (orders : Orders) :
    (∀ readiness, WaitGiven document readiness →
      load file environment orders =
        (chosen (given? environment document) readiness).check.map
          fun _ => chosen (given? environment document) readiness) ∧
    ((¬ ∃ readiness, WaitGiven document readiness) →
      ∃ fault, load file environment orders = .error fault) := by
  obtain ⟨settings, hsettings, hholds⟩ := overridesIn_texts hvariables
  have hproper := proper_documentIn hdocument
  have hholds := holdsTexts_perm hholds (orders.overrides.perm settings)
  let root := layered (layered [] (orders.document.arrange document))
    (orders.overrides.arrange settings)
  have hload : load file environment orders =
      (decode root >>= fun config => config.check >>= fun _ => .ok config) := by
    rw [load, tableOf, hdocument, ok_bind, hsettings, ok_bind]
    rfl
  have hsame : lookUp "readiness" root = lookUp "readiness" document := by
    rw [lookUp_layered, behind_readiness_texts hholds,
      ← lookUp_document hproper hfree orders.document (by decide : "readiness" ∈ sectionNames)]
    rfl
  have hreadiness (readiness : Readiness) :
      decodeReadiness root = .ok readiness ↔ WaitGiven document readiness :=
    decodeReadiness_given_iff htexts.readiness hsame
  refine ⟨?_, ?_⟩
  · intro readiness hgiven
    have hdecoded := decode_given (holdsGiven_layered htexts hproper hfree orders.document hholds)
      (fun s => source_given htexts hvariables) ((hreadiness readiness).mpr hgiven)
    rw [hload, hdecoded, ok_bind]
    cases (chosen (given? environment document) readiness).check <;> rfl
  · intro hnone
    rw [hload]
    cases hdecoded : decode root with
    | error fault => exact ⟨fault, rfl⟩
    | ok config =>
      obtain ⟨-, -, -, -, -, hfound⟩ := decode_eq_ok_iff.mp hdecoded
      exact absurd ⟨config.readiness, (hreadiness _).mp hfound⟩ hnone

/-- A file with a part of a section, a key and a section that are no settings, and polling. -/
def sparseFile : Bytes :=
  Utf8.ofString
    "[display]\ngeometry = \"8x6x24\"\ncolour = 7\n[other]\n[readiness]\nmode = \"poll\"\nattempts = 3\n"

/-- The document in that file. -/
def sparseDocument : Table :=
  [("display", .table [("geometry", .text "8x6x24"), ("colour", .integer 7)]),
    ("other", .table []),
    ("readiness", .table [("mode", .text "poll"), ("attempts", .integer 3)])]

/-- A variable for a setting in letters of both cases, and one of another program. -/
def namedVariables : List (String × Bytes) :=
  [("Session_Bootstrap__Display__XVFB_path", Utf8.ofString "/opt/Xvfb"), ("HOME", [0xff])]

theorem load_chosen_sparse :
    documentIn (some sparseFile) = .ok sparseDocument ∧ GivesTexts sparseDocument ∧
    QuotedPathFree sparseDocument ∧ GiveTexts namedVariables ∧
    WaitGiven sparseDocument (.poll 100 3) ∧
    load (some sparseFile) namedVariables =
      .ok { display := { geometry := "8x6x24", xvfbPath := .ofString "/opt/Xvfb" }
            readiness := .poll 100 3 } := by
  have hdocument : documentIn (some sparseFile) = .ok sparseDocument := by cbv
  have htexts : GivesTexts sparseDocument := by
    refine ⟨?_, ?_, ?_⟩
    · simp [textSettings, sparseDocument]
    · simp [sparseDocument]
    · simp [sparseDocument]
  have hfree : QuotedPathFree sparseDocument := by
    have hpaths : ∀ e ∈ ["display", "other", "readiness"], pathOf? e = some (e, []) := by
      decide +kernel
    intro e he name _ steps hpath
    rw [hpaths e.1 (List.mem_map_of_mem he)] at hpath
    exact congrArg Prod.fst (Option.some.inj hpath)
  have hvariables : GiveTexts namedVariables := by
    intro v hv hstart
    rcases List.mem_cons.mp hv with rfl | hv
    · exact ⟨("display", "xvfb_path"), by decide, by decide +kernel, "/opt/Xvfb".toList,
        by decide +kernel, ⟨by decide +kernel, by decide +kernel, by decide +kernel⟩, by decide⟩
    · cases List.mem_singleton.mp hv
      exact absurd hstart (by decide +kernel)
  have hwait : WaitGiven sparseDocument (.poll 100 3) :=
    .poll rfl rfl (.inl ⟨rfl, rfl⟩) (.inr ⟨rfl, by decide⟩)
  refine ⟨hdocument, htexts, hfree, hvariables, hwait, ?_⟩
  rw [(load_chosen hdocument htexts hfree hvariables .given).1 _ hwait]
  decide +kernel

/-! ## A name in quotes -/

/-- A file with a name in quotes that is a path into a section. -/
def quotedFile : Bytes :=
  Utf8.ofString "\"display.geometry\" = \"640x480x8\"\n"

/-- The document in that file: no section, and a key that is no setting. -/
def quotedDocument : Table :=
  [("display.geometry", .text "640x480x8")]

/-- **A name in quotes sets what it leads to**, though the document has none of the sections. -/
theorem quoted_name_sets :
    documentIn (some quotedFile) = .ok quotedDocument ∧ GivesTexts quotedDocument ∧
    GiveTexts [] ∧ WaitGiven quotedDocument (.fixed 500) ∧
    load (some quotedFile) [] = .ok { display := { geometry := "640x480x8" } } ∧
    (chosen (given? [] quotedDocument) (.fixed 500)).check.map
        (fun _ => chosen (given? [] quotedDocument) (.fixed 500)) = .ok standard ∧
    standard ≠ { display := { geometry := "640x480x8" } } := by
  have hdocument : documentIn (some quotedFile) = .ok quotedDocument := by cbv
  have htexts : GivesTexts quotedDocument := by
    refine ⟨?_, ?_, ?_⟩
    · simp [textSettings, quotedDocument]
    · simp [quotedDocument]
    · simp [quotedDocument]
  have hvariables : GiveTexts [] := fun v hv => absurd hv List.not_mem_nil
  exact ⟨hdocument, htexts, hvariables, .unsaid rfl, by decide +kernel, by decide +kernel,
    by decide⟩

end DisplaySession.Config
