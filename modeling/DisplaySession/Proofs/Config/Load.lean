import DisplaySession.Config.Load
import DisplaySession.Proofs.Config.Decode
import DisplaySession.Proofs.Config.Overlay
import DisplaySession.Proofs.Text.Numeral

/-
What a load goes through.

A load succeeds exactly if the file is a document, the variables are texts, the layers can be
decoded and the settings pass the check (`load_eq_ok_iff`). Whatever comes in, the values are
well-formed: the document's because of its reader, and a variable's because it is a scalar whose
numbers fit.
-/
set_option autoImplicit false

namespace DisplaySession.Config

open Toml

/-- **The sections of the settings**, by name. -/
def sectionNames : List String :=
  ["identity", "session", "display", "server", "child_env", "readiness"]

/-! ## Variables -/

/-- The value of a variable is a scalar and can be held. -/
theorem variableValue_cases (text : String) :
    (variableValue text).IsScalar ∧ (variableValue text).WellFormed := by
  simp only [variableValue]
  split
  · exact ⟨trivial, .boolean true⟩
  · split
    · exact ⟨trivial, .boolean false⟩
    · split
      · rename_i n hn
        have hfits := Text.int64?_fits hn
        exact ⟨trivial, .integer hfits.1 hfits.2⟩
      · split
        · exact ⟨trivial, .float _⟩
        · exact ⟨trivial, .text text⟩

/-- One more variable: it names no setting, or its setting is added unless a later one has it. -/
theorem overridesIn_cons_eq_ok_iff {v : String × Bytes} {environment : List (String × Bytes)}
    {settings : List (String × Value)} : overridesIn (v :: environment) = .ok settings ↔
      settingName? v.1 = none ∧ overridesIn environment = .ok settings ∨
      ∃ name text later, settingName? v.1 = some name ∧ Utf8.decode? v.2 = some text ∧
        overridesIn environment = .ok later ∧
        settings = if (lookUp name later).isSome then later
          else (name, variableValue (String.ofList text)) :: later := by
  obtain ⟨name, bytes⟩ := v
  rw [overridesIn]
  cases settingName? name with
  | none => simp
  | some setting =>
    cases Utf8.decode? bytes with
    | none => simp
    | some text =>
      simp only [bind_eq_ok_iff]
      constructor
      · rintro ⟨later, hlater, ⟨⟩⟩
        exact .inr ⟨_, _, later, rfl, rfl, hlater, rfl⟩
      · rintro (⟨⟨⟩, -⟩ | ⟨_, _, later, ⟨⟩, ⟨⟩, hlater, rfl⟩)
        exact ⟨later, hlater, rfl⟩

/-- **Every override is what a variable says.** -/
theorem mem_overridesIn {environment : List (String × Bytes)} {settings : List (String × Value)}
    (h : overridesIn environment = .ok settings) {s : String × Value} (hs : s ∈ settings) :
    ∃ v ∈ environment, ∃ text, settingName? v.1 = some s.1 ∧ Utf8.decode? v.2 = some text ∧
      s.2 = variableValue (String.ofList text) := by
  induction environment generalizing settings with
  | nil =>
    cases h
    exact absurd hs List.not_mem_nil
  | cons v environment ih =>
    have hlater {later : List (String × Value)} (h : overridesIn environment = .ok later)
        (hs : s ∈ later) : ∃ w ∈ v :: environment, ∃ text, settingName? w.1 = some s.1 ∧
          Utf8.decode? w.2 = some text ∧ s.2 = variableValue (String.ofList text) := by
      obtain ⟨w, hw, hfound⟩ := ih h hs
      exact ⟨w, List.mem_cons_of_mem _ hw, hfound⟩
    rcases overridesIn_cons_eq_ok_iff.mp h with
      ⟨-, hrest⟩ | ⟨name, text, later, hname, htext, hrest, rfl⟩
    · exact hlater hrest hs
    · split at hs
      · exact hlater hrest hs
      · rcases List.mem_cons.mp hs with rfl | hs
        · exact ⟨v, List.mem_cons_self, text, hname, htext, rfl⟩
        · exact hlater hrest hs

/-- **No two overrides have one name.** -/
theorem distinct_overridesIn {environment : List (String × Bytes)}
    {settings : List (String × Value)} (h : overridesIn environment = .ok settings) :
    (keysOf settings).Nodup := by
  induction environment generalizing settings with
  | nil =>
    cases h
    exact List.nodup_nil
  | cons v environment ih =>
    rcases overridesIn_cons_eq_ok_iff.mp h with
      ⟨-, hrest⟩ | ⟨name, text, later, -, -, hrest, rfl⟩
    · exact ih hrest
    · split
      · exact ih hrest
      · rename_i hfresh
        exact List.nodup_cons.mpr ⟨mt mem_keysOf_iff.mp hfresh, ih hrest⟩

/-! ## Loading -/

/-- The table that settings are loaded from is proper. -/
theorem proper_documentIn {file : Option Bytes} {document : Table}
    (h : documentIn file = .ok document) : Proper Value.WellFormed document := by
  rw [documentIn.eq_def] at h
  split at h
  · cases h
    exact proper_nil
  · split at h <;> cases h
    exact proper_read? ‹_›

theorem load_eq_ok_iff {file : Option Bytes} {environment : List (String × Bytes)}
    {orders : Orders} {config : Config} : load file environment orders = .ok config ↔
      ∃ document settings, documentIn file = .ok document ∧
        overridesIn environment = .ok settings ∧
        decode (layered (layered [] (orders.document.arrange document))
          (orders.overrides.arrange settings)) = .ok config ∧ config.check = .ok () := by
  simp only [load, tableOf, bind_eq_ok_iff]
  constructor
  · rintro ⟨_, ⟨document, hdocument, settings, hsettings, ⟨⟩⟩, config, hdecoded, ⟨⟩, hcheck, ⟨⟩⟩
    exact ⟨document, settings, hdocument, hsettings, hdecoded, hcheck⟩
  · rintro ⟨document, settings, hdocument, hsettings, hdecoded, hcheck⟩
    exact ⟨_, ⟨document, hdocument, settings, hsettings, rfl⟩, config, hdecoded, (), hcheck, rfl⟩

end DisplaySession.Config
