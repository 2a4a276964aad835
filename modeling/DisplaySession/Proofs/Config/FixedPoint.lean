import DisplaySession.Proofs.Config.Load
import DisplaySession.Proofs.Config.Recurrence
import Mathlib

/-
Settings that were loaded are loaded again from their document.

Loading a document with the variables with which its settings came about lays each variable over its
own work, and maybe in another order than before. If no two variables meet in a section, one of four
things happens to it (`Repeats`). No variable touches the section, and it is read as it was written.
Or one replaces it as a whole, and nothing is left of where it came from. Or all of them set keys of
it, and then what is there of a key is what they set, and what no variable sets is read as it was
written. Or all of them set items of it, and two lists come to be that compare item by item.

A section that the file gives as a list is an exception. The document has it as a table, so that a
variable that sets one item of the list finds no other item there the second time
(`listed_settings_change`). Variables that meet are another one: what they make of the section is a
matter of their order (`meeting_settings_change`).
-/
set_option autoImplicit false

namespace DisplaySession

namespace Config

open Toml

/-! ## The settings of a section -/

/-- **How two tables compare that the same assignments made of something and of its written form**:
key by key. -/
def Again (written first second : Table) : Prop :=
  ∀ key, Recurs (lookUp key written) (lookUp key first) (lookUp key second)

theorem sourceAt_table_iff {table entries : Table} {source : RecordSource}
    (h : lookUp "source" table = some (.table entries)) :
    sourceAt table = .ok source ↔ ∃ name v, entries = [(name, v)] ∧ sourceOf name = .ok source := by
  rw [sourceAt, h]
  constructor
  · intro hsource
    split at hsource
    · cases ‹some (Value.table entries) = none›
    · cases ‹some (Value.table entries) = _›
    · rename_i name v hentries
      cases hentries
      exact ⟨name, v, rfl, hsource⟩
    · cases hsource
  · rintro ⟨name, v, rfl, hsource⟩
    exact hsource

section

variable {written first second : Table}

/-- **What is read of a key that takes no list and no table** is read again. -/
theorem readAt_again {α : Type} (read : Table → Except ConfigFault α) {key : String} {a : α}
    (h : Recurs (lookUp key written) (lookUp key first) (lookUp key second))
    (hkey : ∀ table table', lookUp key table = lookUp key table' → read table = read table')
    (hlist : ∀ table items, lookUp key table = some (.array items) → read table ≠ .ok a)
    (htable : ∀ table entries, lookUp key table = some (.table entries) → read table ≠ .ok a)
    (hwritten : read written = .ok a) (hfirst : read first = .ok a) : read second = .ok a := by
  cases h with
  | kept hsecond => rw [hkey _ _ hsecond, hwritten]
  | same hsecond => rw [hkey _ _ hsecond, hfirst]
  | listed hitems => exact absurd hfirst (hlist _ _ hitems)
  | nested hentries => exact absurd hfirst (htable _ _ hentries)

theorem textAt_again (h : Again written first second) {key standard s : String}
    (hwritten : lookUp key written = some (.text s)) (hfirst : textAt first key standard = .ok s) :
    textAt second key standard = .ok s := by
  refine readAt_again (textAt · key standard) (h key) (fun _ _ hkey => ?_) (fun _ _ hlist => ?_)
    (fun _ _ htable => ?_) (textAt_text hwritten standard) hfirst
  · simp only [textAt, hkey]
  · simp [textAt, textOf?, hlist]
  · simp [textAt, textOf?, htable]

theorem pathAt_again (h : Again written first second) {key : String} {standard path : Path}
    (hwritten : lookUp key written = some (.text path.shown))
    (hpath : .ofString path.shown = path) (hfirst : pathAt first key standard = .ok path) :
    pathAt second key standard = .ok path := by
  refine readAt_again (pathAt · key standard) (h key) (fun _ _ hkey => ?_) (fun _ _ hlist => ?_)
    (fun _ _ htable => ?_) (pathAt_text hwritten hpath standard) hfirst
  · simp only [pathAt, hkey]
  · simp [pathAt, textOf?, hlist]
  · simp [pathAt, textOf?, htable]

theorem numberAt_again (h : Again written first second) {key : String} {bound standard n : Nat}
    (hwritten : lookUp key written = some (.integer n)) (hbound : n < bound)
    (hfirst : numberAt first key bound standard = .ok n) :
    numberAt second key bound standard = .ok n := by
  refine readAt_again (numberAt · key bound standard) (h key) (fun _ _ hkey => ?_)
    (fun _ _ hlist => ?_) (fun _ _ htable => ?_) (numberAt_integer hwritten hbound standard) hfirst
  · simp only [numberAt, hkey]
  · simp [numberAt, hlist]
  · simp [numberAt, htable]

/-- **The record source is found again**, also one that is a table with nothing but its name: on the
written form, which is a text, the same keys come to be and no others. -/
theorem sourceAt_again (h : Again written first second) {source : RecordSource}
    (hwritten : lookUp "source" written = some (.text (sourceName source)))
    (hfirst : sourceAt first = .ok source) : sourceAt second = .ok source := by
  cases h "source" with
  | kept hsecond => exact sourceAt_name (hsecond.trans hwritten)
  | same hsecond =>
    rw [sourceAt, hsecond]
    exact hfirst
  | listed hitems =>
    rw [sourceAt, hitems] at hfirst
    cases hfirst
  | nested hentries hentries' hne hnarrow =>
    obtain ⟨name, v, rfl, hsource⟩ := (sourceAt_table_iff hentries).mp hfirst
    have hplain : entriesOf (lookUp "source" written) = [] := by
      rw [hwritten]
      rfl
    obtain ⟨v', rfl⟩ := eq_singleton_of_narrower (hnarrow hplain) hne
    exact (sourceAt_table_iff hentries').mpr ⟨name, v', rfl, hsource⟩

/-- A text that is looked for by itself is found again. -/
theorem lookUp_again (h : Again written first second) {key s : String}
    (hwritten : lookUp key written = some (.text s)) (hfirst : lookUp key first = some (.text s)) :
    lookUp key second = some (.text s) := by
  have hkey := h key
  rw [hwritten, hfirst] at hkey
  exact recurs_text hkey

end

/-- A setting that is read by its place in a list is an item of it, or missing. -/
theorem lookUp_zip (keys : List String) (key : String) :
    (∃ k : Nat, ∀ items : List Value, lookUp key (keys.zip items) = items[k]?) ∨
      ∀ items : List Value, lookUp key (keys.zip items) = none := by
  induction keys with
  | nil => exact .inr fun _ => rfl
  | cons first keys ih =>
    by_cases hfirst : first = key
    · refine .inl ⟨0, fun items => ?_⟩
      cases items with
      | nil => rfl
      | cons item items => rw [List.zip_cons_cons, lookUp_cons, if_pos hfirst]; rfl
    · have hrest (item : Value) (items : List Value) :
          lookUp key ((first :: keys).zip (item :: items)) = lookUp key (keys.zip items) := by
        rw [List.zip_cons_cons, lookUp_cons, if_neg hfirst]
      rcases ih with ⟨k, hk⟩ | hnone
      · refine .inl ⟨k + 1, fun items => ?_⟩
        cases items with
        | nil => rfl
        | cons item items => rw [hrest, hk]; rfl
      · refine .inr fun items => ?_
        cases items with
        | nil => rfl
        | cons item items => rw [hrest, hnone]

/-- Lists that compare item by item are read by their keys as tables that compare key by key. -/
theorem again_zip {items items' : List Value}
    (h : ∀ (k : Nat) (written : Option Value), Recurs written items[k]? items'[k]?)
    (keys : List String) (written : Table) :
    Again written (keys.zip items) (keys.zip items') := by
  intro key
  rcases lookUp_zip keys key with ⟨k, hk⟩ | hnone
  · rw [hk, hk]
    exact h k _
  · rw [hnone, hnone]
    exact .same rfl

/-! ## Sections -/

/-- **What comes of a section** that assignments are made in, once on the settings that were loaded
from and once on its written form. -/
inductive Repeats (name : String) (written root again : Table) : Prop
  /-- Nothing was set in it. -/
  | untouched (h : lookUp name again = some (.table written))
  /-- Nothing is left of what was there before. -/
  | replaced (h : lookUp name again = lookUp name root)
  /-- Keys of it were set. -/
  | changed {first second : Table} (hfirst : lookUp name root = some (.table first))
    (hsecond : lookUp name again = some (.table second)) (h : Again written first second)
  /-- Items of it were set. -/
  | listed {items items' : List Value} (hfirst : lookUp name root = some (.array items))
    (hsecond : lookUp name again = some (.array items')) (hlength : items'.length = items.length)
    (h : ∀ (k : Nat) (written : Option Value), Recurs written items[k]? items'[k]?)

/-- **What comes of a section when the same settings are laid over its written form**, if they set no
items of a list. -/
theorem repeats_of_assign {list list' : List Assignment} (hlist : Reordered list list')
    {name : String} {written root again : Table} {old : Option Value}
    (hwritten : Proper Value.WellFormed written)
    (hitems : ∀ back, ∀ a ∈ list, StartsAtItem back a → itemsOf old = [])
    (hroot : lookUp name root = assign list old)
    (hagain : lookUp name again = assign list' (some (.table written))) :
    Repeats name written root again := by
  cases sort_of_diverging hlist.diverging with
  | none hnil =>
    subst hnil
    obtain rfl : list' = [] := hlist.perm.eq_nil
    exact .untouched hagain
  | @whole v hwhole =>
    subst hwhole
    have hv : v.IsScalar := hlist.scalar _ List.mem_cons_self
    obtain rfl : list' = [([], v)] := List.perm_singleton.mp hlist.perm
    refine .replaced (hagain.trans (Eq.trans (congrArg some ?_) hroot.symm))
    rw [setAt_scalar hv, setAt_scalar hv]
  | keys hne hkeys =>
    have hkeys' : ∀ a ∈ list', StartsWithKey a :=
      fun a ha => hkeys a (hlist.perm.mem_iff.mp ha)
    obtain ⟨first, hfirst, -⟩ := assign_table hkeys hne old
    obtain ⟨second, hsecond, -⟩ :=
      assign_table hkeys' (hlist.ne_nil hne) (some (.table written))
    refine .changed (hroot.trans hfirst) (hagain.trans hsecond) fun key => ?_
    have hkey : lookUp key first = assign (behind (.key key) list) (lookUp key (entriesOf old)) := by
      rw [← lookUp_assign hkeys, hfirst]
      rfl
    have hkey' : lookUp key second = assign (behind (.key key) list') (lookUp key written) := by
      have hset := lookUp_assign hkeys' key (some (.table written))
      rw [hsecond] at hset
      exact hset
    rw [hkey, hkey']
    exact recurs_assign (reordered_behind hlist _) fun v hv => kind_of_lookUp hwritten hv
  | items hne back hall =>
    obtain ⟨a, ha⟩ := List.exists_mem_of_ne_nil list hne
    obtain ⟨items, items', hfirst, hsecond, hlength, h⟩ :=
      recurs_items hlist hne hall (hitems back a ha (hall a ha))
        (rfl : itemsOf (some (.table written)) = [])
    exact .listed (hroot.trans hfirst) (hagain.trans hsecond) hlength h

section

variable {root again : Table}

/-- **A section that repeats is read again**, key by key. -/
theorem sectionAt_again {name : String} {keys : List String} {written table : Table}
    (h : Repeats name written root again) (htable : sectionAt root name keys = .ok table) :
    ∃ second, sectionAt again name keys = .ok second ∧ Again written table second := by
  cases h with
  | untouched h => exact ⟨written, sectionAt_table h keys, fun _ => .kept rfl⟩
  | replaced h =>
    refine ⟨table, ?_, fun _ => .same rfl⟩
    rw [← htable, sectionAt, sectionAt, h]
  | changed hfirst hsecond h =>
    cases (sectionAt_table hfirst keys).symm.trans htable
    exact ⟨_, sectionAt_table hsecond keys, h⟩
  | @listed items items' hfirst hsecond _ h =>
    rw [sectionAt, hfirst] at htable
    cases htable
    exact ⟨keys.zip items', by rw [sectionAt, hsecond], again_zip h keys written⟩

theorem decodeIdentity_again {settings : IdentitySettings}
    (h : Repeats "identity" ((writtenIdentity settings).map Setting.entry) root again)
    (hdecoded : decodeIdentity root = .ok settings)
    (hgetent : .ofString settings.getentPath.shown = settings.getentPath)
    (hpasswd : .ofString settings.passwdPath.shown = settings.passwdPath)
    (hgroup : .ofString settings.groupPath.shown = settings.groupPath) :
    decodeIdentity again = .ok settings := by
  obtain ⟨table, htable, hs, hg, hp, hgr⟩ := decodeIdentity_eq_ok_iff.mp hdecoded
  obtain ⟨second, hsecond, h⟩ := sectionAt_again h htable
  exact decodeIdentity_eq_ok_iff.mpr ⟨second, hsecond, sourceAt_again h rfl hs,
    pathAt_again h rfl hgetent hg, pathAt_again h rfl hpasswd hp, pathAt_again h rfl hgroup hgr⟩

theorem decodeSession_again {settings : SessionSettings}
    (h : Repeats "session" ((writtenSession settings).map Setting.entry) root again)
    (hdecoded : decodeSession root = .ok settings)
    (hroot : .ofString settings.scratchRoot.shown = settings.scratchRoot)
    (hpgrep : .ofString settings.pgrepPath.shown = settings.pgrepPath) :
    decodeSession again = .ok settings := by
  obtain ⟨table, htable, hs, hp, hn⟩ := decodeSession_eq_ok_iff.mp hdecoded
  obtain ⟨second, hsecond, h⟩ := sectionAt_again h htable
  exact decodeSession_eq_ok_iff.mpr ⟨second, hsecond, pathAt_again h rfl hroot hs,
    pathAt_again h rfl hpgrep hp, textAt_again h rfl hn⟩

theorem decodeDisplay_again {settings : DisplaySettings}
    (h : Repeats "display" ((writtenDisplay settings).map Setting.entry) root again)
    (hdecoded : decodeDisplay root = .ok settings)
    (hxinit : .ofString settings.xinitPath.shown = settings.xinitPath)
    (hscript : .ofString settings.sessionScript.shown = settings.sessionScript)
    (hxvfb : .ofString settings.xvfbPath.shown = settings.xvfbPath) :
    decodeDisplay again = .ok settings := by
  obtain ⟨table, htable, hi, hs, hv, hg⟩ := decodeDisplay_eq_ok_iff.mp hdecoded
  obtain ⟨second, hsecond, h⟩ := sectionAt_again h htable
  exact decodeDisplay_eq_ok_iff.mpr ⟨second, hsecond, pathAt_again h rfl hxinit hi,
    pathAt_again h rfl hscript hs, pathAt_again h rfl hxvfb hv, textAt_again h rfl hg⟩

theorem decodeServer_again {settings : ServerSettings}
    (h : Repeats "server" ((writtenServer settings).map Setting.entry) root again)
    (hdecoded : decodeServer root = .ok settings)
    (hbinary : .ofString settings.binary.shown = settings.binary)
    (hconfig : .ofString settings.configPath.shown = settings.configPath) :
    decodeServer again = .ok settings := by
  obtain ⟨table, htable, hb, hc, he⟩ := decodeServer_eq_ok_iff.mp hdecoded
  obtain ⟨second, hsecond, h⟩ := sectionAt_again h htable
  exact decodeServer_eq_ok_iff.mpr ⟨second, hsecond, pathAt_again h rfl hbinary hb,
    pathAt_again h rfl hconfig hc, textAt_again h rfl he⟩

theorem decodeChildEnv_again {settings : ChildEnvSettings}
    (h : Repeats "child_env" ((writtenChildEnv settings).map Setting.entry) root again)
    (hdecoded : decodeChildEnv root = .ok settings) : decodeChildEnv again = .ok settings := by
  obtain ⟨table, htable, hv, hl⟩ := decodeChildEnv_eq_ok_iff.mp hdecoded
  obtain ⟨second, hsecond, h⟩ := sectionAt_again h htable
  exact decodeChildEnv_eq_ok_iff.mpr ⟨second, hsecond, textAt_again h rfl hv,
    textAt_again h rfl hl⟩

/-- A fixed wait is found again. -/
theorem decodeFixed_again {readiness : Readiness} {first second : Table}
    (h : Again ((writtenReadiness readiness).map Setting.entry) first second)
    (hdecoded : decodeFixed first = .ok readiness) : decodeFixed second = .ok readiness := by
  obtain ⟨settle, hsettle, rfl⟩ := decodeFixed_eq_ok_iff.mp hdecoded
  have hbound := numberAt_lt (by decide) hsettle
  have hwritten : lookUp "settle_ms"
      ((writtenReadiness (.fixed (UInt64.ofNat settle))).map Setting.entry) =
        some (.integer settle) := by
    simp [writtenReadiness, Setting.entry, Setting.value, UInt64.toNat_ofNat_of_lt' hbound]
  exact decodeFixed_eq_ok_iff.mpr ⟨settle, numberAt_again h hwritten hbound hsettle, rfl⟩

/-- Polling is found again. -/
theorem decodePoll_again {readiness : Readiness} {first second : Table}
    (h : Again ((writtenReadiness readiness).map Setting.entry) first second)
    (hdecoded : decodePoll first = .ok readiness) : decodePoll second = .ok readiness := by
  obtain ⟨interval, attempts, hinterval, hattempts, rfl⟩ := decodePoll_eq_ok_iff.mp hdecoded
  have hbound := numberAt_lt (by decide) hinterval
  have hbound' := numberAt_lt (by decide) hattempts
  have hwritten : lookUp "interval_ms" ((writtenReadiness
      (.poll (UInt64.ofNat interval) (UInt32.ofNat attempts))).map Setting.entry) =
        some (.integer interval) := by
    simp [writtenReadiness, Setting.entry, Setting.value, UInt64.toNat_ofNat_of_lt' hbound]
  have hwritten' : lookUp "attempts" ((writtenReadiness
      (.poll (UInt64.ofNat interval) (UInt32.ofNat attempts))).map Setting.entry) =
        some (.integer attempts) := by
    simp [writtenReadiness, Setting.entry, Setting.value, UInt32.toNat_ofNat_of_lt' hbound']
  exact decodePoll_eq_ok_iff.mpr ⟨interval, attempts,
    numberAt_again h hwritten hbound hinterval, numberAt_again h hwritten' hbound' hattempts, rfl⟩

theorem decodeReadiness_again {readiness : Readiness}
    (h : Repeats "readiness" ((writtenReadiness readiness).map Setting.entry) root again)
    (hdecoded : decodeReadiness root = .ok readiness) : decodeReadiness again = .ok readiness := by
  cases h with
  | untouched h => exact decodeReadiness_written h
  | replaced h =>
    rw [← hdecoded]
    simp only [decodeReadiness, h]
  | changed hfirst hsecond h =>
    -- The mode says which numbers are written beside it.
    rcases (decodeReadiness_table_iff hfirst).mp hdecoded with ⟨hmode, hfixed⟩ | ⟨hmode, hpoll⟩
    · have hwritten : lookUp "mode" ((writtenReadiness readiness).map Setting.entry) =
          some (.text "fixed") := by
        obtain ⟨settle, -, rfl⟩ := decodeFixed_eq_ok_iff.mp hfixed
        rfl
      exact (decodeReadiness_table_iff hsecond).mpr
        (.inl ⟨lookUp_again h hwritten hmode, decodeFixed_again h hfixed⟩)
    · have hwritten : lookUp "mode" ((writtenReadiness readiness).map Setting.entry) =
          some (.text "poll") := by
        obtain ⟨interval, attempts, -, -, rfl⟩ := decodePoll_eq_ok_iff.mp hpoll
        rfl
      exact (decodeReadiness_table_iff hsecond).mpr
        (.inr ⟨lookUp_again h hwritten hmode, decodePoll_again h hpoll⟩)
  | @listed items items' hfirst hsecond hlength h =>
    have hmode {mode : String} {numbers : List Value} (hitems : items = .text mode :: numbers) :
        ∃ numbers', items' = .text mode :: numbers' ∧ numbers'.length = numbers.length ∧
          ∀ (keys : List String) (written : Table),
            Again written (keys.zip numbers) (keys.zip numbers') := by
      subst hitems
      have hfound := recurs_text (h 0 (some (.text mode)))
      obtain ⟨rfl⟩ | ⟨first, numbers'⟩ := items'
      · cases hfound
      · cases hfound
        exact ⟨numbers', rfl, by simpa using hlength, again_zip fun k => h (k + 1)⟩
    obtain ⟨numbers, ⟨hitems, hfew, hfixed⟩ | ⟨hitems, hfew, hpoll⟩⟩ :=
      (decodeReadiness_array_iff hfirst).mp hdecoded
    · obtain ⟨numbers', hitems', hsame, h⟩ := hmode hitems
      exact (decodeReadiness_array_iff hsecond).mpr
        ⟨numbers', .inl ⟨hitems', hsame ▸ hfew, decodeFixed_again (h _ _) hfixed⟩⟩
    · obtain ⟨numbers', hitems', hsame, h⟩ := hmode hitems
      exact (decodeReadiness_array_iff hsecond).mpr
        ⟨numbers', .inr ⟨hitems', hsame ▸ hfew, decodePoll_again (h _ _) hpoll⟩⟩

end

/-- **Settings come out the same again** when each of their sections repeats. -/
theorem decode_again {config : Config} (hwritable : config.Writable) {root again : Table}
    (hdecoded : decode root = .ok config)
    (hrepeats : ∀ s ∈ config.written, Repeats s.name (s.settings.map Setting.entry) root again) :
    decode again = .ok config := by
  have hback (path : Path) (hmem : path ∈ config.paths) : .ofString path.shown = path :=
    Path.ofString_shown (hwritable.paths path hmem)
  obtain ⟨hidentity, hsession, hdisplay, hserver, hchildEnv, hreadiness⟩ :=
    decode_eq_ok_iff.mp hdecoded
  simp only [written, List.forall_mem_cons] at hrepeats
  obtain ⟨hidentity', hsession', hdisplay', hserver', hchildEnv', hreadiness', -⟩ := hrepeats
  refine decode_eq_ok_iff.mpr ⟨?_, ?_, ?_, ?_, ?_, ?_⟩
  · exact decodeIdentity_again hidentity' hidentity
      (hback _ (by simp [paths])) (hback _ (by simp [paths])) (hback _ (by simp [paths]))
  · exact decodeSession_again hsession' hsession
      (hback _ (by simp [paths])) (hback _ (by simp [paths]))
  · exact decodeDisplay_again hdisplay' hdisplay
      (hback _ (by simp [paths])) (hback _ (by simp [paths])) (hback _ (by simp [paths]))
  · exact decodeServer_again hserver' hserver
      (hback _ (by simp [paths])) (hback _ (by simp [paths]))
  · exact decodeChildEnv_again hchildEnv' hchildEnv
  · exact decodeReadiness_again hreadiness' hreadiness

/-! ## Variables -/

/-- **A variable sets an item of a section**: an index stands right behind the section's name. -/
def SetsItem (environment : List (String × Bytes)) (name : String) : Prop :=
  ∃ v ∈ environment, ∃ i steps,
    (settingName? v.1).bind pathOf? = some (name, .index i :: steps)

instance (path : Option (String × List PathStep)) (name : String) :
    Decidable (∃ i steps, path = some (name, .index i :: steps)) :=
  match path with
  | some (first, .index i :: steps) =>
    if h : first = name then isTrue ⟨i, steps, by rw [h]⟩
    else isFalse fun ⟨_, _, heq⟩ => h (congrArg Prod.fst (Option.some.inj heq))
  | some (_, .key _ :: _) => isFalse fun ⟨_, _, heq⟩ => by cases heq
  | some (_, []) => isFalse fun ⟨_, _, heq⟩ => by cases heq
  | none => isFalse fun ⟨_, _, heq⟩ => by cases heq

instance (environment : List (String × Bytes)) (name : String) :
    Decidable (SetsItem environment name) :=
  inferInstanceAs (Decidable (∃ v ∈ environment, _))

/-- **Two variables meet in a section**: they name different settings there, and their paths do not
diverge. -/
def Meet (environment : List (String × Bytes)) (name : String) : Prop :=
  ∃ v ∈ environment, ∃ w ∈ environment, settingName? v.1 ≠ settingName? w.1 ∧
    ∃ p q, (settingName? v.1).bind pathOf? = some (name, p) ∧
      (settingName? w.1).bind pathOf? = some (name, q) ∧ ¬ Diverge p q

instance (path path' : Option (String × List PathStep)) (name : String) :
    Decidable (∃ p q, path = some (name, p) ∧ path' = some (name, q) ∧ ¬ Diverge p q) :=
  match path, path' with
  | some (first, p), some (second, q) =>
    decidable_of_iff (first = name ∧ second = name ∧ ¬ Diverge p q) (by simp [and_assoc])
  | none, _ => isFalse fun ⟨_, _, h, _⟩ => by cases h
  | some _, none => isFalse fun ⟨_, _, _, h, _⟩ => by cases h

instance (environment : List (String × Bytes)) (name : String) :
    Decidable (Meet environment name) :=
  inferInstanceAs (Decidable (∃ v ∈ environment, _))

/-- **A file gives a section as a list**, its names set in some order. -/
def GivesList (order : Order) (file : Option Bytes) (name : String) : Prop :=
  ∃ document items, documentIn file = .ok document ∧
    lookUp name (layered [] (order.arrange document)) = some (.array items)

theorem perm_behind (order : Order) (settings : List (String × Value)) (step : PathStep) :
    (behind step (assignmentsOf (order.arrange settings))).Perm
      (behind step (assignmentsOf settings)) :=
  ((order.perm settings).map _).filterMap _

section

variable {environment : List (String × Bytes)} {settings : List (String × Value)} {name : String}

theorem setsItem_of_behind (h : overridesIn environment = .ok settings)
    (hbare : pathOf? name = some (name, [])) {a : Assignment}
    (ha : a ∈ behind (.key name) (assignmentsOf settings)) {back : Bool}
    (hitem : StartsAtItem back a) : SetsItem environment name := by
  obtain ⟨k, steps, hsteps⟩ := hitem
  obtain ⟨s, hs, hassignment⟩ := List.mem_map.mp (mem_behind_iff.mp ha)
  obtain ⟨v, hv, -, hname, -, -⟩ := mem_overridesIn h hs
  refine ⟨v, hv, counted back k, steps, ?_⟩
  rw [hname, Option.bind_some, ← hsteps]
  exact pathOf?_of_stepsOf hbare (congrArg Prod.fst hassignment)

/-- **Variables that do not meet make assignments that do not meet.** -/
theorem diverging_of_not_meet (h : overridesIn environment = .ok settings)
    (hbare : pathOf? name = some (name, [])) (hmeet : ¬ Meet environment name) :
    Diverging (behind (.key name) (assignmentsOf settings)) := by
  have hnames : settings.Pairwise fun s t => s.1 ≠ t.1 :=
    List.pairwise_map.mp (distinct_overridesIn h)
  rw [Diverging, behind, assignmentsOf, List.filterMap_map]
  refine List.Pairwise.filterMap _ ?_ (List.Pairwise.and_mem.mp hnames)
  rintro s t ⟨hs, ht, hne⟩ a ha b hb
  obtain ⟨v, hv, -, hvname, -, -⟩ := mem_overridesIn h hs
  obtain ⟨w, hw, -, hwname, -, -⟩ := mem_overridesIn h ht
  have hpath {s : String × Value} {a : Assignment}
      (ha : behind? (.key name) (stepsOf s.1, s.2) = some a) : pathOf? s.1 = some (name, a.1) :=
    pathOf?_of_stepsOf hbare (congrArg Prod.fst (behind?_eq_some_iff.mp ha))
  by_contra hdiverge
  refine hmeet ⟨v, hv, w, hw, ?_, a.1, b.1, ?_, ?_, hdiverge⟩
  · rw [hvname, hwname]
    exact fun heq => hne (Option.some.inj heq)
  · rw [hvname, Option.bind_some, hpath ha]
  · rw [hwname, Option.bind_some, hpath hb]

/-- **What variables assign in a section**, if no two of them meet there. -/
theorem reordered_overrides (h : overridesIn environment = .ok settings)
    (hbare : pathOf? name = some (name, [])) (hmeet : ¬ Meet environment name)
    (order order' : Order) :
    Reordered (behind (.key name) (assignmentsOf (order.arrange settings)))
      (behind (.key name) (assignmentsOf (order'.arrange settings))) := by
  have hperm (order : Order) := perm_behind order settings (.key name)
  have hvalue : ∀ a ∈ behind (.key name) (assignmentsOf settings),
      a.2.IsScalar ∧ a.2.WellFormed := by
    intro a ha
    obtain ⟨s, hs, hassignment⟩ := List.mem_map.mp (mem_behind_iff.mp ha)
    obtain ⟨_, -, text, -, -, hvalue⟩ := mem_overridesIn h hs
    have hsame : s.2 = a.2 := congrArg Prod.snd hassignment
    rw [← hsame, hvalue]
    exact variableValue_cases _
  refine ⟨(hperm order').trans (hperm order).symm, ?_, ?_, ?_⟩
  · exact ((hperm order).pairwise_iff diverge_symm).mpr (diverging_of_not_meet h hbare hmeet)
  · exact fun a ha => (hvalue a ((hperm order).mem_iff.mp ha)).1
  · exact fun a ha => (hvalue a ((hperm order).mem_iff.mp ha)).2

end

/-! ## Loading again -/

theorem itemsOf_eq_nil {old : Option Value} (h : ∀ items, old ≠ some (.array items)) :
    itemsOf old = [] := by
  rw [itemsOf.eq_def]
  split
  · exact absurd rfl (h _)
  · rfl

/-- A document is laid over nothing properly. -/
theorem proper_layered_document {file : Option Bytes} {document : Table}
    (h : documentIn file = .ok document) (order : Order) :
    Proper Value.WellFormed (layered [] (order.arrange document)) :=
  proper_layered proper_nil (proper_perm (order.perm document) (proper_documentIn h)).values

/-- **Settings that were loaded can be dumped, and loading the dump with the same variables gives
them again**, in whatever order the names are set and from whatever file the dump was written to, if
no variable sets an item of a section that the file gave as a list and no two variables meet in a
section. -/
theorem load_again {file : Option Bytes} {environment : List (String × Bytes)} {orders : Orders}
    {config : Config} (hload : load file environment orders = .ok config)
    (hitems : ∀ name ∈ sectionNames, GivesList orders.document file name →
      ¬ SetsItem environment name)
    (hmeet : ∀ name ∈ sectionNames, ¬ Meet environment name) :
    ∃ text, config.dump = .ok text ∧ ∀ orders' : Orders,
      load (some (Utf8.ofString text)) environment orders' = .ok config ∧
      ∀ (files written : FileSystem) (directory : Location) (user : UInt32) (path : Path),
        files.write directory user path (Utf8.ofString text) = .ok written →
        load (fileAt written directory path) environment orders' = .ok config := by
  obtain ⟨document, settings, hdocument, hsettings, hdecoded, hcheck⟩ := load_eq_ok_iff.mp hload
  have hvalues : ∀ s ∈ settings, s.2.WellFormed := by
    intro s hs
    obtain ⟨_, -, text, -, -, hvalue⟩ := mem_overridesIn hsettings hs
    rw [hvalue]
    exact (variableValue_cases _).2
  have hproper : Proper Value.WellFormed (layered (layered [] (orders.document.arrange document))
      (orders.overrides.arrange settings)) := by
    refine proper_layered (proper_layered_document hdocument _) fun s hs => ?_
    exact hvalues s ((orders.overrides.perm settings).mem_iff.mp hs)
  have hwritable := writable_of_decode hproper hdecoded
  have hagain (orders' : Orders) :
      load (some (Utf8.encode (writeSections config.written))) environment orders' =
        .ok config := by
    refine load_eq_ok_iff.mpr ⟨_, settings, documentIn_written hwritable, hsettings, ?_, hcheck⟩
    refine decode_again hwritable hdecoded ?_
    intro s hs
    have hname : s.name ∈ sectionNames := List.mem_map_of_mem hs
    have hbare := pathOf?_bare (wellFormed_written hwritable s hs).name
    have hwritten := lookUp_written hwritable orders'.document s hs
    have hlist := reordered_overrides hsettings hbare (hmeet s.name hname) orders.overrides
      orders'.overrides
    refine repeats_of_assign hlist ?_ ?_ (lookUp_layered _ _ s.name) ?_
    · have hdocument' := proper_layered_document (documentIn_written hwritable) orders'.document
      exact Value.wellFormed_table_iff.mp (kind_of_lookUp hdocument' hwritten)
    · intro back a ha hitem
      refine itemsOf_eq_nil fun items hfound => ?_
      have hset := (perm_behind orders.overrides settings _).mem_iff.mp ha
      exact hitems s.name hname ⟨document, items, hdocument, hfound⟩
        (setsItem_of_behind hsettings hbare hset hitem)
    · rw [lookUp_layered, hwritten]
  refine ⟨_, dump_eq hwritable, fun orders' => ⟨?_, ?_⟩⟩
  · rw [Utf8.ofString, String.toList_ofList]
    exact hagain orders'
  · intro files written directory user path hwrite
    -- What was written is found under the path as it is, before any path with an ending is tried.
    rw [fileAt_of_read (FileSystem.read_of_write hwrite), Utf8.ofString, String.toList_ofList]
    exact hagain orders'

/-- A file with a list and with a part of a table. -/
def partialFile : Bytes :=
  Utf8.ofString "child_env = [\"A\"]\n[readiness]\nmode = \"poll\"\n"

/-- The document in that file. -/
def partialDocument : Table :=
  [("child_env", .array [.text "A"]), ("readiness", .table [("mode", .text "poll")])]

/-- Variables of several kinds: a number where a text is expected, a table that names the source, a
number of the mode that is not in use, a key of the section that was given as a list, and two items
of a section that was not. -/
def mixedVariables : List (String × Bytes) :=
  [("SESSION_BOOTSTRAP__SESSION__PROCESS_NAME", Utf8.ofString "007"),
    ("session_bootstrap__identity__source__files", Utf8.ofString "TRUE"),
    ("SESSION_BOOTSTRAP__READINESS__SETTLE_MS", Utf8.ofString "900"),
    ("SESSION_BOOTSTRAP__CHILD_ENV__LOG_LEVEL", Utf8.ofString "debug"),
    ("SESSION_BOOTSTRAP__SERVER[1]", Utf8.ofString "/opt/server.toml"),
    ("SESSION_BOOTSTRAP__SERVER[0]", Utf8.ofString "/opt/server")]

/-- The settings that come of them. -/
def mixed : Config :=
  { identity := { source := .files }
    session := { processName := "7" }
    server := { binary := .ofString "/opt/server", configPath := .ofString "/opt/server.toml" }
    childEnv := ⟨"RUST_LOG", "debug"⟩
    readiness := .poll 100 50 }

theorem load_again_mixed :
    load (some partialFile) mixedVariables = .ok mixed ∧
    (∀ name ∈ sectionNames, GivesList .given (some partialFile) name →
      ¬ SetsItem mixedVariables name) ∧
    (∀ name ∈ sectionNames, ¬ Meet mixedVariables name) ∧
    ∃ text, mixed.dump = .ok text ∧ ∀ orders' : Orders,
      load (some (Utf8.ofString text)) mixedVariables orders' = .ok mixed := by
  have hload : load (some partialFile) mixedVariables = .ok mixed := by decide +kernel
  have hitems : ∀ name ∈ sectionNames, GivesList .given (some partialFile) name →
      ¬ SetsItem mixedVariables name := by
    have hserver : ∀ name ∈ sectionNames, SetsItem mixedVariables name → name = "server" := by
      decide +kernel
    have hpartial : documentIn (some partialFile) = .ok partialDocument := by cbv
    rintro name hname ⟨document, items, hdocument, hlist⟩ hset
    obtain rfl := hserver name hname hset
    cases hpartial.symm.trans hdocument
    have hnone : lookUp "server" (layered [] partialDocument) = none := by decide +kernel
    cases hnone.symm.trans hlist
  have hmeet : ∀ name ∈ sectionNames, ¬ Meet mixedVariables name := by decide +kernel
  obtain ⟨text, hdump, hagain⟩ := load_again hload hitems hmeet
  exact ⟨hload, hitems, hmeet, text, hdump, fun orders' => (hagain orders').1⟩

/-! ## A list and its items -/

/-- A file that gives a section as a list. -/
def listedFile : Bytes :=
  Utf8.ofString "child_env = [\"A\", \"B\"]\n"

/-- A variable that sets the first item of that list. -/
def itemVariable : List (String × Bytes) :=
  [("SESSION_BOOTSTRAP__CHILD_ENV[0]", Utf8.ofString "X")]

/-- The settings that come of both. -/
def listed : Config :=
  { childEnv := ⟨"X", "B"⟩ }

/-- **The settings of a list change when they are loaded again** with a variable that sets an item:
the second item of the list is not in the table that was written. -/
theorem listed_settings_change :
    load (some listedFile) itemVariable = .ok listed ∧
    ∃ text, listed.dump = .ok text ∧
      load (some (Utf8.ofString text)) itemVariable =
        .ok { listed with childEnv := ⟨"X", "info"⟩ } ∧
      { listed with childEnv := ⟨"X", "info"⟩ } ≠ listed := by
  have hwritable : listed.Writable := ⟨by decide +kernel, by decide +kernel⟩
  refine ⟨by decide +kernel, _, dump_eq hwritable, ?_, by decide⟩
  rw [Utf8.ofString, String.toList_ofList]
  decide +kernel

/-! ## Variables that meet -/

/-- A variable that sets a key of a section and one that sets an item of it. -/
def meetingVariables : List (String × Bytes) :=
  [("SESSION_BOOTSTRAP__CHILD_ENV__LOG_VAR", Utf8.ofString "A"),
    ("SESSION_BOOTSTRAP__CHILD_ENV[0]", Utf8.ofString "B")]

/-- The settings that come of them as they are given: the list takes the place of the table. -/
def met : Config :=
  { childEnv := ⟨"B", "info"⟩ }

/-- The variables in the order in which they were given, from the end. -/
def fromTheEnd : Orders :=
  ⟨.given, ⟨List.reverse, List.reverse_perm⟩⟩

/-- **The settings of variables that meet change when they are loaded again** in another order. -/
theorem meeting_settings_change :
    load none meetingVariables = .ok met ∧
    ∃ text, met.dump = .ok text ∧
      load (some (Utf8.ofString text)) meetingVariables fromTheEnd =
        .ok { met with childEnv := ⟨"A", "info"⟩ } ∧
      { met with childEnv := ⟨"A", "info"⟩ } ≠ met := by
  have hwritable : met.Writable := ⟨by decide +kernel, by decide +kernel⟩
  refine ⟨by decide +kernel, _, dump_eq hwritable, ?_, by decide⟩
  rw [Utf8.ofString, String.toList_ofList]
  decide +kernel

end Config

end DisplaySession
