import DisplaySession.Proofs.Config.RoundTrip
import DisplaySession.Proofs.Toml.WellFormed

/-
What the decoders ask and what they give.

A section is decoded exactly if each of its settings is (`decodeIdentity_eq_ok_iff` and its likes),
and all settings are decoded exactly if each section is. What comes out of a well-formed table can
be written again: a path is made of a text, and a number is an integer of the table or the standard,
so it has 63 bits (`writable_of_decode`).
-/
set_option autoImplicit false

namespace DisplaySession.Config

open Toml

/-! ## Decoders as conditions -/

theorem bind_eq_ok_iff {α β : Type} {x : Except ConfigFault α} {next : α → Except ConfigFault β}
    {b : β} : x >>= next = .ok b ↔ ∃ a, x = .ok a ∧ next a = .ok b := by
  cases x with
  | error fault => exact iff_of_false (fun h => by cases h) fun ⟨_, h, _⟩ => by cases h
  | ok a => exact ⟨fun h => ⟨a, rfl, h⟩, fun ⟨_, ha, h⟩ => by cases ha; exact h⟩

section

variable {root : Table}

theorem decodeIdentity_eq_ok_iff {settings : IdentitySettings} :
    decodeIdentity root = .ok settings ↔ ∃ table,
      sectionAt root "identity" ["source", "getent_path", "passwd_path", "group_path"] = .ok table ∧
      sourceAt table = .ok settings.source ∧
      pathAt table "getent_path" standard.identity.getentPath = .ok settings.getentPath ∧
      pathAt table "passwd_path" standard.identity.passwdPath = .ok settings.passwdPath ∧
      pathAt table "group_path" standard.identity.groupPath = .ok settings.groupPath := by
  simp only [decodeIdentity, bind_eq_ok_iff]
  constructor
  · rintro ⟨table, htable, source, hsource, getent, hgetent, passwd, hpasswd, group, hgroup, ⟨⟩⟩
    exact ⟨table, htable, hsource, hgetent, hpasswd, hgroup⟩
  · rintro ⟨table, htable, hsource, hgetent, hpasswd, hgroup⟩
    exact ⟨table, htable, _, hsource, _, hgetent, _, hpasswd, _, hgroup, rfl⟩

theorem decodeSession_eq_ok_iff {settings : SessionSettings} :
    decodeSession root = .ok settings ↔ ∃ table,
      sectionAt root "session" ["scratch_root", "pgrep_path", "process_name"] = .ok table ∧
      pathAt table "scratch_root" standard.session.scratchRoot = .ok settings.scratchRoot ∧
      pathAt table "pgrep_path" standard.session.pgrepPath = .ok settings.pgrepPath ∧
      textAt table "process_name" standard.session.processName = .ok settings.processName := by
  simp only [decodeSession, bind_eq_ok_iff]
  constructor
  · rintro ⟨table, htable, scratch, hscratch, pgrep, hpgrep, process, hprocess, ⟨⟩⟩
    exact ⟨table, htable, hscratch, hpgrep, hprocess⟩
  · rintro ⟨table, htable, hscratch, hpgrep, hprocess⟩
    exact ⟨table, htable, _, hscratch, _, hpgrep, _, hprocess, rfl⟩

theorem decodeDisplay_eq_ok_iff {settings : DisplaySettings} :
    decodeDisplay root = .ok settings ↔ ∃ table,
      sectionAt root "display" ["xinit_path", "session_script", "xvfb_path", "geometry"] =
        .ok table ∧
      pathAt table "xinit_path" standard.display.xinitPath = .ok settings.xinitPath ∧
      pathAt table "session_script" standard.display.sessionScript = .ok settings.sessionScript ∧
      pathAt table "xvfb_path" standard.display.xvfbPath = .ok settings.xvfbPath ∧
      textAt table "geometry" standard.display.geometry = .ok settings.geometry := by
  simp only [decodeDisplay, bind_eq_ok_iff]
  constructor
  · rintro ⟨table, htable, xinit, hxinit, script, hscript, xvfb, hxvfb, geometry, hgeometry, ⟨⟩⟩
    exact ⟨table, htable, hxinit, hscript, hxvfb, hgeometry⟩
  · rintro ⟨table, htable, hxinit, hscript, hxvfb, hgeometry⟩
    exact ⟨table, htable, _, hxinit, _, hscript, _, hxvfb, _, hgeometry, rfl⟩

theorem decodeServer_eq_ok_iff {settings : ServerSettings} :
    decodeServer root = .ok settings ↔ ∃ table,
      sectionAt root "server" ["binary", "config_path", "encoder"] = .ok table ∧
      pathAt table "binary" standard.server.binary = .ok settings.binary ∧
      pathAt table "config_path" standard.server.configPath = .ok settings.configPath ∧
      textAt table "encoder" standard.server.encoder = .ok settings.encoder := by
  simp only [decodeServer, bind_eq_ok_iff]
  constructor
  · rintro ⟨table, htable, binary, hbinary, config, hconfig, encoder, hencoder, ⟨⟩⟩
    exact ⟨table, htable, hbinary, hconfig, hencoder⟩
  · rintro ⟨table, htable, hbinary, hconfig, hencoder⟩
    exact ⟨table, htable, _, hbinary, _, hconfig, _, hencoder, rfl⟩

theorem decodeChildEnv_eq_ok_iff {settings : ChildEnvSettings} :
    decodeChildEnv root = .ok settings ↔ ∃ table,
      sectionAt root "child_env" ["log_var", "log_level"] = .ok table ∧
      textAt table "log_var" standard.childEnv.logVar = .ok settings.logVar ∧
      textAt table "log_level" standard.childEnv.logLevel = .ok settings.logLevel := by
  simp only [decodeChildEnv, bind_eq_ok_iff]
  constructor
  · rintro ⟨table, htable, logVar, hlogVar, logLevel, hlogLevel, ⟨⟩⟩
    exact ⟨table, htable, hlogVar, hlogLevel⟩
  · rintro ⟨table, htable, hlogVar, hlogLevel⟩
    exact ⟨table, htable, _, hlogVar, _, hlogLevel, rfl⟩

/-- **All settings are decoded exactly if each section is.** -/
theorem decode_eq_ok_iff {config : Config} :
    decode root = .ok config ↔
      decodeIdentity root = .ok config.identity ∧ decodeSession root = .ok config.session ∧
      decodeDisplay root = .ok config.display ∧ decodeServer root = .ok config.server ∧
      decodeChildEnv root = .ok config.childEnv ∧
      decodeReadiness root = .ok config.readiness := by
  simp only [decode, bind_eq_ok_iff]
  constructor
  · rintro ⟨identity, hidentity, session, hsession, display, hdisplay, server, hserver, childEnv,
      hchildEnv, readiness, hreadiness, ⟨⟩⟩
    exact ⟨hidentity, hsession, hdisplay, hserver, hchildEnv, hreadiness⟩
  · rintro ⟨hidentity, hsession, hdisplay, hserver, hchildEnv, hreadiness⟩
    exact ⟨_, hidentity, _, hsession, _, hdisplay, _, hserver, _, hchildEnv, _, hreadiness, rfl⟩

end

section

variable {table : Table} {readiness : Readiness}

theorem decodeFixed_eq_ok_iff :
    decodeFixed table = .ok readiness ↔ ∃ settle,
      numberAt table "settle_ms" UInt64.size Readiness.defaultSettle.toNat = .ok settle ∧
      readiness = .fixed (UInt64.ofNat settle) := by
  simp only [decodeFixed, bind_eq_ok_iff]
  constructor
  · rintro ⟨settle, hsettle, ⟨⟩⟩
    exact ⟨settle, hsettle, rfl⟩
  · rintro ⟨settle, hsettle, rfl⟩
    exact ⟨settle, hsettle, rfl⟩

theorem decodePoll_eq_ok_iff :
    decodePoll table = .ok readiness ↔ ∃ interval attempts,
      numberAt table "interval_ms" UInt64.size Readiness.defaultInterval.toNat = .ok interval ∧
      numberAt table "attempts" UInt32.size Readiness.defaultAttempts.toNat = .ok attempts ∧
      readiness = .poll (UInt64.ofNat interval) (UInt32.ofNat attempts) := by
  simp only [decodePoll, bind_eq_ok_iff]
  constructor
  · rintro ⟨interval, hinterval, attempts, hattempts, ⟨⟩⟩
    exact ⟨interval, attempts, hinterval, hattempts, rfl⟩
  · rintro ⟨interval, attempts, hinterval, hattempts, rfl⟩
    exact ⟨interval, hinterval, attempts, hattempts, rfl⟩

/-- **A number setting is the standard where there is none, and a number below the bound.** -/
theorem numberAt_eq_ok_iff {key : String} {bound standard n : Nat} :
    numberAt table key bound standard = .ok n ↔
      lookUp key table = none ∧ n = standard ∨
      lookUp key table = some (.integer n) ∧ n < bound := by
  rw [numberAt]
  split
  · rename_i hnone
    simp [hnone, eq_comm]
  · rename_i m hfound
    rw [hfound]
    constructor
    · intro h
      split at h <;> cases h
      right
      rename_i hfits
      exact ⟨by rw [Int.toNat_of_nonneg hfits.1], by omega⟩
    · rintro (⟨h, -⟩ | ⟨h, hbound⟩) <;> cases h
      rw [if_pos ⟨Int.natCast_nonneg n, Int.ofNat_lt.mpr hbound⟩, Int.toNat_natCast]
  · rename_i v hother hfound
    refine iff_of_false (fun h => by cases h) ?_
    rintro (⟨h, -⟩ | ⟨h, -⟩)
    · cases hfound.symm.trans h
    · cases hfound.symm.trans h
      exact hother n rfl

theorem numberAt_lt {key : String} {bound standard n : Nat} (hbound : standard < bound)
    (h : numberAt table key bound standard = .ok n) : n < bound := by
  rcases numberAt_eq_ok_iff.mp h with ⟨-, rfl⟩ | ⟨-, hlt⟩
  · exact hbound
  · exact hlt

/-- **A readiness that is a table** is decoded by its mode. -/
theorem decodeReadiness_table_iff {root : Table}
    (hroot : lookUp "readiness" root = some (.table table)) :
    decodeReadiness root = .ok readiness ↔
      lookUp "mode" table = some (.text "fixed") ∧ decodeFixed table = .ok readiness ∨
      lookUp "mode" table = some (.text "poll") ∧ decodePoll table = .ok readiness := by
  rw [decodeReadiness, hroot]
  simp only
  split
  · rename_i mode hmode
    rw [hmode]
    by_cases hfixed : mode = "fixed"
    · subst hfixed
      simp
    · by_cases hpoll : mode = "poll"
      · subst hpoll
        simp
      · simp [hfixed, hpoll]
  · rename_i hother
    refine iff_of_false (fun h => by cases h) ?_
    rintro (⟨h, -⟩ | ⟨h, -⟩)
    · exact hother _ h
    · exact hother _ h

/-- **A readiness that is a list** is its mode and the numbers of that mode. -/
theorem decodeReadiness_array_iff {root : Table} {items : List Value}
    (hroot : lookUp "readiness" root = some (.array items)) :
    decodeReadiness root = .ok readiness ↔ ∃ numbers,
      items = .text "fixed" :: numbers ∧ numbers.length ≤ fixedKeys.length ∧
        decodeFixed (fixedKeys.zip numbers) = .ok readiness ∨
      items = .text "poll" :: numbers ∧ numbers.length ≤ pollKeys.length ∧
        decodePoll (pollKeys.zip numbers) = .ok readiness := by
  rw [decodeReadiness, hroot]
  split
  · cases ‹some (Value.array items) = none›
  · cases ‹some (Value.array items) = some (Value.table _)›
  · rename_i mode numbers hitems
    cases hitems
    have hlisted (keys : List String) (next : Table → Except ConfigFault Readiness) :
        listedNumbers keys numbers >>= next = .ok readiness ↔
          numbers.length ≤ keys.length ∧ next (keys.zip numbers) = .ok readiness := by
      rw [listedNumbers]
      split
      · rename_i hlength
        exact ⟨fun h => ⟨hlength, h⟩, And.right⟩
      · rename_i hlength
        exact iff_of_false (fun h => by cases h) fun h => hlength h.1
    by_cases hfixed : mode = "fixed"
    · subst hfixed
      simp [hlisted]
    · by_cases hpoll : mode = "poll"
      · subst hpoll
        simp [hlisted]
      · simp [hfixed, hpoll]
  · rename_i hother hitems
    cases hitems
    refine iff_of_false (fun h => by cases h) ?_
    rintro ⟨numbers, ⟨rfl, -⟩ | ⟨rfl, -⟩⟩
    · exact hother _ _ rfl
    · exact hother _ _ rfl

/-! ## What is decoded can be written -/

theorem pathAt_isSome {key : String} {standard path : Path}
    (hstandard : standard.text?.isSome = true) (h : pathAt table key standard = .ok path) :
    path.text?.isSome = true := by
  rw [pathAt] at h
  split at h
  · cases h
    exact hstandard
  · split at h <;> cases h
    rw [Path.text?_eq_some_iff.mpr rfl]
    rfl

/-- A number that is decoded has 63 bits, as the integers of a table and the standard have. -/
theorem numberAt_signed {key : String} {bound standard n : Nat}
    (hvalues : ∀ e ∈ table, e.2.WellFormed) (hstandard : standard < Text.signedLimit)
    (h : numberAt table key bound standard = .ok n) : n < Text.signedLimit := by
  rcases numberAt_eq_ok_iff.mp h with ⟨-, rfl⟩ | ⟨hfound, -⟩
  · exact hstandard
  · cases hvalues _ (mem_of_lookUp hfound) with
    | integer hlow hhigh => exact Int.ofNat_lt.mp hhigh

theorem numbers_of_decodeFixed (hvalues : ∀ e ∈ table, e.2.WellFormed)
    (h : decodeFixed table = .ok readiness) : ∀ n ∈ numbersOf readiness, n < Text.signedLimit := by
  obtain ⟨settle, hsettle, rfl⟩ := decodeFixed_eq_ok_iff.mp h
  have hlt := numberAt_lt (by decide) hsettle
  intro n hn
  rw [numbersOf, List.mem_singleton, UInt64.toNat_ofNat_of_lt' hlt] at hn
  exact hn ▸ numberAt_signed hvalues (by decide) hsettle

theorem numbers_of_decodePoll (hvalues : ∀ e ∈ table, e.2.WellFormed)
    (h : decodePoll table = .ok readiness) : ∀ n ∈ numbersOf readiness, n < Text.signedLimit := by
  obtain ⟨interval, attempts, hinterval, hattempts, rfl⟩ := decodePoll_eq_ok_iff.mp h
  have hinterval' := numberAt_lt (by decide) hinterval
  have hattempts' := numberAt_lt (by decide) hattempts
  intro n hn
  rw [numbersOf, List.mem_cons, List.mem_singleton, UInt64.toNat_ofNat_of_lt' hinterval',
    UInt32.toNat_ofNat_of_lt' hattempts'] at hn
  rcases hn with rfl | rfl
  · exact numberAt_signed hvalues (by decide) hinterval
  · exact numberAt_signed hvalues (by decide) hattempts

end

theorem numbers_of_decodeReadiness {root : Table} {readiness : Readiness}
    (hroot : Proper Value.WellFormed root) (h : decodeReadiness root = .ok readiness) :
    ∀ n ∈ numbersOf readiness, n < Text.signedLimit := by
  cases hfound : lookUp "readiness" root with
  | none =>
    rw [decodeReadiness, hfound] at h
    cases h
    decide
  | some v =>
    have hv := kind_of_lookUp hroot hfound
    cases v with
    | table table =>
      have hvalues := (Value.wellFormed_table_iff.mp hv).values
      rcases (decodeReadiness_table_iff hfound).mp h with ⟨-, h⟩ | ⟨-, h⟩
      · exact numbers_of_decodeFixed hvalues h
      · exact numbers_of_decodePoll hvalues h
    | array items =>
      cases hv with
      | array hitems =>
        have hzip {keys : List String} {numbers : List Value} (hall : ∀ v ∈ numbers, v.WellFormed) :
            ∀ e ∈ keys.zip numbers, e.2.WellFormed :=
          fun e he => hall _ (List.of_mem_zip he).2
        obtain ⟨numbers, ⟨rfl, -, h⟩ | ⟨rfl, -, h⟩⟩ := (decodeReadiness_array_iff hfound).mp h
        · exact numbers_of_decodeFixed (hzip (List.forall_mem_cons.mp hitems).2) h
        · exact numbers_of_decodePoll (hzip (List.forall_mem_cons.mp hitems).2) h
    | _ =>
      rw [decodeReadiness, hfound] at h
      cases h

/-- **Whatever is decoded from a well-formed table can be written.** -/
theorem writable_of_decode {root : Table} {config : Config} (hroot : Proper Value.WellFormed root)
    (h : decode root = .ok config) : config.Writable := by
  obtain ⟨hidentity, hsession, hdisplay, hserver, -, hreadiness⟩ := decode_eq_ok_iff.mp h
  obtain ⟨_, -, -, hgetent, hpasswd, hgroup⟩ := decodeIdentity_eq_ok_iff.mp hidentity
  obtain ⟨_, -, hscratch, hpgrep, -⟩ := decodeSession_eq_ok_iff.mp hsession
  obtain ⟨_, -, hxinit, hscript, hxvfb, -⟩ := decodeDisplay_eq_ok_iff.mp hdisplay
  obtain ⟨_, -, hbinary, hconfig, -⟩ := decodeServer_eq_ok_iff.mp hserver
  have hstandard : ∀ path ∈ standard.paths, path.text?.isSome = true := by decide +kernel
  have hpath {table : Table} {key : String} {standard path : Path}
      (h : pathAt table key standard = .ok path) (hmem : standard ∈ Config.standard.paths) :
      path.text?.isSome = true :=
    pathAt_isSome (hstandard standard hmem) h
  refine ⟨?_, numbers_of_decodeReadiness hroot hreadiness⟩
  intro path hmem
  simp only [paths, List.mem_cons, List.not_mem_nil, or_false] at hmem
  rcases hmem with rfl | rfl | rfl | rfl | rfl | rfl | rfl | rfl | rfl | rfl
  · exact hpath hgetent (by simp [paths])
  · exact hpath hpasswd (by simp [paths])
  · exact hpath hgroup (by simp [paths])
  · exact hpath hscratch (by simp [paths])
  · exact hpath hpgrep (by simp [paths])
  · exact hpath hxinit (by simp [paths])
  · exact hpath hscript (by simp [paths])
  · exact hpath hxvfb (by simp [paths])
  · exact hpath hbinary (by simp [paths])
  · exact hpath hconfig (by simp [paths])

end DisplaySession.Config
