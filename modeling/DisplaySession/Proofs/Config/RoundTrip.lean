import DisplaySession.Config.Dump
import DisplaySession.Config.File
import DisplaySession.Config.Load
import DisplaySession.Proofs.Config.Overlay
import DisplaySession.Proofs.FileSystem.Write
import DisplaySession.Proofs.Text.Utf8
import DisplaySession.Proofs.Toml.Document

/-
Settings that were written are loaded as they were.

A document with the settings reads back as a table of sections; laying it over nothing changes
nothing, in whatever order, because each of its names is a path by itself; and each decoder finds its
setting under the key under which the writer put it. What is left is the check, which the settings
have passed before.

The writer can hold settings whose paths are text and whose numbers have 63 bits. Nothing is asked
of the texts.
-/
set_option autoImplicit false

namespace DisplaySession

/-! ## Paths that are text -/

namespace Path

/-- A path is text exactly if that text spells it. -/
theorem text?_eq_some_iff {path : Path} {text : String} :
    path.text? = some text ↔ path = .ofString text := by
  rw [text?, Option.map_eq_some_iff]
  constructor
  · rintro ⟨cs, hcs, rfl⟩
    have hbytes := Utf8.encode_of_decode? hcs
    rw [ofString, Utf8.ofString, String.toList_ofList, hbytes]
  · rintro rfl
    exact ⟨text.toList, Utf8.decode?_encode text.toList, String.ofList_toList⟩

theorem shown_ofString (text : String) : (Path.ofString text).shown = text := by
  rw [shown, ofString, Utf8.shown, Utf8.ofString, Utf8.decodeLossy_encode, String.ofList_toList]

theorem text?_of_isSome {path : Path} (h : path.text?.isSome = true) :
    path.text? = some path.shown := by
  obtain ⟨text, htext⟩ := Option.isSome_iff_exists.mp h
  rw [htext, text?_eq_some_iff.mp htext, shown_ofString]

theorem ofString_shown {path : Path} (h : path.text?.isSome = true) :
    .ofString path.shown = path :=
  (text?_eq_some_iff.mp (text?_of_isSome h)).symm

end Path

/-! ## Laying a document over nothing -/

namespace Config

open Toml

theorem pathOf?_bare {name : String} (h : IsBare name) : pathOf? name = some (name, []) := by
  have hall : ∀ c ∈ name.toList, isPathChar c = true := h.2
  have htake : name.toList.takeWhile isPathChar = name.toList := by
    rw [← List.append_nil name.toList, List.takeWhile_append_of_pos hall, List.takeWhile_nil]
  have hdrop : name.toList.dropWhile isPathChar = [] := by
    rw [← List.append_nil name.toList, List.dropWhile_append_of_pos hall, List.dropWhile_nil]
  have hempty : name.toList.isEmpty = false := List.isEmpty_eq_false_iff.mpr h.1
  rw [pathOf?]
  simp only [htake, hdrop, hempty, String.ofList_toList]
  rfl

/-! ## What is written for settings -/

/-- The paths among the settings. -/
def paths (config : Config) : List Path :=
  [config.identity.getentPath, config.identity.passwdPath, config.identity.groupPath,
    config.session.scratchRoot, config.session.pgrepPath, config.display.xinitPath,
    config.display.sessionScript, config.display.xvfbPath, config.server.binary,
    config.server.configPath]

/-- The numbers of a readiness. -/
def numbersOf : Readiness → List Nat
  | .fixed settle => [settle.toNat]
  | .poll interval attempts => [interval.toNat, attempts.toNat]

def writtenIdentity (settings : IdentitySettings) : List (String × Setting) :=
  [("source", .text (sourceName settings.source)),
    ("getent_path", .text settings.getentPath.shown),
    ("passwd_path", .text settings.passwdPath.shown),
    ("group_path", .text settings.groupPath.shown)]

def writtenSession (settings : SessionSettings) : List (String × Setting) :=
  [("scratch_root", .text settings.scratchRoot.shown),
    ("pgrep_path", .text settings.pgrepPath.shown),
    ("process_name", .text settings.processName)]

def writtenDisplay (settings : DisplaySettings) : List (String × Setting) :=
  [("xinit_path", .text settings.xinitPath.shown),
    ("session_script", .text settings.sessionScript.shown),
    ("xvfb_path", .text settings.xvfbPath.shown),
    ("geometry", .text settings.geometry)]

def writtenServer (settings : ServerSettings) : List (String × Setting) :=
  [("binary", .text settings.binary.shown),
    ("config_path", .text settings.configPath.shown),
    ("encoder", .text settings.encoder)]

def writtenChildEnv (settings : ChildEnvSettings) : List (String × Setting) :=
  [("log_var", .text settings.logVar), ("log_level", .text settings.logLevel)]

/-- What is written for a readiness. -/
def writtenReadiness : Readiness → List (String × Setting)
  | .fixed settle => [("mode", .text "fixed"), ("settle_ms", .number settle.toNat)]
  | .poll interval attempts =>
    [("mode", .text "poll"), ("interval_ms", .number interval.toNat),
      ("attempts", .number attempts.toNat)]

/-- **The sections that are written for settings** whose paths are text. -/
def written (config : Config) : List Toml.Section :=
  [⟨"identity", writtenIdentity config.identity⟩, ⟨"session", writtenSession config.session⟩,
    ⟨"display", writtenDisplay config.display⟩, ⟨"server", writtenServer config.server⟩,
    ⟨"child_env", writtenChildEnv config.childEnv⟩,
    ⟨"readiness", writtenReadiness config.readiness⟩]

/-- **Settings that have a written form**: the paths are text, and the numbers have 63 bits. -/
structure Writable (config : Config) : Prop where
  paths : ∀ path ∈ config.paths, path.text?.isSome = true
  numbers : ∀ n ∈ numbersOf config.readiness, n < Text.signedLimit

theorem pathSetting_of_isSome {path : Path} (key : String) (h : path.text?.isSome = true) :
    pathSetting key path = .ok (key, .text path.shown) := by
  rw [pathSetting, Path.text?_of_isSome h]

theorem numberSetting_of_lt {n : Nat} (key : String) (h : n < Text.signedLimit) :
    numberSetting key n = .ok (key, .number n) :=
  if_pos h

theorem readinessSettings_eq {readiness : Readiness}
    (h : ∀ n ∈ numbersOf readiness, n < Text.signedLimit) :
    readinessSettings readiness = (writtenReadiness readiness).map .ok := by
  cases readiness with
  | fixed settle =>
    have hsettle := h settle.toNat (by simp [numbersOf])
    rw [readinessSettings, numberSetting_of_lt _ hsettle]
    rfl
  | poll interval attempts =>
    have hinterval := h interval.toNat (by simp [numbersOf])
    have hattempts := h attempts.toNat (by simp [numbersOf])
    rw [readinessSettings, numberSetting_of_lt _ hinterval, numberSetting_of_lt _ hattempts]
    rfl

theorem sectionOf_ok (name : String) (settings : List (String × Setting)) :
    sectionOf name (settings.map .ok) = .ok ⟨name, settings⟩ := by
  have hall : (settings.map .ok : List (Except ConfigFault _)).mapM id = .ok settings := by
    induction settings with
    | nil => rfl
    | cons pair settings ih =>
      rw [List.map_cons, List.mapM_cons, ih]
      rfl
  rw [sectionOf, hall]
  rfl

/-- **Settings with a written form are written** as their sections. -/
theorem sections_eq {config : Config} (h : config.Writable) :
    config.sections = .ok config.written := by
  -- Each path is named once, to say which of the settings it is; its key is found by unification.
  have hpath (path : Path) (hmem : path ∈ config.paths) (key : String) :
      pathSetting key path = .ok (key, .text path.shown) :=
    pathSetting_of_isSome key (h.paths path hmem)
  rw [sections, readinessSettings_eq h.numbers, sectionOf_ok "readiness",
    hpath config.identity.getentPath (by simp [paths]),
    hpath config.identity.passwdPath (by simp [paths]),
    hpath config.identity.groupPath (by simp [paths]),
    hpath config.session.scratchRoot (by simp [paths]),
    hpath config.session.pgrepPath (by simp [paths]),
    hpath config.display.xinitPath (by simp [paths]),
    hpath config.display.sessionScript (by simp [paths]),
    hpath config.display.xvfbPath (by simp [paths]),
    hpath config.server.binary (by simp [paths]),
    hpath config.server.configPath (by simp [paths])]
  rfl

/-- A section is well-formed if its name and its keys are, and its numbers fit. -/
theorem wellFormed_of {name : String} {settings : List (String × Setting)} (keys : List String)
    (hkeys : keysOf settings = keys) (hname : IsBare name) (hbare : ∀ key ∈ keys, IsBare key)
    (hdistinct : keys.Nodup) (hfits : ∀ pair ∈ settings, pair.2.Fits) :
    Section.WellFormed ⟨name, settings⟩ := by
  subst hkeys
  exact ⟨hname, fun _ hpair => hbare _ (List.mem_map_of_mem hpair), hdistinct, hfits⟩

theorem wellFormed_readiness {readiness : Readiness}
    (h : ∀ n ∈ numbersOf readiness, n < Text.signedLimit) :
    Section.WellFormed ⟨"readiness", writtenReadiness readiness⟩ := by
  cases readiness with
  | fixed settle =>
    have hsettle := h settle.toNat (by simp [numbersOf])
    exact wellFormed_of ["mode", "settle_ms"] rfl
      (by decide) (by decide) (by decide)
      (by simpa [writtenReadiness, Setting.Fits] using hsettle)
  | poll interval attempts =>
    have hinterval := h interval.toNat (by simp [numbersOf])
    have hattempts := h attempts.toNat (by simp [numbersOf])
    exact wellFormed_of ["mode", "interval_ms", "attempts"] rfl
      (by decide) (by decide) (by decide)
      (by simpa [writtenReadiness, Setting.Fits] using ⟨hinterval, hattempts⟩)

/-- **The sections of the settings are well-formed.** -/
theorem wellFormed_written {config : Config} (h : config.Writable) :
    ∀ s ∈ config.written, s.WellFormed := by
  intro s hs
  simp only [written, List.mem_cons, List.not_mem_nil, or_false] at hs
  rcases hs with rfl | rfl | rfl | rfl | rfl | rfl
  · exact wellFormed_of ["source", "getent_path", "passwd_path", "group_path"] rfl
      (by decide) (by decide) (by decide) (by simp [writtenIdentity, Setting.Fits])
  · exact wellFormed_of ["scratch_root", "pgrep_path", "process_name"] rfl
      (by decide) (by decide) (by decide) (by simp [writtenSession, Setting.Fits])
  · exact wellFormed_of ["xinit_path", "session_script", "xvfb_path", "geometry"] rfl
      (by decide) (by decide) (by decide) (by simp [writtenDisplay, Setting.Fits])
  · exact wellFormed_of ["binary", "config_path", "encoder"] rfl
      (by decide) (by decide) (by decide) (by simp [writtenServer, Setting.Fits])
  · exact wellFormed_of ["log_var", "log_level"] rfl
      (by decide) (by decide) (by decide) (by simp [writtenChildEnv, Setting.Fits])
  · exact wellFormed_readiness h.numbers

/-! ## What is read for settings -/

theorem ok_bind {α β : Type} (a : α) (next : α → Except ConfigFault β) :
    (Except.ok a >>= next) = next a :=
  rfl

section

variable {table : Table} {key : String}

theorem textAt_text {s : String} (h : lookUp key table = some (.text s)) (standard : String) :
    textAt table key standard = .ok s := by
  rw [textAt, h]
  rfl

theorem pathAt_text {path : Path} (h : lookUp key table = some (.text path.shown))
    (hpath : .ofString path.shown = path) (standard : Path) :
    pathAt table key standard = .ok path := by
  rw [pathAt, h]
  exact congrArg _ hpath

theorem numberAt_integer {n bound : Nat} (h : lookUp key table = some (.integer n))
    (hbound : n < bound) (standard : Nat) : numberAt table key bound standard = .ok n := by
  rw [numberAt, h]
  exact if_pos ⟨Int.natCast_nonneg n, Int.ofNat_lt.mpr hbound⟩

theorem sectionAt_table {entries : Table} (h : lookUp key table = some (.table entries))
    (keys : List String) : sectionAt table key keys = .ok entries := by
  rw [sectionAt, h]

theorem sourceAt_name {source : RecordSource}
    (h : lookUp "source" table = some (.text (sourceName source))) :
    sourceAt table = .ok source := by
  rw [sourceAt, h]
  cases source <;> rfl

end

section

variable {root : Table}

theorem decodeIdentity_written {settings : IdentitySettings}
    (h : lookUp "identity" root = some (.table ((writtenIdentity settings).map Setting.entry)))
    (hgetent : .ofString settings.getentPath.shown = settings.getentPath)
    (hpasswd : .ofString settings.passwdPath.shown = settings.passwdPath)
    (hgroup : .ofString settings.groupPath.shown = settings.groupPath) :
    decodeIdentity root = .ok settings := by
  rw [decodeIdentity, sectionAt_table h, ok_bind, sourceAt_name rfl, ok_bind,
    pathAt_text rfl hgetent, ok_bind, pathAt_text rfl hpasswd, ok_bind, pathAt_text rfl hgroup,
    ok_bind]
  rfl

theorem decodeSession_written {settings : SessionSettings}
    (h : lookUp "session" root = some (.table ((writtenSession settings).map Setting.entry)))
    (hroot : .ofString settings.scratchRoot.shown = settings.scratchRoot)
    (hpgrep : .ofString settings.pgrepPath.shown = settings.pgrepPath) :
    decodeSession root = .ok settings := by
  rw [decodeSession, sectionAt_table h, ok_bind, pathAt_text rfl hroot, ok_bind,
    pathAt_text rfl hpgrep, ok_bind, textAt_text rfl, ok_bind]
  rfl

theorem decodeDisplay_written {settings : DisplaySettings}
    (h : lookUp "display" root = some (.table ((writtenDisplay settings).map Setting.entry)))
    (hxinit : .ofString settings.xinitPath.shown = settings.xinitPath)
    (hscript : .ofString settings.sessionScript.shown = settings.sessionScript)
    (hxvfb : .ofString settings.xvfbPath.shown = settings.xvfbPath) :
    decodeDisplay root = .ok settings := by
  rw [decodeDisplay, sectionAt_table h, ok_bind, pathAt_text rfl hxinit, ok_bind,
    pathAt_text rfl hscript, ok_bind, pathAt_text rfl hxvfb, ok_bind, textAt_text rfl, ok_bind]
  rfl

theorem decodeServer_written {settings : ServerSettings}
    (h : lookUp "server" root = some (.table ((writtenServer settings).map Setting.entry)))
    (hbinary : .ofString settings.binary.shown = settings.binary)
    (hconfig : .ofString settings.configPath.shown = settings.configPath) :
    decodeServer root = .ok settings := by
  rw [decodeServer, sectionAt_table h, ok_bind, pathAt_text rfl hbinary, ok_bind,
    pathAt_text rfl hconfig, ok_bind, textAt_text rfl, ok_bind]
  rfl

theorem decodeChildEnv_written {settings : ChildEnvSettings}
    (h : lookUp "child_env" root = some (.table ((writtenChildEnv settings).map Setting.entry))) :
    decodeChildEnv root = .ok settings := by
  rw [decodeChildEnv, sectionAt_table h, ok_bind, textAt_text rfl, ok_bind, textAt_text rfl,
    ok_bind]
  rfl

theorem decodeReadiness_written {readiness : Readiness}
    (h : lookUp "readiness" root = some (.table ((writtenReadiness readiness).map Setting.entry))) :
    decodeReadiness root = .ok readiness := by
  rw [decodeReadiness, h]
  -- The mode was written first and is looked up by its key, so each case is its own decoder.
  cases readiness with
  | fixed settle =>
    have hread : decodeFixed ((writtenReadiness (.fixed settle)).map Setting.entry) =
        .ok (.fixed settle) := by
      rw [decodeFixed, numberAt_integer rfl settle.toNat_lt, ok_bind, UInt64.ofNat_toNat]
      rfl
    exact hread
  | poll interval attempts =>
    have hread : decodePoll ((writtenReadiness (.poll interval attempts)).map Setting.entry) =
        .ok (.poll interval attempts) := by
      rw [decodePoll, numberAt_integer rfl interval.toNat_lt, ok_bind,
        numberAt_integer rfl attempts.toNat_lt, ok_bind, UInt64.ofNat_toNat, UInt32.ofNat_toNat]
      rfl
    exact hread

end

/-- **The sections of the settings are decoded as the settings**, wherever they stand in a table. -/
theorem decode_written {config : Config} (h : config.Writable) {root : Table}
    (hroot : ∀ s ∈ config.written,
      lookUp s.name root = some (.table (s.settings.map Setting.entry))) :
    decode root = .ok config := by
  have hback (path : Path) (hmem : path ∈ config.paths) : .ofString path.shown = path :=
    Path.ofString_shown (h.paths path hmem)
  simp only [written, List.forall_mem_cons] at hroot
  obtain ⟨hidentity, hsession, hdisplay, hserver, hchildEnv, hreadiness, -⟩ := hroot
  rw [decode,
    decodeIdentity_written hidentity (hback _ (by simp [paths])) (hback _ (by simp [paths]))
      (hback _ (by simp [paths])), ok_bind,
    decodeSession_written hsession (hback _ (by simp [paths])) (hback _ (by simp [paths])), ok_bind,
    decodeDisplay_written hdisplay (hback _ (by simp [paths])) (hback _ (by simp [paths]))
      (hback _ (by simp [paths])), ok_bind,
    decodeServer_written hserver (hback _ (by simp [paths])) (hback _ (by simp [paths])), ok_bind,
    decodeChildEnv_written hchildEnv, ok_bind, decodeReadiness_written hreadiness, ok_bind]
  rfl

/-! ## Written and loaded -/

theorem distinct_written (config : Config) : (config.written.map (·.name)).Nodup := by
  have hnames : config.written.map (·.name) =
      ["identity", "session", "display", "server", "child_env", "readiness"] := rfl
  rw [hnames]
  decide

theorem dump_eq {config : Config} (h : config.Writable) :
    config.dump = .ok (String.ofList (writeSections config.written)) := by
  rw [dump, sections_eq h]
  rfl

/-- **The bytes of a document with the settings are read as its table.** -/
theorem documentIn_written {config : Config} (h : config.Writable) :
    documentIn (some (Utf8.encode (writeSections config.written))) =
      .ok (tableOfSections config.written) := by
  -- A document begins with a bracket, so there is no mark in front to leave out.
  have hmark : withoutMark (writeSections config.written) = writeSections config.written := by
    obtain ⟨cs, hcs⟩ := writeSections_cons ⟨"identity", writtenIdentity config.identity⟩ _
    rw [written, hcs]
    rfl
  have hread := read?_writeSections (wellFormed_written h) (distinct_written config)
  rw [documentIn, Utf8.decodeLossy_encode, hmark, hread]

/-- **The sections of the settings are laid over nothing as they are**, in whatever order. -/
theorem lookUp_written {config : Config} (h : config.Writable) (order : Order) :
    ∀ s ∈ config.written, lookUp s.name
      (layered [] (order.arrange (tableOfSections config.written))) =
        some (.table (s.settings.map Setting.entry)) := by
  intro s hs
  have hproper := proper_read? (read?_writeSections (wellFormed_written h) (distinct_written config))
  have hperm := order.perm (tableOfSections config.written)
  -- Every name of the document is a path by itself, so no one leads behind another.
  have hbare : ∀ e ∈ order.arrange (tableOfSections config.written),
      pathOf? e.1 = some (e.1, []) := by
    intro e he
    obtain ⟨s', hs', rfl⟩ := List.mem_map.mp (hperm.mem_iff.mp he)
    exact pathOf?_bare (wellFormed_written h s' hs').name
  rw [lookUp_layered_nil (proper_perm hperm hproper) (pathOf?_bare (wellFormed_written h s hs).name),
    lookUp_perm hproper.distinct hperm]
  · exact (lookUp_eq_some_iff hproper.distinct).mpr (List.mem_map_of_mem hs)
  · intro e he steps hpath
    rw [hbare e he] at hpath
    exact congrArg Prod.fst (Option.some.inj hpath)

/-- Variables that name no setting override none. -/
theorem overridesIn_none {environment : List (String × Bytes)}
    (h : ∀ v ∈ environment, settingName? v.1 = none) : overridesIn environment = .ok [] := by
  induction environment with
  | nil => rfl
  | cons v environment ih =>
    rw [overridesIn, h v List.mem_cons_self]
    exact ih fun w hw => h w (List.mem_cons_of_mem _ hw)

/-- **Settings are loaded from their document as they were.** -/
theorem load_written {config : Config} (hcheck : config.check = .ok ()) (h : config.Writable)
    {environment : List (String × Bytes)}
    (hnone : ∀ v ∈ environment, settingName? v.1 = none) (orders : Orders) :
    load (some (Utf8.encode (writeSections config.written))) environment orders = .ok config := by
  have hvariables : orders.overrides.arrange [] = [] := (orders.overrides.perm []).eq_nil
  have htable : tableOf (some (Utf8.encode (writeSections config.written))) environment orders =
      .ok (layered [] (orders.document.arrange (tableOfSections config.written))) := by
    rw [tableOf, documentIn_written h, ok_bind, overridesIn_none hnone, ok_bind, hvariables]
    rfl
  rw [load, htable, ok_bind, decode_written h (lookUp_written h orders.document), ok_bind, hcheck]
  rfl

/-- The settings file is the path itself if that can be read. -/
theorem fileAt_of_read {files : FileSystem} {directory : Location} {path : Path} {bytes : Bytes}
    (h : files.read directory path = .ok bytes) : fileAt files directory path = some bytes := by
  have hfound : (candidates path).find? (files.isFile directory) = some path := by
    rw [candidates, List.find?_cons, FileSystem.isFile_of_read h]
  rw [fileAt, hfound, Option.bind_some, h]
  rfl

/-- **Settings that pass the check and have a written form are dumped, and loading what was dumped
gives them back**: from whatever file the dump was written to, by whatever path, with whatever
variables that name no setting, and in whatever order the names of the document are set. -/
theorem load_dump {config : Config} (hcheck : config.check = .ok ()) (h : config.Writable) :
    ∃ text, config.dump = .ok text ∧
      ∀ (files written : FileSystem) (directory : Location) (user : UInt32) (path : Path)
        (environment : List (String × Bytes)) (orders : Orders),
        files.write directory user path (Utf8.ofString text) = .ok written →
        (∀ v ∈ environment, settingName? v.1 = none) →
        load (fileAt written directory path) environment orders = .ok config := by
  refine ⟨_, dump_eq h, ?_⟩
  intro files written directory user path environment orders hwrite hnone
  -- What was written is found under the path as it is, before any path with an ending is tried.
  rw [fileAt_of_read (FileSystem.read_of_write hwrite), Utf8.ofString, String.toList_ofList]
  exact load_written hcheck h hnone orders

/-- Settings with a text that needs every care: quotes and apostrophes in runs, a backslash, a line
feed, a carriage return, a zero and a character beyond ASCII. -/
def careful : Config :=
  { display := { geometry := "\"\"\"\"'''\\\n\x0d\x00é\"\"" }, readiness := .poll 1 4294967295 }

theorem load_dump_careful :
    careful.check = .ok () ∧ careful.Writable ∧
    ∃ text written, careful.dump = .ok text ∧
      FileSystem.empty.write [] 0 (.ofString "/s.toml") (Utf8.ofString text) = .ok written ∧
      load (fileAt written [] (.ofString "/s.toml")) [("HOME", [0x2f])] = .ok careful := by
  have hcheck : careful.check = .ok () := by rfl
  have hwritable : careful.Writable := ⟨by decide +kernel, by decide +kernel⟩
  obtain ⟨text, hdump, hload⟩ := load_dump hcheck hwritable
  have hwrite :
      FileSystem.empty.write [] 0 (.ofString "/s.toml") (Utf8.ofString text) = .ok _ := rfl
  exact ⟨hcheck, hwritable, text, _, hdump, hwrite,
    hload _ _ _ _ _ _ .given hwrite (by decide +kernel)⟩

end Config

end DisplaySession
