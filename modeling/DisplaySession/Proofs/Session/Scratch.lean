import DisplaySession.Proofs.FileSystem.Descent
import DisplaySession.Proofs.Text.Numeral
import DisplaySession.Proofs.Text.Utf8
import DisplaySession.Session.Layout
import Mathlib.Data.Nat.Digits.Defs

/-
Scratch directories, each with its own part of the files.

The scratch directory of a user id is an entry of the scratch root, and its name is the id in digits.
So the directories of two ids are two places and neither is inside the other, in one scratch root
and in several of which none is inside a scratch directory (`apart_scratchPlaces`). A change that is
confined to some of them leaves everything outside as it was, and no link or directory is lost
anywhere (`Confined`); so a scratch root that they are not above is still found after it, and its
other scratch directories are what they were (`scratchRoot_confined`).

What is asked about a scratch directory depends on its own place alone (`createDirectory_scratch`,
`metadata_scratch`).
-/
set_option autoImplicit false

namespace DisplaySession

/-! ## The name of a scratch directory -/

/-- The name of the scratch directory of a user id. -/
def scratchName (uid : UInt32) : Bytes :=
  Utf8.ofString uid.toNat.repr

/-- **An entry can have the name of a scratch directory.** -/
theorem isName_scratchName (uid : UInt32) : Path.IsName (scratchName uid) := by
  have hdigits : ∀ c ∈ uid.toNat.repr.toList, c.isDigit = true := fun _ h =>
    Text.isDigit_of_mem_repr h
  have hlength : (scratchName uid).length ≤ 10 := by
    have hsmall : ∀ c ∈ uid.toNat.repr.toList, c.toNat < 0x80 := by
      intro c hc
      have hdigit := hdigits c hc
      simp only [Char.isDigit, Bool.and_eq_true, decide_eq_true_eq] at hdigit
      have hnine : c.val.toNat ≤ 57 := hdigit.2
      show c.val.toNat < 0x80
      omega
    rw [scratchName, Utf8.ofString, Utf8.length_encode hsmall, String.length_toList]
    have hbound := uid.toNat_lt
    exact Nat.repr_length _ _ (by decide) (by omega)
  have hno (b : UInt8) (hb : b.toNat < 0x80) (hother : (Char.ofNat b.toNat).isDigit = false) :
      b ∉ scratchName uid := by
    intro hmem
    rw [hdigits _ ((Utf8.mem_encode hb _).mp hmem)] at hother
    cases hother
  have hdot : (0x2e : UInt8) ∉ scratchName uid := hno _ (by decide) (by decide)
  refine ⟨⟨?_, ?_, ?_⟩, ?_, hno _ (by decide) (by decide)⟩
  · intro heq
    rw [heq] at hdot
    exact hdot (by decide)
  · intro heq
    rw [heq] at hdot
    exact hdot (by decide)
  · exact hlength.trans (by decide)
  · intro hnil
    have hempty : uid.toNat.repr = "" := Utf8.ofString_injective hnil
    exact Text.repr_ne_empty uid.toNat (by rw [hempty]; rfl)

theorem scratchName_injective : Function.Injective scratchName := by
  intro uid other h
  exact UInt32.toNat_inj.mp (Text.repr_injective (Utf8.ofString_injective h))

/-- The place of the scratch directory of a user id in a scratch root. -/
def scratchPlace (root : Location) (uid : UInt32) : Location :=
  root ++ [scratchName uid]

/-- The places of the scratch directories of a user id in some scratch roots. -/
def scratchPlaces (roots : List Location) (uid : UInt32) : List Location :=
  roots.map (scratchPlace · uid)

/-- **A place belongs to an area**: it is one of these places, or below one. -/
def Within (area : List Location) (place : Location) : Prop :=
  ∃ own ∈ area, own <+: place

section

variable {area area' : List Location} {place : Location}

theorem within_of_mem (h : place ∈ area) : Within area place :=
  ⟨place, h, List.prefix_refl place⟩

theorem within_below (h : Within area place) (inside : Location) :
    Within area (place ++ inside) := by
  obtain ⟨own, hown, hbelow⟩ := h
  exact ⟨own, hown, hbelow.trans (List.prefix_append _ _)⟩

theorem within_append : Within (area ++ area') place ↔ Within area place ∨ Within area' place := by
  simp only [Within, List.mem_append, or_and_right, exists_or]

end

/-- A scratch root is not inside its scratch directories. -/
theorem not_within_scratchPlaces (root : Location) (uid : UInt32) :
    ¬Within (scratchPlaces [root] uid) root := by
  rintro ⟨own, hown, hbegins⟩
  obtain rfl : own = scratchPlace root uid := List.mem_singleton.mp hown
  have hlength := hbegins.length_le
  rw [scratchPlace, List.length_append, List.length_singleton] at hlength
  omega

/-- **The scratch directories of two user ids are apart**, in all scratch roots of which none is
inside one of them. -/
theorem apart_scratchPlaces {roots roots' : List Location} {uid other : UInt32} (hne : uid ≠ other)
    (hclear : ∀ root ∈ roots', ¬Within (scratchPlaces roots uid) root)
    (hclear' : ∀ root ∈ roots, ¬Within (scratchPlaces roots' other) root) {place : Location}
    (hplace : Within (scratchPlaces roots uid) place) :
    ¬Within (scratchPlaces roots' other) place := by
  -- One directory that begins the other is in its root or is it, and the digits tell them apart.
  have hbegins {root root' : Location} {uid other : UInt32} (hne : uid ≠ other)
      (h : scratchPlace root uid <+: scratchPlace root' other) :
      scratchPlace root uid <+: root' := by
    refine (List.prefix_concat_iff.mp h).resolve_left fun heq => hne ?_
    exact scratchName_injective (List.singleton_inj.mp (List.append_inj_right' heq rfl))
  rintro ⟨own', hown', hbelow'⟩
  obtain ⟨own, hown, hbelow⟩ := hplace
  obtain ⟨root, hroot, rfl⟩ := List.mem_map.mp hown
  obtain ⟨root', hroot', rfl⟩ := List.mem_map.mp hown'
  rcases List.prefix_or_prefix_of_prefix hbelow hbelow' with h | h
  · exact hclear root' hroot' ⟨_, hown, hbegins hne h⟩
  · exact hclear' root hroot ⟨_, hown', hbegins hne.symm h⟩

namespace FileSystem

variable {files files' before after later : FileSystem} {area : List Location}
  {place other : Location}

/-! ## Changes of a part of the files -/

theorem plain?_set (files : FileSystem) (entry : Entry) (h : place ≠ []) (other : Location) :
    (files.set place entry).plain? other =
      if other = place then some (withOwner superuserId entry) else files.plain? other := by
  rw [plain?, get?_set _ _ _ _ h, plain?]
  split <;> rfl

/-- **Two file systems are alike in an area**, but for the owners. -/
def AlikeAt (area : List Location) (files files' : FileSystem) : Prop :=
  ∀ place, Within area place → files.plain? place = files'.plain? place

/-- **A change is confined to an area**, but for the owners. No directory and no link is lost, and
no entry of a directory outside of the area becomes a link. -/
structure Confined (area : List Location) (before after : FileSystem) : Prop where
  outside : ∀ place, ¬Within area place → after.plain? place = before.plain? place
  keeps : Keeps before after
  unlinked : ∀ place target, ¬Within area place.dropLast →
    after.plain? place = some (.link target) → before.plain? place = some (.link target)

/-- A change of owners is confined to any area. -/
theorem confined_of_plain (area : List Location)
    (h : ∀ place, after.plain? place = before.plain? place) : Confined area before after := by
  refine ⟨fun place _ => h place, fun place entry hentry _ => ?_, fun place target _ htarget => ?_⟩
  · rw [h, hentry]
  · rw [← h, htarget]

theorem confined_refl (area : List Location) (files : FileSystem) : Confined area files files :=
  confined_of_plain area fun _ => rfl

theorem confined_trans (hfirst : Confined area before after) (hsecond : Confined area after later) :
    Confined area before later := by
  refine ⟨fun place hplace => ?_, fun place entry hentry hleads => ?_,
    fun place target hparent htarget => ?_⟩
  · rw [hsecond.outside place hplace, hfirst.outside place hplace]
  · exact hsecond.keeps place entry (hfirst.keeps place entry hentry hleads) hleads
  · exact hfirst.unlinked place target hparent (hsecond.unlinked place target hparent htarget)

/-- What is confined to an area is confined to a larger one. -/
theorem confined_mono {larger : List Location}
    (hlarger : ∀ place, Within area place → Within larger place)
    (h : Confined area before after) : Confined larger before after :=
  ⟨fun place hplace => h.outside place (mt (hlarger place) hplace), h.keeps,
    fun place target hparent => h.unlinked place target (mt (hlarger _) hparent)⟩

/-- **An entry put at a free place or in a file's place** takes no directory and no link away. -/
theorem keeps_set (entry : Entry) (htakes : files.TakesFile place) :
    Keeps files (files.set place entry) := by
  intro other old hold hleads
  rw [plain?_set files entry (ne_nil_of_takesFile htakes), if_neg]
  · exact hold
  rintro rfl
  -- What stood there before leads nowhere, so it was no directory and no link.
  rcases htakes with hnone | ⟨owner, contents, hfile⟩
  · rw [plain?, hnone] at hold
    cases hold
  · rw [plain?, hfile] at hold
    cases hold
    exact hleads

/-- **An entry put at a free place or in a file's place** is a change confined to any area that the
place belongs to, unless it is a link put in a directory outside. -/
theorem confined_set {entry : Entry} (htakes : files.TakesFile place) (hplace : Within area place)
    (hlink : ¬Within area place.dropLast → ∀ target, entry ≠ .link target) :
    Confined area files (files.set place entry) := by
  have hset (other : Location) := plain?_set files entry (ne_nil_of_takesFile htakes) other
  refine ⟨fun other hother => ?_, keeps_set entry htakes, fun other target hparent htarget => ?_⟩
  · rw [hset, if_neg]
    rintro rfl
    exact hother hplace
  · rw [hset] at htarget
    split at htarget
    · rename_i hother
      subst hother
      cases entry with
      | link target' => exact absurd rfl (hlink hparent target')
      | _ => cases htarget
    · exact htarget

/-! ## Scratch roots -/

/-- **A scratch root**: from this directory the path leads to a directory at this place, and no entry
of it that is named by a user id is a link. -/
structure ScratchRoot (files : FileSystem) (directory : Location) (root : Path) (place : Location) :
    Prop where
  leads : ∃ entry, files.locate directory root = .ok (.entry place entry)
  stands : ∃ owner, files.get? place = some (.directory owner)
  unlinked : ∀ uid target, files.get? (scratchPlace place uid) ≠ some (.link target)

variable {directory : Location} {root : Path}

/-- **A scratch root stays one** if the change is confined to an area that it is not inside of. -/
theorem scratchRoot_confined (hout : ¬Within area place) (hconfined : Confined area before after)
    (h : ScratchRoot before directory root place) : ScratchRoot after directory root place := by
  obtain ⟨entry, hlocate⟩ := h.leads
  obtain ⟨owner, hdir⟩ := h.stands
  refine ⟨?_, ?_, fun uid target hlink => ?_⟩
  · obtain ⟨hcheck, hwalk⟩ := walk_of_checked hlocate
    rw [locate, hcheck]
    exact walk_keeps hconfined.keeps hdir hwalk
  · exact plain?_eq_directory.mp
      (hconfined.keeps _ _ (plain?_eq_directory.mpr ⟨owner, hdir⟩) trivial)
  · have hparent : ¬Within area (scratchPlace place uid).dropLast := by
      rwa [scratchPlace, List.dropLast_concat]
    exact h.unlinked uid target
      (plain?_eq_link.mp (hconfined.unlinked _ target hparent (plain?_eq_link.mpr hlink)))

/-- **An empty directory is a scratch root** for every path that leads to it. -/
theorem scratchRoot_of_empty (owner : UInt32)
    (hleads : files.locate directory root = .ok (.entry place (.directory owner)))
    (hstands : files.get? place = some (.directory owner))
    (hempty : ∀ new ∈ files.entries, new.1.dropLast ≠ place) :
    ScratchRoot files directory root place := by
  refine ⟨⟨_, hleads⟩, ⟨owner, hstands⟩, fun uid target hlink => ?_⟩
  have hfree : files.entries.find? (·.1 = scratchPlace place uid) = none := by
    rw [List.find?_eq_none]
    intro new hnew hplace
    rw [decide_eq_true_eq] at hplace
    exact hempty new hnew (by rw [hplace, scratchPlace, List.dropLast_concat])
  rw [get?, hfree] at hlink
  simp [scratchPlace] at hlink

section

variable {uid : UInt32}

/-- **The entry that the path of a scratch directory names.** -/
theorem locateName_scratch (h : ScratchRoot files directory root place) :
    files.locateName directory (Layout.of root uid).scratch =
      (checkPath (Layout.of root uid).scratch).map fun _ =>
        files.targetAt (scratchPlace place uid) := by
  obtain ⟨entry, hlocate⟩ := h.leads
  obtain ⟨owner, hdir⟩ := h.stands
  exact locateName_join hdir hlocate (isName_scratchName uid)

/-- **Where the path of a scratch directory leads.** -/
theorem locate_scratch (h : ScratchRoot files directory root place) :
    files.locate directory (Layout.of root uid).scratch =
      (checkPath (Layout.of root uid).scratch).map fun _ =>
        files.targetAt (scratchPlace place uid) := by
  obtain ⟨entry, hlocate⟩ := h.leads
  obtain ⟨owner, hdir⟩ := h.stands
  exact locate_join hdir hlocate (isName_scratchName uid) (h.unlinked uid)

/-- **A scratch directory is made exactly if its place is free.** -/
theorem createDirectory_scratch (h : ScratchRoot files directory root place) :
    files.createDirectory directory superuserId (Layout.of root uid).scratch =
      (checkPath (Layout.of root uid).scratch).bind fun _ =>
        (files.plain? (scratchPlace place uid)).elim
          (.ok (files.set (scratchPlace place uid) (.directory superuserId)))
          fun _ => .error .nameTaken := by
  obtain ⟨owner, hdir⟩ := h.stands
  rw [createDirectory, locateName_scratch h, plain?]
  cases hentry : files.get? (scratchPlace place uid) with
  | some entry =>
    rw [targetAt_entry hentry]
    cases checkPath (Layout.of root uid).scratch <;> rfl
  | none =>
    rw [targetAt_free hentry]
    cases checkPath (Layout.of root uid).scratch with
    | error cause => rfl
    | ok _ =>
      have hroot : files.directoryOwner? (scratchPlace place uid).dropLast = some owner := by
        rw [directoryOwner?, scratchPlace, List.dropLast_concat, hdir]
      show files.add superuserId (scratchPlace place uid) (.directory superuserId) = _
      rw [add, mayAddAt, hroot]
      rfl

/-- **What is known of a scratch directory**, but for its owner, is what stands at its place. -/
theorem metadata_scratch (h : ScratchRoot files directory root place) :
    (files.metadata directory (Layout.of root uid).scratch).map Metadata.isDirectory =
      (checkPath (Layout.of root uid).scratch).bind fun _ =>
        (files.plain? (scratchPlace place uid)).elim (.error .noEntry) fun entry =>
          (describe entry).map Metadata.isDirectory := by
  rw [metadata, locate_scratch h, plain?]
  cases hentry : files.get? (scratchPlace place uid) with
  | none =>
    rw [targetAt_free hentry]
    cases checkPath (Layout.of root uid).scratch <;> rfl
  | some entry =>
    rw [targetAt_entry hentry]
    cases checkPath (Layout.of root uid).scratch with
    | error cause => rfl
    | ok _ => cases entry <;> rfl

/-- **In two file systems that are alike at a scratch directory** it is made in both or in neither,
and then for the same reason. -/
theorem createDirectory_alike {home : Location} (h : ScratchRoot files home root place)
    (h' : ScratchRoot files' home root place)
    (hown : scratchPlace place uid ∈ area) (halike : AlikeAt area files files') :
    (∃ cause,
      files.createDirectory home superuserId (Layout.of root uid).scratch = .error cause ∧
      files'.createDirectory home superuserId (Layout.of root uid).scratch = .error cause) ∨
    files.TakesFile (scratchPlace place uid) ∧ files'.TakesFile (scratchPlace place uid) ∧
      files.createDirectory home superuserId (Layout.of root uid).scratch =
        .ok (files.set (scratchPlace place uid) (.directory superuserId)) ∧
      files'.createDirectory home superuserId (Layout.of root uid).scratch =
        .ok (files'.set (scratchPlace place uid) (.directory superuserId)) := by
  have hplain := halike _ (within_of_mem hown)
  rw [createDirectory_scratch h, createDirectory_scratch h', ← hplain]
  cases checkPath (Layout.of root uid).scratch with
  | error cause => exact .inl ⟨cause, rfl, rfl⟩
  | ok _ =>
    cases hentry : files.plain? (scratchPlace place uid) with
    | some entry => exact .inl ⟨.nameTaken, rfl, rfl⟩
    | none =>
      exact .inr ⟨.inl (Option.map_eq_none_iff.mp hentry),
        .inl (Option.map_eq_none_iff.mp (hplain.symm.trans hentry)), rfl, rfl⟩

end

end FileSystem

end DisplaySession
