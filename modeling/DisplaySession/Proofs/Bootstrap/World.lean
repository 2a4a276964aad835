import DisplaySession.Proofs.Launch.Framebuffer
import DisplaySession.Proofs.Session.Scratch

/-
A world that several runs share.

The world is the process table and the files. Each run is a process of its own in it: it begins with
no requests made, and what becomes of a request depends on the requests of that process alone, except
for what the table says and what stands in the files. Permissions are never in the way.

What a run leaves behind in the world is confined to its user id in the table and to an area of the
files (`World.Confined`), and two worlds are alike for it if they agree on these (`World.Alike`).
What a display does that was launched is up to the world. One that keeps to its own registers its own
user id only and writes into its own area only (`Treatment.KeepsToOwn`). A display that does what its
arguments say is one of these, if the directory that it is told belongs to the area
(`DisplayProgram.keepsToOwn`).
-/
set_option autoImplicit false

namespace DisplaySession

/-! ## Changes of the files -/

namespace FileSystem

variable {files files' : FileSystem} {area : List Location} {place : Location}

/-- Puts an entry at a free place or in a file's place; anything else stays. -/
def writeAt (files : FileSystem) (place : Location) (entry : Entry) : FileSystem :=
  match files.plain? place with
  | none | some (.file ..) => files.set place entry
  | some _ => files

/-- **Puts entries below a directory**, one after another. -/
def writeBelow (files : FileSystem) (directory : Location) : List (Location × Entry) → FileSystem
  | [] => files
  | (inside, entry) :: written =>
    let files' := if inside = [] then files else files.writeAt (directory ++ inside) entry
    files'.writeBelow directory written

/-- Gives away what is at a place. -/
def handTo (files : FileSystem) (place : Location) (owner : UInt32) : FileSystem :=
  match files.get? place with
  | none => files
  | some entry => if place = [] then files else files.set place (withOwner owner entry)

theorem plain?_handTo (files : FileSystem) (place : Location) (owner : UInt32) (other : Location) :
    (files.handTo place owner).plain? other = files.plain? other := by
  rw [handTo]
  split
  · rfl
  · rename_i entry hentry
    split
    · rfl
    · rename_i hne
      rw [plain?_set _ _ hne]
      split
      · rename_i hother
        rw [hother, plain?, hentry]
        cases entry <;> rfl
      · rfl

theorem takesFile_of_plain (h : files.plain? place = none ∨
    ∃ owner contents, files.plain? place = some (.file owner contents)) : files.TakesFile place := by
  rw [plain?] at h
  cases hentry : files.get? place with
  | none => exact .inl hentry
  | some entry =>
    rw [hentry] at h
    cases entry with
    | file owner contents => exact .inr ⟨owner, contents, hentry⟩
    | _ => simp [withOwner] at h

/-- Putting an entry somewhere changes nothing, or puts it at a place that takes files. -/
theorem writeAt_cases (files : FileSystem) (place : Location) (entry : Entry) :
    files.writeAt place entry = files ∨
      files.TakesFile place ∧ files.writeAt place entry = files.set place entry := by
  rw [writeAt]
  split
  · rename_i hnone
    exact .inr ⟨takesFile_of_plain (.inl hnone), rfl⟩
  · rename_i owner contents hfile
    exact .inr ⟨takesFile_of_plain (.inr ⟨owner, contents, hfile⟩), rfl⟩
  · exact .inl rfl

/-- **What is put below a place is confined to every area that the place belongs to.** -/
theorem confined_writeBelow (hplace : Within area place) (written : List (Location × Entry)) :
    Confined area files (files.writeBelow place written) := by
  induction written generalizing files with
  | nil => exact confined_refl area files
  | cons new written ih =>
    rw [writeBelow]
    refine confined_trans ?_ ih
    split
    · exact confined_refl area files
    · rename_i hne
      rcases writeAt_cases files (place ++ new.1) new.2 with hsame | ⟨htakes, hset⟩
      · rw [hsame]
        exact confined_refl area files
      · rw [hset]
        refine confined_set htakes (within_below hplace _) fun hparent => absurd ?_ hparent
        rw [List.dropLast_append_of_ne_nil hne]
        exact within_below hplace _

theorem alikeAt_set (h : AlikeAt area files files') (hplace : place ≠ []) (entry : Entry) :
    AlikeAt area (files.set place entry) (files'.set place entry) := by
  intro other hother
  rw [plain?_set _ _ hplace, plain?_set _ _ hplace, h other hother]

theorem alikeAt_writeAt (h : AlikeAt area files files') (hplace : Within area place)
    (hne : place ≠ []) (entry : Entry) :
    AlikeAt area (files.writeAt place entry) (files'.writeAt place entry) := by
  rw [writeAt, writeAt, ← h place hplace]
  split
  · exact alikeAt_set h hne entry
  · exact alikeAt_set h hne entry
  · exact h

/-- Files that are alike stay so if the same entries are put below a place of the area. -/
theorem alikeAt_writeBelow (h : AlikeAt area files files') (hplace : Within area place)
    (written : List (Location × Entry)) :
    AlikeAt area (files.writeBelow place written) (files'.writeBelow place written) := by
  induction written generalizing files files' with
  | nil => exact h
  | cons new written ih =>
    rw [writeBelow, writeBelow]
    refine ih ?_
    split
    · exact h
    · rename_i hne
      exact alikeAt_writeAt h (within_below hplace _) (List.append_ne_nil_of_right_ne_nil _ hne) _

/-- The files after a privileged call that was granted. Only a change of owners shows in them. -/
def afterCall (files : FileSystem) (directory : Location) : PrivilegedCall → FileSystem
  | .changeOwner path owner _ =>
    match files.locate directory path with
    | .ok (.entry place _) => files.handTo place owner
    | _ => files
  | _ => files

theorem plain?_afterCall (files : FileSystem) (directory : Location) (call : PrivilegedCall)
    (place : Location) : (files.afterCall directory call).plain? place = files.plain? place := by
  rw [afterCall.eq_def]
  split
  · split
    · exact plain?_handTo files _ _ place
    · rfl
  · rfl

end FileSystem

/-! ## Worlds -/

/-- **What runs share**: the process table, and the files. -/
structure World where
  /-- What the process table says of the displays of a user id. -/
  table : UInt32 → Probe
  files : FileSystem

namespace World

variable {uid : UInt32} {own : List Location} {before after later w v : World}

/-- **A change is confined** to a user id in the table and an area of the files. -/
structure Confined (uid : UInt32) (own : List Location) (before after : World) : Prop where
  table : ∀ other, other ≠ uid → after.table other = before.table other
  files : FileSystem.Confined own before.files after.files

/-- **Two worlds are alike** for a user id and an area of the files. -/
structure Alike (uid : UInt32) (own : List Location) (w v : World) : Prop where
  table : w.table uid = v.table uid
  files : FileSystem.AlikeAt own w.files v.files

theorem confined_refl (uid : UInt32) (own : List Location) (w : World) : Confined uid own w w :=
  ⟨fun _ _ => rfl, FileSystem.confined_refl own w.files⟩

theorem confined_trans (hfirst : Confined uid own before after)
    (hsecond : Confined uid own after later) : Confined uid own before later := by
  refine ⟨fun other hother => ?_, FileSystem.confined_trans hfirst.files hsecond.files⟩
  rw [hsecond.table other hother, hfirst.table other hother]

theorem alike_refl (uid : UInt32) (own : List Location) (w : World) : Alike uid own w w :=
  ⟨rfl, fun _ _ => rfl⟩

/-- **What is confined to a neighbour leaves a world alike.** -/
theorem alike_of_confined {other : UInt32} {theirs : List Location} (huid : uid ≠ other)
    (hapart : ∀ place, Within own place → ¬Within theirs place)
    (h : Confined other theirs before after) : Alike uid own before after :=
  ⟨(h.table uid huid).symm, fun place hplace => (h.files.outside place (hapart place hplace)).symm⟩

/-- **The changes of two neighbours come to the same in both orders**, if each makes the same of its
own part when the other went before. -/
theorem same_in_both_orders {other : UInt32} {theirs : List Location}
    {first second last last' : World}
    (huid : uid ≠ other) (hapart : ∀ place, Within own place → ¬Within theirs place)
    (hfirst : Confined uid own w first) (hlast : Confined other theirs first last)
    (hsecond : Confined other theirs w second) (hlast' : Confined uid own second last')
    (halike : Alike uid own first last') (halike' : Alike other theirs second last) :
    last.table = last'.table ∧ ∀ place, last.files.plain? place = last'.files.plain? place := by
  -- Whatever is not the second's own is as the first left it, and that is as it was or the first's
  -- own, which does not depend on the order.
  refine ⟨funext fun id => ?_, fun place => ?_⟩
  · by_cases hmine : id = uid
    · subst hmine
      rw [hlast.table _ huid, halike.table]
    by_cases htheirs : id = other
    · subst htheirs
      rw [← halike'.table, hlast'.table _ hmine]
    · rw [hlast.table _ htheirs, hfirst.table _ hmine, hlast'.table _ hmine,
        hsecond.table _ htheirs]
  · by_cases hmine : Within own place
    · rw [hlast.files.outside _ (hapart place hmine), halike.files place hmine]
    by_cases htheirs : Within theirs place
    · rw [← halike'.files place htheirs, hlast'.files.outside _ hmine]
    · rw [hlast.files.outside _ htheirs, hfirst.files.outside _ hmine,
        hlast'.files.outside _ hmine, hsecond.files.outside _ htheirs]

end World

/-! ## Processes -/

/-- **What a process asks of the machine.** -/
inductive Request
  | call (call : PrivilegedCall)
  | look (uid : UInt32)
  | makeDirectory (path : Path)
  | inspect (path : Path)
  | launch (spec : ChildSpec)

/-- **How a process is treated.** Every part of it looks at nothing but the requests of that process,
the latest one first. -/
structure Treatment where
  /-- The directory in which the process begins. -/
  start : Location
  /-- Why a call, a new directory or a question about a file is refused. -/
  refusal : List Request → Option Cause
  /-- Why the process table gives no answer. -/
  lookFailure : List Request → Option String
  /-- Why a child is not launched. -/
  launchFailure : List Request → Option Failure
  /-- What is noted when the process table is asked or a child is launched. -/
  notes : List Request → List Note
  /-- The ids of the process. -/
  ids : List Request → ProcessIds
  /-- The user id that the process takes for the owner of what it makes. -/
  user : List Request → UInt32
  /-- The directory to which a change of directory leads that was granted. -/
  arrival : Path → Location
  /-- What a display that was launched from a directory makes of the world. -/
  display : List Request → Location → ChildSpec → World → World

/-- **A process in a world.** -/
structure Process where
  /-- What it has asked for so far, the latest first. -/
  requests : List Request
  /-- Where it is. -/
  directory : Location
  world : World

namespace Treatment

/-- Where a process is after a privileged call that was granted. -/
def directoryAfter (τ : Treatment) (directory : Location) : PrivilegedCall → Location
  | .changeDirectory path => τ.arrival path
  | _ => directory

/-- **The world after a child was launched.** A child that is no display leaves it alone. -/
def worldAfter (τ : Treatment) (requests : List Request) (directory : Location) (spec : ChildSpec)
    (w : World) : World :=
  match spec.display? with
  | none => w
  | some _ => τ.display requests directory spec w

/-- A process that begins. -/
def begin (τ : Treatment) (w : World) : Process :=
  ⟨[], τ.start, w⟩

/-- **The host of a process** that is treated in this way. -/
def host (τ : Treatment) : Host Process where
  createDirectory path s :=
    let requests := .makeDirectory path :: s.requests
    match τ.refusal requests with
    | some cause => (.error cause, { s with requests })
    | none =>
      let (outcome, files) :=
        (FileSystem.storage s.directory FileSystem.superuserId).createDirectory path s.world.files
      (outcome, { s with requests, world := { s.world with files } })
  metadata path s :=
    match τ.refusal (.inspect path :: s.requests) with
    | some cause => .error cause
    | none => s.world.files.metadata s.directory path
  perform call s :=
    let requests := .call call :: s.requests
    match τ.refusal requests with
    | some cause => (.error cause, { s with requests })
    | none =>
      (.ok (), ⟨requests, τ.directoryAfter s.directory call,
        { s.world with files := s.world.files.afterCall s.directory call }⟩)
  ids s := τ.ids s.requests
  fileUser s := τ.user s.requests
  probe uid s :=
    let requests := .look uid :: s.requests
    (((τ.lookFailure requests).elim (s.world.table uid) .failed, τ.notes requests),
      { s with requests })
  isPresent path _ s := s.world.files.isPresent s.directory path
  detach spec s :=
    let requests := .launch spec :: s.requests
    match τ.launchFailure requests with
    | some failure => ((.error failure, τ.notes requests), { s with requests })
    | none =>
      ((.ok (), τ.notes requests),
        { s with requests, world := τ.worldAfter requests s.directory spec s.world })

end Treatment

/-! ## Displays -/

open FileSystem (ScratchRoot)

/-- **A display keeps to its own** for as long as nothing changes in the files but in an area:
launched for a user id from this directory, it changes what the process table says of that user id
and what is in its own part of the area, and what it makes of these depends on nothing else. -/
structure Treatment.KeepsToOwn (τ : Treatment) (spec : ChildSpec) (uid : UInt32) (home : Location)
    (own area : List Location) (files : FileSystem) : Prop where
  confined : ∀ requests w, FileSystem.Confined area files w.files →
    World.Confined uid own w (τ.display requests home spec w)
  alike : ∀ requests w v, FileSystem.Confined area files w.files →
    FileSystem.Confined area files v.files → World.Alike uid own w v →
    World.Alike uid own (τ.display requests home spec w) (τ.display requests home spec v)

/-- **A display that does what its arguments say**: it registers the user id that it is named after,
and writes into the directory behind `-fbdir`. -/
structure DisplayProgram where
  /-- What the table says of the display, given what it said before. -/
  registered : List Request → Probe → Probe
  /-- What the display writes, given what is in its directory. -/
  written : List Request → (Location → Option Entry) → List (Location × Entry)

namespace DisplayProgram

variable (program : DisplayProgram)

/-- The files after the display was launched that is told to keep its screen in a directory. -/
def filesAfter (requests : List Request) (directory : Location) (scratch : Path)
    (files : FileSystem) : FileSystem :=
  match files.locate directory scratch with
  | .ok (.entry place (.directory _)) =>
    files.writeBelow place (program.written requests fun inside => files.plain? (place ++ inside))
  | _ => files

/-- **What the display makes of the world.** -/
def worldAfter (requests : List Request) (directory : Location) (spec : ChildSpec) (w : World) :
    World :=
  ⟨fun uid =>
    if spec.display? = some (displayName uid) then program.registered requests (w.table uid)
    else w.table uid,
    match valueOf? "-fbdir" spec.arguments with
    | none => w.files
    | some scratch => program.filesAfter requests directory (.ofString scratch) w.files⟩

variable {files files' : FileSystem} {home place : Location} {root : Path} {own : List Location}

/-- A display writes into its scratch directory if that is one. -/
theorem filesAfter_scratch (uid : UInt32) (requests : List Request)
    (h : ScratchRoot files home root place) :
    program.filesAfter requests home (Layout.of root uid).scratch files =
      match FileSystem.checkPath (Layout.of root uid).scratch,
          files.plain? (scratchPlace place uid) with
      | .ok _, some (.directory _) =>
        files.writeBelow (scratchPlace place uid)
          (program.written requests fun inside => files.plain? (scratchPlace place uid ++ inside))
      | _, _ => files := by
  rw [filesAfter, FileSystem.locate_scratch h, FileSystem.targetAt, FileSystem.plain?]
  cases FileSystem.checkPath (Layout.of root uid).scratch with
  | error cause => rfl
  | ok _ =>
    cases files.get? (scratchPlace place uid) with
    | none => rfl
    | some entry => cases entry <;> rfl

theorem confined_filesAfter {uid : UInt32} (hown : scratchPlace place uid ∈ own)
    (requests : List Request) (h : ScratchRoot files home root place) :
    FileSystem.Confined own files
      (program.filesAfter requests home (Layout.of root uid).scratch files) := by
  rw [program.filesAfter_scratch uid requests h]
  split
  · exact FileSystem.confined_writeBelow (within_of_mem hown) _
  · exact FileSystem.confined_refl _ _

theorem alikeAt_filesAfter {uid : UInt32} (hown : scratchPlace place uid ∈ own)
    (requests : List Request) (h : ScratchRoot files home root place)
    (h' : ScratchRoot files' home root place) (halike : FileSystem.AlikeAt own files files') :
    FileSystem.AlikeAt own
      (program.filesAfter requests home (Layout.of root uid).scratch files)
      (program.filesAfter requests home (Layout.of root uid).scratch files') := by
  have hinside : (fun inside => files'.plain? (scratchPlace place uid ++ inside)) =
      fun inside => files.plain? (scratchPlace place uid ++ inside) := by
    funext inside
    exact (halike _ (within_below (within_of_mem hown) inside)).symm
  rw [program.filesAfter_scratch uid requests h, program.filesAfter_scratch uid requests h', hinside,
    ← halike _ (within_of_mem hown)]
  split
  · exact FileSystem.alikeAt_writeBelow halike (within_of_mem hown) _
  · exact halike

/-- **A display that does what its arguments say keeps to its own.** The directory that it is told is
the one in the scratch root as that is shown. If what is shown leads to a scratch root, at a place
that stays what it is, then that directory has to belong to the display. -/
theorem keepsToOwn {τ : Treatment} (hτ : τ.display = program.worldAfter) {config : Config}
    (handoff : Path) {identity : Identity} {area : List Location}
    (hroot : ScratchRoot files home (.ofString config.session.scratchRoot.shown) place)
    (hstays : ¬Within area place) (hown : scratchPlace place identity.uid ∈ own) :
    τ.KeepsToOwn (plannedFor config handoff identity).display identity.uid home own area files := by
  have hworld (requests : List Request) (w : World) :
      τ.display requests home (plannedFor config handoff identity).display w =
        ⟨fun uid =>
          if displayName identity.uid = displayName uid then
            program.registered requests (w.table uid)
          else w.table uid,
          program.filesAfter requests home
            (Layout.of (.ofString config.session.scratchRoot.shown) identity.uid).scratch
            w.files⟩ := by
    rw [hτ, worldAfter, valueOf?_display]
    simp only [display?_display, Option.some.injEq, Layout.ofString_shown_scratch]
    rfl
  have hstill {w : World} (hw : FileSystem.Confined area files w.files) :=
    FileSystem.scratchRoot_confined hstays hw hroot
  refine ⟨fun requests w hw => ?_, fun requests w v hw hv halike => ?_⟩
  · rw [hworld]
    refine ⟨fun other hother => ?_, program.confined_filesAfter hown requests (hstill hw)⟩
    exact if_neg fun h => hother (displayName_injective h).symm
  · rw [hworld, hworld]
    refine ⟨?_, program.alikeAt_filesAfter hown requests (hstill hw) (hstill hv) halike.files⟩
    simp only [if_true, halike.table]

end DisplayProgram

end DisplaySession
