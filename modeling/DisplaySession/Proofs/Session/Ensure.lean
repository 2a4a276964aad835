import DisplaySession.Proofs.FileSystem.Making
import DisplaySession.Session.Scratch

/-
Making sure of a scratch directory, whatever the files are.

There are three ways it can go, and each says what was there before and what is there now: the
directory was made at a place that was free, it was found, or there is none and nothing happened
(`ensured`). What asks first tells the first two apart: a directory that a path leads to is never
made again, also if the path leads to it behind links (`createDirectory_of_metadata`), and a
directory that was made is the one that the path leads to then (`made_of_createDirectory`).
-/
set_option autoImplicit false

namespace DisplaySession

/-- **What a run said as a warning**, in order. -/
def Outcome.warnings {σ α : Type} (outcome : Outcome σ α) : List Diagnostic :=
  outcome.diagnostics.filter (·.level = .warn)

namespace FileSystem

variable {files : FileSystem} {directory : Location} {user expected : UInt32} {path : Path}
  {outcome : Outcome FileSystem Unit}

/-- **The ways in which making sure of a directory can go.** -/
inductive Ensured (files : FileSystem) (directory : Location) (user expected : UInt32)
    (path : Path) : Outcome FileSystem Unit → Prop
  /-- There was nothing, and the directory was made. -/
  | made (place : Location)
      (hnew : ∀ found, files.metadata directory path ≠ .ok found)
      (hfree : files.get? place = none)
      (hleads : (files.set place (.directory user)).locate directory path =
        .ok (.entry place (.directory user))) :
      Ensured files directory user expected path
        ⟨.ok (), files.set place (.directory user), [.directoryAsked path (.ok ())]⟩
  /-- There was a directory. -/
  | found (owner : UInt32) (hfound : files.metadata directory path = .ok ⟨true, owner⟩) :
      Ensured files directory user expected path
        ⟨.ok (), files, .directoryAsked path (.error .nameTaken) :: ownerReport path owner expected⟩
  /-- There was none, and none could be made. -/
  | refused (cause refusal : Cause)
      (hnone : ∀ owner, files.metadata directory path ≠ .ok ⟨true, owner⟩) :
      Ensured files directory user expected path
        ⟨.error (.scratchDirectory path cause), files, [.directoryAsked path (.error refusal)]⟩

/-- **Making sure of a directory goes in one of these ways**, for a path that does not end in a
separator. -/
theorem ensured (files : FileSystem) (directory : Location) (user expected : UInt32)
    (hsteps : path.steps = path.names) :
    Ensured files directory user expected path
      (ensureScratch (storage directory user) (fun _ => expected) path files) := by
  simp only [ensureScratch, storage, attempt]
  cases hmake : files.createDirectory directory user path with
  | ok files' =>
    obtain ⟨place, hfree, rfl, hleads⟩ := made_of_createDirectory hsteps hmake
    refine .made place (fun found hfound => ?_) hfree hleads
    rw [createDirectory_of_metadata hsteps hfound user] at hmake
    cases hmake
  | error refusal =>
    by_cases htaken : refusal = .nameTaken
    · subst htaken
      simp only [if_true]
      cases hmetadata : files.metadata directory path with
      | error cause => exact .refused cause _ fun owner h => by simp [hmetadata] at h
      | ok found =>
        obtain ⟨isDirectory, owner⟩ := found
        cases isDirectory with
        | true => exact .found owner hmetadata
        | false => exact .refused _ _ fun owner h => by simp [hmetadata] at h
    · -- Had the path led to anything, the reason would have been that the name is taken.
      simp only [if_neg htaken]
      refine .refused refusal refusal fun owner hfound => htaken ?_
      rw [createDirectory_of_metadata hsteps hfound user] at hmake
      exact (Except.error.inj hmake).symm

/-! ## What each way comes to -/

/-- **It goes well exactly if the path leads to a directory afterwards.** -/
theorem ok_iff_of_ensured (h : Ensured files directory user expected path outcome) :
    outcome.result = .ok () ↔
      ∃ owner, outcome.state.metadata directory path = .ok ⟨true, owner⟩ := by
  cases h with
  | made place hnew hfree hleads =>
    exact ⟨fun _ => ⟨user, metadata_directory_iff.mpr ⟨place, hleads⟩⟩, fun _ => rfl⟩
  | found owner hfound => exact ⟨fun _ => ⟨owner, hfound⟩, fun _ => rfl⟩
  | refused cause refusal hnone =>
    constructor
    · intro h
      cases h
    · rintro ⟨owner, hfound⟩
      exact absurd hfound (hnone owner)

/-- **Where the path leads to a directory**, whoever makes sure of it finds it. -/
theorem found_of_ensured {owner : UInt32}
    (hfound : files.metadata directory path = .ok ⟨true, owner⟩)
    (h : Ensured files directory user expected path outcome) :
    outcome.result = .ok () ∧ outcome.state = files := by
  cases h with
  | made place hnew hfree hleads => exact absurd hfound (hnew _)
  | found owner' hfound' => exact ⟨rfl, rfl⟩
  | refused cause refusal hnone => exact absurd hfound (hnone owner)

theorem warnings_asked {result : Except Failure Unit} (made : Except Cause Unit) :
    (Outcome.mk result files [.directoryAsked path made]).warnings = [] :=
  rfl

theorem warnings_found {result : Except Failure Unit} (made : Except Cause Unit)
    (owner : UInt32) :
    (Outcome.mk result files
        (.directoryAsked path made :: ownerReport path owner expected)).warnings =
      if owner = expected then [] else [.foreignOwner path owner expected] := by
  unfold ownerReport
  split <;> rfl

/-- **A warning is about a directory that was there** and that belongs to someone else. -/
theorem mem_warnings_of_ensured (h : Ensured files directory user expected path outcome)
    (report : Diagnostic) :
    report ∈ outcome.warnings ↔ outcome.result = .ok () ∧ ∃ owner,
      files.metadata directory path = .ok ⟨true, owner⟩ ∧ owner ≠ expected ∧
        report = .foreignOwner path owner expected := by
  cases h with
  | made place hnew hfree hleads =>
    rw [warnings_asked]
    simp [hnew]
  | found owner hfound =>
    rw [warnings_found]
    by_cases howner : owner = expected
    · simp [hfound, howner]
    · simp [hfound, howner]
  | refused cause refusal hnone =>
    rw [warnings_asked]
    simp

theorem length_warnings_of_ensured (h : Ensured files directory user expected path outcome) :
    outcome.warnings.length ≤ 1 := by
  cases h with
  | made | refused =>
    rw [warnings_asked]
    exact Nat.zero_le 1
  | found owner hfound =>
    rw [warnings_found]
    split
    · exact Nat.zero_le 1
    · exact Nat.le_refl 1

/-! ## Scratch directories -/

/-- **To ensure a directory**: it is there, or one directory is made, or nothing happens at all. -/
structure Ensures (files : FileSystem) (directory : Location) (user expected : UInt32)
    (path : Path) (outcome : Outcome FileSystem Unit) : Prop where
  /-- It goes well exactly if the path leads to a directory afterwards. -/
  succeeds : outcome.result = .ok () ↔
    ∃ owner, outcome.state.metadata directory path = .ok ⟨true, owner⟩
  /-- The directory was there, and then nothing is changed; or the path led nowhere, and it leads to
  a new directory at a place that was free. No other place is touched. -/
  provides : outcome.result = .ok () →
    (∃ owner, files.metadata directory path = .ok ⟨true, owner⟩) ∧ outcome.state = files ∨
    (∀ found, files.metadata directory path ≠ .ok found) ∧ ∃ place, files.get? place = none ∧
      outcome.state.locate directory path = .ok (.entry place (.directory user)) ∧
      ∀ other, outcome.state.get? other =
        if other = place then some (.directory user) else files.get? other
  /-- It went well, so it goes well again, and nothing is changed. -/
  again : outcome.result = .ok () → ∀ user' expected',
    let second := ensureScratch (storage directory user') (fun _ => expected') path outcome.state
    second.result = .ok () ∧ second.state = outcome.state
  /-- It went wrong, so nothing is changed, and the failure names the path. -/
  refuses : ∀ failure, outcome.result = .error failure →
    (∃ cause, failure = .scratchDirectory path cause) ∧ outcome.state = files
  /-- A warning is about a directory that was there and that belongs to someone else. -/
  warns : ∀ report, report ∈ outcome.warnings ↔ outcome.result = .ok () ∧ ∃ owner,
    files.metadata directory path = .ok ⟨true, owner⟩ ∧ owner ≠ expected ∧
      report = .foreignOwner path owner expected
  warnsOnce : outcome.warnings.length ≤ 1

/-- **Making sure of a scratch directory is atomic and idempotent**: from any working directory, for
any scratch root and user id, whatever directories, files and links there are, whoever makes the
directory and whose it should be. -/
theorem ensures_scratch (files : FileSystem) (directory : Location) (user expected : UInt32)
    (root : Path) (uid : UInt32) :
    Ensures files directory user expected (Layout.of root uid).scratch
      (ensureScratch (storage directory user) (fun _ => expected) (Layout.of root uid).scratch
        files) := by
  have hsteps : (Layout.of root uid).scratch.steps = (Layout.of root uid).scratch.names :=
    if_neg (Path.getLast?_join root (isName_scratchName uid))
  generalize (Layout.of root uid).scratch = path at hsteps ⊢
  have hensured := ensured files directory user expected hsteps
  generalize ensureScratch (storage directory user) (fun _ => expected) path files = outcome
    at hensured ⊢
  refine
    { succeeds := ok_iff_of_ensured hensured
      provides := fun hok => ?_
      again := fun hok user' expected' => ?_
      refuses := fun failure hfailed => ?_
      warns := mem_warnings_of_ensured hensured
      warnsOnce := length_warnings_of_ensured hensured }
  · cases hensured with
    | made place hnew hfree hleads =>
      exact .inr ⟨hnew, place, hfree, hleads, fun other =>
        get?_set _ _ _ _ (ne_nil_of_takesFile (.inl hfree))⟩
    | found owner hfound => exact .inl ⟨⟨owner, hfound⟩, rfl⟩
    | refused => cases hok
  · obtain ⟨owner, hfound⟩ := (ok_iff_of_ensured hensured).mp hok
    exact found_of_ensured hfound (ensured outcome.state directory user' expected' hsteps)
  · cases hensured with
    | made | found => cases hfailed
    | refused cause refusal hnone => exact ⟨⟨cause, (Except.error.inj hfailed).symm⟩, rfl⟩

end FileSystem

end DisplaySession
