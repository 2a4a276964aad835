import DisplaySession.Proofs.Session.Scratch

/-
A directory that was made is found.

Making a directory and asking what a path leads to do not follow the same walk: the one stops at a
link with the last name of the path, and the other goes on behind it. Up to that link the walks are
the same (`advance_unfollowed`), so whatever a path leads to, something has its name
(`exists_entry_of_walk`), and no directory can be made there. And where a directory was made, no
link stood in the way, so the path leads to it afterwards (`walk_made`).
-/
set_option autoImplicit false

namespace DisplaySession

namespace FileSystem

variable {files files' : FileSystem} {here place directory : Location} {names : List Bytes}
  {links : Nat} {follow : Bool} {path : Path} {user owner : UInt32}

/-! ## Walks that follow the last link, and walks that do not -/

/-- **The walks that follow the last link and those that do not** stop at the same place, unless it
is that link. -/
theorem advance_unfollowed (files : FileSystem) (here : Location) (names : List Bytes) :
    advance files false here names = advance files true here names ∨
    ∃ directory path place, advance files true here names = .link directory path [] ∧
      advance files false here names = .target (.entry place (.link path)) := by
  obtain ⟨there, left, hdescends, hblocked⟩ := exists_descends files here names
  rw [advance_of_descends false hdescends, advance_of_descends true hdescends]
  cases left with
  | nil => exact .inl rfl
  | cons name rest =>
    rcases hblocked with hlong | ⟨hname, hother⟩
    · rw [advance_of_long false hlong, advance_of_long true hlong]
      exact .inl rfl
    rw [advance_step false hname, advance_step true hname]
    by_cases hlink : ∃ path, files.get? (there ++ [name]) = some (.link path)
    · obtain ⟨path, hlink⟩ := hlink
      rw [hlink]
      by_cases hlast : rest = []
      · refine .inr ⟨there, path, there ++ [name], ?_, ?_⟩
        · simp [hlast]
        · simp [hlast]
      · simp [hlast]
    · -- Only at a link does it matter whether it is followed.
      left
      split
      · rfl
      · rename_i owner hdir
        exact absurd hdir (hother owner)
      · rfl
      · rename_i path hentry
        exact absurd ⟨path, hentry⟩ hlink

/-- **Whatever a path leads to, something has its name.** -/
theorem exists_entry_of_walk {entry : Entry}
    (h : files.walk true links here names = .ok (.entry place entry)) :
    ∃ place' entry', files.walk false links here names = .ok (.entry place' entry') := by
  -- The induction is on the links that may still be followed: both follow all but the last.
  induction links using Nat.strongRecOn generalizing here names with
  | _ links ih =>
    rcases cases_of_walk h with hstop | ⟨left, directory, path, rest, rfl, hlink, hrest⟩
    · rcases advance_unfollowed files here names with hsame | ⟨_, _, _, hlast, -⟩
      · exact ⟨place, entry, walk_target (hsame.trans hstop) links⟩
      · rw [hstop] at hlast
        cases hlast
    · rcases advance_unfollowed files here names with hsame | ⟨_, _, named, -, hnamed⟩
      · rw [walk_link (hsame.trans hlink)]
        exact ih left (by omega) hrest
      · exact ⟨named, _, walk_target hnamed _⟩

/-! ## Free places -/

/-- A walk to a free place went down through directories to its last name. -/
theorem descends_of_free (h : advance files follow here names = .target (.free place)) :
    ∃ there name, place = there ++ [name] ∧ Path.IsStep name ∧ files.get? place = none ∧
      Descends files here names there [name] := by
  obtain ⟨there, left, hdescends, hblocked⟩ := exists_descends files here names
  rw [advance_of_descends follow hdescends] at h
  cases left with
  | nil =>
    rw [advance] at h
    cases h
  | cons name rest =>
    rcases hblocked with hlong | ⟨hname, hother⟩
    · rw [advance_of_long follow hlong] at h
      cases h
    rw [advance_step follow hname] at h
    split at h
    · rename_i hnone
      by_cases hlast : rest = []
      · rw [if_pos hlast] at h
        cases h
        exact ⟨there, name, rfl, hname, hnone, hlast ▸ hdescends⟩
      · rw [if_neg hlast] at h
        cases h
    · rename_i owner hdir
      exact absurd hdir (hother owner)
    · split at h <;> cases h
    · split at h <;> cases h

/-- A free place is free. -/
theorem free_of_walk (h : files.walk follow links here names = .ok (.free place)) :
    files.get? place = none := by
  induction links using Nat.strongRecOn generalizing here names with
  | _ links ih =>
    rcases cases_of_walk h with hstop | ⟨left, directory, path, rest, rfl, -, hrest⟩
    · obtain ⟨_, _, -, -, hnone, -⟩ := descends_of_free hstop
      exact hnone
    · exact ih left (by omega) hrest

/-- **A directory made at a free place is found** by every walk that led to the place. -/
theorem walk_made (owner : UInt32) (hfree : files.get? place = none)
    (h : files.walk follow links here names = .ok (.free place)) :
    (files.set place (.directory owner)).walk true links here names =
      .ok (.entry place (.directory owner)) := by
  have htakes : files.TakesFile place := .inl hfree
  have hkeeps : Keeps files (files.set place (.directory owner)) := keeps_set _ htakes
  have hmade : (files.set place (.directory owner)).get? place = some (.directory owner) := by
    rw [get?_set _ _ _ _ (ne_nil_of_takesFile htakes), if_pos rfl]
  -- Every directory and every link on the way is still there, so the walk takes the same way.
  induction links using Nat.strongRecOn generalizing here names with
  | _ links ih =>
    rcases cases_of_walk h with hstop | ⟨left, directory, path, rest, rfl, hlink, hrest⟩
    · obtain ⟨there, name, rfl, hname, -, hdescends⟩ := descends_of_free hstop
      refine walk_target ?_ links
      rw [advance_of_descends true (descends_keeps hkeeps hdescends), advance_step true hname,
        hmade]
      simp only [advance, hmade, Option.getD_some]
    · obtain ⟨name, hname, hentry, hdescends⟩ := descends_of_link hlink
      have hentry' := plain?_eq_link.mp (hkeeps _ _ (plain?_eq_link.mpr hentry) trivial)
      rw [walk_link (advance_link hname hentry' (.inr rfl) (descends_keeps hkeeps hdescends))]
      exact ih left (by omega) hrest

/-! ## Making a directory, and asking for it -/

/-- **A path leads to a directory** exactly if that is what is known of it. -/
theorem metadata_directory_iff :
    files.metadata directory path = .ok ⟨true, owner⟩ ↔
      ∃ place, files.locate directory path = .ok (.entry place (.directory owner)) := by
  rw [metadata]
  cases hlocate : files.locate directory path with
  | error cause => simp [bind, Except.bind]
  | ok target =>
    cases target with
    | free place => simp [bind, Except.bind]
    | entry place entry => cases entry <;> simp [bind, Except.bind, describe]

/-- Where a directory was made, the name of the path was free. -/
theorem free_of_createDirectory
    (h : files.createDirectory directory user path = .ok files') :
    ∃ place, files.locateName directory path = .ok (.free place) ∧
      files' = files.set place (.directory user) := by
  rw [createDirectory] at h
  cases hlocate : files.locateName directory path with
  | error cause =>
    rw [hlocate] at h
    cases h
  | ok target =>
    rw [hlocate] at h
    cases target with
    | entry place entry => cases h
    | free place =>
      have hadd : files.add user place (.directory user) = .ok files' := h
      rw [add] at hadd
      split at hadd
      · exact ⟨place, rfl, (Except.ok.inj hadd).symm⟩
      · cases hadd

/-- **A directory that was made is found**: its place was free, and now the path leads to it. The
path may end in no separator, which would ask for a directory where none is yet. -/
theorem made_of_createDirectory (hsteps : path.steps = path.names)
    (h : files.createDirectory directory user path = .ok files') :
    ∃ place, files.get? place = none ∧ files' = files.set place (.directory user) ∧
      files'.locate directory path = .ok (.entry place (.directory user)) := by
  obtain ⟨place, hlocate, rfl⟩ := free_of_createDirectory h
  obtain ⟨hcheck, hwalk⟩ := walk_of_checked hlocate
  have hfree := free_of_walk hwalk
  refine ⟨place, hfree, rfl, ?_⟩
  rw [locate, hcheck, hsteps]
  exact walk_made user hfree hwalk

/-- **Where a path leads to anything, no directory can be made**, whoever asks for it. -/
theorem createDirectory_of_metadata (hsteps : path.steps = path.names) {found : Metadata}
    (h : files.metadata directory path = .ok found) (user : UInt32) :
    files.createDirectory directory user path = .error .nameTaken := by
  rw [metadata] at h
  cases hlocate : files.locate directory path with
  | error cause =>
    rw [hlocate] at h
    cases h
  | ok target =>
    rw [hlocate] at h
    cases target with
    | free place => cases h
    | entry place entry =>
      obtain ⟨hcheck, hwalk⟩ := walk_of_checked hlocate
      rw [hsteps] at hwalk
      obtain ⟨place', entry', hnamed⟩ := exists_entry_of_walk hwalk
      have hname : files.locateName directory path = .ok (.entry place' entry') := by
        rw [locateName, hcheck]
        exact hnamed
      rw [createDirectory, hname]
      rfl

end FileSystem

end DisplaySession
