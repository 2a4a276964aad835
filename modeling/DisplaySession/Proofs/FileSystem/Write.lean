import DisplaySession.FileSystem.Operations

/-
What was written to a file is read from it.

A path that led to a free place or to a file leads there again after a file was put there, because
nothing on the way was a free place or a file: a walk stops at either (`advance_set`). So every link
on the way is the one it was, and the walk ends at the same place (`walk_set`).
-/
set_option autoImplicit false

namespace DisplaySession

namespace FileSystem

variable {files : FileSystem} {place : Location}

/-! ## Where walks end -/

/-- A place that can take a file: one that is free, or that holds a file. -/
def TakesFile (files : FileSystem) (place : Location) : Prop :=
  files.get? place = none ∨ ∃ owner contents, files.get? place = some (.file owner contents)

theorem ne_nil_of_takesFile (h : files.TakesFile place) : place ≠ [] := by
  rintro rfl
  rcases h with h | ⟨owner, contents, h⟩
  · rw [get?, if_pos rfl] at h
    cases h
  · rw [get?, if_pos rfl] at h
    cases h

/-- **The targets that can take a file**: a free place, and a place with a file. -/
inductive Takes (place : Location) : Target → Prop
  | free : Takes place (.free place)
  | file (owner : UInt32) (contents : Bytes) : Takes place (.entry place (.file owner contents))

/-- Where names lead to a target that takes a file, the file system has a place for one. -/
theorem takesFile_of_advance {here : Location} {names : List Bytes} {target : Target}
    (htarget : Takes place target) (h : advance files true here names = .target target) :
    files.TakesFile place := by
  induction names generalizing here with
  | nil =>
    have hhere : Target.entry here ((files.get? here).getD (.directory 0)) = target :=
      Stop.target.inj h
    cases hentry : files.get? here with
    | none =>
      rw [hentry, Option.getD_none] at hhere
      cases htarget <;> cases hhere
    | some entry =>
      rw [hentry, Option.getD_some] at hhere
      cases htarget with
      | free => cases hhere
      | file owner contents =>
        cases hhere
        exact .inr ⟨owner, contents, hentry⟩
  | cons name rest ih =>
    rw [advance] at h
    split at h
    · exact ih h
    split at h
    · exact ih h
    split at h
    · cases h
    split at h
    · rename_i hnone
      split at h
      · obtain rfl := Stop.target.inj h
        cases htarget
        exact .inl hnone
      · cases h
    · exact ih h
    · rename_i owner contents hfile
      split at h
      · obtain rfl := Stop.target.inj h
        cases htarget
        exact .inr ⟨owner, contents, hfile⟩
      · cases h
    · split at h
      · rename_i hlast
        cases hlast.2
      · cases h

/-! ## Walks after a file was put at a place -/

/-- **Where names lead before and after an entry was put at a place**: to that entry, if they led to
a target that takes a file there; to the same link, if they led to a link. -/
inductive Follows (place : Location) (entry : Entry) : Stop → Stop → Prop
  | taken {target : Target} (h : Takes place target) :
    Follows place entry (.target target) (.target (.entry place entry))
  | link (directory : Location) (path : Path) (rest : List Bytes) :
    Follows place entry (.link directory path rest) (.link directory path rest)
  | elsewhere {target : Target} (h : ¬Takes place target) (stop : Stop) :
    Follows place entry (.target target) stop
  | refused (cause : Cause) (stop : Stop) : Follows place entry (.refused cause) stop

/-- Names that led to an entry lead to the same one or to what was put in its place. -/
theorem follows_target {here : Location} {old new : Entry} {owner : UInt32} {contents : Bytes}
    (h : here = place → new = .file owner contents) :
    Follows place (.file owner contents) (.target (.entry here old))
      (.target (.entry here new)) := by
  by_cases htakes : Takes place (.entry here old)
  · have hhere : here = place := by
      cases htakes
      rfl
    rw [h hhere, hhere]
    exact .taken (hhere ▸ htakes)
  · exact .elsewhere htakes _

/-- **A file that was put at a place changes no walk that does not end there.** -/
theorem advance_set (hplace : files.TakesFile place) (owner : UInt32) (contents : Bytes)
    (here : Location) (names : List Bytes) :
    Follows place (.file owner contents) (advance files true here names)
      (advance (files.set place (.file owner contents)) true here names) := by
  have hset (other : Location) := get?_set files place other (.file owner contents)
    (ne_nil_of_takesFile hplace)
  -- The place can only be the last one on the way, because no name leads on from it.
  induction names generalizing here with
  | nil =>
    refine follows_target fun hhere => ?_
    rw [hset, if_pos hhere]
    rfl
  | cons name rest ih =>
    rw [advance, advance]
    split
    · exact ih _
    split
    · exact ih _
    split
    · exact .refused _ _
    rw [hset]
    by_cases hhere : here ++ [name] = place
    · -- The place was free or held a file, so the walk ended here, or it was refused for a name
      -- behind a file.
      rw [if_pos hhere, hhere]
      rcases hplace with hnone | ⟨owner', contents', hfile⟩
      · rw [hnone]
        simp only []
        split
        · exact .taken .free
        · exact .refused _ _
      · rw [hfile]
        simp only []
        split
        · exact .taken (.file owner' contents')
        · exact .refused _ _
    · rw [if_neg hhere]
      have hother (entry : Entry) : ¬Takes place (.entry (here ++ [name]) entry) := by
        intro htakes
        cases htakes
        exact hhere rfl
      split
      · split
        · refine .elsewhere (fun htakes => ?_) _
          cases htakes
          exact hhere rfl
        · exact .refused _ _
      · exact ih _
      · split
        · exact .elsewhere (hother _) _
        · exact .refused _ _
      · split
        · exact .elsewhere (hother _) _
        · exact .link _ _ _

theorem walk_target {follow : Bool} {here : Location} {names : List Bytes} {target : Target}
    (h : advance files follow here names = .target target) (links : Nat) :
    files.walk follow links here names = .ok target := by
  unfold walk
  simp only [h]

/-- A walk whose names lead to a link goes on behind it. -/
theorem walk_link {follow : Bool} {here directory : Location} {names rest : List Bytes}
    {path : Path} (h : advance files follow here names = .link directory path rest) (links : Nat) :
    files.walk follow (links + 1) here names =
      files.walk follow links (startOf directory path) (path.steps ++ rest) := by
  rw [walk.eq_def]
  simp only [h]

/-- **A walk that ends at a target** led there directly, or behind a link. -/
theorem cases_of_walk {follow : Bool} {links : Nat} {here : Location} {names : List Bytes}
    {target : Target} (h : files.walk follow links here names = .ok target) :
    advance files follow here names = .target target ∨
    ∃ left directory path rest, links = left + 1 ∧
      advance files follow here names = .link directory path rest ∧
      files.walk follow left (startOf directory path) (path.steps ++ rest) = .ok target := by
  cases hstop : advance files follow here names with
  | target found =>
    rw [walk_target hstop] at h
    exact .inl (congrArg _ (Except.ok.inj h))
  | refused cause =>
    unfold walk at h
    simp only [hstop] at h
    cases h
  | link directory path rest =>
    cases links with
    | zero =>
      unfold walk at h
      simp only [hstop] at h
      cases h
    | succ left =>
      rw [walk_link hstop] at h
      exact .inr ⟨left, directory, path, rest, rfl, rfl, h⟩

theorem takesFile_of_walk {target : Target} (htarget : Takes place target) {links : Nat}
    {here : Location} {names : List Bytes}
    (h : files.walk true links here names = .ok target) : files.TakesFile place := by
  induction links using Nat.strongRecOn generalizing here names with
  | _ links ih =>
    rcases cases_of_walk h with hstop | ⟨left, directory, path, rest, rfl, -, hrest⟩
    · exact takesFile_of_advance htarget hstop
    · exact ih left (by omega) hrest

/-- **A path that led to a place that takes a file leads to the file that was put there.** -/
theorem walk_set {target : Target} (htarget : Takes place target) (hplace : files.TakesFile place)
    (owner : UInt32) (contents : Bytes) {links : Nat} {here : Location} {names : List Bytes}
    (h : files.walk true links here names = .ok target) :
    (files.set place (.file owner contents)).walk true links here names =
      .ok (.entry place (.file owner contents)) := by
  -- The induction is on the links that may still be followed, and behind each one the walk begins
  -- anew from the same place as before.
  induction links using Nat.strongRecOn generalizing here names with
  | _ links ih =>
    have hfollows := advance_set hplace owner contents here names
    generalize hnew : advance (files.set place (.file owner contents)) true here names = stop
      at hfollows
    rcases cases_of_walk h with hstop | ⟨left, directory, path, rest, rfl, hlink, hrest⟩
    · rw [hstop] at hfollows
      cases hfollows with
      | taken _ => exact walk_target hnew links
      | elsewhere hno _ => exact absurd htarget hno
    · rw [hlink] at hfollows
      cases hfollows
      rw [walk_link hnew]
      exact ih left (by omega) hrest

/-- **A path that leads anywhere passes the check**, and its names lead there. -/
theorem walk_of_checked {directory : Location} {path : Path} {target : Target} {follow : Bool}
    {names : List Bytes}
    (h : (do checkPath path; files.walk follow linkLimit (startOf directory path) names) =
      .ok target) :
    checkPath path = .ok () ∧
      files.walk follow linkLimit (startOf directory path) names = .ok target := by
  cases hcheck : checkPath path with
  | error cause =>
    rw [hcheck] at h
    cases h
  | ok _ =>
    rw [hcheck] at h
    exact ⟨rfl, h⟩

/-- A path that leads to a place that takes a file leads to the file that was put there. -/
theorem locate_set {directory : Location} {path : Path} {target : Target}
    (htarget : Takes place target) (h : files.locate directory path = .ok target)
    (owner : UInt32) (contents : Bytes) :
    (files.set place (.file owner contents)).locate directory path =
      .ok (.entry place (.file owner contents)) := by
  obtain ⟨hcheck, hwalk⟩ := walk_of_checked h
  rw [locate, hcheck]
  exact walk_set htarget (takesFile_of_walk htarget hwalk) owner contents hwalk

/-! ## Writing and reading -/

theorem read_of_locate {directory : Location} {path : Path} {owner : UInt32} {contents : Bytes}
    (h : files.locate directory path = .ok (.entry place (.file owner contents))) :
    files.read directory path = .ok contents := by
  rw [read, h]
  rfl

/-- **What was written to a file is read from it.** -/
theorem read_of_write {written : FileSystem} {directory : Location} {user : UInt32} {path : Path}
    {contents : Bytes} (h : files.write directory user path contents = .ok written) :
    written.read directory path = .ok contents := by
  rw [write] at h
  cases hlocate : files.locate directory path with
  | error cause =>
    rw [hlocate] at h
    cases h
  | ok target =>
    rw [hlocate] at h
    cases target with
    | free place =>
      have hadd : files.add user place (.file user contents) = .ok written := h
      rw [add] at hadd
      split at hadd
      · obtain rfl := Except.ok.inj hadd
        exact read_of_locate (locate_set .free hlocate user contents)
      · cases hadd
    | entry place entry =>
      cases entry with
      | file owner old =>
        have hchange : (if mayChange user owner then .ok (files.set place (.file owner contents))
          else .error .accessDenied : Except Cause FileSystem) = .ok written := h
        split at hchange
        · obtain rfl := Except.ok.inj hchange
          exact read_of_locate (locate_set (.file owner old) hlocate owner contents)
        · cases hchange
      | directory owner => cases h
      | link path => cases h

theorem isFile_of_read {directory : Location} {path : Path} {contents : Bytes}
    (h : files.read directory path = .ok contents) : files.isFile directory path = true := by
  rw [read] at h
  cases hlocate : files.locate directory path with
  | error cause =>
    rw [hlocate] at h
    cases h
  | ok target =>
    rw [hlocate] at h
    cases target with
    | free place => cases h
    | entry place entry =>
      cases entry with
      | file owner old =>
        rw [isFile, metadata, hlocate]
        rfl
      | directory owner => cases h
      | link path => cases h

end FileSystem

end DisplaySession
