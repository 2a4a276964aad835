import DisplaySession.Proofs.FileSystem.Write
import Mathlib.Data.List.Basic

/-
Going on behind a directory.

Between two links a walk goes down through directories, and nothing else that it meets leads on. So
where a path to a directory leads depends on directories and links alone: it leads there as long as
these stay what they are, whatever else is made beside them (`walk_keeps`), and what stands behind
the path is followed from there (`walk_append`). With one name behind it a path means the entry of
that name (`locateName_join`, `locate_join`).

Owners do not matter for walks, so entries are compared without them (`plain?`).
-/
set_option autoImplicit false

namespace DisplaySession

/-! ## The names of a path with one more name -/

namespace Path

theorem pieces_ne_nil (separator : UInt8) (bytes : Bytes) : pieces separator bytes ≠ [] := by
  unfold pieces
  split
  · simp
  · split
    · simp
    · split <;> simp

theorem pieces_of_not_mem {separator : UInt8} {bytes : Bytes} (h : separator ∉ bytes) :
    pieces separator bytes = [bytes] := by
  induction bytes with
  | nil => rfl
  | cons b bytes ih =>
    rw [List.mem_cons, not_or] at h
    rw [pieces, if_neg (Ne.symm h.1), ih h.2]

theorem pieces_append (separator : UInt8) (front rest : Bytes) :
    pieces separator (front ++ separator :: rest) =
      pieces separator front ++ pieces separator rest := by
  induction front with
  | nil => simp [pieces]
  | cons b front ih =>
    rw [List.cons_append, pieces, pieces, ih]
    split
    · rfl
    · obtain ⟨piece, pieces', hpieces⟩ := List.exists_cons_of_ne_nil (pieces_ne_nil separator front)
      rw [hpieces]
      rfl

/-- A name that leads to an entry of a directory, and not to a directory by itself. -/
structure IsStep (name : Bytes) : Prop where
  notDot : name ≠ dot
  notDotDot : name ≠ dotDot
  short : name.length ≤ FileSystem.nameLimit

/-- **A name that an entry can have.** -/
structure IsName (name : Bytes) : Prop extends IsStep name where
  nonempty : name ≠ []
  whole : slash ∉ name

/-- A name below a path stands behind a separator, unless the path is empty. -/
theorem bytes_join (path : Path) (name : Bytes) :
    (path.join name).bytes = name ∨ ∃ front, (path.join name).bytes = front ++ slash :: name := by
  by_cases hempty : path.bytes = []
  · left
    rw [join, if_pos (.inl hempty), hempty, List.nil_append]
  right
  by_cases hend : path.bytes.getLast? = some slash
  · obtain ⟨front, hfront⟩ := List.getLast?_eq_some_iff.mp hend
    refine ⟨front, ?_⟩
    rw [join, if_pos (.inr hend), hfront, List.append_assoc, List.singleton_append]
  · exact ⟨path.bytes, by rw [join, if_neg (not_or.mpr ⟨hempty, hend⟩)]⟩

variable {name : Bytes}

theorem bytes_join_ne_nil (root : Path) (hname : IsName name) : (root.join name).bytes ≠ [] := by
  rw [join]
  split
  · exact List.append_ne_nil_of_right_ne_nil _ hname.nonempty
  · exact List.append_ne_nil_of_right_ne_nil _ (List.cons_ne_nil _ _)

/-- A path that ends in a name ends in no separator. -/
theorem getLast?_join (root : Path) (hname : IsName name) :
    (root.join name).bytes.getLast? ≠ some slash := by
  intro hlast
  refine hname.whole (List.mem_of_getLast? ?_)
  rcases root.bytes_join name with hbytes | ⟨front, hbytes⟩
  · rwa [hbytes] at hlast
  · rwa [hbytes, List.getLast?_append_of_ne_nil _ (List.cons_ne_nil _ _),
      List.getLast?_cons_of_ne_nil hname.nonempty] at hlast

variable {root : Path}

theorem isAbsolute_join (hroot : root.bytes ≠ []) :
    (root.join name).isAbsolute = root.isAbsolute := by
  rw [join, isAbsolute, isAbsolute]
  split <;> rw [List.head?_append_of_ne_nil _ hroot]

/-- A name below a path comes behind the names of the path. -/
theorem names_join (hroot : root.bytes ≠ []) (hname : IsName name) :
    (root.join name).names = root.names ++ [name] := by
  have hlast : [name].filter (· ≠ []) = [name] := by simp [hname.nonempty]
  rw [join, names, names]
  by_cases hend : root.bytes.getLast? = some slash
  · obtain ⟨front, hfront⟩ := List.getLast?_eq_some_iff.mp hend
    rw [if_pos (.inr hend), hfront, List.append_assoc, List.singleton_append, pieces_append,
      pieces_append, pieces_of_not_mem hname.whole, List.filter_append, List.filter_append, hlast]
    simp [pieces]
  · rw [if_neg (not_or.mpr ⟨hroot, hend⟩), pieces_append, pieces_of_not_mem hname.whole,
      List.filter_append, hlast]

theorem steps_join (hroot : root.bytes ≠ []) (hname : IsName name) :
    (root.join name).steps = root.names ++ [name] := by
  rw [steps, if_neg (getLast?_join root hname), names_join hroot hname]

end Path

/-- An entry that paths lead through. -/
def Entry.LeadsOn : Entry → Prop
  | .directory _ | .link _ => True
  | .file .. => False

namespace FileSystem

variable {files files' : FileSystem} {here there place : Location} {names left tail : List Bytes}

/-! ## Entries without their owners -/

/-- **What is at a place, whoever owns it.** -/
def plain? (files : FileSystem) (place : Location) : Option Entry :=
  (files.get? place).map (withOwner superuserId)

theorem plain?_eq_directory :
    files.plain? place = some (.directory superuserId) ↔
      ∃ owner, files.get? place = some (.directory owner) := by
  rw [plain?]
  cases files.get? place with
  | none => simp
  | some entry => cases entry <;> simp [withOwner]

theorem plain?_eq_link {target : Path} :
    files.plain? place = some (.link target) ↔ files.get? place = some (.link target) := by
  rw [plain?]
  cases files.get? place with
  | none => simp
  | some entry => cases entry <;> simp [withOwner]

/-- **Directories and links stay what they are.** -/
def Keeps (files files' : FileSystem) : Prop :=
  ∀ place entry, files.plain? place = some entry → entry.LeadsOn → files'.plain? place = some entry

/-! ## Walks down through directories -/

/-- **Names lead down through directories** from one place to another, with these names left. -/
inductive Descends (files : FileSystem) : Location → List Bytes → Location → List Bytes → Prop
  | stay (here : Location) (names : List Bytes) : Descends files here names here names
  | dot {here there : Location} {rest left : List Bytes} (h : Descends files here rest there left) :
    Descends files here (Path.dot :: rest) there left
  | up {here there : Location} {rest left : List Bytes}
    (h : Descends files here.dropLast rest there left) :
    Descends files here (Path.dotDot :: rest) there left
  | down {here there : Location} {name : Bytes} {rest left : List Bytes} {owner : UInt32}
    (hname : Path.IsStep name) (hdir : files.get? (here ++ [name]) = some (.directory owner))
    (h : Descends files (here ++ [name]) rest there left) :
    Descends files here (name :: rest) there left

theorem advance_step (follow : Bool) {name : Bytes} (hname : Path.IsStep name)
    (rest : List Bytes) :
    advance files follow here (name :: rest) =
      match files.get? (here ++ [name]) with
      | none => if rest = [] then .target (.free (here ++ [name])) else .refused .noEntry
      | some (.directory _) => advance files follow (here ++ [name]) rest
      | some (.file owner contents) =>
        if rest = [] then .target (.entry (here ++ [name]) (.file owner contents))
        else .refused .noDirectory
      | some (.link path) =>
        if rest = [] ∧ follow = false then .target (.entry (here ++ [name]) (.link path))
        else .link here path rest := by
  rw [advance]
  exact (if_neg hname.notDot).trans <| (if_neg hname.notDotDot).trans <|
    if_neg (Nat.not_lt.mpr hname.short)

/-- Going down through directories is the first part of every walk. -/
theorem advance_of_descends (follow : Bool) (h : Descends files here names there left) :
    advance files follow here names = advance files follow there left := by
  induction h with
  | stay here names => rfl
  | dot h ih => rw [advance, if_pos rfl, ih]
  | up h ih => rw [advance, if_neg (by decide), if_pos rfl, ih]
  | down hname hdir h ih => rw [advance_step follow hname, hdir, ← ih]

theorem descends_append (h : Descends files here names there left) (tail : List Bytes) :
    Descends files here (names ++ tail) there (left ++ tail) := by
  induction h with
  | stay here names => exact .stay here _
  | dot h ih => exact .dot ih
  | up h ih => exact .up ih
  | down hname hdir h ih => exact .down hname hdir ih

theorem descends_keeps (hkeeps : Keeps files files') (h : Descends files here names there left) :
    Descends files' here names there left := by
  induction h with
  | stay here names => exact .stay here names
  | dot h ih => exact .dot ih
  | up h ih => exact .up ih
  | down hname hdir h ih =>
    have hplain := hkeeps _ _ (plain?_eq_directory.mpr ⟨_, hdir⟩) trivial
    obtain ⟨owner, hdir'⟩ := plain?_eq_directory.mp hplain
    exact .down hname hdir' ih

/-- A dot at the end says nothing on the way. -/
theorem descends_of_dot (h : Descends files here (names ++ [Path.dot]) there left) :
    (left = [] ∧ Descends files here names there []) ∨
    ∃ left', left = left' ++ [Path.dot] ∧ Descends files here names there left' := by
  generalize hnames : names ++ [Path.dot] = names' at h
  induction h generalizing names with
  | stay here names' => exact .inr ⟨names, hnames.symm, .stay here names⟩
  | @dot here there rest left h ih =>
    cases names with
    | nil =>
      obtain rfl := (List.cons.inj hnames).2
      cases h with
      | stay => exact .inl ⟨rfl, .stay _ _⟩
    | cons name names =>
      obtain ⟨rfl, rfl⟩ := List.cons.inj hnames
      exact (ih rfl).imp (And.imp_right .dot) fun ⟨left', hleft, h'⟩ => ⟨left', hleft, .dot h'⟩
  | @up here there rest left h ih =>
    cases names with
    | nil => exact absurd (List.cons.inj hnames).1 (by decide)
    | cons name names =>
      obtain ⟨rfl, rfl⟩ := List.cons.inj hnames
      exact (ih rfl).imp (And.imp_right .up) fun ⟨left', hleft, h'⟩ => ⟨left', hleft, .up h'⟩
  | @down here there name rest left owner hname hdir h ih =>
    cases names with
    | nil => exact absurd (List.cons.inj hnames).1.symm hname.notDot
    | cons first names =>
      obtain ⟨rfl, rfl⟩ := List.cons.inj hnames
      exact (ih rfl).imp (And.imp_right (.down hname hdir)) fun ⟨left', hleft, h'⟩ =>
        ⟨left', hleft, .down hname hdir h'⟩

/-- A walk goes down no further than to this place with these names left. -/
def Blocked (files : FileSystem) (here : Location) : List Bytes → Prop
  | [] => True
  | name :: _ =>
    nameLimit < name.length ∨
      Path.IsStep name ∧ ∀ owner, files.get? (here ++ [name]) ≠ some (.directory owner)

/-- **Every walk goes down through directories as far as it can.** -/
theorem exists_descends (files : FileSystem) (here : Location) (names : List Bytes) :
    ∃ there left, Descends files here names there left ∧ Blocked files there left := by
  induction names generalizing here with
  | nil => exact ⟨here, [], .stay here [], trivial⟩
  | cons name rest ih =>
    by_cases hdot : name = Path.dot
    · obtain ⟨there, left, h, hblocked⟩ := ih here
      exact ⟨there, left, hdot ▸ .dot h, hblocked⟩
    by_cases hdots : name = Path.dotDot
    · obtain ⟨there, left, h, hblocked⟩ := ih here.dropLast
      exact ⟨there, left, hdots ▸ .up h, hblocked⟩
    by_cases hlong : nameLimit < name.length
    · exact ⟨here, name :: rest, .stay _ _, .inl hlong⟩
    have hname : Path.IsStep name := ⟨hdot, hdots, Nat.not_lt.mp hlong⟩
    by_cases hdir : ∃ owner, files.get? (here ++ [name]) = some (.directory owner)
    · obtain ⟨owner, hdir⟩ := hdir
      obtain ⟨there, left, h, hblocked⟩ := ih (here ++ [name])
      exact ⟨there, left, .down hname hdir h, hblocked⟩
    · exact ⟨here, name :: rest, .stay _ _, .inr ⟨hname, not_exists.mp hdir⟩⟩

theorem advance_of_long (follow : Bool) {name : Bytes} (hlong : nameLimit < name.length)
    (rest : List Bytes) :
    advance files follow here (name :: rest) = .refused .nameTooLong := by
  have hdot : name ≠ Path.dot := by
    rintro rfl
    exact absurd hlong (by decide)
  have hdots : name ≠ Path.dotDot := by
    rintro rfl
    exact absurd hlong (by decide)
  rw [advance, if_neg hdot, if_neg hdots, if_pos hlong]

/-- A walk that ends in a directory went down through directories all the way. -/
theorem descends_of_entry {entry : Entry} {owner : UInt32}
    (h : advance files true here names = .target (.entry place entry))
    (hdir : files.get? place = some (.directory owner)) : Descends files here names place [] := by
  obtain ⟨there, left, hdescends, hblocked⟩ := exists_descends files here names
  rw [advance_of_descends true hdescends] at h
  cases left with
  | nil =>
    have hplace : there = place := by
      rw [advance] at h
      cases h
      rfl
    exact hplace ▸ hdescends
  | cons name rest =>
    rcases hblocked with hlong | ⟨hname, hother⟩
    · rw [advance_of_long true hlong] at h
      cases h
    rw [advance_step true hname] at h
    split at h
    · split at h <;> cases h
    · rename_i owner' hentry
      exact absurd hentry (hother owner')
    · -- The walk ended at a file, which is no directory.
      rename_i hentry
      split at h
      · cases h
        rw [hdir] at hentry
        cases hentry
      · cases h
    · split at h
      · rename_i hlast
        cases hlast.2
      · cases h

/-- A walk that stops at a link went down through directories to it. -/
theorem descends_of_link {follow : Bool} {path : Path} {rest : List Bytes}
    (h : advance files follow here names = .link there path rest) :
    ∃ name, Path.IsStep name ∧ files.get? (there ++ [name]) = some (.link path) ∧
      Descends files here names there (name :: rest) := by
  obtain ⟨place, left, hdescends, hblocked⟩ := exists_descends files here names
  rw [advance_of_descends follow hdescends] at h
  cases left with
  | nil =>
    rw [advance] at h
    cases h
  | cons name left =>
    rcases hblocked with hlong | ⟨hname, hother⟩
    · rw [advance_of_long follow hlong] at h
      cases h
    rw [advance_step follow hname] at h
    split at h
    · split at h <;> cases h
    · rename_i owner hentry
      exact absurd hentry (hother owner)
    · split at h <;> cases h
    · rename_i hentry
      split at h
      · cases h
      · cases h
        exact ⟨name, hname, hentry, hdescends⟩

theorem advance_link {follow : Bool} {name : Bytes} {path : Path} {rest : List Bytes}
    (hname : Path.IsStep name) (hlink : files.get? (there ++ [name]) = some (.link path))
    (hfollow : rest ≠ [] ∨ follow = true)
    (h : Descends files here names there (name :: rest)) :
    advance files follow here names = .link there path rest := by
  rw [advance_of_descends follow h, advance_step follow hname, hlink]
  refine if_neg fun hlast => ?_
  rcases hfollow with hrest | hfollow
  · exact hrest hlast.1
  · exact absurd (hlast.2.symm.trans hfollow) (by decide)

/-! ## Walks to a directory -/

theorem walk_of_descends (follow : Bool) (links : Nat)
    (h : Descends files here names there left) :
    files.walk follow links here names = files.walk follow links there left := by
  unfold walk
  simp only [advance_of_descends follow h]

section

variable {links : Nat} {entry : Entry} {owner : UInt32}

/-- **A walk to a directory leads there again** while directories and links stay what they are. -/
theorem walk_keeps (hkeeps : Keeps files files')
    (hdir : files.get? place = some (.directory owner))
    (h : files.walk true links here names = .ok (.entry place entry)) :
    ∃ entry', files'.walk true links here names = .ok (.entry place entry') := by
  -- The induction is on the links that may still be followed; each of them is still there.
  induction links using Nat.strongRecOn generalizing here names with
  | _ links ih =>
    rcases cases_of_walk h with hstop | ⟨left, directory, path, rest, rfl, hlink, hrest⟩
    · have hdescends := descends_keeps hkeeps (descends_of_entry hstop hdir)
      exact ⟨_, by rw [walk_of_descends true links hdescends]; exact walk_target rfl links⟩
    · obtain ⟨name, hname, hentry, hdescends⟩ := descends_of_link hlink
      have hentry' := plain?_eq_link.mp (hkeeps _ _ (plain?_eq_link.mpr hentry) trivial)
      have hlink' := advance_link hname hentry' (.inr rfl) (descends_keeps hkeeps hdescends)
      rw [walk_link hlink']
      exact ih left (by omega) hrest

/-- **What stands behind a path to a directory is followed from there**, with the links that are
left. -/
theorem walk_append (follow : Bool) (hdir : files.get? place = some (.directory owner))
    (htail : tail ≠ []) (h : files.walk true links here names = .ok (.entry place entry)) :
    ∃ left, files.walk follow links here (names ++ tail) = files.walk follow left place tail := by
  induction links using Nat.strongRecOn generalizing here names with
  | _ links ih =>
    rcases cases_of_walk h with hstop | ⟨left, directory, path, rest, rfl, hlink, hrest⟩
    · exact ⟨links,
        walk_of_descends follow links (descends_append (descends_of_entry hstop hdir) tail)⟩
    · obtain ⟨name, hname, hentry, hdescends⟩ := descends_of_link hlink
      have hrest' : rest ++ tail ≠ [] := List.append_ne_nil_of_right_ne_nil _ htail
      have hlink' : advance files follow here (names ++ tail) =
          .link directory path (rest ++ tail) :=
        advance_link hname hentry (.inl hrest') (descends_append hdescends tail)
      rw [walk_link hlink', ← List.append_assoc]
      exact ih left (by omega) hrest

/-- A dot behind a path to a directory can be left out. -/
theorem walk_of_dot (hdir : files.get? place = some (.directory owner))
    (h : files.walk true links here (names ++ [Path.dot]) = .ok (.entry place entry)) :
    ∃ entry', files.walk true links here names = .ok (.entry place entry') := by
  induction links using Nat.strongRecOn generalizing here names with
  | _ links ih =>
    rcases cases_of_walk h with hstop | ⟨left, directory, path, rest, rfl, hlink, hrest⟩
    · rcases descends_of_dot (descends_of_entry hstop hdir) with ⟨-, hdescends⟩ | ⟨left, hleft, -⟩
      · exact ⟨_, by rw [walk_of_descends true links hdescends]; exact walk_target rfl links⟩
      · exact absurd hleft.symm (by simp)
    · obtain ⟨name, hname, hentry, hdescends⟩ := descends_of_link hlink
      rcases descends_of_dot hdescends with ⟨hnil, -⟩ | ⟨left', hleft, hdescends'⟩
      · cases hnil
      cases left' with
      | nil => exact absurd (List.cons.inj hleft).1 hname.notDot
      | cons name' rest' =>
        obtain ⟨rfl, hrest'⟩ := List.cons.inj hleft
        rw [walk_link (advance_link hname hentry (.inr rfl) hdescends')]
        rw [hrest', List.append_eq, ← List.append_assoc] at hrest
        exact ih left (by omega) hrest

end

/-! ## One name behind a path to a directory -/

/-- Where a path leads whose last step is to this place. -/
def targetAt (files : FileSystem) (place : Location) : Target :=
  match files.get? place with
  | none => .free place
  | some entry => .entry place entry

theorem targetAt_free (h : files.get? place = none) : files.targetAt place = .free place := by
  rw [targetAt, h]

theorem targetAt_entry {entry : Entry} (h : files.get? place = some entry) :
    files.targetAt place = .entry place entry := by
  rw [targetAt, h]

theorem walk_name {follow : Bool} {name : Bytes} (hname : Path.IsStep name)
    (hlink : follow = false ∨ ∀ target, files.get? (place ++ [name]) ≠ some (.link target))
    (links : Nat) :
    files.walk follow links place [name] = .ok (files.targetAt (place ++ [name])) := by
  apply walk_target
  rw [advance_step follow hname, targetAt]
  cases hentry : files.get? (place ++ [name]) with
  | none => rfl
  | some entry =>
    cases entry with
    | directory owner =>
      show advance files follow (place ++ [name]) [] = _
      rw [advance, hentry]
      rfl
    | file owner contents => rfl
    | link path =>
      rcases hlink with rfl | hlink
      · rfl
      · exact absurd hentry (hlink path)

section

variable {directory : Location} {root : Path} {name : Bytes} {entry : Entry} {owner : UInt32}

/-- A path that leads anywhere is not empty, and its names lead there. -/
theorem walk_of_locate (hdir : files.get? place = some (.directory owner))
    (h : files.locate directory root = .ok (.entry place entry)) :
    root.bytes ≠ [] ∧
      ∃ entry', files.walk true linkLimit (startOf directory root) root.names =
        .ok (.entry place entry') := by
  obtain ⟨hcheck, hwalk⟩ := walk_of_checked h
  refine ⟨?_, ?_⟩
  · intro hempty
    rw [checkPath, hempty] at hcheck
    cases hcheck
  · rw [Path.steps] at hwalk
    split at hwalk
    · exact walk_of_dot hdir hwalk
    · exact ⟨entry, hwalk⟩

variable (hdir : files.get? place = some (.directory owner))
  (hroot : files.locate directory root = .ok (.entry place entry)) (hname : Path.IsName name)

include hdir hroot hname

theorem walk_join (follow : Bool)
    (hlink : follow = false ∨ ∀ target, files.get? (place ++ [name]) ≠ some (.link target)) :
    files.walk follow linkLimit (startOf directory (root.join name)) (root.names ++ [name]) =
      .ok (files.targetAt (place ++ [name])) := by
  obtain ⟨hne, entry', hwalk⟩ := walk_of_locate hdir hroot
  obtain ⟨left, hleft⟩ := walk_append follow hdir (List.cons_ne_nil name []) hwalk
  rw [startOf, Path.isAbsolute_join hne, ← startOf, hleft, walk_name hname.toIsStep hlink]

/-- **The entry of a name behind a path to a directory.** -/
theorem locateName_join :
    files.locateName directory (root.join name) =
      (checkPath (root.join name)).map fun _ => files.targetAt (place ++ [name]) := by
  rw [locateName, Path.names_join (walk_of_locate hdir hroot).1 hname,
    walk_join hdir hroot hname false (.inl rfl)]
  cases checkPath (root.join name) <;> rfl

/-- **Where a name behind a path to a directory leads**, if it is none of a link. -/
theorem locate_join (hlink : ∀ target, files.get? (place ++ [name]) ≠ some (.link target)) :
    files.locate directory (root.join name) =
      (checkPath (root.join name)).map fun _ => files.targetAt (place ++ [name]) := by
  rw [locate, Path.steps_join (walk_of_locate hdir hroot).1 hname,
    walk_join hdir hroot hname true (.inr hlink)]
  cases checkPath (root.join name) <;> rfl

end

end FileSystem

end DisplaySession
