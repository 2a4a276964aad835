import DisplaySession.Account.Identity
import DisplaySession.Proofs.Session.Scratch

/-
The places of one user id are isolated from those of every other.

What is inside of what is a matter of components and not of bytes: the bytes of the directory of id
100 begin those of the directory of id 1000, and yet neither is inside the other. A scratch
directory is its root with one component more, the id in digits (`components_scratch`). Two paths
that are equally long and begin one path are the same, so no path lies in the directories of two ids
(`uid_eq_of_isWithin`), and all that is said about them follows from this.

The root has no part in the argument. It may be empty, end in any number of separators, or have dots
in it.
-/
set_option autoImplicit false

namespace DisplaySession

/-! ## Paths by their components -/

/-- **A component of a path.** -/
inductive Component where
  /-- The root, where an absolute path starts. -/
  | root
  /-- A name; one dot and two dots are names, too. -/
  | name (bytes : Bytes)
  deriving DecidableEq

namespace Path

/-- **The components of a path**, in order. It does not count how many separators stand between two
names or at the end. One dot says nothing, unless a relative path begins with it; two dots are a
component like any other, and the one in front of them stays. -/
def components (path : Path) : List Component :=
  if path.isAbsolute then .root :: (path.names.filter (· ≠ dot)).map .name
  else
    match path.names with
    | [] => []
    | first :: rest => .name first :: (rest.filter (· ≠ dot)).map .name

/-- **A path is at another one or below it**: its components begin with those of the other. -/
def IsWithin (path directory : Path) : Prop :=
  directory.components <+: path.components

theorem isWithin_refl (path : Path) : path.IsWithin path :=
  List.prefix_refl _

/-- Where a path lies is the same for all of its spellings. -/
theorem isWithin_congr {path other directory : Path} (h : path.components = other.components) :
    path.IsWithin directory ↔ other.IsWithin directory := by
  rw [IsWithin, IsWithin, h]

variable {name : Bytes}

theorem components_name (hname : IsName name) : (⟨name⟩ : Path).components = [.name name] := by
  have hrelative : (⟨name⟩ : Path).isAbsolute = false := by
    rw [isAbsolute, beq_eq_false_iff_ne]
    exact fun hhead => hname.whole (List.mem_of_mem_head? hhead)
  have hnames : (⟨name⟩ : Path).names = [name] := by
    rw [names, pieces_of_not_mem hname.whole]
    simp [hname.nonempty]
  rw [components, hrelative, hnames]
  rfl

/-- **A name below a path is one component more**, whatever the path is. -/
theorem components_join (root : Path) (hname : IsName name) :
    (root.join name).components = root.components ++ [.name name] := by
  have hkept : [name].filter (· ≠ dot) = [name] := by simp [hname.notDot]
  by_cases hroot : root.bytes = []
  · -- An empty path puts nothing in front of the name, not even a separator.
    have hempty : root = ⟨[]⟩ := congrArg mk hroot
    rw [hempty, join, if_pos (.inl rfl)]
    exact components_name hname
  rw [components, components, isAbsolute_join hroot, names_join hroot hname]
  split
  · rw [List.filter_append, hkept, List.map_append]
    rfl
  · cases root.names with
    | nil => rfl
    | cons first rest =>
      rw [List.cons_append]
      simp only [List.filter_append, hkept, List.map_append]
      rfl

/-- Separators and dots at the end of a path do not come between its components and the name. -/
example :
    ((Path.ofString "./tmp/.//").join (Utf8.ofString "7")).components =
      (Path.ofString "./tmp/7").components := by
  decide

end Path

/-! ## The places of a user id -/

theorem isName_screenName : Path.IsName screenName :=
  ⟨⟨by decide, by decide, by decide⟩, by decide, by decide⟩

namespace Layout

/-- **A scratch directory lies directly in the scratch root.** -/
theorem components_scratch (root : Path) (uid : UInt32) :
    (Layout.of root uid).scratch.components = root.components ++ [.name (scratchName uid)] :=
  Path.components_join root (isName_scratchName uid)

/-- **A screen file lies directly in its scratch directory.** -/
theorem components_screen (root : Path) (uid : UInt32) :
    (Layout.of root uid).screen.components =
      (Layout.of root uid).scratch.components ++ [.name screenName] :=
  Path.components_join (Layout.of root uid).scratch isName_screenName

theorem screen_isWithin (root : Path) (uid : UInt32) :
    (Layout.of root uid).screen.IsWithin (Layout.of root uid).scratch := by
  rw [Path.IsWithin, components_screen]
  exact List.prefix_append _ _

/-- **No path lies in the scratch directories of two user ids.** -/
theorem uid_eq_of_isWithin {root path : Path} {uid other : UInt32}
    (h : path.IsWithin (Layout.of root uid).scratch)
    (hother : path.IsWithin (Layout.of root other).scratch) : uid = other := by
  have hlength : (Layout.of root uid).scratch.components.length =
      (Layout.of root other).scratch.components.length := by
    simp [components_scratch]
  have hsame : (Layout.of root uid).scratch.components =
      (Layout.of root other).scratch.components :=
    (List.prefix_of_prefix_length_le h hother hlength.le).eq_of_length hlength
  rw [components_scratch, components_scratch] at hsame
  have hname := List.singleton_inj.mp (List.append_cancel_left hsame)
  exact scratchName_injective (Component.name.inj hname)

/-- **The places of two displays are isolated from each other.** Different components make different
paths, however the two are spelled. -/
structure Isolated (layout other : Layout) : Prop where
  /-- The directories are different paths. -/
  directories : layout.scratch.components ≠ other.scratch.components
  /-- The screen files are different paths. -/
  screens : layout.screen.components ≠ other.screen.components
  /-- Neither directory is inside the other one. -/
  apart : ¬layout.scratch.IsWithin other.scratch ∧ ¬other.scratch.IsWithin layout.scratch
  /-- Neither screen file is inside the directory of the other display. -/
  outside : ¬layout.screen.IsWithin other.scratch ∧ ¬other.screen.IsWithin layout.scratch

end Layout

/-! ## The names of displays -/

theorem displayName_injective : Function.Injective displayName := by
  intro uid other h
  have hdigits : uid.toNat.repr.toList = other.toNat.repr.toList := by
    simpa [displayName] using congrArg String.toList h
  exact UInt32.toNat_inj.mp (Text.repr_injective (String.toList_injective hdigits))

/-! ## Isolation -/

/-- **The places of different user ids are isolated**, whatever the scratch root is.

* Their directories and their screen files are different paths.
* Neither directory is inside the other one, and neither screen file is inside the directory of the
  other id.
* Each screen file lies directly in its own directory.
* The names of their displays differ. -/
theorem places_isolated (root : Path) {uid other : UInt32} (h : uid ≠ other) :
    (Layout.of root uid).Isolated (Layout.of root other) ∧
      (∀ id, (Layout.of root id).screen.components =
        (Layout.of root id).scratch.components ++ [.name screenName]) ∧
      displayName uid ≠ displayName other := by
  have hself (id : UInt32) : (Layout.of root id).scratch.IsWithin (Layout.of root id).scratch :=
    Path.isWithin_refl _
  have hscreen := Layout.screen_isWithin root
  refine ⟨⟨?directories, ?screens, ?apart, ?outside⟩, Layout.components_screen root,
    displayName_injective.ne h⟩
  case directories =>
    -- Whatever is the same path as a directory is inside of what the directory is inside of.
    intro hsame
    have hin : (Layout.of root uid).scratch.IsWithin (Layout.of root other).scratch :=
      (Path.isWithin_congr hsame).mpr (hself other)
    exact h (Layout.uid_eq_of_isWithin (hself uid) hin)
  case screens =>
    intro hsame
    have hin : (Layout.of root uid).screen.IsWithin (Layout.of root other).scratch :=
      (Path.isWithin_congr hsame).mpr (hscreen other)
    exact h (Layout.uid_eq_of_isWithin (hscreen uid) hin)
  case apart =>
    exact ⟨fun hin => h (Layout.uid_eq_of_isWithin (hself uid) hin),
      fun hin => h (Layout.uid_eq_of_isWithin hin (hself other))⟩
  case outside =>
    exact ⟨fun hin => h (Layout.uid_eq_of_isWithin (hscreen uid) hin),
      fun hin => h (Layout.uid_eq_of_isWithin hin (hscreen other))⟩

/-- The directory of one id can begin that of another one as a run of bytes, also behind a root that
ends in separators. -/
theorem places_isolated_begun :
    (100 : UInt32) ≠ 1000 ∧
      (Layout.of (.ofString "/var/tmp//") 100).scratch.bytes <+:
        (Layout.of (.ofString "/var/tmp//") 1000).scratch.bytes ∧
      (Layout.of (.ofString "/var/tmp//") 100).Isolated
        (Layout.of (.ofString "/var/tmp//") 1000) ∧
      (∀ id, (Layout.of (.ofString "/var/tmp//") id).screen.components =
        (Layout.of (.ofString "/var/tmp//") id).scratch.components ++ [.name screenName]) ∧
      displayName 100 ≠ displayName 1000 :=
  ⟨by decide, by decide, places_isolated (.ofString "/var/tmp//") (by decide)⟩

end DisplaySession
