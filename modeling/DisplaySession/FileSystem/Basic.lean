import DisplaySession.Path

/-
File systems: what is at each place.

A place is named by the names that lead to it from the root, without dots and without links. The
root is always a directory of the superuser; every other place holds a directory, a file, a link
or nothing.
-/
set_option autoImplicit false

namespace DisplaySession

/-- **A place**: the names that lead to it from the root. -/
abbrev Location := List Bytes

/-- **What is at a place.** -/
inductive Entry
  | directory (owner : UInt32)
  | file (owner : UInt32) (contents : Bytes)
  | link (target : Path)
  deriving DecidableEq

/-- **A file system**: entries by place. Of two entries for one place the first one counts. -/
structure FileSystem where
  entries : List (Location × Entry)
  deriving DecidableEq

namespace FileSystem

/-- The file system with nothing but the root. -/
def empty : FileSystem :=
  ⟨[]⟩

/-- **What is at a place.** -/
def get? (files : FileSystem) (place : Location) : Option Entry :=
  if place = [] then some (.directory 0)
  else (files.entries.find? (·.1 = place)).map (·.2)

/-- Puts an entry at a place. -/
def set (files : FileSystem) (place : Location) (entry : Entry) : FileSystem :=
  ⟨(place, entry) :: files.entries.filter (·.1 ≠ place)⟩

/-- Takes away a place and everything below it. -/
def remove (files : FileSystem) (place : Location) : FileSystem :=
  ⟨files.entries.filter fun e => !place.isPrefixOf e.1⟩

/-- Putting an entry at a place changes that place alone. -/
theorem get?_set (files : FileSystem) (place other : Location) (entry : Entry) (h : place ≠ []) :
    (files.set place entry).get? other =
      if other = place then some entry else files.get? other := by
  by_cases ho : other = place
  · subst ho
    simp [get?, set, h]
  · by_cases hr : other = []
    · simp [get?, hr, Ne.symm h]
    · have hp : ¬place = other := fun e => ho e.symm
      simp only [get?, set, hr, if_false, ho, List.find?_cons, hp, decide_false]
      rw [List.find?_filter]
      congr 2
      funext e
      by_cases he : e.1 = other
      · simp [he, ho]
      · simp [he]

end FileSystem

end DisplaySession
