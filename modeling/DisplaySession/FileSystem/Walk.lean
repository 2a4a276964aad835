import DisplaySession.Cause
import DisplaySession.FileSystem.Basic

/-
Following a path.

A path is followed one name at a time, from the root or from the working directory. A link on the
way is replaced by its target, and a last name that is a link is followed or not, as the caller
wishes. Three limits apply: to the length of a name, to the length of a path, and to the number of
links.

Between two links the walk goes down the names of the path, and each link uses up one of the links
that are allowed. So following a path always ends, also in a circle of links.
-/
set_option autoImplicit false

namespace DisplaySession

/-- **Where a path leads.** -/
inductive Target
  /-- To an entry. -/
  | entry (place : Location) (entry : Entry)
  /-- To a free place in a directory. -/
  | free (place : Location)
  deriving DecidableEq

namespace FileSystem

/-- The most bytes that a name may have. -/
def nameLimit : Nat := 255

/-- The number of bytes that is too many for a path. -/
def pathLimit : Nat := 4096

/-- The most links that are followed. -/
def linkLimit : Nat := 40

/-- Where a walk stops when it follows no link. -/
inductive Stop
  /-- At the end of the path. -/
  | target (target : Target)
  /-- At a link in this directory, with these names still to go. -/
  | link (directory : Location) (path : Path) (rest : List Bytes)
  /-- Nowhere, for this reason. -/
  | refused (cause : Cause)

/-- **Goes down the names of a path to the next link.** -/
def advance (files : FileSystem) (follow : Bool) (here : Location) : List Bytes → Stop
  | [] => .target (.entry here ((files.get? here).getD (.directory 0)))
  | name :: rest =>
    if name = Path.dot then advance files follow here rest
    else if name = Path.dotDot then advance files follow here.dropLast rest
    else if nameLimit < name.length then .refused .nameTooLong
    else
      match files.get? (here ++ [name]) with
      | none => if rest = [] then .target (.free (here ++ [name])) else .refused .noEntry
      | some (.directory _) => advance files follow (here ++ [name]) rest
      | some (.file owner contents) =>
        if rest = [] then .target (.entry (here ++ [name]) (.file owner contents))
        else .refused .noDirectory
      | some (.link path) =>
        if rest = [] ∧ follow = false then .target (.entry (here ++ [name]) (.link path))
        else .link here path rest

/-- The directory in which a path starts. -/
def startOf (directory : Location) (path : Path) : Location :=
  if path.isAbsolute then [] else directory

/-- **Follows names and links**, as long as links are left. -/
def walk (files : FileSystem) (follow : Bool) :
    (links : Nat) → Location → List Bytes → Except Cause Target
  | links, here, names =>
    match advance files follow here names with
    | .target target => .ok target
    | .refused cause => .error cause
    | .link directory path rest =>
      match links with
      | 0 => .error .tooManyLinks
      | links + 1 => walk files follow links (startOf directory path) (path.steps ++ rest)

/-- What no path may be. -/
def checkPath (path : Path) : Except Cause Unit :=
  if 0 ∈ path.bytes then .error .nulInPath
  else if path.bytes = [] then .error .noEntry
  else if pathLimit ≤ path.bytes.length then .error .nameTooLong
  else .ok ()

/-- **Where a path leads**, from a working directory, with its last link followed. -/
def locate (files : FileSystem) (directory : Location) (path : Path) : Except Cause Target := do
  checkPath path
  files.walk true linkLimit (startOf directory path) path.steps

/-- **Which entry a path names**, from a working directory: its last name is not followed. -/
def locateName (files : FileSystem) (directory : Location) (path : Path) :
    Except Cause Target := do
  checkPath path
  files.walk false linkLimit (startOf directory path) path.names

end FileSystem

end DisplaySession
