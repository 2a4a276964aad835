import DisplaySession.FileSystem.Walk
import DisplaySession.Host

/-
What is done with files: making and removing them, reading them, asking for them.

Directories and files are made with the permissions that only their owner and the superuser may
change them and that everybody may read them. A working directory and the user who acts are given
to each operation. An operation that fails changes nothing.
-/
set_option autoImplicit false

namespace DisplaySession

namespace FileSystem

/-- The user id of the superuser. -/
def superuserId : UInt32 := 0

/-- May this user change what is at a place? -/
def mayChange (user owner : UInt32) : Bool :=
  user = superuserId ∨ user = owner

/-- The owner of a directory; nobody owns what is none. -/
def directoryOwner? (files : FileSystem) (place : Location) : Option UInt32 :=
  match files.get? place with
  | some (.directory owner) => some owner
  | _ => none

/-- May this user put something at a place? -/
def mayAddAt (files : FileSystem) (user : UInt32) (place : Location) : Bool :=
  (files.directoryOwner? place.dropLast).any (mayChange user)

/-- Puts an entry at a free place. -/
def add (files : FileSystem) (user : UInt32) (place : Location) (entry : Entry) :
    Except Cause FileSystem :=
  if files.mayAddAt user place then .ok (files.set place entry) else .error .accessDenied

/-! ## Directories and what paths lead to -/

/-- **Makes a directory.** Whatever the path names already, a link to nowhere included, is in the
way. -/
def createDirectory (files : FileSystem) (directory : Location) (user : UInt32) (path : Path) :
    Except Cause FileSystem := do
  match ← files.locateName directory path with
  | .entry _ _ => .error .nameTaken
  | .free place => files.add user place (.directory user)

/-- What is known of an entry. -/
def describe : Entry → Except Cause Metadata
  | .directory owner => .ok ⟨true, owner⟩
  | .file owner _ => .ok ⟨false, owner⟩
  | .link _ => .error .tooManyLinks

/-- **What a path leads to**, links followed. -/
def metadata (files : FileSystem) (directory : Location) (path : Path) :
    Except Cause Metadata := do
  match ← files.locate directory path with
  | .free _ => .error .noEntry
  | .entry _ entry => describe entry

/-- Does a path lead to anything? -/
def isPresent (files : FileSystem) (directory : Location) (path : Path) : Bool :=
  (files.metadata directory path).isOk

/-- Does a path lead to a file? -/
def isFile (files : FileSystem) (directory : Location) (path : Path) : Bool :=
  match files.metadata directory path with
  | .ok found => !found.isDirectory
  | .error _ => false

/-- **The contents of a file.** -/
def read (files : FileSystem) (directory : Location) (path : Path) : Except Cause Bytes := do
  match ← files.locate directory path with
  | .free _ => .error .noEntry
  | .entry _ (.file _ contents) => .ok contents
  | .entry _ _ => .error .isDirectory

/-! ## Changes -/

/-- **Writes a file**, behind its links; a file that is not there is made. -/
def write (files : FileSystem) (directory : Location) (user : UInt32) (path : Path)
    (contents : Bytes) : Except Cause FileSystem := do
  match ← files.locate directory path with
  | .free place => files.add user place (.file user contents)
  | .entry place (.file owner _) =>
    if mayChange user owner then .ok (files.set place (.file owner contents))
    else .error .accessDenied
  | .entry _ _ => .error .isDirectory

/-- **Makes a link.** -/
def createLink (files : FileSystem) (directory : Location) (user : UInt32) (path target : Path) :
    Except Cause FileSystem := do
  match ← files.locateName directory path with
  | .entry _ _ => .error .nameTaken
  | .free place => files.add user place (.link target)

/-- The user id that stands for "leave it as it is". -/
def unchangedId : UInt32 := 0xffffffff

/-- An entry with another owner. -/
def withOwner (owner : UInt32) : Entry → Entry
  | .directory _ => .directory owner
  | .file _ contents => .file owner contents
  | .link target => .link target

/-- The owner of what a path leads to, and the place. -/
def ownedPlace (files : FileSystem) (directory : Location) (path : Path) :
    Except Cause (Location × Entry × UInt32) := do
  match ← files.locate directory path with
  | .free _ => .error .noEntry
  | .entry place entry => return (place, entry, (← describe entry).owner)

/-- **Gives a file away**, behind its links. A process that may not give files away can still give
one to the owner it has. -/
def changeOwner (files : FileSystem) (directory : Location) (mayGiveAway : Bool) (path : Path)
    (owner : UInt32) : Except Cause FileSystem := do
  let (place, entry, current) ← files.ownedPlace directory path
  if owner = unchangedId ∨ owner = current then .ok files
  else if mayGiveAway then .ok (files.set place (withOwner owner entry))
  else .error .notPermitted

/-- Takes an entry away that is no directory. -/
def removeFile (files : FileSystem) (directory : Location) (path : Path) :
    Except Cause FileSystem := do
  match ← files.locateName directory path with
  | .free _ => .error .noEntry
  | .entry _ (.directory _) => .error .isDirectory
  | .entry place _ => .ok (files.remove place)

/-- Takes a directory away with everything in it. -/
def removeTree (files : FileSystem) (directory : Location) (path : Path) :
    Except Cause FileSystem := do
  match ← files.locateName directory path with
  | .free _ => .error .noEntry
  | .entry _ (.file ..) => .error .noDirectory
  | .entry place _ => .ok (files.remove place)

/-- A directory is at the end of a path, or is made there. -/
def provideDirectory (files : FileSystem) (directory : Location) (user : UInt32) (path : Path) :
    Except Cause FileSystem :=
  match files.createDirectory directory user path with
  | .ok files' => .ok files'
  | .error cause =>
    match files.metadata directory path with
    | .ok found => if found.isDirectory then .ok files else .error cause
    | .error _ => .error cause

/-- The paths that lead to the directories on the way to a path, the path itself last. -/
def pathsTo (path : Path) : List Path :=
  (List.range path.names.length).map fun n =>
    let joined := [slash].intercalate (path.names.take (n + 1))
    ⟨if path.isAbsolute then slash :: joined else joined⟩

/-- **Makes a directory and the directories on the way to it.** -/
def createDirectories (files : FileSystem) (directory : Location) (user : UInt32) (path : Path) :
    Except Cause FileSystem :=
  (pathsTo path).foldlM (fun files p => files.provideDirectory directory user p) files

/-! ## A file system as a place that keeps directories -/

/-- Does something that may fail; a failure leaves the files as they were. -/
def attempt (change : FileSystem → Except Cause FileSystem) (files : FileSystem) :
    Except Cause Unit × FileSystem :=
  match change files with
  | .ok files' => (.ok (), files')
  | .error cause => (.error cause, files)

/-- **A file system with a working directory and a user who acts on it.** -/
def storage (directory : Location) (user : UInt32) : Storage FileSystem where
  createDirectory path := attempt fun files => files.createDirectory directory user path
  metadata path files := files.metadata directory path

end FileSystem

/-! ## Prepared changes -/

/-- **A change that prepares a scene.** -/
inductive FileEdit
  | makeDirectories (path : Path)
  | writeFile (path : Path) (contents : Bytes)
  | makeLink (path target : Path)
  | giveAway (path : Path) (owner : UInt32)
  | removeFile (path : Path)
  | removeTree (path : Path)

/-- **Makes a change** as the superuser. -/
def FileEdit.apply (directory : Location) (mayGiveAway : Bool) (files : FileSystem) :
    FileEdit → Except Cause FileSystem
  | .makeDirectories path => files.createDirectories directory FileSystem.superuserId path
  | .writeFile path contents => files.write directory FileSystem.superuserId path contents
  | .makeLink path target => files.createLink directory FileSystem.superuserId path target
  | .giveAway path owner => files.changeOwner directory mayGiveAway path owner
  | .removeFile path => files.removeFile directory path
  | .removeTree path => files.removeTree directory path

end DisplaySession
