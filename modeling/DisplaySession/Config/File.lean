import DisplaySession.FileSystem.Operations

/-
Which file holds the settings.

The file may be named without its ending. A name that leads to a file is taken as it is; otherwise
the ending is added to its last name. If neither is there, there are no settings in a file, which
is fine.
-/
set_option autoImplicit false

namespace DisplaySession

namespace Config

/-- The ending of a settings file. -/
def fileEnding : Bytes :=
  Utf8.ofString ".toml"

/-- The byte in front of an ending. -/
def point : UInt8 := 0x2e

/-- A path, written backwards, without the separators and the dots that say nothing at its end. -/
def tidiedBackwards : Bytes → Bytes
  | 0x2f :: rest => tidiedBackwards rest
  | 0x2e :: 0x2f :: rest => tidiedBackwards rest
  | bytes => bytes

/-- A path without the separators and the dots that say nothing at its end. -/
def tidied (path : Path) : Path :=
  ⟨(tidiedBackwards path.bytes.reverse).reverse⟩

/-- The name that a path ends with, if that is a name of its own. -/
def lastName? (path : Path) : Option Bytes :=
  (tidied path).names.getLast?.filter fun name => name ≠ Path.dot ∧ name ≠ Path.dotDot

/-- **The length of the ending of a name**, with its point. A point at the beginning of a name
begins no ending. -/
def endingLength (name : Bytes) : Nat :=
  let behind := name.reverse.takeWhile (· ≠ point)
  if behind.length + 1 < name.length then behind.length + 1 else 0

/-- An ending that only stands in for the one that is meant. -/
def standIn : Bytes :=
  Utf8.ofString ".placeholder"

/-- A path whose last name has the ending of a settings file, in place of any other. -/
def replaceEnding? (path : Path) : Option Path :=
  (lastName? path).map fun name =>
    ⟨(tidied path).bytes.take ((tidied path).bytes.length - endingLength name) ++ fileEnding⟩

/-- **A path with the ending of a settings file**, if its last name can have one. An ending that the
name has already stays: another one, which goes behind all of the path, is replaced instead. -/
def withEnding? (path : Path) : Option Path :=
  if (lastName? path).any (endingLength · ≠ 0) then replaceEnding? ⟨path.bytes ++ standIn⟩
  else replaceEnding? path

/-- The files that a path may mean, in the order in which they are tried. -/
def candidates (path : Path) : List Path :=
  path :: (withEnding? path).toList

/-- **The contents of the settings file** that a path means, if there is one. -/
def fileAt (files : FileSystem) (directory : Location) (path : Path) : Option Bytes :=
  ((candidates path).find? (files.isFile directory)).bind fun p =>
    (files.read directory p).toOption

end Config

end DisplaySession
