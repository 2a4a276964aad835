import DisplaySession.Text.Utf8

/-
Paths as the system sees them: any run of bytes.

A path is shown leniently, so showing is not injective: two paths that differ only in bytes that are
no text look alike. Whatever has to name the same file again must keep the path and not its text.
-/
set_option autoImplicit false

namespace DisplaySession

/-- The byte that separates the names of a path. -/
def slash : UInt8 := 0x2f

/-- **A path**: bytes, with nothing said about whether they are text. -/
structure Path where
  /-- The bytes of the path. -/
  bytes : Bytes
  deriving DecidableEq

namespace Path

/-- The path that a text spells. -/
def ofString (text : String) : Path :=
  ⟨Utf8.ofString text⟩

/-- The path as messages and arguments show it. -/
def shown (path : Path) : String :=
  Utf8.shown path.bytes

/-- The path's text, if its bytes are one. -/
def text? (path : Path) : Option String :=
  (Utf8.decode? path.bytes).map String.ofList

/-- A path that starts at the root. -/
def isAbsolute (path : Path) : Bool :=
  path.bytes.head? == some slash

/-- **A name below a path.** One separator stands between them, unless the path is empty or already
ends in one. -/
def join (path : Path) (name : Bytes) : Path :=
  if path.bytes = [] ∨ path.bytes.getLast? = some slash then ⟨path.bytes ++ name⟩
  else ⟨path.bytes ++ slash :: name⟩

/-- The pieces of some bytes between the separators in them, always at least one. -/
def pieces (separator : UInt8) : Bytes → List Bytes
  | [] => [[]]
  | b :: bs =>
    if b = separator then [] :: pieces separator bs
    else
      match pieces separator bs with
      | [] => [[b]]
      | piece :: rest => (b :: piece) :: rest

/-- **The names of a path**, in the order in which they are followed. Separators that stand together
say no more than one of them. -/
def names (path : Path) : List Bytes :=
  (pieces slash path.bytes).filter (· ≠ [])

/-- One dot: the directory itself. -/
def dot : Bytes := [0x2e]

/-- Two dots: the directory above. -/
def dotDot : Bytes := [0x2e, 0x2e]

/-- **The steps of a path.** A separator at the end asks for a directory, as a last step to the
directory itself does. -/
def steps (path : Path) : List Bytes :=
  if path.bytes.getLast? = some slash then path.names ++ [dot] else path.names

end Path

end DisplaySession
