import DisplaySession.Path

/-
Where the display of a user id keeps its screen.
-/
set_option autoImplicit false

namespace DisplaySession

/-- The name of the screen file. -/
def screenName : Bytes :=
  Utf8.ofString "Xvfb_screen0"

/-- **The places of a display** (`SessionLayout`). -/
structure Layout where
  /-- The directory that belongs to the display. -/
  scratch : Path
  /-- The screen file in it. -/
  screen : Path
  deriving DecidableEq

/-- **The layout of a user id**: a directory named by the id in digits, and the screen file in it.
-/
def Layout.of (root : Path) (uid : UInt32) : Layout :=
  let scratch := root.join (Utf8.ofString uid.toNat.repr)
  ⟨scratch, scratch.join screenName⟩

end DisplaySession
