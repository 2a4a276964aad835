import DisplaySession.Text.Lines

/-
How an error is printed: what was being done, and why it did not work.

The reasons follow from the outermost to the innermost. One reason is indented; several are
numbered. Later lines of a reason stand below its first one.
-/
set_option autoImplicit false

namespace DisplaySession

namespace CommandLine

/-- A text with one beginning before its first line and another before each later line. -/
def indented (first later text : String) : String :=
  first ++ ("\n" ++ later).intercalate ((Text.split '\n' text.toList).map String.ofList)

/-- A number at the right end of five places. -/
def rightAligned (n : Nat) : String :=
  String.ofList (List.replicate (5 - n.repr.length) ' ') ++ n.repr

/-- A reason with its number. -/
def numbered (reason : String) (n : Nat) : String :=
  indented (rightAligned n ++ ": ") "       " reason

/-- The lines of the reasons. -/
def reasonLines : List String → List String
  | [reason] => [indented "    " "    " reason]
  | reasons => reasons.mapIdx fun n reason => numbered reason n

/-- **The text of an error.** -/
def complaint (doing : String) (reasons : List String) : String :=
  let head := "Error: " ++ doing
  if reasons = [] then head ++ "\n"
  else head ++ "\n\nCaused by:\n" ++ "\n".intercalate (reasonLines reasons) ++ "\n"

end CommandLine

end DisplaySession
