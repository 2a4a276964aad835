/-
Cutting a text at a separator, and into lines.

`split` keeps every piece, empty ones too. Lines are cut at line feeds; a carriage return just before
the line feed belongs to the line end, and a line feed at the very end of a text starts no further
line.
-/
set_option autoImplicit false

namespace DisplaySession.Text

/-- **The pieces between separators**, always at least one. -/
def split (separator : Char) : List Char → List (List Char)
  | [] => [[]]
  | c :: cs =>
    if c = separator then [] :: split separator cs
    else
      match split separator cs with
      | [] => [[c]]
      | piece :: pieces => (c :: piece) :: pieces

/-- There is always a first piece. -/
theorem split_ne_nil (separator : Char) (cs : List Char) : split separator cs ≠ [] := by
  cases cs with
  | nil => simp [split]
  | cons c cs =>
    simp only [split]
    split
    · simp
    · split <;> simp

/-- A text without the separator is one piece. -/
theorem split_of_not_mem {separator : Char} {cs : List Char} (h : separator ∉ cs) :
    split separator cs = [cs] := by
  induction cs with
  | nil => rfl
  | cons c cs ih =>
    rw [List.mem_cons, not_or] at h
    rw [split, if_neg (Ne.symm h.1), ih h.2]

/-- Takes off one carriage return that ends a line. -/
def dropReturn (cs : List Char) : List Char :=
  if cs.getLast? = some '\r' then cs.dropLast else cs

/-- The lines of a text whose pieces between line feeds are given: every piece but the last was
ended by a line feed, and an empty last piece is no line. -/
def linesOfPieces (pieces : List (List Char)) : List (List Char) :=
  pieces.dropLast.map dropReturn ++
    (match pieces.getLast? with
    | none | some [] => []
    | some last => [last])

/-- **The lines of a text.** -/
def lines (cs : List Char) : List (List Char) :=
  linesOfPieces (split '\n' cs)

/-- The text before the first of some marks, and the text behind that mark, if there is one. -/
def cutAt (isMark : Char → Bool) (cs : List Char) : List Char × Option (List Char) :=
  match cs.dropWhile (!isMark ·) with
  | [] => (cs, none)
  | _ :: rest => (cs.takeWhile (!isMark ·), some rest)

end DisplaySession.Text
