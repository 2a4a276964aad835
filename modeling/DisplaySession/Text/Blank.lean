/-
White space and control characters, and trimming by white space.

Two classes decide which user names can be looked up and how much of a record, a tool's answer or a
setting is padding. White space is the Unicode property of that name, twenty-five characters in all;
control characters are the general category, the two blocks around printable ASCII. Both are closed
lists that no later edition of the standard changes, so they are written out here.
-/
set_option autoImplicit false

namespace DisplaySession.Text

/-- **White space**: the characters with the Unicode property of that name. -/
def isBlank (c : Char) : Bool :=
  let n := c.toNat
  (9 ≤ n && n ≤ 13) || n == 0x20 || n == 0x85 || n == 0xa0 || n == 0x1680 ||
    (0x2000 ≤ n && n ≤ 0x200a) || n == 0x2028 || n == 0x2029 || n == 0x202f || n == 0x205f ||
    n == 0x3000

/-- **Control characters**: the block below the space, and the block from 7f to 9f. -/
def isControl (c : Char) : Bool :=
  let n := c.toNat
  n ≤ 0x1f || (0x7f ≤ n && n ≤ 0x9f)

/-- Drops the white space a text begins with. -/
def trimStart (cs : List Char) : List Char :=
  cs.dropWhile isBlank

/-- Drops the white space a text ends with. -/
def trimEnd (cs : List Char) : List Char :=
  (cs.reverse.dropWhile isBlank).reverse

/-- Drops the white space at both ends of a text. -/
def trim (cs : List Char) : List Char :=
  trimEnd (trimStart cs)

/-- A text is blank when all of it is white space; the empty text is. -/
def isBlankText (cs : List Char) : Bool :=
  cs.all isBlank

end DisplaySession.Text
