import DisplaySession.Toml.Value

/-
Writing settings.

A text is written in the plainest of five styles that can hold it: between quotes if nothing in it
needs care; between apostrophes; as a block between three quotes or between three apostrophes;
and, if none of these holds it, with escapes. A text with a line feed is written as a block, which
then begins on a line of its own, because a line feed just behind the opening is no part of a
block.

Inside quotes a backslash and the controls are escaped. In a block a quote may stand alone or in a
pair, and every third one in a row is escaped, so that three never come together.
-/
set_option autoImplicit false

namespace DisplaySession.Toml

/-! ## What a text needs -/

/-- A control that is neither a tab nor a line feed. -/
def isSpecial (c : Char) : Bool :=
  (c.toNat ≤ 0x1f && c != '\t' && c != '\n') || c == '\x7f'

/-- The length of the longest run of a character, given the length of the run that is open. -/
def longestRun (c : Char) (open' : Nat) : List Char → Nat
  | [] => open'
  | d :: ds => if d = c then longestRun c (open' + 1) ds else max open' (longestRun c 0 ds)

/-- **The styles of a text.** -/
inductive Style
  /-- Between quotes. -/
  | basic
  /-- Between apostrophes. -/
  | literal
  /-- Between three quotes. -/
  | basicBlock
  /-- Between three apostrophes. -/
  | literalBlock
  deriving DecidableEq

/-- **The style of a text.** -/
def styleOf (cs : List Char) : Style :=
  let special := cs.any isSpecial
  let backslash := cs.elem '\\'
  let lines := cs.elem '\n'
  let quotes := longestRun '"' 0 cs
  let apostrophes := longestRun '\'' 0 cs
  if !special && !backslash && quotes = 0 && !lines then .basic
  else if !special && apostrophes = 0 && !lines then .literal
  else if !special && !backslash && quotes ≤ 2 then .basicBlock
  else if !special && apostrophes ≤ 2 then .literalBlock
  else if lines then .basicBlock
  else .basic

/-! ## Writing a text -/

/-- Four digits of a code point below `10000`. -/
def hex4 (n : Nat) : List Char :=
  let digit (d : Nat) : Char := if d < 10 then Char.ofNat (48 + d) else Char.ofNat (55 + d)
  [digit (n / 4096 % 16), digit (n / 256 % 16), digit (n / 16 % 16), digit (n % 16)]

/-- A character inside quotes that is no quote; a line feed stands for itself only in a block. -/
def escapeChar (block : Bool) (c : Char) : List Char :=
  if c = '\x08' then ['\\', 'b']
  else if c = '\t' then ['\\', 't']
  else if c = '\n' then (if block then ['\n'] else ['\\', 'n'])
  else if c = '\x0c' then ['\\', 'f']
  else if c = '\r' then ['\\', 'r']
  else if c = '\\' then ['\\', '\\']
  else if c.toNat ≤ 0x1f ∨ c = '\x7f' then '\\' :: 'u' :: hex4 c.toNat
  else [c]

/-- The number of quotes in a row that need no escape. -/
def freeQuotes (block : Bool) : Nat :=
  if block then 2 else 0

/-- The inside of quotes. `free` counts the quotes that may still come without an escape. -/
def escape (block : Bool) (free : Nat) : List Char → List Char
  | [] => []
  | c :: cs =>
    if c = '"' then
      match free with
      | 0 => '\\' :: '"' :: escape block (freeQuotes block) cs
      | free + 1 => '"' :: escape block free cs
    else escapeChar block c ++ escape block (freeQuotes block) cs

/-- The line feed behind the opening of a block that holds line feeds. -/
def opening (cs : List Char) : List Char :=
  if cs.elem '\n' then ['\n'] else []

/-- **A text in a style.** -/
def writeStyled : Style → List Char → List Char
  | .basic, cs => '"' :: (escape false (freeQuotes false) cs ++ ['"'])
  | .literal, cs => '\'' :: (cs ++ ['\''])
  | .basicBlock, cs =>
    ['"', '"', '"'] ++ opening cs ++ escape true (freeQuotes true) cs ++ ['"', '"', '"']
  | .literalBlock, cs => ['\'', '\'', '\''] ++ opening cs ++ cs ++ ['\'', '\'', '\'']

/-- **A text.** -/
def writeText (cs : List Char) : List Char :=
  writeStyled (styleOf cs) cs

/-! ## Writing sections -/

/-- A value that a setting has. -/
inductive Setting
  | text (s : String)
  | number (n : Nat)
  deriving DecidableEq

/-- **A section**: its name, and its settings by key. -/
structure Section where
  name : String
  settings : List (String × Setting)

/-- The value of a setting. -/
def writeSetting : Setting → List Char
  | .text s => writeText s.toList
  | .number n => Nat.toDigits 10 n

/-- One setting on a line. -/
def writePair (pair : String × Setting) : List Char :=
  pair.1.toList ++ [' ', '=', ' '] ++ writeSetting pair.2 ++ ['\n']

/-- A section with its name in front. -/
def writeSection (s : Section) : List Char :=
  '[' :: (s.name.toList ++ [']', '\n'] ++ s.settings.flatMap writePair)

/-- **A document**: sections with an empty line between them. -/
def writeSections (sections : List Section) : List Char :=
  ['\n'].intercalate (sections.map writeSection)

end DisplaySession.Toml
