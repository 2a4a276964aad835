import DisplaySession.Text.Utf8

/-
Text without the control sequences of terminals.

What is shown on a terminal may hold sequences that move the cursor or set colours. When the output
is no terminal they are left out, and so are the controls that are no white space. A sequence begins
with an escape; the byte behind it tells its kind, and the kind tells which byte ends it. A sequence
that never ends takes the rest of the text with it.

The reader goes over the bytes in two ways by turns. It passes over bytes until one of them is to be
shown, and then shows bytes until one of them is not. While it shows, it reads every byte as plain
text, but it does not forget a sequence that it was in: a line end inside a sequence is shown, the
text behind it, too, and the first byte that is not shown is read as a part of that sequence.
-/
set_option autoImplicit false

namespace DisplaySession.Text

/-- **Where in the text a byte stands.** -/
inductive Place
  /-- Outside of every sequence. -/
  | plain
  /-- Inside a character, with so many bytes of it to come. -/
  | character (left : Nat)
  /-- Behind an escape. -/
  | escape
  /-- In a short sequence, which its next letter ends. -/
  | shortSequence
  /-- In a sequence of numbers, which a letter ends. -/
  | numbers
  /-- At the beginning of a device string. -/
  | deviceStart
  /-- Among the numbers of a device string. -/
  | deviceNumbers
  /-- Behind the numbers of a device string. -/
  | deviceMarks
  /-- In a string that only a terminator ends. -/
  | string
  /-- In a command, which a bell ends, too. -/
  | command
  deriving DecidableEq

namespace Place

/-- A control that is shown: tab, line feed, form feed, carriage return. -/
def isShownControl (b : UInt8) : Bool :=
  b == 0x09 || b == 0x0a || b == 0x0c || b == 0x0d

/-- Does a byte stand between two bounds? -/
def within (low high b : UInt8) : Bool :=
  low ≤ b && b ≤ high

/-- A byte that ends a sequence of numbers. -/
def isFinal (b : UInt8) : Bool :=
  within 0x40 0x7e b

/-- The place behind the byte that follows an escape. -/
def behindEscape (b : UInt8) : Place :=
  if within 0x20 0x2f b then .shortSequence
  else if b = 0x5b then .numbers
  else if b = 0x5d then .command
  else if b = 0x50 then .deviceStart
  else if b = 0x58 ∨ b = 0x5e ∨ b = 0x5f then .string
  else if within 0x30 0x7e b then .plain
  else .escape

/-- The place behind a byte of the head of a device string. -/
def behindDevice (here : Place) (b : UInt8) : Place :=
  if isFinal b then .string
  else if within 0x20 0x2f b then .deviceMarks
  else if within 0x30 0x3f b then
    match here with
    | .deviceStart => .deviceNumbers
    | .deviceNumbers => if b ≤ 0x3b then .deviceNumbers else .string
    | _ => .string
  else here

/-- **The place behind a byte**, when the byte is read as one of this place. -/
def next (here : Place) (b : UInt8) : Place :=
  if b = 0x1b then .escape
  else if b = 0x18 ∨ b = 0x1a then .plain
  else
    match here with
    | .plain =>
      if within 0xc2 0xdf b then .character 1
      else if within 0xe0 0xef b then .character 2
      else if within 0xf0 0xf4 b then .character 3
      else .plain
    | .character left => .character left
    | .escape => behindEscape b
    | .shortSequence => if within 0x30 0x7e b then .plain else .shortSequence
    | .numbers => if isFinal b then .plain else .numbers
    | .deviceStart => behindDevice .deviceStart b
    | .deviceNumbers => behindDevice .deviceNumbers b
    | .deviceMarks => behindDevice .deviceMarks b
    | .string => if b = 0x9c then .plain else .string
    | .command => if b = 0x07 then .plain else .command

/-- **Is a byte shown**, when it is read as one of this place? -/
def shows (here : Place) (b : UInt8) : Bool :=
  match here with
  | .plain => within 0x20 0x7e b || within 0xc2 0xf4 b || isShownControl b
  | .escape => isShownControl b
  | .shortSequence => isShownControl b
  | .numbers => isShownControl b
  | _ => false

end Place

/-- The state of the reader: the place, and whether the bytes are being shown. -/
structure Reader where
  place : Place
  showing : Bool

namespace Reader

/-- The reader at the beginning of a text. -/
def start : Reader :=
  ⟨.plain, false⟩

/-- Reads a byte that stands at the reader's place. -/
def pass (reader : Reader) (b : UInt8) : Reader × Bool :=
  (⟨reader.place.next b, reader.place.shows b⟩, reader.place.shows b)

/-- Reads a byte as plain text if it is shown there, and otherwise as one that is passed over. Only
a byte that begins something moves the reader. -/
def read (reader : Reader) (b : UInt8) : Reader × Bool :=
  let place := if Place.next .plain b = .plain ∧ b ≠ 0x18 ∧ b ≠ 0x1a then reader.place
    else Place.next .plain b
  if Place.shows .plain b then (⟨place, true⟩, true) else pass ⟨place, false⟩ b

/-- **Reads a byte**: the reader behind it, and whether the byte is shown. -/
def step (reader : Reader) (b : UInt8) : Reader × Bool :=
  match reader.place, reader.showing with
  | .character left, _ => (⟨if left ≤ 1 then .plain else .character (left - 1), true⟩, true)
  | _, true => reader.read b
  | _, false => reader.pass b

end Reader

/-- The bytes that a reader shows. -/
def shownBytes (reader : Reader) : Bytes → Bytes
  | [] => []
  | b :: bs =>
    let (reader', shown) := reader.step b
    if shown then b :: shownBytes reader' bs else shownBytes reader' bs

/-- **A text without control sequences.** -/
def withoutControls (text : String) : String :=
  Utf8.shown (shownBytes .start (Utf8.ofString text))

end DisplaySession.Text
