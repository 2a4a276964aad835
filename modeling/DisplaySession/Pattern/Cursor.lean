import DisplaySession.Pattern.Tree
import DisplaySession.Text.Blank
import DisplaySession.Text.Numeral

/-
Going through a pattern, and the numbers in it.

A cursor stands before what is left of a pattern and counts the characters in front of it. Where
the pattern asks for it, white space and comments are passed over; a comment goes from a number
sign to the end of the line.
-/
set_option autoImplicit false

namespace DisplaySession

namespace Pattern

/-- **A place in a pattern that is being read.** -/
structure Cursor where
  rest : List Char
  pos : Nat
  /-- Are white space and comments passed over? -/
  spaced : Bool

/-- A fault between two places. -/
def faultFrom {α : Type} (kind : FaultKind) (start stop : Nat) : Except Fault α :=
  .error (.wrong kind ⟨start, stop⟩ none)

/-- What is left behind white space and comments, and how much that was. -/
def passOver (comment : Bool) (pos : Nat) : List Char → List Char × Nat
  | [] => ([], pos)
  | c :: cs =>
    if comment then passOver (c ≠ '\n') (pos + 1) cs
    else if Text.isBlank c then passOver false (pos + 1) cs
    else if c = '#' then passOver true (pos + 1) cs
    else (c :: cs, pos)

namespace Cursor

/-- Behind one character. -/
def step (c : Cursor) : Cursor :=
  match c.rest with
  | [] => c
  | _ :: cs => { c with rest := cs, pos := c.pos + 1 }

/-- Behind white space and comments, if they are passed over. -/
def skipped (c : Cursor) : Cursor :=
  if c.spaced then
    let (rest, pos) := passOver false c.pos c.rest
    { c with rest, pos }
  else c

/-- Behind one character and what is passed over. -/
def next (c : Cursor) : Cursor :=
  c.step.skipped

/-- Behind white space, which is passed over in any case. -/
def trimmed (c : Cursor) : Cursor :=
  let rest := c.rest.dropWhile Text.isBlank
  { c with rest, pos := c.pos + (c.rest.length - rest.length) }

/-- The character behind the next one. If white space is passed over, so is one number sign. -/
def second (c : Cursor) : Option Char :=
  if c.spaced then
    match c.rest.tail.dropWhile Text.isBlank with
    | '#' :: cs => (cs.dropWhile Text.isBlank).head?
    | cs => cs.head?
  else c.rest.tail.head?

/-- A fault from a place up to here. -/
def fault {α : Type} (c : Cursor) (kind : FaultKind) (start : Nat) : Except Fault α :=
  faultFrom kind start c.pos

/-- A fault at the next character. -/
def faultHere {α : Type} (c : Cursor) (kind : FaultKind) : Except Fault α :=
  faultFrom kind c.pos (c.pos + 1)

end Cursor

/-! ## Numbers -/

/-- The number of so many hexadecimal digits. -/
def hexDigits (value : Nat) : (count : Nat) → Cursor → Except Fault (Nat × Cursor)
  | 0, c => .ok (value, c)
  | count + 1, c =>
    match c.rest with
    | [] => c.fault .unfinishedEscape c.pos
    | d :: _ =>
      match Text.hexDigit? d with
      | none => c.faultHere .badHexDigit
      | some v => hexDigits (16 * value + v) count c.next

/-- Hexadecimal digits up to a closing brace. -/
def bracedHexDigits (opening : Nat) : (steps : Nat) → Cursor → Except Fault (List Nat × Cursor)
  | 0, c => c.fault .unfinishedEscape opening
  | steps + 1, c =>
    match c.rest with
    | [] => c.fault .unfinishedEscape opening
    | '\x7d' :: _ => .ok ([], c)
    | d :: _ =>
      match Text.hexDigit? d with
      | none => c.faultHere .badHexDigit
      | some v => do
        let (vs, c) ← bracedHexDigits opening steps c.next
        return (v :: vs, c)

/-- The character of a number that is written from one place to another. -/
def charOf (value start stop : Nat) : Except Fault Char :=
  if value.isValidChar then .ok (Char.ofNat value) else faultFrom .badHex start stop

/-- **A character by its number**: in braces, or in a fixed number of digits. -/
def numbered (letter : Char) (c : Cursor) : Except Fault (Written × Cursor) :=
  match c.rest with
  | '\x7b' :: _ => do
    let (digits, stop) ← bracedHexDigits c.pos (c.rest.length + 1) c.next
    if digits = [] then stop.next.fault .emptyHex c.pos
    else
      let char ← charOf (digits.foldl (16 * · + ·) 0) (c.pos + 1) stop.pos
      return (⟨char, false⟩, stop.next)
  | _ => do
    let count := if letter = 'x' then 2 else if letter = 'u' then 4 else 8
    let (value, stop) ← hexDigits 0 count c
    return (⟨← charOf value c.pos stop.pos, letter = 'x'⟩, stop)

/-- Decimal digits. -/
def decimalDigits : (steps : Nat) → Cursor → List Char × Cursor
  | 0, c => ([], c)
  | steps + 1, c =>
    match c.rest with
    | [] => ([], c)
    | d :: _ =>
      if d.isDigit then
        let (ds, stop) := decimalDigits steps c.next
        (d :: ds, stop)
      else ([], c)

/-- **A decimal number**, with white space around it. -/
def decimal (c : Cursor) : Except Fault Nat × Cursor :=
  let c := c.trimmed
  let (digits, stop) := decimalDigits c.rest.length c
  let number :=
    match Text.digits? digits with
    | none => stop.fault .emptyRepetitionCount c.pos
    | some n => if n < UInt32.size then .ok n else stop.fault .badNumber c.pos
  (number, stop.trimmed)

end Pattern

end DisplaySession
