import DisplaySession.Pattern.Cursor

/-
What stands behind a backslash.

A backslash takes their meaning away from signs, and gives one to letters: a character by its name
or number, a kind of characters, a property, or a place. Digits behind it would stand for what a
group has found, which is not supported.
-/
set_option autoImplicit false

namespace DisplaySession

namespace Pattern

/-- Signs that stand for themselves behind a backslash: everything in ASCII but letters, digits and
angle brackets. -/
def isPlainSign (c : Char) : Bool :=
  c.toNat < 0x80 && !c.isAlphanum && c != '<' && c != '>'

/-- The character that a letter names. -/
def namedChar? (c : Char) : Option Char :=
  match c with
  | 'a' => some '\x07'
  | 'f' => some '\x0c'
  | 'n' => some '\n'
  | 'r' => some '\r'
  | 't' => some '\t'
  | 'v' => some '\x0b'
  | _ => none

/-- The kind of characters that a letter names; a capital letter names all others. -/
def namedKind? (c : Char) : Option (CharKind × Bool) :=
  match c with
  | 'd' => some (.digit, false)
  | 'D' => some (.digit, true)
  | 's' => some (.blank, false)
  | 'S' => some (.blank, true)
  | 'w' => some (.word, false)
  | 'W' => some (.word, true)
  | _ => none

/-- The place that a sign names. -/
def namedPlace? (c : Char) : Option Place :=
  match c with
  | 'A' => some .textStart
  | 'z' => some .textEnd
  | 'B' => some (.word .noEdge)
  | '<' => some (.word .start)
  | '>' => some (.word .stop)
  | _ => none

/-- The place with regard to words that a name in braces stands for. -/
def wordPlace? (name : String) : Option WordPlace :=
  match name with
  | "start" => some .start
  | "end" => some .stop
  | "start-half" => some .startHalf
  | "end-half" => some .stopHalf
  | _ => none

/-- A character of such a name. -/
def isPlaceChar (c : Char) : Bool :=
  c.isAlpha || c == '-'

/-- A name of such characters. -/
def placeName : (steps : Nat) → Cursor → List Char × Cursor
  | 0, c => ([], c)
  | steps + 1, c =>
    match c.rest with
    | [] => ([], c)
    | x :: _ =>
      if isPlaceChar x then
        let (xs, stop) := placeName steps c.next
        (x :: xs, stop)
      else ([], c)

/-- **The edge of a word**, with what may stand in braces behind it. Braces with anything but a
name are a number of times and left alone. -/
def wordEdge (start : Nat) (c : Cursor) : Except Fault (WordPlace × Cursor) :=
  match c.rest with
  | '\x7b' :: _ =>
    match c.next.rest with
    | [] => c.next.fault .unfinishedWordEdge start
    | x :: _ =>
      if isPlaceChar x then
        let (name, stop) := placeName c.rest.length c.next
        match stop.rest with
        | '\x7d' :: _ =>
          match wordPlace? (String.ofList name) with
          | some place => .ok (place, stop.step)
          | none => stop.fault .unknownWordEdge c.next.pos
        | _ => stop.fault .unclosedWordEdge c.pos
      else .ok (.edge, c)
  | _ => .ok (.edge, c)

/-- A name up to a closing brace. -/
def bracedName : (steps : Nat) → Cursor → Except Fault (List Char × Cursor)
  | 0, c => c.fault .unfinishedEscape c.pos
  | steps + 1, c =>
    match c.rest with
    | [] => c.fault .unfinishedEscape c.pos
    | '\x7d' :: _ => .ok ([], c.step)
    | x :: _ => do
      let (xs, stop) ← bracedName steps c.next
      return (x :: xs, stop)

/-- **The name of a property**: in braces, or one character. -/
def property (c : Cursor) : Except Fault (List Char × Cursor) :=
  match c.rest with
  | [] => c.fault .unfinishedEscape c.pos
  | '\x7b' :: _ => bracedName c.rest.length c.next
  | '\\' :: _ => c.faultHere .badProperty
  | x :: _ => .ok ([x], c.next)

/-- **What stands behind a backslash**, which is at the given place. -/
def escape (start : Nat) (c : Cursor) : Except Fault (Atom × Cursor) :=
  match c.rest with
  | [] => c.fault .unfinishedEscape start
  | x :: _ =>
    if x.isDigit then c.step.fault .backReference start
    else if x = 'x' ∨ x = 'u' ∨ x = 'U' then
      (numbered x c.next).map fun (written, stop) => (.char written, stop)
    else if x = 'p' ∨ x = 'P' then
      (property c.next).map fun (name, stop) => (.property name, stop)
    else if x = 'b' then
      (wordEdge start c.step).map fun (place, stop) => (.place (.word place), stop)
    else
      match namedKind? x, namedPlace? x, namedChar? x with
      | some (kind, negated), _, _ => .ok (.kind kind negated, c.step)
      | _, some place, _ => .ok (.place place, c.step)
      | _, _, some char => .ok (.char ⟨char, false⟩, c.step)
      | _, _, _ =>
        if isPlainSign x then .ok (.char ⟨x, false⟩, c.step)
        else c.step.fault .unknownEscape start

end Pattern

end DisplaySession
