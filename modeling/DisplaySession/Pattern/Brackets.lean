import DisplaySession.Pattern.Escape

/-
Sets of characters in brackets.

A set lists characters, ranges and classes, and may hold other sets in brackets. Between its items
may stand operations, which bind from left to right. A caret in front turns a set around. A closing
bracket that comes first stands for itself, as do hyphens in front, so that no set is without an
item.
-/
set_option autoImplicit false

namespace DisplaySession

namespace Pattern

/-- **Brackets that are open.** -/
structure OpenBrackets where
  /-- The bracket with what belongs to it. -/
  opening : Stretch
  negated : Bool
  /-- Where the items begin. -/
  start : Nat
  /-- The items, the last one first. -/
  items : List SetTree
  /-- The operation that waits for these items, and what stands before it. -/
  waiting : Option (SetOperation × SetTree)

namespace OpenBrackets

/-- With one more item. -/
def add (b : OpenBrackets) (item : SetTree) : OpenBrackets :=
  { b with items := item :: b.items }

/-- The items in one set. -/
def operand (b : OpenBrackets) : SetTree :=
  match b.items with
  | [] => .nothing ⟨b.start, b.start⟩
  | [item] => item
  | last :: items =>
    let all := (last :: items).reverse
    let first := (all.head?.map fun t => t.stretch.start).getD b.start
    .several ⟨first, last.stretch.stop⟩ all

/-- **The set in the brackets**: the items, and the operation that waits for them. -/
def inner (b : OpenBrackets) : SetTree :=
  match b.waiting with
  | none => b.operand
  | some (op, before) =>
    .operation ⟨before.stretch.start, b.operand.stretch.stop⟩ op before b.operand

/-- With an operation behind the items, which ends at the given place. -/
def apply (b : OpenBrackets) (op : SetOperation) (stop : Nat) : OpenBrackets :=
  { b with start := stop, items := [], waiting := some (op, b.inner) }

end OpenBrackets

/-- Hyphens in front of a set. -/
def leadingHyphens (opening : Nat) : (steps : Nat) → Cursor → Except Fault (List SetTree × Cursor)
  | 0, c => .ok ([], c)
  | steps + 1, c =>
    match c.rest with
    | '-' :: _ =>
      if c.next.rest = [] then faultFrom .unclosedClass opening opening
      else do
        let (items, stop) ← leadingHyphens opening steps c.next
        return (items ++ [.char ⟨c.pos, c.pos + 1⟩ ⟨'-', false⟩], stop)
    | _ => .ok ([], c)

/-- The place behind the next character, unless the pattern ends there. -/
def within (opening : Nat) (c : Cursor) : Except Fault Cursor :=
  if c.next.rest = [] then c.next.fault .unclosedClass opening else .ok c.next

/-- **An opening bracket** with what belongs to it. -/
def openBrackets (c : Cursor) : Except Fault (OpenBrackets × Cursor) := do
  let opening := c.pos
  let c ← within opening c
  let (negated, c) ←
    match c.rest with
    | '^' :: _ => do pure (true, ← within opening c)
    | _ => pure (false, c)
  let start := c.pos
  let (items, c) ← leadingHyphens opening c.rest.length c
  match items, c.rest with
  | [], ']' :: _ =>
    let stop ← within opening c
    let item := .char ⟨c.pos, c.pos + 1⟩ ⟨']', false⟩
    return (⟨⟨opening, stop.pos⟩, negated, start, [item], none⟩, stop)
  | _, _ => return (⟨⟨opening, c.pos⟩, negated, start, items, none⟩, c)

/-- **A class by its name**, between colons in brackets. -/
def namedClass? (c : Cursor) : Option (SetTree × Cursor) :=
  match c.rest with
  | '[' :: ':' :: cs =>
    let (negated, name) :=
      match cs with
      | '^' :: cs => (true, cs)
      | _ => (false, cs)
    match name.dropWhile (· ≠ ':') with
    | ':' :: ']' :: rest =>
      (CharClass.ofName? (String.ofList (name.takeWhile (· ≠ ':')))).map fun chars =>
        let stop := c.pos + (c.rest.length - rest.length)
        (.named ⟨c.pos, stop⟩ chars negated, { c with rest, pos := stop })
    | _ => none
  | _ => none

/-! ## Items -/

/-- A character or what stands behind a backslash. -/
def setAtom (c : Cursor) : Except Fault (Atom × Cursor) :=
  match c.rest with
  | [] => c.fault .unclosedClass c.pos
  | '\\' :: _ => escape c.pos c.step
  | x :: _ => .ok (.char ⟨x, false⟩, c.step)

/-- The item that a part is. A place is none. -/
def setItem (stretch : Stretch) : Atom → Except Fault SetTree
  | .char c => .ok (.char stretch c)
  | .kind k negated => .ok (.kind stretch k negated)
  | .property name => .ok (.property stretch name)
  | _ => .error (.wrong .badClassEscape stretch none)

/-- The end of a range that a part is. -/
def rangeEnd (stretch : Stretch) : Atom → Except Fault Written
  | .char c => .ok c
  | _ => .error (.wrong .unsuitableRangeEnd stretch none)

/-- **A range or a single item.** A hyphen makes a range unless a bracket or a hyphen follows. -/
def setRange (opening : Stretch) (c : Cursor) : Except Fault (SetTree × Cursor) := do
  let (first, afterFirst) ← setAtom c
  let firstStretch : Stretch := ⟨c.pos, afterFirst.pos⟩
  let c := afterFirst.skipped
  match c.rest with
  | [] => .error (.wrong .unclosedClass opening none)
  | x :: _ =>
    if x ≠ '-' ∨ c.second = some ']' ∨ c.second = some '-' then
      return (← setItem firstStretch first, c)
    else if c.next.rest = [] then .error (.wrong .unclosedClass opening none)
    else
      let c := c.next
      let (last, stop) ← setAtom c
      let lastStretch : Stretch := ⟨c.pos, stop.pos⟩
      let low ← rangeEnd firstStretch first
      let high ← rangeEnd lastStretch last
      let stretch : Stretch := ⟨firstStretch.start, lastStretch.stop⟩
      if high.char < low.char then .error (.wrong .emptyClassRange stretch none)
      else return (.range stretch firstStretch lastStretch low high, stop)

/-! ## Sets -/

/-- The set up to the closing bracket, with the brackets that are open around it. -/
def setItems : (steps : Nat) → OpenBrackets → (around : List OpenBrackets) → Cursor →
    Except Fault (Tree × Cursor)
  | 0, b, _, _ => .error (.wrong .unclosedClass b.opening none)
  | steps + 1, b, around, c => do
    let c := c.skipped
    match c.rest with
    | [] => .error (.wrong .unclosedClass b.opening none)
    | '[' :: _ =>
      match namedClass? c with
      | some (item, stop) => setItems steps (b.add item) around stop
      | none =>
        let (more, stop) ← openBrackets c
        setItems steps more (b :: around) stop
    | ']' :: _ =>
      let stretch : Stretch := ⟨b.opening.start, c.pos + 1⟩
      match around with
      | [] => return (.set stretch b.negated b.inner, c.step)
      | outer :: around =>
        setItems steps (outer.add (.brackets stretch b.negated b.inner)) around c.step
    | '&' :: '&' :: _ =>
      setItems steps (b.apply .intersection (c.pos + 2)) around c.step.step
    | '-' :: '-' :: _ => setItems steps (b.apply .difference (c.pos + 2)) around c.step.step
    | '~' :: '~' :: _ =>
      setItems steps (b.apply .symmetricDifference (c.pos + 2)) around c.step.step
    | _ =>
      let (item, stop) ← setRange b.opening c
      setItems steps (b.add item) around stop

/-- **A set of characters in brackets.** -/
def set (c : Cursor) : Except Fault (Tree × Cursor) := do
  let (b, stop) ← openBrackets c
  setItems (c.rest.length + 1) b [] stop

end Pattern

end DisplaySession
