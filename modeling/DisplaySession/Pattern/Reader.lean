import DisplaySession.Pattern.Brackets
import DisplaySession.Pattern.Meaning
import DisplaySession.Text.Letter

/-
Reading a pattern.

A pattern is a choice between branches, and a branch a sequence of parts; a part may be a group
with a pattern of its own. The reader goes through the text once and keeps the groups that are
open. Each step takes at least one character, so that their number bounds the steps.
-/
set_option autoImplicit false

namespace DisplaySession

namespace Pattern

/-- **A group that is open**, or the whole pattern. -/
structure OpenGroup where
  /-- Where the group begins. -/
  opening : Nat
  changes : Changes
  /-- Are white space and comments passed over around the group? -/
  spacedAround : Bool
  /-- Where the first branch begins. -/
  start : Nat
  /-- Where the branch begins that is being read. -/
  branchStart : Nat
  /-- The branches before it, the last one first. -/
  branches : List Tree
  /-- The parts of the branch, the last one first. -/
  parts : List Tree

namespace OpenGroup

/-- A group without anything in it yet. -/
def begin (opening : Nat) (changes : Changes) (spacedAround : Bool) (start : Nat) : OpenGroup :=
  ⟨opening, changes, spacedAround, start, start, [], []⟩

/-- With one more part. -/
def add (group : OpenGroup) (part : Tree) : OpenGroup :=
  { group with parts := part :: group.parts }

/-- The branch that ends at a place. -/
def branch (group : OpenGroup) (stop : Nat) : Tree :=
  match group.parts with
  | [] => .nothing
  | [part] => part
  | parts => .sequence ⟨group.branchStart, stop⟩ parts.reverse

/-- With a new branch behind a bar at the given place. -/
def divide (group : OpenGroup) (bar : Nat) : OpenGroup :=
  { group with
    branchStart := bar + 1, branches := group.branch bar :: group.branches, parts := [] }

/-- **What is in the group**, which ends at a place. -/
def close (group : OpenGroup) (stop : Nat) : Tree :=
  match group.branches with
  | [] => group.branch stop
  | branches => .choice ⟨group.start, stop⟩ (group.branch stop :: branches).reverse

end OpenGroup

/-- **What is read of a pattern.** -/
structure Draft where
  group : OpenGroup
  /-- The groups around it. -/
  around : List OpenGroup
  /-- The names of groups, and where they stand. -/
  names : List (List Char × Stretch)

/-- With one more part. -/
def Draft.add (draft : Draft) (part : Tree) : Draft :=
  { draft with group := draft.group.add part }

/-! ## Repetition -/

/-- **What is repeated**, and the draft without it. Changes of settings are not repeated. -/
def repeatable (draft : Draft) (c : Cursor) : Except Fault (Tree × Draft) :=
  match draft.group.parts with
  | [] => c.fault .nothingToRepeat c.pos
  | .setting _ :: _ => c.fault .nothingToRepeat c.pos
  | part :: parts => .ok (part, { draft with group := { draft.group with parts } })

/-- Behind the question mark that makes a repetition sparing, if there is one. -/
def behindSparing (c : Cursor) : Cursor :=
  match c.rest with
  | '?' :: _ => c.step
  | _ => c

/-- A repetition by a sign. -/
def signed (least : Nat) (most : Option Nat) (draft : Draft) (c : Cursor) :
    Except Fault (Draft × Cursor) := do
  let (part, draft) ← repeatable draft c
  let stop := behindSparing c.step
  return (draft.add (.times ⟨part.start, stop.pos⟩ part least most), stop)

/-- **A number of times in braces**: one number, a least one, or a least and a greatest one. -/
def count (c : Cursor) : Except Fault ((Nat × Option Nat) × Cursor) := do
  let unclosed {α : Type} (here : Cursor) : Except Fault α := here.fault .unclosedRepetition c.pos
  let first := c.next
  if first.rest = [] then unclosed first
  else
    let (least, behindLeast) := decimal first
    match behindLeast.rest with
    | [] => unclosed behindLeast
    | ',' :: _ =>
      let second := behindLeast.next
      match second.rest with
      | [] => unclosed second
      | '\x7d' :: _ => return ((← least, none), second)
      | _ =>
        let least ← least
        let (most, stop) := decimal second
        return ((least, some (← most)), stop)
    | _ =>
      let times ← least
      return ((times, some times), behindLeast)

/-- A repetition in braces. -/
def counted (draft : Draft) (c : Cursor) : Except Fault (Draft × Cursor) := do
  let (part, draft) ← repeatable draft c
  let ((least, most), stop) ← count c
  match stop.rest with
  | '\x7d' :: _ =>
    let stop := behindSparing stop.next
    if most.any (· < least) then stop.fault .emptyRepetitionRange c.pos
    else return (draft.add (.times ⟨part.start, stop.pos⟩ part least most), stop)
  | _ => stop.fault .unclosedRepetition c.pos

/-! ## Groups -/

/-- The letters for settings up to a colon or a parenthesis, with their places; a hyphen is none. -/
def settingLetters (found : List (Option Setting × Nat)) (pos : Nat) :
    List Char → Except Fault (List (Option Setting × Nat) × Nat × List Char)
  | [] => faultFrom .unfinishedFlags pos pos
  | c :: cs =>
    if c = ':' ∨ c = ')' then .ok (found, pos, c :: cs)
    else do
      let setting ←
        if c = '-' then pure none
        else
          match Setting.ofLetter? c with
          | some setting => pure (some setting)
          | none => faultFrom .unknownFlag pos (pos + 1)
      match found.find? (·.1 = setting) with
      | some (_, old) =>
        let kind := if setting = none then FaultKind.repeatedNegation else .repeatedFlag
        .error (.wrong kind ⟨pos, pos + 1⟩ (some ⟨old, old + 1⟩))
      | none => settingLetters (found ++ [(setting, pos)]) (pos + 1) cs

/-- The changes of settings: those behind the hyphen are put off. -/
def changesOf (found : List (Option Setting × Nat)) : Changes :=
  let on := (found.takeWhile (·.1 ≠ none)).filterMap (·.1)
  let off := (found.dropWhile (·.1 ≠ none)).filterMap (·.1)
  on.map (·, true) ++ off.map (·, false)

/-- **Changes of settings**, up to a colon or a parenthesis. -/
def settings (c : Cursor) : Except Fault (Changes × Cursor) := do
  let (found, pos, rest) ← settingLetters [] c.pos c.rest
  match found.getLast? with
  | some (none, last) => faultFrom .danglingNegation last (last + 1)
  | _ => return (changesOf found, { c with rest, pos })

/-- Can a character stand in the name of a group? -/
def isNameChar (isFirst : Bool) (c : Char) : Bool :=
  if isFirst then c == '_' || Text.isLetter c
  else c == '_' || c == '.' || c == '[' || c == ']' || Text.isLetterOrNumber c

/-- A name up to the closing angle bracket. -/
def nameUpToAngle (start pos : Nat) : List Char → Except Fault (List Char × List Char)
  | [] => faultFrom .unclosedName pos pos
  | c :: cs =>
    if c = '>' then .ok ([], cs)
    else if isNameChar (pos = start) c then do
      let (name, rest) ← nameUpToAngle start (pos + 1) cs
      return (c :: name, rest)
    else faultFrom .badName pos (pos + 1)

/-- **The name of a group**, which no other group has. -/
def groupName (draft : Draft) (c : Cursor) : Except Fault (Draft × Cursor) := do
  let (name, rest) ← nameUpToAngle c.pos c.pos c.rest
  let stretch : Stretch := ⟨c.pos, c.pos + name.length⟩
  if name = [] then .error (.wrong .emptyName stretch none)
  else
    match draft.names.find? (·.1 = name) with
    | some (_, old) => .error (.wrong .repeatedName stretch (some old))
    | none =>
      return ({ draft with names := (name, stretch) :: draft.names },
        { c with rest, pos := stretch.stop + 1 })

/-- With a group that is opened. -/
def enter (draft : Draft) (opening : Nat) (changes : Changes) (c : Cursor) : Draft × Cursor :=
  let spaced := ((changes.find? (·.1 = .spaced)).map (·.2)).getD c.spaced
  ({ draft with
      group := .begin opening changes c.spaced c.pos, around := draft.group :: draft.around },
    { c with spaced })

/-- **An opening parenthesis** with what belongs to it: nothing, a name, or settings, which may
stand for themselves. -/
def openGroup (draft : Draft) (c : Cursor) : Except Fault (Draft × Cursor) := do
  let opening := c.pos
  let c := c.next
  let ahead (n : Nat) : Cursor := n.repeat Cursor.step c
  match c.rest with
  | '?' :: '=' :: _ => (ahead 2).fault .lookAround opening
  | '?' :: '!' :: _ => (ahead 2).fault .lookAround opening
  | '?' :: '<' :: '=' :: _ => (ahead 3).fault .lookAround opening
  | '?' :: '<' :: '!' :: _ => (ahead 3).fault .lookAround opening
  | '?' :: 'P' :: '<' :: _ =>
    let (draft, stop) ← groupName draft (ahead 3)
    return enter draft opening [] stop
  | '?' :: '<' :: _ =>
    let (draft, stop) ← groupName draft (ahead 2)
    return enter draft opening [] stop
  | ['?'] => faultFrom .unclosedGroup opening (opening + 1)
  | '?' :: _ =>
    let (changes, stop) ← settings c.step
    match stop.rest with
    | ')' :: _ =>
      if changes = [] then c.fault .nothingToRepeat c.pos
      else
        let spaced := ((changes.find? (·.1 = .spaced)).map (·.2)).getD c.spaced
        return (draft.add (.setting changes), { stop.step with spaced })
    | _ => return enter draft opening changes stop.step
  | _ => return enter draft opening [] c

/-- **A closing parenthesis.** -/
def closeGroup (draft : Draft) (c : Cursor) : Except Fault (Draft × Cursor) :=
  match draft.around with
  | [] => c.faultHere .unopenedGroup
  | outer :: around =>
    let group := draft.group
    let part := .group ⟨group.opening, c.pos + 1⟩ group.changes (group.close c.pos)
    .ok ({ draft with group := outer.add part, around },
      { c.step with spaced := group.spacedAround })

/-! ## Patterns -/

/-- The next part of a pattern, which begins with the given character. -/
def nextPart (draft : Draft) (c : Cursor) (first : Char) : Except Fault (Draft × Cursor) := do
  let single (a : Atom) : Except Fault (Draft × Cursor) :=
    .ok (draft.add (.atom ⟨c.pos, c.pos + 1⟩ a), c.step)
  match first with
  | '(' => openGroup draft c
  | ')' => closeGroup draft c
  | '|' => return ({ draft with group := draft.group.divide c.pos }, c.step)
  | '[' => do
    let (part, stop) ← set c
    return (draft.add part, stop)
  | '?' => signed 0 (some 1) draft c
  | '*' => signed 0 none draft c
  | '+' => signed 1 none draft c
  | '\x7b' => counted draft c
  | '\\' => do
    let (a, stop) ← escape c.pos c.step
    return (draft.add (.atom ⟨c.pos, stop.pos⟩ a), stop)
  | '.' => single .point
  | '^' => single (.place .start)
  | '$' => single (.place .stop)
  | _ => single (.char ⟨first, false⟩)

/-- What is left of a pattern. -/
def parts : (steps : Nat) → Draft → Cursor → Except Fault Tree
  | 0, draft, c => .ok (draft.group.close c.pos)
  | steps + 1, draft, c => do
    let c := c.skipped
    match c.rest with
    | [] =>
      match draft.around with
      | [] => return draft.group.close c.pos
      | _ => faultFrom .unclosedGroup draft.group.opening (draft.group.opening + 1)
    | first :: _ =>
      let (draft, stop) ← nextPart draft c first
      parts steps draft stop

/-- **The pattern in a text**, or what is wrong with it. -/
def read (text : List Char) : Except Fault Pattern := do
  let draft : Draft := ⟨.begin 0 [] false 0, [], []⟩
  ofTree (← parts (text.length + 1) draft ⟨text, 0, false⟩)

end Pattern

end DisplaySession
