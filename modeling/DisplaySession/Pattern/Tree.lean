import DisplaySession.Pattern.Basic
import DisplaySession.Pattern.Fault

/-
Patterns as they are written.

A tree keeps the parts of a written pattern with the stretches where they stand, before anything is
made of them. What a part means depends on settings that the pattern may change on the way, and a
part may mean nothing at all; its stretch then tells where the fault is.
-/
set_option autoImplicit false

namespace DisplaySession

namespace Pattern

/-! ## Settings -/

/-- **A setting** that a pattern can change. -/
inductive Setting
  /-- Letters stand for both cases. -/
  | anyCase
  /-- Lines have a beginning and an end. -/
  | lines
  /-- The point stands for line ends, too. -/
  | wholePoint
  /-- Repetitions take as little as they can, which a search does not show. -/
  | sparing
  /-- Characters are those of all scripts. -/
  | scripts
  /-- Carriage returns end lines, too. -/
  | returns
  /-- White space and comments are passed over. -/
  | spaced
  deriving DecidableEq

/-- The setting that a letter names. -/
def Setting.ofLetter? (c : Char) : Option Setting :=
  match c with
  | 'i' => some .anyCase
  | 'm' => some .lines
  | 's' => some .wholePoint
  | 'U' => some .sparing
  | 'u' => some .scripts
  | 'R' => some .returns
  | 'x' => some .spaced
  | _ => none

/-- **The settings in force**: those that are on. -/
abbrev Settings := List Setting

/-- Some settings and whether each is put on or off. -/
abbrev Changes := List (Setting × Bool)

/-- At the beginning of a pattern. -/
def Settings.standard : Settings := [.scripts]

/-- The settings with some changes. -/
def Settings.changed (settings : Settings) (changes : Changes) : Settings :=
  (changes.filter (·.2)).map (·.1) ++
    settings.filter fun s => changes.all fun change => change.1 ≠ s

/-! ## Parts of a pattern -/

/-- **A kind of characters** that a letter names. -/
inductive CharKind
  | digit
  | blank
  | word
  deriving DecidableEq

/-- The characters of a kind in ASCII. -/
def CharKind.chars : CharKind → CharClass
  | digit => CharClass.digit
  | blank => CharClass.blank
  | word => CharClass.word

/-- **A place** as it is written. -/
inductive Place
  /-- The beginning of the text, or of a line. -/
  | start
  /-- The end of the text, or of a line. -/
  | stop
  | textStart
  | textEnd
  | word (place : WordPlace)
  deriving DecidableEq

/-- **A written character**, and whether it is written as the number of an octet. -/
structure Written where
  char : Char
  octet : Bool
  deriving DecidableEq

/-- **The smallest parts of a pattern.** -/
inductive Atom
  | char (c : Written)
  /-- The point. -/
  | point
  | place (p : Place)
  | kind (k : CharKind) (negated : Bool)
  /-- What has a property of the given name. -/
  | property (name : List Char)
  deriving DecidableEq

/-- An operation on two sets of characters. -/
inductive SetOperation
  | intersection
  | difference
  | symmetricDifference
  deriving DecidableEq

/-- What an operation makes of two classes. -/
def SetOperation.apply (operation : SetOperation) (a b : CharClass) : CharClass :=
  match operation with
  | intersection => .both a b
  | difference => .both a (.other b)
  | symmetricDifference => .apart a b

/-- **A set of characters in brackets.** -/
inductive SetTree
  /-- No item at all, as beside an operation. -/
  | nothing (stretch : Stretch)
  | char (stretch : Stretch) (c : Written)
  | range (stretch : Stretch) (lowStretch highStretch : Stretch) (low high : Written)
  | named (stretch : Stretch) (chars : CharClass) (negated : Bool)
  | kind (stretch : Stretch) (k : CharKind) (negated : Bool)
  | property (stretch : Stretch) (name : List Char)
  | several (stretch : Stretch) (items : List SetTree)
  | brackets (stretch : Stretch) (negated : Bool) (inner : SetTree)
  | operation (stretch : Stretch) (op : SetOperation) (a b : SetTree)

/-- Where a set stands. -/
def SetTree.stretch : SetTree → Stretch
  | nothing s => s
  | char s _ => s
  | range s _ _ _ _ => s
  | named s _ _ => s
  | kind s _ _ => s
  | property s _ => s
  | several s _ => s
  | brackets s _ _ => s
  | operation s _ _ _ => s

/-- **A pattern as it is written.** -/
inductive Tree
  | nothing
  | atom (stretch : Stretch) (a : Atom)
  /-- One character of a set. -/
  | set (stretch : Stretch) (negated : Bool) (inner : SetTree)
  /-- Changes of settings up to the end of the group. -/
  | setting (changes : Changes)
  | group (stretch : Stretch) (changes : Changes) (inner : Tree)
  | times (stretch : Stretch) (inner : Tree) (least : Nat) (most : Option Nat)
  /-- One part behind the other. -/
  | sequence (stretch : Stretch) (parts : List Tree)
  /-- One of some parts. -/
  | choice (stretch : Stretch) (parts : List Tree)

/-- Where a part stands that can be repeated. -/
def Tree.start : Tree → Nat
  | nothing => 0
  | atom s _ => s.start
  | set s _ _ => s.start
  | setting _ => 0
  | group s _ _ => s.start
  | times s _ _ _ => s.start
  | sequence s _ => s.start
  | choice s _ => s.start

/-! ## Depth -/

/-- The greatest depth to which parts may stand in others. -/
def depthLimit : Nat := 250

mutual

/-- The first set that stands in more others than there may be. -/
def SetTree.tooDeep (left : Nat) : SetTree → Option Stretch
  | .several s items => if left = 0 then some s else SetTree.firstTooDeep (left - 1) items
  | .brackets s _ inner => if left = 0 then some s else SetTree.tooDeep (left - 1) inner
  | .operation s _ a b =>
    if left = 0 then some s
    else (SetTree.tooDeep (left - 1) a).or (SetTree.tooDeep (left - 1) b)
  | _ => none

/-- The same of some sets. -/
def SetTree.firstTooDeep (left : Nat) : List SetTree → Option Stretch
  | [] => none
  | t :: ts => (SetTree.tooDeep left t).or (SetTree.firstTooDeep left ts)

end

mutual

/-- **The first part that stands in more others than there may be.** -/
def Tree.tooDeep (left : Nat) : Tree → Option Stretch
  | .set s _ inner => if left = 0 then some s else inner.tooDeep (left - 1)
  | .group s _ inner => if left = 0 then some s else Tree.tooDeep (left - 1) inner
  | .times s inner _ _ => if left = 0 then some s else Tree.tooDeep (left - 1) inner
  | .sequence s parts => if left = 0 then some s else Tree.firstTooDeep (left - 1) parts
  | .choice s parts => if left = 0 then some s else Tree.firstTooDeep (left - 1) parts
  | _ => none

/-- The same of some parts. -/
def Tree.firstTooDeep (left : Nat) : List Tree → Option Stretch
  | [] => none
  | t :: ts => (Tree.tooDeep left t).or (Tree.firstTooDeep left ts)

end

end Pattern

end DisplaySession
