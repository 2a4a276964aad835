import DisplaySession.Pattern.CharClass

/-
Search patterns, and whether a text holds what a pattern describes.

A pattern is read against a text one character at a time. What is left of a pattern behind a
character is again some patterns, one of which has to go on; so the search keeps all the patterns
that may go on at a place, adds the whole pattern anew at every place, and ends as soon as one of
them is content with nothing more.

Some patterns describe a place and no character: the beginning of the text, the end of a word. They
look at the character before the place and at the one behind it.
-/
set_option autoImplicit false

namespace DisplaySession

/-- **A place in a text**: the character before it and the one behind it. -/
structure Gap where
  before : Option Char
  behind : Option Char

/-- **Where a place lies with regard to words**, which consist of letters, digits and low lines. -/
inductive WordPlace
  /-- Where a word begins or ends. -/
  | edge
  | noEdge
  | start
  | stop
  /-- With nothing of a word before it. -/
  | startHalf
  /-- With nothing of a word behind it. -/
  | stopHalf
  deriving DecidableEq

/-- Does a place lie so with regard to words? -/
def WordPlace.fits (place : WordPlace) (gap : Gap) : Bool :=
  let before := gap.before.any (CharClass.word.holds ·.toNat)
  let behind := gap.behind.any (CharClass.word.holds ·.toNat)
  match place with
  | edge => before != behind
  | noEdge => before == behind
  | start => !before && behind
  | stop => before && !behind
  | startHalf => !before
  | stopHalf => !behind

/-- **What can be asked of a place.** -/
inductive Anchor
  | textStart
  | textEnd
  /-- At the beginning of a line; lines end in a line feed, or in a carriage return, too. -/
  | lineStart (returns : Bool)
  | lineEnd (returns : Bool)
  | word (place : WordPlace)
  /-- A place with regard to the words of all scripts. There is no list of their characters, so
  that no place is known to be such; a pattern that asks for one is not searched with. -/
  | scriptWord
  deriving DecidableEq

/-- **Is a place as it is asked for?** -/
def Anchor.fits (anchor : Anchor) (gap : Gap) : Bool :=
  match anchor with
  | textStart => gap.before.isNone
  | textEnd => gap.behind.isNone
  | lineStart false => gap.before.isNone || gap.before == some '\n'
  | lineStart true =>
    gap.before.isNone || gap.before == some '\n' ||
      (gap.before == some '\r' && gap.behind != some '\n')
  | lineEnd false => gap.behind.isNone || gap.behind == some '\n'
  | lineEnd true =>
    gap.behind.isNone || gap.behind == some '\r' ||
      (gap.behind == some '\n' && gap.before != some '\r')
  | word place => place.fits gap
  | scriptWord => false

/-- **A search pattern.** -/
inductive Pattern
  /-- Nothing. -/
  | empty
  /-- One character of a class. -/
  | one (chars : CharClass)
  /-- A place. -/
  | anchor (a : Anchor)
  /-- One pattern behind another. -/
  | seq (p q : Pattern)
  /-- One of two patterns. -/
  | either (p q : Pattern)
  /-- A pattern a number of times; without a greatest number if none is given. -/
  | times (p : Pattern) (least : Nat) (most : Option Nat)
  deriving DecidableEq

namespace Pattern

/-! ## Making patterns -/

/-- One pattern behind another, in the simplest form. -/
def andThen (p q : Pattern) : Pattern :=
  if p = empty then q else if q = empty then p else seq p q

/-- Some patterns one behind the other. -/
def sequence (ps : List Pattern) : Pattern :=
  ps.foldr andThen empty

/-- One of some patterns. -/
def choice : List Pattern → Pattern
  | [] => empty
  | [p] => p
  | p :: ps => either p (choice ps)

/-- Does a pattern describe no character at all? -/
def takesNothing : Pattern → Bool
  | empty => true
  | one _ => false
  | anchor _ => true
  | seq p q => takesNothing p && takesNothing q
  | either p q => takesNothing p && takesNothing q
  | times p _ _ => takesNothing p

/-- A pattern a number of times, which may be never. A pattern without characters says the same
again and again, so that one time is enough. -/
def repeated (p : Pattern) (least : Nat) (most : Option Nat) : Pattern :=
  if most = some 0 then empty
  else if takesNothing p then times p (min least 1) (some 1)
  else times p least most

/-! ## The room that a pattern takes -/

/-- The bytes that a class takes: a step for each byte of a character, or one step with an
interval in every eight bytes behind it. Characters beyond ASCII take a few steps more. -/
def classRoom (chars : CharClass) : Nat :=
  match chars with
  | .between low high =>
    if low = high then 32 * (Char.ofNat low).utf8Size else if high < 0x80 then 64 else 368
  | _ => if chars.isPlain then 64 + 8 * chars.intervals else 368

/-- **The bytes that a pattern takes** when it is written out. -/
def room : Pattern → Nat
  | empty => 32
  | one chars => classRoom chars
  | anchor _ => 32
  | seq p q => room p + room q
  | either p q => room p + room q + 72
  | times p least none => max least 1 * room p + 40
  | times p least (some most) => least * room p + (most - least) * (room p + 40) + 32

/-- The greatest room: ten mebibytes. -/
def roomLimit : Nat := 10485760

/-- Does a pattern ask for words of all scripts? -/
def asksForScripts : Pattern → Bool
  | empty => false
  | one _ => false
  | anchor a => a = .scriptWord
  | seq p q => asksForScripts p || asksForScripts q
  | either p q => asksForScripts p || asksForScripts q
  | times p _ _ => asksForScripts p

/-! ## Searching -/

/-- **Is a pattern content with nothing at a place?** -/
def isContent (gap : Gap) : Pattern → Bool
  | empty => true
  | one _ => false
  | anchor a => a.fits gap
  | seq p q => isContent gap p && isContent gap q
  | either p q => isContent gap p || isContent gap q
  | times p least _ => least == 0 || isContent gap p

/-- **What is left of a pattern behind a character**: one of these patterns has to go on. Of a
pattern a number of times one time is begun by the character; those before it, which can only have
been content with nothing, count too. -/
def behind (gap : Gap) (c : Char) : Pattern → List Pattern
  | empty => []
  | one chars => if chars.holds c.toNat then [empty] else []
  | anchor _ => []
  | seq p q =>
    (behind gap c p).map (·.andThen q) ++ (if isContent gap p then behind gap c q else [])
  | either p q => behind gap c p ++ behind gap c q
  | times p least most =>
    if most = some 0 then []
    else
      let least := if isContent gap p then 0 else least - 1
      (behind gap c p).map (·.andThen (repeated p least (most.map (· - 1))))

/-- The search from a place on, with the patterns that may go on there. -/
def search (p : Pattern) (before : Option Char) (going : List Pattern) : List Char → Bool
  | [] => (p :: going).any (isContent ⟨before, none⟩)
  | c :: cs =>
    let gap : Gap := ⟨before, some c⟩
    let here := p :: going
    here.any (isContent gap) ||
      search p (some c) (here.flatMap (behind gap c)).eraseDups cs

/-- **Does a text hold what a pattern describes?** -/
def occursIn (p : Pattern) (text : List Char) : Bool :=
  search p none [] text

end Pattern

end DisplaySession
