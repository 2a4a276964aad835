import DisplaySession.Pattern.Tree

/-
What a written pattern means.

The parts of a pattern are given their meaning one after the other, under the settings that are in
force there. Changes of settings hold up to the end of the group they stand in, also behind a bar.

With the characters of all scripts there are no kinds and properties of characters and no pairs of
letters: nothing but ASCII has these lists. Without the other scripts a class may hold nothing but
ASCII, because what is beyond it could then be cut in the midst of a character.
-/
set_option autoImplicit false

namespace DisplaySession

namespace Pattern

/-- A fault at a stretch. -/
def faultAt {α : Type} (kind : FaultKind) (stretch : Stretch) : Except Fault α :=
  .error (.wrong kind stretch none)

/-- The name of a property in small letters, without blanks, hyphens and low lines, and without
the word that it may begin with. -/
def propertyName (name : List Char) : List Char :=
  let small (cs : List Char) :=
    (cs.filter fun c => c.toNat < 0x80 ∧ c ≠ ' ' ∧ c ≠ '_' ∧ c ≠ '-').map Char.toLower
  match name with
  | a :: b :: cs => if small [a, b] = ['i', 's'] then small cs else small (a :: b :: cs)
  | cs => small cs

/-- **A class of a property**: there is none. Three names are not those of a property, but of the
value of one. -/
def propertyClass (settings : Settings) (stretch : Stretch) (name : List Char) :
    Except Fault CharClass :=
  if .scripts ∉ settings then faultAt .notPlain stretch
  else if String.ofList (propertyName name) ∈ ["cf", "lc", "sc"] then
    faultAt .unknownPropertyValue stretch
  else faultAt .unknownProperty stretch

/-- Refuses a class with characters beyond ASCII. Without the other scripts a class is built from
intervals of ASCII, so that it holds all of these characters or none. -/
def plainOnly (stretch : Stretch) (chars : CharClass) : Except Fault CharClass :=
  if chars.holds 0x80 then faultAt .notText stretch else .ok chars

/-- **The class of a kind.** -/
def kindClass (settings : Settings) (stretch : Stretch) (kind : CharKind) (negated : Bool) :
    Except Fault CharClass :=
  if .scripts ∈ settings then faultAt .unknownKind stretch
  else plainOnly stretch (.negatedIf negated kind.chars)

/-! ## Sets -/

/-- An end of a range, or a character of a set. -/
def member (settings : Settings) (stretch : Stretch) (c : Written) : Except Fault Char :=
  if .scripts ∈ settings then .ok c.char
  else if c.char.toNat < 0x80 then .ok c.char
  else if c.octet then faultAt .notText stretch
  else faultAt .notPlain stretch

mutual

/-- Is there any item in a set? -/
def SetTree.hasItem : SetTree → Bool
  | .nothing _ => false
  | .several _ items => SetTree.haveItem items
  | .brackets _ _ inner => SetTree.hasItem inner
  | .operation _ _ a b => SetTree.hasItem a || SetTree.hasItem b
  | _ => true

/-- Is there any item in some sets? -/
def SetTree.haveItem : List SetTree → Bool
  | [] => false
  | t :: ts => SetTree.hasItem t || SetTree.haveItem ts

end

/-- A class with both cases of its letters, if the settings ask for them. -/
def inBothCases (settings : Settings) (stretch : Stretch) (hasItem : Bool) (chars : CharClass) :
    Except Fault CharClass :=
  if .anyCase ∉ settings then .ok chars
  else if .scripts ∉ settings then .ok (.anyCase chars)
  else if hasItem then faultAt .unknownCases stretch
  else .ok chars

/-- What is in brackets, or what is not. -/
def bracketed (settings : Settings) (stretch : Stretch) (negated hasItem : Bool)
    (chars : CharClass) : Except Fault CharClass := do
  let chars := CharClass.negatedIf negated (← inBothCases settings stretch hasItem chars)
  if .scripts ∈ settings then return chars else plainOnly stretch chars

mutual

/-- **The class that a set means.** -/
def SetTree.meaning (settings : Settings) : SetTree → Except Fault CharClass
  | .nothing _ => .ok .none
  | .char s c => return .only (← member settings s c)
  | .range _ s t low high => return .range (← member settings s low) (← member settings t high)
  | .named s chars negated => bracketed settings s negated true chars
  | .kind s k negated => kindClass settings s k negated
  | .property s name => propertyClass settings s name
  | .several _ items => SetTree.union settings items
  | .brackets s negated inner => do
    bracketed settings s negated inner.hasItem (← SetTree.meaning settings inner)
  | .operation _ op a b => do
    let first ← SetTree.meaning settings a
    let second ← SetTree.meaning settings b
    let second ← inBothCases settings b.stretch b.hasItem second
    let first ← inBothCases settings a.stretch a.hasItem first
    return op.apply first second

/-- What one of some sets holds. -/
def SetTree.union (settings : Settings) : List SetTree → Except Fault CharClass
  | [] => .ok .none
  | t :: ts => return .either (← SetTree.meaning settings t) (← SetTree.union settings ts)

end

/-! ## Patterns -/

/-- The class of a written character. -/
def charClass (settings : Settings) (stretch : Stretch) (c : Written) : Except Fault CharClass :=
  if .scripts ∉ settings ∧ c.octet ∧ 0x80 ≤ c.char.toNat then faultAt .notText stretch
  else inBothCases settings stretch true (.only c.char)

/-- The class of the point. -/
def pointClass (settings : Settings) (stretch : Stretch) : Except Fault CharClass :=
  if .scripts ∉ settings then faultAt .notText stretch
  else if .wholePoint ∈ settings then .ok .all
  else if .returns ∈ settings then .ok (.other (.either (.only '\n') (.only '\r')))
  else .ok (.other (.only '\n'))

/-- What a written place asks for. -/
def Place.anchor (settings : Settings) : Place → Anchor
  | .start => if .lines ∈ settings then .lineStart (.returns ∈ settings) else .textStart
  | .stop => if .lines ∈ settings then .lineEnd (.returns ∈ settings) else .textEnd
  | .textStart => .textStart
  | .textEnd => .textEnd
  | .word place => if .scripts ∈ settings then .scriptWord else .word place

/-- **What the smallest parts mean.** -/
def Atom.meaning (settings : Settings) (stretch : Stretch) : Atom → Except Fault Pattern
  | .char c => return .one (← charClass settings stretch c)
  | .point => return .one (← pointClass settings stretch)
  | .place p => .ok (.anchor (p.anchor settings))
  | .kind k negated => return .one (← kindClass settings stretch k negated)
  | .property name => return .one (← propertyClass settings stretch name)

mutual

/-- **What a part means**, and the settings behind it. -/
def Tree.meaning (settings : Settings) : Tree → Except Fault (Pattern × Settings)
  | .nothing => .ok (.empty, settings)
  | .atom s a => return (← a.meaning settings s, settings)
  | .set s negated inner => do
    let chars ← bracketed settings s negated inner.hasItem (← inner.meaning settings)
    return (.one chars, settings)
  | .setting changes => .ok (.empty, settings.changed changes)
  | .group _ changes inner => do
    return ((← Tree.meaning (settings.changed changes) inner).1, settings)
  | .times _ inner least most => do
    let (p, settings) ← Tree.meaning settings inner
    return (.repeated p least most, settings)
  | .sequence _ parts => do
    let (ps, settings) ← Tree.meanings settings parts
    return (.sequence ps, settings)
  | .choice _ parts => do
    let (ps, settings) ← Tree.meanings settings parts
    return (Pattern.choice ps, settings)

/-- What some parts mean, one after the other. -/
def Tree.meanings (settings : Settings) : List Tree → Except Fault (List Pattern × Settings)
  | [] => .ok ([], settings)
  | t :: ts => do
    let (p, settings) ← Tree.meaning settings t
    let (ps, settings) ← Tree.meanings settings ts
    return (p :: ps, settings)

end

/-- **The pattern that is written.** It may be too deep, mean nothing, or take too much room. -/
def ofTree (tree : Tree) : Except Fault Pattern := do
  if let some stretch := tree.tooDeep depthLimit then faultAt .tooDeep stretch
  else
    let p := (← tree.meaning Settings.standard).1
    if roomLimit < p.room then .error .tooBig
    else if p.asksForScripts then .error .scriptWords
    else return p

end Pattern

end DisplaySession
