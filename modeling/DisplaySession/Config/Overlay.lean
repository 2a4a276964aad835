import DisplaySession.Text.Numeral
import DisplaySession.Toml.Value

/-
Layers of settings: a document, and the variables that override it.

Settings are addressed by paths. A variable's name becomes a path by losing its beginning and by
reading every pair of underscores as a point; a name at the root of a document is read as a path,
too. What a path sets replaces what was there, and tables and lists come to be on the way to it. An
index that is negative counts from the end of a list, and a list that is too short for an index
gets longer, at its end or at its beginning.

A name that is no path sets nothing that anybody reads.

The settings of a layer are set one after another, in an order that nobody can rely on: a layer is a
hash table. So the order is a parameter (`Order`), and it shows where one name leads into another.
-/
set_option autoImplicit false

namespace DisplaySession

namespace Config

open Toml (Value Table lookUp put)

/-! ## Paths -/

/-- **A step of a path.** -/
inductive PathStep
  | key (name : String)
  | index (i : Int)
  deriving DecidableEq

/-- A character of a key in a path. -/
def isPathChar (c : Char) : Bool :=
  c.isAlphanum || c == '_' || c == '-'

/-- A character that pads an index. -/
def isPadding (c : Char) : Bool :=
  c == ' ' || c == '\t'

/-- **An index**: digits that fit into 64 bits, with an optional minus, between padding. -/
def index? (cs : List Char) : Option Int :=
  let word := ((cs.dropWhile isPadding).reverse.dropWhile isPadding).reverse
  if word.head? = some '+' then none else Text.int64? word

/-- The steps behind the first key. -/
def laterSteps? : (fuel : Nat) → List Char → Option (List PathStep)
  | 0, _ => none
  | fuel + 1, cs =>
    match cs with
    | [] => some []
    | '.' :: rest =>
      let name := rest.takeWhile isPathChar
      if name.isEmpty then none
      else do
        let steps ← laterSteps? fuel (rest.dropWhile isPathChar)
        return .key (String.ofList name) :: steps
    | '[' :: rest =>
      match rest.dropWhile (· ≠ ']') with
      | [] => none
      | _ :: behind => do
        let i ← index? (rest.takeWhile (· ≠ ']'))
        let steps ← laterSteps? fuel behind
        return .index i :: steps
    | _ => none

/-- **The path in a name**: its first key and the steps behind it. -/
def pathOf? (name : String) : Option (String × List PathStep) := do
  let cs := name.toList
  let first := cs.takeWhile isPathChar
  if first.isEmpty then none
  else
    let steps ← laterSteps? (cs.length + 1) (cs.dropWhile isPathChar)
    return (String.ofList first, steps)

/-! ## Setting -/

/-- The entries of a table; whatever else is there gives way. -/
def entriesOf : Option Value → Table
  | some (.table entries) => entries
  | _ => []

/-- The items of a list; whatever else is there gives way. -/
def itemsOf : Option Value → List Value
  | some (.array items) => items
  | _ => []

/-- What stands in a list where nothing was set. No setting takes it. -/
def filler : Value :=
  .array []

/-- **A list that is long enough for an index**, and the position that the index has in it. -/
def withPosition (items : List Value) (i : Int) : List Value × Nat :=
  if i < 0 then
    (List.replicate (-i - items.length).toNat filler ++ items, (items.length + i).toNat)
  else (items ++ List.replicate (i + 1 - items.length).toNat filler, i.toNat)

mutual

/-- **A value that is set where another one may be.** A table adds its entries to a table that is
there; everything else replaces what is there. -/
def merged : Value → Option Value → Value
  | .table entries, old => .table (mergedEntries entries (entriesOf old))
  | v, _ => v

/-- Sets every entry of a table in another one. -/
def mergedEntries : List (String × Value) → Table → Table
  | [], table => table
  | (key, v) :: entries, table =>
    mergedEntries entries (put key (merged v (lookUp key table)) table)

end

/-- **Sets what the steps lead to**, from what is there. -/
def setAt : List PathStep → Value → Option Value → Value
  | [], v, old => merged v old
  | .index i :: steps, v, old =>
    let (items, position) := withPosition (itemsOf old) i
    .array (items.modify position fun item => setAt steps v (some item))
  | .key name :: steps, v, old =>
    .table (put name (setAt steps v (lookUp name (entriesOf old))) (entriesOf old))

/-- **Sets what a name leads to** in a table of all settings. -/
def setNamed (table : Table) (name : String) (v : Value) : Table :=
  match pathOf? name with
  | some (first, steps) => put first (setAt steps v (lookUp first table)) table
  | none => put name (merged v (lookUp name table)) table

/-- **The settings of some names**, set one after another. -/
def layered (table : Table) (settings : List (String × Value)) : Table :=
  settings.foldl (fun table s => setNamed table s.1 s.2) table

/-! ## Orders -/

/-- **An order in which the settings of a layer are set**: each of them once. -/
structure Order where
  arrange : List (String × Value) → List (String × Value)
  perm : ∀ settings, (arrange settings).Perm settings

/-- The order in which the settings were given. -/
def Order.given : Order :=
  ⟨id, fun _ => .refl _⟩

/-- **The orders of one load**: those of the names in the document, and those of the variables. -/
structure Orders where
  document : Order
  overrides : Order

/-- Both layers in the order in which they were given. -/
def Orders.given : Orders :=
  ⟨.given, .given⟩

end Config

end DisplaySession
