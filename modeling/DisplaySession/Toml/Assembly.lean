import DisplaySession.Toml.Value

/-
Putting a document together from its statements.

Tables come to be in three ways: by a header, as a part of a longer header, and as a part of a
dotted key. A table that came to be as a part of a longer header may later get a header of its own
or values of dotted keys, but not both: a header and a dotted key never share a table. A value that
is a table in braces is complete as it stands, and nothing is ever said twice.

A header that stands in double brackets adds a table to a list, and what follows goes to the last
table of the list.
-/
set_option autoImplicit false

namespace DisplaySession.Toml

/-! ## Tables in the making -/

/-- **How a table came to be.** -/
inductive Origin
  /-- By a header of its own. -/
  | header
  /-- As a part of a longer header. -/
  | implied
  /-- As a part of a dotted key, or as one of a longer header that got a value of a dotted key. -/
  | dotted
  deriving DecidableEq

/-- **What stands under a key** while a document is put together. -/
inductive Node
  /-- A complete value. -/
  | value (v : Value)
  | table (origin : Origin) (entries : List (String × Node))
  /-- A list of tables. -/
  | tables (items : List (List (String × Node)))

/-- The entries of a table in the making. -/
abbrev Nodes := List (String × Node)

/-- How a table comes to be on the way to another one. -/
def wayOrigin (dotted : Bool) : Origin :=
  if dotted then .dotted else .implied

/-- What is done to a table: its origin and its entries before and after. -/
abbrev TableChange := Origin → Nodes → Option (Origin × Nodes)

/-- **Changes the table that a path leads to**, and makes the tables on the way to it. A dotted key
leads through no table that has a header. -/
def change (dotted : Bool) (act : TableChange) : (path : List String) → TableChange
  | [], origin, nodes => act origin nodes
  | key :: path, origin, nodes =>
    match lookUp key nodes with
    | none => do
      let (o, inner) ← change dotted act path (wayOrigin dotted) []
      return (origin, put key (.table o inner) nodes)
    | some (.value _) => none
    | some (.table o inner) =>
      if dotted ∧ o = .header then none
      else do
        let (o, inner) ← change dotted act path o inner
        return (origin, put key (.table o inner) nodes)
    | some (.tables items) =>
      match items.getLast? with
      | none => none
      | some last => do
        let (_, last) ← change dotted act path .header last
        return (origin, put key (.tables (items.dropLast ++ [last])) nodes)

/-- Adds a value under a key that is not there yet. -/
def addValue (key : String) (value : Value) : TableChange := fun origin nodes =>
  if (lookUp key nodes).isSome then none else some (origin, put key (.value value) nodes)

/-- Adds a value of a dotted key to the table of its last key but one. From then on the table is one
of dotted keys. -/
def addDotted (key : String) (value : Value) : TableChange := fun origin nodes =>
  if origin = .header then none else addValue key value .dotted nodes

/-- **Adds a value under a dotted key**: the keys on the way, and the last one. -/
def addPair (way : List String) (key : String) (value : Value) : TableChange :=
  if way = [] then addValue key value else change true (addDotted key value) way

/-- Gives a table its header. -/
def openTable (key : String) : TableChange := fun origin nodes =>
  match lookUp key nodes with
  | none => some (origin, put key (.table .header []) nodes)
  | some (.table .implied inner) => some (origin, put key (.table .header inner) nodes)
  | some _ => none

/-- Adds a table to a list of tables. -/
def openItem (key : String) : TableChange := fun origin nodes =>
  match lookUp key nodes with
  | none => some (origin, put key (.tables [[]]) nodes)
  | some (.tables items) => some (origin, put key (.tables (items ++ [[]])) nodes)
  | some _ => none

/-! ## Finished values -/

mutual

/-- **The value that a node has become.** -/
def Node.finished : Node → Value
  | .value v => v
  | .table _ entries => .table (finishedEntries entries)
  | .tables items => .array (finishedItems items)

/-- The entries that have become of a table's. -/
def finishedEntries : List (String × Node) → List (String × Value)
  | [] => []
  | (key, node) :: entries => (key, node.finished) :: finishedEntries entries

/-- The tables that have become of a list's. -/
def finishedItems : List (List (String × Node)) → List Value
  | [] => []
  | entries :: items => .table (finishedEntries entries) :: finishedItems items

end

/-! ## Statements -/

/-- **A statement of a document.** A path is the keys on the way and the last key. -/
inductive Statement
  /-- A header. -/
  | openTable (way : List String) (key : String)
  /-- A header in double brackets. -/
  | openItem (way : List String) (key : String)
  /-- A value under a key. -/
  | pair (way : List String) (key : String) (value : Value)

/-- A document in the making: everything so far, and the path of the table that values go to. -/
structure Draft where
  nodes : Nodes
  current : List String

/-- **Adds a statement to a draft.** -/
def Draft.add (draft : Draft) : Statement → Option Draft
  | .openTable way key => do
    let (_, nodes) ← change false (Toml.openTable key) way .header draft.nodes
    return ⟨nodes, way ++ [key]⟩
  | .openItem way key => do
    let (_, nodes) ← change false (Toml.openItem key) way .header draft.nodes
    return ⟨nodes, way ++ [key]⟩
  | .pair way key value => do
    let (_, nodes) ← change false (addPair way key value) draft.current .header draft.nodes
    return ⟨nodes, draft.current⟩

/-- **The document of some statements**, unless they contradict each other. -/
def documentOf? (statements : List Statement) : Option Table := do
  let draft ← statements.foldlM Draft.add ⟨[], []⟩
  return finishedEntries draft.nodes

/-- **The table of some pairs in braces.** -/
def tableOf? (pairs : List (List String × String × Value)) : Option Table := do
  let nodes ← pairs.foldlM
    (fun nodes p => (addPair p.1 p.2.1 p.2.2 .header nodes).map (·.2)) []
  return finishedEntries nodes

end DisplaySession.Toml
