import DisplaySession.Proofs.Toml.Document
import DisplaySession.Toml.Reader

/-
What a document that was read can hold.

Its integers have 64 bits with a sign, because the reader of words refuses others, and the keys of
each of its tables are different, because nothing is said twice while the tables come to be. Both
hold of every value at every depth (`Value.WellFormed`).

A table comes to be in many small changes on paths, so the second part is an invariant of tables in
the making: `Keeps` says that a change preserves it, and it is enough to look at the change at the
end of the path (`keeps_change`).
-/
set_option autoImplicit false

namespace DisplaySession.Toml

/-! ## Proper entries -/

/-- **Entries with different keys** whose values are all of a kind. -/
structure Proper {α : Type} (kind : α → Prop) (entries : List (String × α)) : Prop where
  distinct : (keysOf entries).Nodup
  values : ∀ e ∈ entries, kind e.2

section

variable {α : Type} {kind : α → Prop} {entries : List (String × α)}

theorem keysOf_put (key : String) (a : α) (entries : List (String × α)) :
    keysOf (put key a entries) =
      if key ∈ keysOf entries then keysOf entries else keysOf entries ++ [key] := by
  induction entries with
  | nil => rfl
  | cons e es ih =>
    by_cases he : e.1 = key
    · simp [put, he]
    · have hmem : key ∈ keysOf (e :: es) ↔ key ∈ keysOf es := by simp [Ne.symm he]
      rw [put, if_neg he]
      show e.1 :: keysOf (put key a es) = _
      rw [ih]
      by_cases h : key ∈ keysOf es
      · rw [if_pos h, if_pos (hmem.mpr h)]
        rfl
      · rw [if_neg h, if_neg (mt hmem.mp h)]
        rfl

theorem mem_of_lookUp {key : String} {a : α} (h : lookUp key entries = some a) :
    (key, a) ∈ entries := by
  obtain ⟨e, hfound, rfl⟩ := Option.map_eq_some_iff.mp h
  have hkey : e.1 = key := by simpa using List.find?_some hfound
  rw [← hkey]
  exact List.mem_of_find?_eq_some hfound

theorem mem_put {key : String} {a : α} {e : String × α} (h : e ∈ put key a entries) :
    e = (key, a) ∨ e ∈ entries := by
  induction entries with
  | nil => exact .inl (List.mem_singleton.mp h)
  | cons e' es ih =>
    rw [put] at h
    split at h
    · exact (List.mem_cons.mp h).imp_right (List.mem_cons_of_mem _)
    · rcases List.mem_cons.mp h with rfl | h
      · exact .inr List.mem_cons_self
      · exact (ih h).imp_right (List.mem_cons_of_mem _)

theorem proper_nil : Proper kind [] :=
  ⟨List.nodup_nil, fun _ h => absurd h List.not_mem_nil⟩

/-- Putting a value of the kind under a key keeps entries proper. -/
theorem proper_put (h : Proper kind entries) (key : String) {a : α} (ha : kind a) :
    Proper kind (put key a entries) := by
  refine ⟨?_, ?_⟩
  · rw [keysOf_put]
    split
    · exact h.distinct
    · rename_i hkey
      refine List.nodup_append.mpr ⟨h.distinct, List.pairwise_singleton _ key, ?_⟩
      rintro _ hmem _ hkeys rfl
      exact hkey (List.mem_singleton.mp hkeys ▸ hmem)
  · intro e he
    rcases mem_put he with rfl | he
    · exact ha
    · exact h.values e he

theorem kind_of_lookUp (h : Proper kind entries) {key : String} {a : α}
    (hfound : lookUp key entries = some a) : kind a :=
  h.values _ (mem_of_lookUp hfound)

theorem mem_keysOf_iff {key : String} : key ∈ keysOf entries ↔ (lookUp key entries).isSome := by
  constructor
  · intro h
    obtain ⟨e, he, rfl⟩ := List.mem_map.mp h
    rw [lookUp, Option.isSome_map, List.find?_isSome]
    exact ⟨e, he, by simp⟩
  · intro h
    obtain ⟨a, ha⟩ := Option.isSome_iff_exists.mp h
    exact List.mem_map_of_mem (mem_of_lookUp ha)

/-- What is in entries with different keys is found. -/
theorem lookUp_eq_some_iff (hdistinct : (keysOf entries).Nodup) {key : String} {a : α} :
    lookUp key entries = some a ↔ (key, a) ∈ entries := by
  refine ⟨mem_of_lookUp, fun h => ?_⟩
  induction entries with
  | nil => exact absurd h List.not_mem_nil
  | cons e es ih =>
    obtain ⟨hfresh, hdistinct⟩ := List.nodup_cons.mp hdistinct
    rw [lookUp_cons]
    rcases List.mem_cons.mp h with rfl | h
    · exact if_pos rfl
    · have hkeys : key ∈ keysOf es := List.mem_map_of_mem h
      have hne : e.1 ≠ key := by
        rintro rfl
        exact hfresh hkeys
      rw [if_neg hne]
      exact ih hdistinct h

/-- **In another order, entries with different keys hold the same.** -/
theorem lookUp_perm {entries' : List (String × α)} (hdistinct : (keysOf entries).Nodup)
    (hperm : entries'.Perm entries) (key : String) : lookUp key entries' = lookUp key entries := by
  have hdistinct' : (keysOf entries').Nodup := (hperm.map _).nodup_iff.mpr hdistinct
  refine Option.ext fun a => ?_
  rw [lookUp_eq_some_iff hdistinct', lookUp_eq_some_iff hdistinct, hperm.mem_iff]

theorem proper_perm {entries' : List (String × α)} (hperm : entries'.Perm entries)
    (h : Proper kind entries) : Proper kind entries' :=
  ⟨(hperm.map _).nodup_iff.mpr h.distinct, fun e he => h.values e (hperm.mem_iff.mp he)⟩

end

/-! ## Values and nodes -/

/-- **A value that a document can hold**: its integers fit, and the keys of its tables differ. -/
inductive Value.WellFormed : Value → Prop
  | text (s : String) : WellFormed (.text s)
  | integer {n : Int} (hlow : -(Text.signedLimit : Int) ≤ n) (hhigh : n < Text.signedLimit) :
    WellFormed (.integer n)
  | float (x : Binary64) : WellFormed (.float x)
  | boolean (b : Bool) : WellFormed (.boolean b)
  | array {items : List Value} (hitems : ∀ v ∈ items, WellFormed v) : WellFormed (.array items)
  | table {entries : List (String × Value)} (hdistinct : (keysOf entries).Nodup)
    (hvalues : ∀ e ∈ entries, WellFormed e.2) : WellFormed (.table entries)

theorem Value.wellFormed_table_iff {entries : Table} :
    (Value.table entries).WellFormed ↔ Proper Value.WellFormed entries :=
  ⟨fun | .table hdistinct hvalues => ⟨hdistinct, hvalues⟩, fun h => .table h.distinct h.values⟩

/-- A node whose tables in the making have different keys and whose values can be held. -/
inductive Node.WellFormed : Node → Prop
  | value {v : Value} (h : v.WellFormed) : WellFormed (.value v)
  | table {origin : Origin} {entries : List (String × Node)} (hdistinct : (keysOf entries).Nodup)
    (hnodes : ∀ e ∈ entries, WellFormed e.2) : WellFormed (.table origin entries)
  | tables {items : List (List (String × Node))}
    (hdistinct : ∀ entries ∈ items, (keysOf entries).Nodup)
    (hnodes : ∀ entries ∈ items, ∀ e ∈ entries, WellFormed e.2) : WellFormed (.tables items)

theorem Node.wellFormed_table_iff {origin : Origin} {entries : Nodes} :
    (Node.table origin entries).WellFormed ↔ Proper Node.WellFormed entries :=
  ⟨fun | .table hdistinct hnodes => ⟨hdistinct, hnodes⟩, fun h => .table h.distinct h.values⟩

theorem Node.wellFormed_tables_iff {items : List Nodes} :
    (Node.tables items).WellFormed ↔ ∀ entries ∈ items, Proper Node.WellFormed entries :=
  ⟨fun | .tables hdistinct hnodes => fun entries h => ⟨hdistinct entries h, hnodes entries h⟩,
    fun h => .tables (fun entries he => (h entries he).distinct) fun entries he =>
      (h entries he).values⟩

theorem finishedEntries_eq (entries : Nodes) :
    finishedEntries entries = entries.map fun e => (e.1, e.2.finished) := by
  induction entries with
  | nil => rfl
  | cons e es ih => rw [finishedEntries, ih, List.map_cons]

theorem finishedItems_eq (items : List Nodes) :
    finishedItems items = items.map fun entries => .table (finishedEntries entries) := by
  induction items with
  | nil => rfl
  | cons entries items ih => rw [finishedItems, ih, List.map_cons]

theorem keysOf_finishedEntries (entries : Nodes) :
    keysOf (finishedEntries entries) = keysOf entries := by
  rw [finishedEntries_eq, keysOf, List.map_map]
  rfl

/-- **What becomes of a well-formed node is well-formed.** -/
theorem wellFormed_finished {node : Node} (h : node.WellFormed) : node.finished.WellFormed := by
  induction h with
  | value h => exact h
  | @table _ entries hdistinct _ ih =>
    rw [Node.finished]
    refine .table (by rwa [keysOf_finishedEntries]) ?_
    intro e he
    rw [finishedEntries_eq] at he
    obtain ⟨node, hnode, rfl⟩ := List.mem_map.mp he
    exact ih node hnode
  | @tables items hdistinct _ ih =>
    rw [Node.finished, finishedItems_eq]
    refine .array ?_
    intro v hv
    obtain ⟨entries, hentries, rfl⟩ := List.mem_map.mp hv
    refine .table (by rw [keysOf_finishedEntries]; exact hdistinct entries hentries) ?_
    intro e he
    rw [finishedEntries_eq] at he
    obtain ⟨node, hnode, rfl⟩ := List.mem_map.mp he
    exact ih entries hentries node hnode

theorem proper_finished {nodes : Nodes} (h : Proper Node.WellFormed nodes) :
    Proper Value.WellFormed (finishedEntries nodes) := by
  have hnode : (Node.table .header nodes).WellFormed := Node.wellFormed_table_iff.mpr h
  exact Value.wellFormed_table_iff.mp (wellFormed_finished hnode)

/-! ## Changes -/

/-- **A change that keeps a table in the making proper.** -/
def Keeps (act : TableChange) : Prop :=
  ∀ {origin origin' : Origin} {nodes nodes' : Nodes},
    act origin nodes = some (origin', nodes') → Proper Node.WellFormed nodes →
    Proper Node.WellFormed nodes'

theorem keeps_addValue {key : String} {v : Value} (hv : v.WellFormed) : Keeps (addValue key v) := by
  intro origin origin' nodes nodes' h hnodes
  rw [addValue] at h
  split at h
  · cases h
  · cases h
    exact proper_put hnodes key (.value hv)

theorem keeps_addDotted {key : String} {v : Value} (hv : v.WellFormed) :
    Keeps (addDotted key v) := by
  intro origin origin' nodes nodes' h hnodes
  rw [addDotted] at h
  split at h
  · cases h
  · exact keeps_addValue hv h hnodes

theorem keeps_openTable (key : String) : Keeps (openTable key) := by
  intro origin origin' nodes nodes' h hnodes
  rw [openTable] at h
  split at h
  · cases h
    exact proper_put hnodes key (Node.wellFormed_table_iff.mpr proper_nil)
  · rename_i inner hfound
    cases h
    have hinner := Node.wellFormed_table_iff.mp (kind_of_lookUp hnodes hfound)
    exact proper_put hnodes key (Node.wellFormed_table_iff.mpr hinner)
  · cases h

theorem keeps_openItem (key : String) : Keeps (openItem key) := by
  intro origin origin' nodes nodes' h hnodes
  rw [openItem] at h
  split at h
  · cases h
    refine proper_put hnodes key (Node.wellFormed_tables_iff.mpr ?_)
    intro entries he
    rw [List.mem_singleton.mp he]
    exact proper_nil
  · rename_i items hfound
    cases h
    have hitems := Node.wellFormed_tables_iff.mp (kind_of_lookUp hnodes hfound)
    refine proper_put hnodes key (Node.wellFormed_tables_iff.mpr ?_)
    intro entries he
    rcases List.mem_append.mp he with he | he
    · exact hitems entries he
    · rw [List.mem_singleton.mp he]
      exact proper_nil
  · cases h

/-- **A change on a path keeps what the change at its end keeps.** -/
theorem keeps_change {dotted : Bool} {act : TableChange} (hact : Keeps act) (path : List String) :
    Keeps (change dotted act path) := by
  induction path with
  | nil => exact hact
  | cons key path ih =>
    intro origin origin' nodes nodes' h hnodes
    rw [change] at h
    split at h
    · obtain ⟨⟨o, inner⟩, hinner, h⟩ := Option.bind_eq_some_iff.mp h
      cases h
      exact proper_put hnodes key (Node.wellFormed_table_iff.mpr (ih hinner proper_nil))
    · cases h
    · rename_i o inner hfound
      split at h
      · cases h
      · obtain ⟨⟨o', inner'⟩, hinner, h⟩ := Option.bind_eq_some_iff.mp h
        cases h
        have hold := Node.wellFormed_table_iff.mp (kind_of_lookUp hnodes hfound)
        exact proper_put hnodes key (Node.wellFormed_table_iff.mpr (ih hinner hold))
    · rename_i items hfound
      have hitems := Node.wellFormed_tables_iff.mp (kind_of_lookUp hnodes hfound)
      split at h
      · cases h
      · rename_i last hlast
        obtain ⟨⟨o', last'⟩, hinner, h⟩ := Option.bind_eq_some_iff.mp h
        cases h
        -- Only the last table of the list is changed.
        have hold := hitems last (List.mem_of_getLast? hlast)
        refine proper_put hnodes key (Node.wellFormed_tables_iff.mpr ?_)
        intro entries he
        rcases List.mem_append.mp he with he | he
        · exact hitems entries ((List.dropLast_sublist items).subset he)
        · rw [List.mem_singleton.mp he]
          exact ih hinner hold

theorem keeps_addPair (way : List String) (key : String) {v : Value} (hv : v.WellFormed) :
    Keeps (addPair way key v) := by
  rw [addPair]
  split
  · exact keeps_addValue hv
  · exact keeps_change (keeps_addDotted hv) way

/-- What every step of a fold keeps, the fold keeps. -/
theorem foldlM_keeps {α β : Type} {kept : β → Prop} {step : β → α → Option β} {list : List α}
    (hstep : ∀ b b' : β, ∀ a ∈ list, kept b → step b a = some b' → kept b') {b b' : β}
    (hb : kept b) (h : list.foldlM step b = some b') : kept b' := by
  induction list generalizing b with
  | nil =>
    cases h
    exact hb
  | cons a list ih =>
    rw [List.foldlM_cons] at h
    obtain ⟨next, hnext, h⟩ := Option.bind_eq_some_iff.mp h
    exact ih (fun b b' a ha => hstep b b' a (List.mem_cons_of_mem _ ha))
      (hstep b next a List.mem_cons_self hb hnext) h

/-- A table in braces of well-formed values is proper. -/
theorem proper_tableOf? {pairs : List (List String × String × Value)} {table : Table}
    (hpairs : ∀ p ∈ pairs, p.2.2.WellFormed) (h : tableOf? pairs = some table) :
    Proper Value.WellFormed table := by
  obtain ⟨nodes, hfold, h⟩ := Option.bind_eq_some_iff.mp h
  cases h
  refine proper_finished (foldlM_keeps ?_ proper_nil hfold)
  intro nodes nodes' p hp hnodes hstep
  obtain ⟨⟨origin, nodes'⟩, hadded, rfl⟩ := Option.map_eq_some_iff.mp hstep
  exact keeps_addPair p.1 p.2.1 (hpairs p hp) hadded hnodes

/-- The value in a statement, if it has one, is well-formed. -/
def Statement.WellFormed : Statement → Prop
  | .pair _ _ v => v.WellFormed
  | _ => True

theorem proper_add {draft draft' : Draft} {statement : Statement} (hstatement : statement.WellFormed)
    (hdraft : Proper Node.WellFormed draft.nodes) (h : draft.add statement = some draft') :
    Proper Node.WellFormed draft'.nodes := by
  cases statement with
  | openTable way key =>
    obtain ⟨⟨origin, nodes⟩, hchange, h⟩ := Option.bind_eq_some_iff.mp h
    cases h
    exact keeps_change (keeps_openTable key) way hchange hdraft
  | openItem way key =>
    obtain ⟨⟨origin, nodes⟩, hchange, h⟩ := Option.bind_eq_some_iff.mp h
    cases h
    exact keeps_change (keeps_openItem key) way hchange hdraft
  | pair way key v =>
    obtain ⟨⟨origin, nodes⟩, hchange, h⟩ := Option.bind_eq_some_iff.mp h
    cases h
    exact keeps_change (keeps_addPair way key hstatement) draft.current hchange hdraft

/-- **A document of well-formed statements is proper.** -/
theorem proper_documentOf? {statements : List Statement} {table : Table}
    (hstatements : ∀ s ∈ statements, s.WellFormed) (h : documentOf? statements = some table) :
    Proper Value.WellFormed table := by
  obtain ⟨draft, hfold, h⟩ := Option.bind_eq_some_iff.mp h
  cases h
  have hstep (draft draft' : Draft) : ∀ s ∈ statements, Proper Node.WellFormed draft.nodes →
      draft.add s = some draft' → Proper Node.WellFormed draft'.nodes :=
    fun s hs => proper_add (hstatements s hs)
  exact proper_finished (foldlM_keeps hstep proper_nil hfold)

/-! ## Readers -/

/-- Every integer that is read has 64 bits. -/
theorem wellFormed_of_integer? {cs : List Char} {n : Int} (h : integer? cs = some n) :
    (Value.integer n).WellFormed := by
  have hsigned {m n : Int} (h : signed64? m = some n) : (Value.integer n).WellFormed := by
    rw [signed64?] at h
    split at h
    · rename_i hfits
      cases h
      exact .integer hfits.1 hfits.2
    · cases h
  rw [integer?] at h
  split at h
  · exact hsigned h
  · simp only at h
    split at h
    · exact hsigned h
    · cases h

theorem wellFormed_wordValue? {cs : List Char} {v : Value} (h : wordValue? cs = some v) :
    v.WellFormed := by
  rw [wordValue?] at h
  split at h
  · cases h
    exact .boolean true
  · split at h
    · cases h
      exact .boolean false
    · split at h
      · rename_i n hn
        cases h
        exact wellFormed_of_integer? hn
      · split at h
        · cases h
          exact .float _
        · obtain ⟨m, -, rfl⟩ := Option.map_eq_some_iff.mp h
          exact .text _

/-- What is read with so many steps: values that are well-formed, on their own, in lists and in
tables in braces. -/
structure ReadsWellFormed (steps : Nat) : Prop where
  value : ∀ {depth cs v rest}, value steps depth cs = some (v, rest) → v.WellFormed
  items : ∀ {depth cs vs rest}, items steps depth cs = some (vs, rest) → ∀ v ∈ vs, v.WellFormed
  pairs : ∀ {depth cs ps rest}, pairs steps depth cs = some (ps, rest) →
    ∀ p ∈ ps, p.2.2.WellFormed

section

variable {steps depth : Nat} {cs rest : List Char}

theorem wellFormed_value_succ (ih : ReadsWellFormed steps) {v : Value}
    (h : value (steps + 1) depth cs = some (v, rest)) : v.WellFormed := by
  rw [value.eq_def] at h
  simp only at h
  split at h
  · split at h
    · cases h
    · obtain ⟨_, -, h⟩ := Option.bind_eq_some_iff.mp h
      obtain ⟨⟨vs, _⟩, hvs, h⟩ := Option.bind_eq_some_iff.mp h
      cases h
      exact .array (ih.items hvs)
  · split at h
    · cases h
    · obtain ⟨_, -, h⟩ := Option.bind_eq_some_iff.mp h
      obtain ⟨⟨ps, _⟩, hps, h⟩ := Option.bind_eq_some_iff.mp h
      obtain ⟨table, htable, h⟩ := Option.bind_eq_some_iff.mp h
      cases h
      exact Value.wellFormed_table_iff.mpr (proper_tableOf? (ih.pairs hps) htable)
  · split at h
    · obtain ⟨r, -, h⟩ := Option.map_eq_some_iff.mp h
      cases h
      exact .text _
    · obtain ⟨v, hv, h⟩ := Option.map_eq_some_iff.mp h
      cases h
      exact wellFormed_wordValue? hv
  · cases h

theorem wellFormed_items_succ (ih : ReadsWellFormed steps) {vs : List Value}
    (h : items (steps + 1) depth cs = some (vs, rest)) : ∀ v ∈ vs, v.WellFormed := by
  rw [items.eq_def] at h
  simp only at h
  split at h
  · cases h
    simp
  · obtain ⟨⟨v, _⟩, hv, h⟩ := Option.bind_eq_some_iff.mp h
    obtain ⟨_, -, h⟩ := Option.bind_eq_some_iff.mp h
    simp only at h
    split at h
    · obtain ⟨_, -, h⟩ := Option.bind_eq_some_iff.mp h
      obtain ⟨⟨vs, _⟩, hvs, h⟩ := Option.bind_eq_some_iff.mp h
      cases h
      exact List.forall_mem_cons.mpr ⟨ih.value hv, ih.items hvs⟩
    · cases h
      exact List.forall_mem_singleton.mpr (ih.value hv)
    · cases h

theorem wellFormed_pairs_succ (ih : ReadsWellFormed steps)
    {ps : List (List String × String × Value)}
    (h : pairs (steps + 1) depth cs = some (ps, rest)) : ∀ p ∈ ps, p.2.2.WellFormed := by
  rw [pairs.eq_def] at h
  simp only at h
  split at h
  · cases h
    simp
  · obtain ⟨⟨⟨way, key⟩, _⟩, -, h⟩ := Option.bind_eq_some_iff.mp h
    obtain ⟨_, -, h⟩ := Option.bind_eq_some_iff.mp h
    simp only at h
    split at h
    · obtain ⟨_, -, h⟩ := Option.bind_eq_some_iff.mp h
      obtain ⟨⟨v, _⟩, hv, h⟩ := Option.bind_eq_some_iff.mp h
      obtain ⟨_, -, h⟩ := Option.bind_eq_some_iff.mp h
      simp only at h
      split at h
      · obtain ⟨_, -, h⟩ := Option.bind_eq_some_iff.mp h
        obtain ⟨⟨ps, _⟩, hps, h⟩ := Option.bind_eq_some_iff.mp h
        cases h
        exact List.forall_mem_cons.mpr ⟨ih.value hv, ih.pairs hps⟩
      · cases h
        exact List.forall_mem_singleton.mpr (ih.value hv)
      · cases h
    · cases h

end

/-- **Every value that is read is well-formed.** -/
theorem readsWellFormed (steps : Nat) : ReadsWellFormed steps := by
  induction steps with
  | zero =>
    refine ⟨?_, ?_, ?_⟩
    · intro depth cs v rest h
      simp [value] at h
    · intro depth cs vs rest h
      simp [items] at h
    · intro depth cs ps rest h
      simp [pairs] at h
  | succ steps ih =>
    exact ⟨wellFormed_value_succ ih, wellFormed_items_succ ih, wellFormed_pairs_succ ih⟩

theorem wellFormed_statement {steps : Nat} {cs rest : List Char} {s : Statement}
    (h : statement steps cs = some (s, rest)) : s.WellFormed := by
  rw [statement.eq_def] at h
  split at h
  · obtain ⟨⟨⟨way, key⟩, _⟩, -, h⟩ := Option.bind_eq_some_iff.mp h
    simp only at h
    split at h <;> cases h
    trivial
  · obtain ⟨⟨⟨way, key⟩, _⟩, -, h⟩ := Option.bind_eq_some_iff.mp h
    simp only at h
    split at h <;> cases h
    trivial
  · obtain ⟨⟨⟨way, key⟩, _⟩, -, h⟩ := Option.bind_eq_some_iff.mp h
    simp only at h
    split at h
    · obtain ⟨⟨v, _⟩, hv, h⟩ := Option.bind_eq_some_iff.mp h
      cases h
      exact (readsWellFormed steps).value hv
    · cases h

theorem wellFormed_statements {steps lines : Nat} {cs : List Char} {list : List Statement}
    (h : statements steps lines cs = some list) : ∀ s ∈ list, s.WellFormed := by
  induction lines generalizing cs list with
  | zero => cases h
  | succ lines ih =>
    rw [statements] at h
    simp only at h
    split at h
    · cases h
      simp
    · split at h
      · obtain ⟨_, -, h⟩ := Option.bind_eq_some_iff.mp h
        exact ih h
      · obtain ⟨⟨s, _⟩, hs, h⟩ := Option.bind_eq_some_iff.mp h
        obtain ⟨_, -, h⟩ := Option.bind_eq_some_iff.mp h
        obtain ⟨list, hlist, h⟩ := Option.bind_eq_some_iff.mp h
        cases h
        exact List.forall_mem_cons.mpr ⟨wellFormed_statement hs, ih hlist⟩

/-- **A document that is read has different keys and holds values that are well-formed.** -/
theorem proper_read? {cs : List Char} {table : Table} (h : read? cs = some table) :
    Proper Value.WellFormed table := by
  obtain ⟨list, hlist, h⟩ := Option.bind_eq_some_iff.mp h
  exact proper_documentOf? (wellFormed_statements hlist) h

end DisplaySession.Toml
