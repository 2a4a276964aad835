import DisplaySession.Proofs.Toml.Statement

/-
A document that was written reads back as the table of its sections.

The statements build the table from left to right. A section has a name that no section before it
has, so each statement finds its table where the last header put it, at the end.
-/
set_option autoImplicit false

namespace DisplaySession.Toml

/-! ## Entries by key -/

/-- The keys of some entries. -/
abbrev keysOf {α : Type} (entries : List (String × α)) : List String :=
  entries.map (·.1)

section

variable {α : Type} {key : String} {entries : List (String × α)}

theorem lookUp_of_not_mem (h : key ∉ keysOf entries) : lookUp key entries = none := by
  induction entries with
  | nil => rfl
  | cons e es ih =>
    rw [keysOf, List.map_cons, List.mem_cons, not_or] at h
    rw [lookUp_cons, if_neg (Ne.symm h.1), ih h.2]

theorem put_of_not_mem (h : key ∉ keysOf entries) (a : α) :
    put key a entries = entries ++ [(key, a)] := by
  induction entries with
  | nil => rfl
  | cons e es ih =>
    rw [keysOf, List.map_cons, List.mem_cons, not_or] at h
    rw [put, if_neg (Ne.symm h.1), ih h.2]
    rfl

theorem lookUp_last (h : key ∉ keysOf entries) (a : α) :
    lookUp key (entries ++ [(key, a)]) = some a := by
  rw [← put_of_not_mem h, lookUp_put, if_pos rfl]

theorem put_last (h : key ∉ keysOf entries) (a b : α) :
    put key b (entries ++ [(key, a)]) = entries ++ [(key, b)] := by
  induction entries with
  | nil => rw [List.nil_append, put, if_pos rfl, List.nil_append]
  | cons e es ih =>
    rw [keysOf, List.map_cons, List.mem_cons, not_or] at h
    rw [List.cons_append, put, if_neg (Ne.symm h.1), ih h.2]
    rfl

end

/-! ## The document -/

def Setting.entry (pair : String × Setting) : String × Value :=
  (pair.1, pair.2.value)

/-- **The table that sections are read as.** -/
def tableOfSections (sections : List Section) : Table :=
  sections.map fun s => (s.name, .table (s.settings.map Setting.entry))

/-- A complete entry of a table in the making. -/
def complete (entry : String × Value) : String × Node :=
  (entry.1, .value entry.2)

/-- A header opens a table of its own. -/
theorem add_openTable {nodes : Nodes} {name : String} (h : name ∉ keysOf nodes)
    (current : List String) : Draft.add ⟨nodes, current⟩ (.openTable [] name) =
      some ⟨nodes ++ [(name, .table .header [])], [name]⟩ := by
  rw [Draft.add, change, openTable, lookUp_of_not_mem h]
  simp only [Option.bind_eq_bind, Option.bind_some, put_of_not_mem h]
  rfl

/-- A setting goes to the table that was opened last. -/
theorem add_pair {nodes entries : Nodes} {name key : String} (hname : name ∉ keysOf nodes)
    (hkey : key ∉ keysOf entries) (v : Value) :
    Draft.add ⟨nodes ++ [(name, .table .header entries)], [name]⟩ (.pair [] key v) =
      some ⟨nodes ++ [(name, .table .header (entries ++ [(key, .value v)]))], [name]⟩ := by
  have hvalue : addPair [] key v .header entries =
      some (.header, entries ++ [(key, .value v)]) := by
    rw [addPair, if_pos rfl, addValue, lookUp_of_not_mem hkey, put_of_not_mem hkey]
    rfl
  rw [Draft.add, change, lookUp_last hname]
  simp only [Bool.false_eq_true, false_and, if_false, change, hvalue, Option.bind_eq_bind,
    Option.bind_some, put_last hname]
  rfl

/-- **The settings of a section all go to its table**, in their order. -/
theorem add_settings {nodes entries : Nodes} {name : String} (hname : name ∉ keysOf nodes)
    {settings : List (String × Setting)}
    (hdistinct : (keysOf entries ++ keysOf settings).Nodup) :
    (settings.map pairStatement).foldlM Draft.add
      ⟨nodes ++ [(name, .table .header entries)], [name]⟩ =
        some ⟨nodes ++ [(name, .table .header
          (entries ++ settings.map fun p => complete (Setting.entry p)))], [name]⟩ := by
  induction settings generalizing entries with
  | nil =>
    rw [List.map_nil, List.map_nil, List.append_nil]
    rfl
  | cons pair settings ih =>
    -- The keys so far and those to come are all different, and each step moves one of them over.
    have hkey : pair.1 ∉ keysOf entries := by
      intro hmem
      exact (List.nodup_append.mp hdistinct).2.2 _ hmem _ List.mem_cons_self rfl
    have hrest :
        (keysOf (entries ++ [complete (Setting.entry pair)]) ++ keysOf settings).Nodup := by
      simpa [keysOf, complete, Setting.entry] using hdistinct
    rw [List.map_cons, List.foldlM_cons, pairStatement, add_pair hname hkey]
    refine (ih hrest).trans ?_
    rw [List.map_cons, List.append_assoc]
    rfl

def sectionNode (s : Section) : String × Node :=
  (s.name, .table .header (s.settings.map fun p => complete (Setting.entry p)))

/-- **Sections of different names become tables**, in their order. -/
theorem add_sections {nodes : Nodes} {sections : List Section}
    (h : ∀ s ∈ sections, s.WellFormed)
    (hdistinct : (keysOf nodes ++ sections.map (·.name)).Nodup) (current : List String) :
    ∃ last, (sections.flatMap sectionStatements).foldlM Draft.add ⟨nodes, current⟩ =
      some ⟨nodes ++ sections.map sectionNode, last⟩ := by
  induction sections generalizing nodes current with
  | nil => exact ⟨current, by rw [List.map_nil, List.append_nil]; rfl⟩
  | cons s sections ih =>
    have hname : s.name ∉ keysOf nodes := by
      intro hmem
      exact (List.nodup_append.mp hdistinct).2.2 _ hmem _ List.mem_cons_self rfl
    have hrest : (keysOf (nodes ++ [sectionNode s]) ++ sections.map (·.name)).Nodup := by
      simpa [keysOf, sectionNode] using hdistinct
    have hkeys : (keysOf ([] : Nodes) ++ keysOf s.settings).Nodup :=
      (h s List.mem_cons_self).distinct
    -- Which table was opened last is no matter to a header, so the rest starts from this one.
    obtain ⟨last, hlast⟩ := ih (fun t ht => h t (List.mem_cons_of_mem _ ht)) hrest [s.name]
    refine ⟨last, ?_⟩
    rw [List.flatMap_cons, sectionStatements, List.cons_append, List.foldlM_cons,
      add_openTable hname, Option.bind_eq_bind, Option.bind_some, List.foldlM_append,
      add_settings hname hkeys]
    refine hlast.trans ?_
    rw [List.append_assoc]
    rfl

theorem finishedEntries_complete (entries : List (String × Value)) :
    finishedEntries (entries.map complete) = entries := by
  induction entries with
  | nil => rfl
  | cons e es ih =>
    rw [List.map_cons, complete, finishedEntries, ih, Node.finished]

theorem finishedEntries_sections (sections : List Section) :
    finishedEntries (sections.map sectionNode) = tableOfSections sections := by
  induction sections with
  | nil => rfl
  | cons s sections ih =>
    have hsettings := finishedEntries_complete (s.settings.map Setting.entry)
    rw [List.map_map] at hsettings
    rw [List.map_cons, sectionNode, finishedEntries, ih, Node.finished]
    exact congrArg (fun entries => (s.name, Value.table entries) :: tableOfSections sections)
      hsettings

/-- **A document that was written reads back** as the table of its sections. -/
theorem read?_writeSections {sections : List Section} (h : ∀ s ∈ sections, s.WellFormed)
    (hdistinct : (sections.map (·.name)).Nodup) :
    read? (writeSections sections) = some (tableOfSections sections) := by
  have hmark : dropMark (writeSections sections) = writeSections sections := by
    cases sections with
    | nil => rfl
    | cons s sections =>
      obtain ⟨cs, hcs⟩ := writeSections_cons s sections
      rw [hcs]
      rfl
  have hfresh : (keysOf ([] : Nodes) ++ sections.map (·.name)).Nodup := hdistinct
  obtain ⟨last, hdraft⟩ : ∃ last, (sections.flatMap sectionStatements).foldlM Draft.add ⟨[], []⟩ =
      some ⟨[] ++ sections.map sectionNode, last⟩ := add_sections h hfresh []
  rw [read?]
  simp only [hmark]
  rw [statements_writeSections h _ (by omega), Option.bind_eq_bind, Option.bind_some, documentOf?,
    hdraft, Option.bind_eq_bind, Option.bind_some, List.nil_append, finishedEntries_sections]
  rfl

end DisplaySession.Toml
