import DisplaySession.Config.Overlay
import DisplaySession.Proofs.Toml.WellFormed

/-
What a sequence of assignments makes of the settings.

An assignment is a value with the steps that lead to where it goes, and laying settings over a table
is a sequence of them (`layered_eq`). Those behind one key act on what is under that key and on
nothing else (`lookUp_assign`), so that the sections, and the settings in them, can be looked at one
at a time: what comes of each is a sequence of its own.

The order of assignments matters only where they meet. A value that is no table replaces what was
there, an index makes a list of it, and a key makes a table of it; each forgets something, and that
is why two sequences on different beginnings often end alike. A layer of names that are no paths into
one another is laid over nothing as it is, in whatever order (`lookUp_layered_nil`).
-/
set_option autoImplicit false

namespace DisplaySession

namespace Toml.Value

/-- A value that holds no other values. -/
def IsScalar : Value → Prop
  | .array _ | .table _ => False
  | _ => True

end Toml.Value

namespace Config

open Toml

/-! ## Assignments -/

/-- **An assignment**: the steps to a place, and the value that is set there. -/
abbrev Assignment := List PathStep × Value

/-- **What some assignments make of what is there**, one after another. -/
def assign (list : List Assignment) (old : Option Value) : Option Value :=
  list.foldl (fun old a => some (setAt a.1 a.2 old)) old

theorem assign_cons (a : Assignment) (list : List Assignment) (old : Option Value) :
    assign (a :: list) old = assign list (some (setAt a.1 a.2 old)) :=
  rfl

theorem assign_concat (list : List Assignment) (a : Assignment) (old : Option Value) :
    assign (list ++ [a]) old = some (setAt a.1 a.2 (assign list old)) := by
  rw [assign, List.foldl_append]
  rfl

/-- The assignment that is left of one behind a step. -/
def behind? (step : PathStep) : Assignment → Option Assignment
  | (first :: steps, v) => if first = step then some (steps, v) else none
  | ([], _) => none

/-- **The assignments behind a step.** -/
def behind (step : PathStep) (list : List Assignment) : List Assignment :=
  list.filterMap (behind? step)

theorem behind?_eq_some_iff {step : PathStep} {a b : Assignment} :
    behind? step a = some b ↔ a = (step :: b.1, b.2) := by
  obtain ⟨steps, v⟩ := a
  cases steps with
  | nil => simp [behind?]
  | cons first steps =>
    rw [behind?]
    split
    · simp_all [Prod.ext_iff]
    · simp_all [Prod.ext_iff]

theorem mem_behind_iff {step : PathStep} {list : List Assignment} {b : Assignment} :
    b ∈ behind step list ↔ (step :: b.1, b.2) ∈ list := by
  simp [behind, List.mem_filterMap, behind?_eq_some_iff]

theorem behind_cons (step first : PathStep) (steps : List PathStep) (v : Value)
    (list : List Assignment) : behind step ((first :: steps, v) :: list) =
      if first = step then (steps, v) :: behind step list else behind step list := by
  by_cases h : first = step <;> simp [behind, behind?, h]

/-- Does an assignment begin with a key? -/
def StartsWithKey (a : Assignment) : Prop :=
  ∃ name steps, a.1 = .key name :: steps

theorem entriesOf_setAt_key (name : String) (steps : List PathStep) (v : Value)
    (old : Option Value) : entriesOf (some (setAt (.key name :: steps) v old)) =
      put name (setAt steps v (lookUp name (entriesOf old))) (entriesOf old) := by
  rw [setAt]
  rfl

/-- **What comes of a key is the work of the assignments behind it.** -/
theorem lookUp_assign {list : List Assignment} (h : ∀ a ∈ list, StartsWithKey a) (key : String)
    (old : Option Value) : lookUp key (entriesOf (assign list old)) =
      assign (behind (.key key) list) (lookUp key (entriesOf old)) := by
  induction list generalizing old with
  | nil => rfl
  | cons a list ih =>
    obtain ⟨name, steps, hsteps⟩ := h a List.mem_cons_self
    obtain ⟨_, v⟩ := a
    obtain rfl : _ = _ := hsteps
    rw [assign_cons, ih fun a ha => h a (List.mem_cons_of_mem _ ha), entriesOf_setAt_key,
      lookUp_put]
    rw [behind_cons]
    by_cases hname : name = key
    · rw [if_pos hname.symm, if_pos (congrArg _ hname), hname]
      rfl
    · rw [if_neg (Ne.symm hname), if_neg (by simpa using hname)]

/-! ## What an assignment makes of a value -/

theorem merged_of_not_table {v : Value} (h : ∀ entries, v ≠ .table entries) (old : Option Value) :
    merged v old = v := by
  cases v with
  | table entries => exact absurd rfl (h entries)
  | _ => simp [merged]

theorem setAt_scalar {v : Value} (hv : v.IsScalar) (old : Option Value) : setAt [] v old = v := by
  rw [setAt]
  refine merged_of_not_table ?_ old
  rintro entries rfl
  exact hv

theorem put_ne_nil (name : String) (v : Value) (table : Table) : put name v table ≠ [] := by
  cases table with
  | nil => simp [put]
  | cons e es =>
    rw [put]
    split <;> simp

/-- Assignments to keys make a table of anything. -/
theorem assign_table {list : List Assignment} (hkeys : ∀ a ∈ list, StartsWithKey a)
    (hne : list ≠ []) (old : Option Value) :
    ∃ entries, assign list old = some (.table entries) ∧ entries ≠ [] := by
  rcases List.eq_nil_or_concat list with rfl | ⟨before, ⟨steps, v⟩, rfl⟩
  · exact absurd rfl hne
  · obtain ⟨name, steps, rfl⟩ := hkeys (steps, v) (by simp)
    rw [List.concat_eq_append, assign_concat, setAt]
    exact ⟨_, rfl, put_ne_nil _ _ _⟩

theorem assign_eq_none_iff {list : List Assignment} {old : Option Value} :
    assign list old = none ↔ list = [] ∧ old = none := by
  rcases List.eq_nil_or_concat list with rfl | ⟨before, a, rfl⟩
  · simp [assign]
  · simp [List.concat_eq_append, assign_concat]

/-! ## Layers as assignments -/

/-- The steps of a name; one that is no path is a single step. -/
def stepsOf (name : String) : List PathStep :=
  match pathOf? name with
  | some (first, steps) => .key first :: steps
  | none => [.key name]

/-- The assignments in some settings. -/
def assignmentsOf (settings : List (String × Value)) : List Assignment :=
  settings.map fun s => (stepsOf s.1, s.2)

theorem startsWithKey_assignmentsOf (settings : List (String × Value)) :
    ∀ a ∈ assignmentsOf settings, StartsWithKey a := by
  intro a ha
  obtain ⟨s, -, rfl⟩ := List.mem_map.mp ha
  rw [StartsWithKey, stepsOf]
  cases pathOf? s.1 with
  | none => exact ⟨s.1, [], rfl⟩
  | some path => exact ⟨path.1, path.2, rfl⟩

/-- What leads behind a name that is a path by itself is a path, too. -/
theorem pathOf?_of_stepsOf {name key : String} (hbare : pathOf? name = some (name, []))
    {steps : List PathStep} (h : stepsOf key = .key name :: steps) :
    pathOf? key = some (name, steps) := by
  rw [stepsOf] at h
  split at h
  · rename_i hpath
    obtain ⟨hfirst, rfl⟩ := List.cons.inj h
    rw [hpath, PathStep.key.inj hfirst]
  · obtain ⟨hfirst, rfl⟩ := List.cons.inj h
    rw [PathStep.key.inj hfirst, hbare]

theorem setNamed_eq (table : Table) (name : String) (v : Value) :
    Value.table (setNamed table name v) = setAt (stepsOf name) v (some (.table table)) := by
  rw [setNamed, stepsOf]
  cases pathOf? name with
  | none => simp only [setAt]; rfl
  | some path => simp only [setAt]; rfl

/-- **Laying settings over a table is a sequence of assignments.** -/
theorem layered_eq (table : Table) (settings : List (String × Value)) :
    some (.table (layered table settings)) =
      assign (assignmentsOf settings) (some (.table table)) := by
  induction settings generalizing table with
  | nil => rfl
  | cons s settings ih =>
    rw [assignmentsOf, List.map_cons, assign_cons, ← setNamed_eq]
    exact ih (setNamed table s.1 s.2)

theorem lookUp_layered (table : Table) (settings : List (String × Value)) (key : String) :
    lookUp key (layered table settings) =
      assign (behind (.key key) (assignmentsOf settings)) (lookUp key table) := by
  have hwhole := lookUp_assign (startsWithKey_assignmentsOf settings) key (some (.table table))
  rw [← layered_eq] at hwhole
  exact hwhole

/-- Of settings with different names, one at most has a name. -/
theorem filterMap_unique {β : Type} {settings : List (String × Value)}
    (hdistinct : (keysOf settings).Nodup) {name : String} {f : String × Value → Option β}
    {g : Value → β} (hname : ∀ v, f (name, v) = some (g v))
    (hother : ∀ s ∈ settings, s.1 ≠ name → f s = none) :
    settings.filterMap f = (lookUp name settings).toList.map g := by
  induction settings with
  | nil => rfl
  | cons s settings ih =>
    obtain ⟨hfresh, hdistinct⟩ := List.nodup_cons.mp hdistinct
    have hrest := ih hdistinct fun s hs => hother s (List.mem_cons_of_mem _ hs)
    obtain ⟨key, v⟩ := s
    rw [lookUp_cons]
    by_cases hkey : key = name
    · subst hkey
      rw [lookUp_of_not_mem hfresh] at hrest
      rw [if_pos rfl, List.filterMap_cons_some (hname v), hrest]
      rfl
    · rw [if_neg hkey, List.filterMap_cons_none (hother _ List.mem_cons_self hkey), hrest]

/-! ## What layers can hold -/

theorem proper_entriesOf {old : Option Value} (h : ∀ v ∈ old, v.WellFormed) :
    Proper Value.WellFormed (entriesOf old) := by
  rw [entriesOf.eq_def]
  split
  · exact Value.wellFormed_table_iff.mp (h _ rfl)
  · exact proper_nil

theorem wellFormed_itemsOf {old : Option Value} (h : ∀ v ∈ old, v.WellFormed) :
    ∀ v ∈ itemsOf old, v.WellFormed := by
  rw [itemsOf.eq_def]
  split
  · cases h _ rfl with
    | array hitems => exact hitems
  · simp

theorem proper_mergedEntries {entries table : Table}
    (hmerged : ∀ e ∈ entries, ∀ old : Option Value, (∀ v ∈ old, v.WellFormed) →
      (merged e.2 old).WellFormed) (htable : Proper Value.WellFormed table) :
    Proper Value.WellFormed (mergedEntries entries table) := by
  induction entries generalizing table with
  | nil => rwa [mergedEntries]
  | cons e entries ih =>
    obtain ⟨key, v⟩ := e
    rw [mergedEntries]
    refine ih (fun e he => hmerged e (List.mem_cons_of_mem _ he)) (proper_put htable key ?_)
    exact hmerged _ List.mem_cons_self _ fun o ho => kind_of_lookUp htable ho

theorem wellFormed_merged {v : Value} (hv : v.WellFormed) {old : Option Value}
    (hold : ∀ o ∈ old, o.WellFormed) : (merged v old).WellFormed := by
  induction hv generalizing old with
  | @table entries _ _ ih =>
    rw [merged, Value.wellFormed_table_iff]
    exact proper_mergedEntries (fun e he old hold => ih e he hold) (proper_entriesOf hold)
  | _ =>
    rw [merged_of_not_table (by simp)]
    constructor <;> assumption

/-- Entries of other keys are added one after another. -/
theorem mergedEntries_fresh {entries table : Table}
    (hmerged : ∀ e ∈ entries, merged e.2 none = e.2)
    (hdistinct : (keysOf table ++ keysOf entries).Nodup) :
    mergedEntries entries table = table ++ entries := by
  induction entries generalizing table with
  | nil => rw [mergedEntries, List.append_nil]
  | cons e entries ih =>
    -- What is in the table already stands in front of what is still to come, so the two together
    -- are what has to have different keys.
    have hkey : e.1 ∉ keysOf table := by
      intro hmem
      exact (List.nodup_append.mp hdistinct).2.2 _ hmem _ List.mem_cons_self rfl
    have hrest : (keysOf (table ++ [e]) ++ keysOf entries).Nodup := by
      simpa [keysOf] using hdistinct
    rw [mergedEntries, lookUp_of_not_mem hkey, hmerged e List.mem_cons_self, put_of_not_mem hkey]
    refine (ih (fun e he => hmerged e (List.mem_cons_of_mem _ he)) hrest).trans ?_
    rw [List.append_assoc]
    rfl

/-- **Something well-formed is set as it is where nothing was.** -/
theorem merged_none {v : Value} (hv : v.WellFormed) : merged v none = v := by
  induction hv with
  | table hdistinct _ ih =>
    rw [merged]
    exact congrArg Value.table (mergedEntries_fresh ih hdistinct)
  | _ => rw [merged_of_not_table (by simp)]

/-- **A layer is laid over nothing as it is**, under a name that no other name leads behind. -/
theorem lookUp_layered_nil {settings : List (String × Value)}
    (hproper : Proper Value.WellFormed settings) {name : String}
    (hbare : pathOf? name = some (name, []))
    (hfree : ∀ s ∈ settings, ∀ steps, pathOf? s.1 = some (name, steps) → s.1 = name) :
    lookUp name (layered [] settings) = lookUp name settings := by
  have hbehind : behind (.key name) (assignmentsOf settings) =
      (lookUp name settings).toList.map fun v => ([], v) := by
    rw [behind, assignmentsOf, List.filterMap_map]
    refine filterMap_unique hproper.distinct (fun v => ?_) fun s hs hother => ?_
    · simp [stepsOf, hbare, behind?]
    · rw [Function.comp_apply, Option.eq_none_iff_forall_not_mem]
      intro b hb
      have hsteps := congrArg Prod.fst (behind?_eq_some_iff.mp hb)
      exact hother (hfree s hs _ (pathOf?_of_stepsOf hbare hsteps))
  rw [lookUp_layered, hbehind]
  cases hfound : lookUp name settings with
  | none => rfl
  | some v =>
    have hset : setAt [] v none = v := by rw [setAt, merged_none (kind_of_lookUp hproper hfound)]
    exact congrArg some hset

theorem wellFormed_withPosition {items : List Value} (hitems : ∀ v ∈ items, v.WellFormed) (i : Int) :
    ∀ v ∈ (withPosition items i).1, v.WellFormed := by
  have hfiller (n : Nat) : ∀ v ∈ List.replicate n filler, v.WellFormed := by
    intro v hv
    rw [List.eq_of_mem_replicate hv]
    exact .array (by simp)
  rw [withPosition]
  split
  · exact List.forall_mem_append.mpr ⟨hfiller _, hitems⟩
  · exact List.forall_mem_append.mpr ⟨hitems, hfiller _⟩

theorem wellFormed_modify {items : List Value} (hitems : ∀ v ∈ items, v.WellFormed)
    {change : Value → Value} (hchange : ∀ v, v.WellFormed → (change v).WellFormed)
    (position : Nat) : ∀ v ∈ items.modify position change, v.WellFormed := by
  induction items generalizing position with
  | nil => simp
  | cons item items ih =>
    obtain ⟨hitem, hitems⟩ := List.forall_mem_cons.mp hitems
    cases position with
    | zero => exact List.forall_mem_cons.mpr ⟨hchange item hitem, hitems⟩
    | succ position => exact List.forall_mem_cons.mpr ⟨hitem, ih hitems position⟩

/-- **Setting something well-formed keeps values well-formed**, at the end of any steps. -/
theorem wellFormed_setAt {steps : List PathStep} {v : Value} (hv : v.WellFormed)
    {old : Option Value} (hold : ∀ o ∈ old, o.WellFormed) : (setAt steps v old).WellFormed := by
  induction steps generalizing old with
  | nil =>
    rw [setAt]
    exact wellFormed_merged hv hold
  | cons step steps ih =>
    cases step with
    | key name =>
      have hentries := proper_entriesOf hold
      rw [setAt, Value.wellFormed_table_iff]
      exact proper_put hentries name (ih fun o ho => kind_of_lookUp hentries ho)
    | index i =>
      have hitems := wellFormed_itemsOf hold
      rw [setAt]
      refine .array (wellFormed_modify (wellFormed_withPosition hitems i) ?_ _)
      exact fun v hv => ih (by rintro _ ⟨⟩; exact hv)

theorem wellFormed_assign {list : List Assignment} (hlist : ∀ a ∈ list, a.2.WellFormed)
    {old : Option Value} (hold : ∀ o ∈ old, o.WellFormed) :
    ∀ v ∈ assign list old, v.WellFormed := by
  induction list generalizing old with
  | nil => exact hold
  | cons a list ih =>
    rw [assign_cons]
    refine ih (fun a ha => hlist a (List.mem_cons_of_mem _ ha)) ?_
    rintro _ ⟨⟩
    exact wellFormed_setAt (hlist a List.mem_cons_self) hold

/-- **Layers of well-formed settings are proper.** -/
theorem proper_layered {table : Table} (htable : Proper Value.WellFormed table)
    {settings : List (String × Value)} (hsettings : ∀ s ∈ settings, s.2.WellFormed) :
    Proper Value.WellFormed (layered table settings) := by
  rw [← Value.wellFormed_table_iff]
  refine wellFormed_assign ?_ ?_ _ (layered_eq table settings).symm
  · intro a ha
    obtain ⟨s, hs, rfl⟩ := List.mem_map.mp ha
    exact hsettings s hs
  · rintro _ ⟨⟩
    exact Value.wellFormed_table_iff.mpr htable

end Config

end DisplaySession
