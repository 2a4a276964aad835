import DisplaySession.Proofs.Config.Order

/-
What comes of a place in which the same assignments are made twice.

The first time they are made on what was there, and the second time, maybe in another order, on its
written form. If no two of them meet, they are of one sort, and the sort decides (`recurs_assign`):
what is set as a whole is the same, a list comes of indices and a table of keys, and where nothing is
set the written form is kept.

Indices on nothing make two lists that are as long as each other and that compare item by item
(`recurs_items`).
-/
set_option autoImplicit false

namespace DisplaySession.Config

open Toml

/-! ## Fewer keys -/

/-- **A table with fewer keys**, all of them different. -/
def Narrower (small great : Table) : Prop :=
  (keysOf small).Nodup ∧ keysOf small ⊆ keysOf great

/-- What has fewer keys than a single entry, and any, is a single entry of the same key. -/
theorem eq_singleton_of_narrower {small : Table} {name : String} {v : Value}
    (h : Narrower small [(name, v)]) (hne : small ≠ []) : ∃ v', small = [(name, v')] := by
  have hkeys {e : String × Value} (he : e ∈ small) : e.1 = name :=
    List.mem_singleton.mp (h.2 (List.mem_map_of_mem he))
  match small, h.1, hne with
  | [], _, hne => exact absurd rfl hne
  | [(key, v')], _, _ =>
    obtain rfl : key = name := hkeys List.mem_cons_self
    exact ⟨v', rfl⟩
  | e :: e' :: rest, hdistinct, _ =>
    have hsame : e.1 = e'.1 :=
      (hkeys List.mem_cons_self).trans (hkeys (List.mem_cons_of_mem _ List.mem_cons_self)).symm
    simp [keysOf, hsame] at hdistinct

/-! ## One place -/

/-- **What comes of a place** in which the same assignments are made twice, on what was there and on
its written form. -/
inductive Recurs (written first second : Option Value) : Prop
  /-- None is made. -/
  | kept (h : second = written)
  /-- One says all that stands there. -/
  | same (h : second = first)
  /-- A list comes of the first. -/
  | listed {items : List Value} (h : first = some (.array items))
  /-- Tables come of both, the second with no more keys if the written form had none. -/
  | nested {entries entries' : Table} (h : first = some (.table entries))
    (h' : second = some (.table entries')) (hne : entries' ≠ [])
    (hnarrow : entriesOf written = [] → Narrower entries' entries)

/-- A text comes again where the written form has it, too. -/
theorem recurs_text {s : String} {second : Option Value}
    (h : Recurs (some (.text s)) (some (.text s)) second) : second = some (.text s) := by
  cases h with
  | kept h => exact h
  | same h => exact h
  | listed h => cases h
  | nested h => cases h

section

variable {list list' : List Assignment} {old base written : Option Value}

/-- Keys that are set on something without entries are set on anything. -/
theorem narrower_assign (h : Reordered list list') (hkeys : ∀ a ∈ list, StartsWithKey a)
    (hbase : ∀ v ∈ base, v.WellFormed) (hnone : entriesOf base = []) {entries entries' : Table}
    (hfirst : assign list old = some (.table entries))
    (hsecond : assign list' base = some (.table entries')) : Narrower entries' entries := by
  have hkeys' : ∀ a ∈ list', StartsWithKey a := fun a ha => hkeys a (h.perm.mem_iff.mp ha)
  refine ⟨?_, fun key hkey => ?_⟩
  · have hwell : ∀ v ∈ assign list' base, v.WellFormed :=
      wellFormed_assign (fun a ha => h.wellFormed a (h.perm.mem_iff.mp ha)) hbase
    exact (Value.wellFormed_table_iff.mp (hwell _ hsecond)).distinct
  · have hlookUp := lookUp_assign hkeys key old
    have hlookUp' := lookUp_assign hkeys' key base
    rw [hfirst] at hlookUp
    rw [hsecond, hnone] at hlookUp'
    rw [mem_keysOf_iff, Option.isSome_iff_ne_none] at hkey ⊢
    intro hmissing
    obtain ⟨hbehind, -⟩ := assign_eq_none_iff.mp (hlookUp.symm.trans hmissing)
    have hbehind' : behind (.key key) list' = [] :=
      ((reordered_behind h (.key key)).perm.trans (.of_eq hbehind)).eq_nil
    exact hkey (hlookUp'.trans (assign_eq_none_iff.mpr ⟨hbehind', rfl⟩))

/-- **Assignments decide how a place recurs** by their sort, if any is made. -/
theorem recurs_of_ne (h : Reordered list list') (hne : list ≠ [])
    (hbase : ∀ v ∈ base, v.WellFormed) (hnone : entriesOf written = [] → entriesOf base = []) :
    Recurs written (assign list old) (assign list' base) := by
  cases sort_of_diverging h.diverging with
  | none hnil => exact absurd hnil hne
  | @whole v hwhole =>
    subst hwhole
    have hv : v.IsScalar := h.scalar _ List.mem_cons_self
    obtain rfl : list' = [([], v)] := List.perm_singleton.mp h.perm
    refine .same (congrArg some ?_)
    rw [setAt_scalar hv, setAt_scalar hv]
  | keys _ hkeys =>
    have hkeys' : ∀ a ∈ list', StartsWithKey a := fun a ha => hkeys a (h.perm.mem_iff.mp ha)
    obtain ⟨entries, hfirst, -⟩ := assign_table hkeys hne old
    obtain ⟨entries', hsecond, hentries'⟩ := assign_table hkeys' (h.ne_nil hne) base
    exact .nested hfirst hsecond hentries' fun hwritten =>
      narrower_assign h hkeys hbase (hnone hwritten) hfirst hsecond
  | items _ back hitems =>
    obtain ⟨items, hfirst⟩ := assign_items hitems hne old
    exact .listed hfirst

/-- **What comes of a place and of its written form.** -/
theorem recurs_assign (h : Reordered list list') (hwritten : ∀ v ∈ written, v.WellFormed) :
    Recurs written (assign list old) (assign list' written) := by
  by_cases hne : list = []
  · subst hne
    obtain rfl : list' = [] := h.perm.eq_nil
    exact .kept rfl
  · exact recurs_of_ne h hne hwritten id

/-- What comes of the same place in a list recurs like anything. -/
theorem recurs_filler (h : Reordered list list') :
    Recurs written (assign list (some filler)) (assign list' (some filler)) := by
  by_cases hne : list = []
  · subst hne
    obtain rfl : list' = [] := h.perm.eq_nil
    exact .same rfl
  · refine recurs_of_ne h hne ?_ fun _ => rfl
    rintro _ ⟨⟩
    exact .array (by simp)

/-! ## Lists -/

/-- **Indices on nothing make lists that compare item by item.** -/
theorem recurs_items (h : Reordered list list') (hne : list ≠ []) {back : Bool}
    (hitems : ∀ a ∈ list, StartsAtItem back a) (hold : itemsOf old = [])
    (hbase : itemsOf base = []) :
    ∃ items items', assign list old = some (.array items) ∧
      assign list' base = some (.array items') ∧ items'.length = items.length ∧
      ∀ (k : Nat) (written : Option Value), Recurs written items[k]? items'[k]? := by
  have hitems' : ∀ a ∈ list', StartsAtItem back a := fun a ha => hitems a (h.perm.mem_iff.mp ha)
  obtain ⟨items, hfirst⟩ := assign_items hitems hne old
  obtain ⟨items', hsecond⟩ := assign_items hitems' (h.ne_nil hne) base
  have hlength : items'.length = items.length := by
    have hperm := length_assign_perm hitems h.perm
      (congrArg List.length (hbase.trans hold.symm))
    rw [hfirst, hsecond] at hperm
    exact hperm
  refine ⟨items, items', hfirst, hsecond, hlength, fun k written => ?_⟩
  by_cases hk : k < items.length
  · rw [getElem?_eq_itemAt hk back, getElem?_eq_itemAt (hlength ▸ hk) back, hlength, ← hfirst,
      ← hsecond, ← itemAt_assign hitems, ← itemAt_assign hitems', itemAt_of_nil hold,
      itemAt_of_nil hbase]
    exact recurs_filler (reordered_behind h _)
  · have hlast : items.length ≤ k := Nat.le_of_not_lt hk
    rw [List.getElem?_eq_none hlast, List.getElem?_eq_none (hlength ▸ hlast)]
    exact .same rfl

end

end DisplaySession.Config
