import DisplaySession.Proofs.Config.Overlay
import Mathlib.Data.List.Basic
import Mathlib.Data.Nat.Basic
import Mathlib.Order.Basic

/-
Assignments in any order.

Two paths diverge if the first step in which they differ leads to two keys of a table, or to two
items that are counted from the same end of a list (`Diverge`). Assignments of which no two meet are
all of one sort (`sort_of_diverging`): a single one that sets the whole place, or such as lead to
keys of it, or such as lead to items of it.

What comes of a key is the work of the assignments behind it (`lookUp_assign`), and so it is with the
items of a list (`itemAt_assign`), whose number is a matter of the greatest index
(`lt_length_assign_iff`). So the order shows nowhere if no two assignments meet.
-/
set_option autoImplicit false

namespace DisplaySession.Config

open Toml

/-! ## Paths that diverge -/

/-- **Two paths diverge**: at the first step in which they differ, they lead to two keys, or to two
items that are counted from the same end. -/
def Diverge : List PathStep → List PathStep → Prop
  | .key first :: p, .key second :: q => first ≠ second ∨ Diverge p q
  | .index i :: p, .index j :: q => if i = j then Diverge p q else (i < 0 ↔ j < 0)
  | _, _ => False

instance decidableDiverge : (p q : List PathStep) → Decidable (Diverge p q)
  | .key first :: p, .key second :: q =>
    have := decidableDiverge p q
    inferInstanceAs (Decidable (first ≠ second ∨ Diverge p q))
  | .index i :: p, .index j :: q =>
    have := decidableDiverge p q
    inferInstanceAs (Decidable (if i = j then Diverge p q else (i < 0 ↔ j < 0)))
  | [], _ => isFalse fun h => by simp [Diverge] at h
  | _ :: _, [] => isFalse fun h => by simp [Diverge] at h
  | .key _ :: _, .index _ :: _ => isFalse fun h => by simp [Diverge] at h
  | .index _ :: _, .key _ :: _ => isFalse fun h => by simp [Diverge] at h

theorem diverge_symm {p q : List PathStep} (h : Diverge p q) : Diverge q p := by
  fun_induction Diverge p q with
  | case1 first p second q ih => exact h.imp Ne.symm ih
  | case2 i p q ih => simpa [Diverge] using ih h
  | case3 i p j q hne => simpa [Diverge, Ne.symm hne] using h.symm
  | case4 => exact h.elim

theorem diverge_cons_iff {step : PathStep} {p q : List PathStep} :
    Diverge (step :: p) (step :: q) ↔ Diverge p q := by
  cases step <;> simp [Diverge]

/-- **Assignments of which no two meet.** -/
def Diverging (list : List Assignment) : Prop :=
  list.Pairwise fun a b => Diverge a.1 b.1

theorem diverging_behind {list : List Assignment} (h : Diverging list) (step : PathStep) :
    Diverging (behind step list) := by
  refine List.Pairwise.filterMap (behind? step) ?_ h
  intro a b hdiverge a' ha b' hb
  rw [behind?_eq_some_iff.mp ha, behind?_eq_some_iff.mp hb] at hdiverge
  exact diverge_cons_iff.mp hdiverge

/-! ## Sorts of assignments -/

/-- The index that counts to an item, from the beginning of a list or from its end. -/
def counted (back : Bool) (k : Nat) : Int :=
  if back then -(k + 1) else k

theorem exists_counted (i : Int) : ∃ k, i = counted (i < 0) k := by
  by_cases h : i < 0
  · exact ⟨(-i - 1).toNat, by simp only [counted, decide_eq_true_eq, if_pos h]; omega⟩
  · exact ⟨i.toNat, by simp only [counted, decide_eq_true_eq, if_neg h]; omega⟩

theorem counted_inj {back : Bool} {k j : Nat} : counted back k = counted back j ↔ k = j := by
  cases back <;> simp only [counted, Bool.false_eq_true, if_true, if_false] <;> omega

/-- Does an assignment begin with an index that counts from this end? -/
def StartsAtItem (back : Bool) (a : Assignment) : Prop :=
  ∃ k steps, a.1 = .index (counted back k) :: steps

/-- **What sort of assignments are made** to a place of which no two meet. -/
inductive SortOf (list : List Assignment) : Prop
  | none (h : list = [])
  | whole {v : Value} (h : list = [([], v)])
  | keys (hne : list ≠ []) (h : ∀ a ∈ list, StartsWithKey a)
  | items (hne : list ≠ []) (back : Bool) (h : ∀ a ∈ list, StartsAtItem back a)

/-- The first of them decides: nothing else diverges from the whole place, keys diverge from keys,
and items from items that are counted from the same end. -/
theorem sort_of_diverging {list : List Assignment} (h : Diverging list) : SortOf list := by
  cases list with
  | nil => exact .none rfl
  | cons a list =>
    obtain ⟨hfirst, -⟩ := List.pairwise_cons.mp h
    obtain ⟨steps, v⟩ := a
    cases steps with
    | nil =>
      cases list with
      | nil => exact .whole rfl
      | cons b list => simpa [Diverge] using hfirst b List.mem_cons_self
    | cons step steps =>
      cases step with
      | key name =>
        refine .keys (by simp) (List.forall_mem_cons.mpr ⟨⟨name, steps, rfl⟩, fun b hb => ?_⟩)
        have hdiverge := hfirst b hb
        obtain ⟨_ | ⟨_ | j, rest⟩, w⟩ := b
        · simp [Diverge] at hdiverge
        · exact ⟨_, _, rfl⟩
        · simp [Diverge] at hdiverge
      | index i =>
        obtain ⟨k, hk⟩ := exists_counted i
        refine .items (by simp) (i < 0)
          (List.forall_mem_cons.mpr ⟨⟨k, steps, by rw [← hk]⟩, fun b hb => ?_⟩)
        have hdiverge := hfirst b hb
        obtain ⟨_ | ⟨_ | j, rest⟩, w⟩ := b
        · simp [Diverge] at hdiverge
        · simp [Diverge] at hdiverge
        · obtain ⟨k', hk'⟩ := exists_counted j
          have hend : (j < 0) = (i < 0) := by
            by_cases hij : i = j
            · rw [hij]
            · simp only [Diverge, if_neg hij] at hdiverge
              exact propext hdiverge.symm
          refine ⟨k', rest, ?_⟩
          simp only [hend] at hk'
          rw [← hk']

/-! ## Items -/

/-- The items of a list, counted from its beginning or from its end. -/
def turned (back : Bool) (items : List Value) : List Value :=
  if back then items.reverse else items

@[simp] theorem length_turned (back : Bool) (items : List Value) :
    (turned back items).length = items.length := by
  cases back <;> simp [turned]

/-- An item of what is there, or what stands in a list where nothing was set. -/
def itemAt (back : Bool) (old : Option Value) (k : Nat) : Value :=
  ((turned back (itemsOf old))[k]?).getD filler

theorem itemAt_of_nil {old : Option Value} (h : itemsOf old = []) (back : Bool) (k : Nat) :
    itemAt back old k = filler := by
  rw [itemAt, h]
  cases back <;> rfl

/-- Every item of a list is counted to from either end. -/
theorem getElem?_eq_itemAt {items : List Value} {k : Nat} (hk : k < items.length) (back : Bool) :
    items[k]? = some (itemAt back (some (.array items))
      (if back then items.length - 1 - k else k)) := by
  cases back with
  | false =>
    show _ = some ((items[k]?).getD filler)
    rw [List.getElem?_eq_getElem hk]
    rfl
  | true =>
    show _ = some ((items.reverse[items.length - 1 - k]?).getD filler)
    have hback : items.length - 1 - (items.length - 1 - k) = k := by omega
    rw [List.getElem?_reverse (by omega), hback, List.getElem?_eq_getElem hk]
    rfl

theorem reverse_modify {items : List Value} {position : Nat} (change : Value → Value)
    (h : position < items.length) : (items.modify position change).reverse =
      items.reverse.modify (items.length - 1 - position) change := by
  refine List.ext_getElem (by simp) fun k hk hk' => ?_
  simp only [List.length_reverse, List.length_modify] at hk
  simp only [List.getElem_reverse, List.getElem_modify, List.length_modify]
  congr 1
  exact propext (by omega)

theorem withPosition_counted (items : List Value) (back : Bool) (k : Nat) :
    withPosition items (counted back k) =
      if back then
        (List.replicate (k + 1 - items.length) filler ++ items, items.length - (k + 1))
      else (items ++ List.replicate (k + 1 - items.length) filler, k) := by
  cases back with
  | false =>
    have hsign : ¬ (k : Int) < 0 := by omega
    have hmissing : ((k : Int) + 1 - items.length).toNat = k + 1 - items.length := by omega
    simp only [counted, Bool.false_eq_true, if_false, withPosition, if_neg hsign, hmissing,
      Int.toNat_natCast]
  | true =>
    have hsign : -((k : Int) + 1) < 0 := by omega
    have hmissing : (-(-((k : Int) + 1)) - items.length).toNat = k + 1 - items.length := by omega
    have hposition : ((items.length : Int) + -((k : Int) + 1)).toNat = items.length - (k + 1) := by
      omega
    simp only [counted, if_true, withPosition, if_pos hsign, hmissing, hposition]

/-- **Setting an item**: the list gets long enough, at its far end, and the item is changed. -/
theorem turned_setAt (back : Bool) (k : Nat) (steps : List PathStep) (v : Value)
    (old : Option Value) :
    turned back (itemsOf (some (setAt (.index (counted back k) :: steps) v old))) =
      (turned back (itemsOf old) ++
        List.replicate (k + 1 - (itemsOf old).length) filler).modify k
          fun item => setAt steps v (some item) := by
  rw [setAt, withPosition_counted]
  cases back with
  | false => rfl
  | true =>
    show List.reverse (List.modify _ _ _) = _
    rw [reverse_modify _ (by simp; omega), List.reverse_append, List.reverse_replicate]
    have hposition : (List.replicate (k + 1 - (itemsOf old).length) filler ++
        itemsOf old).length - 1 - ((itemsOf old).length - (k + 1)) = k := by
      simp
      omega
    rw [hposition]
    rfl

theorem length_setAt (back : Bool) (k : Nat) (steps : List PathStep) (v : Value)
    (old : Option Value) :
    (itemsOf (some (setAt (.index (counted back k) :: steps) v old))).length =
      max (itemsOf old).length (k + 1) := by
  rw [← length_turned back, turned_setAt]
  simp
  omega

/-- What stands in a list is the same with more fillers behind it. -/
theorem getD_append_fillers (items : List Value) (n k : Nat) :
    ((items ++ List.replicate n filler)[k]?).getD filler = (items[k]?).getD filler := by
  by_cases hk : k < items.length
  · rw [List.getElem?_append_left hk]
  · have hlast : items.length ≤ k := Nat.le_of_not_lt hk
    rw [List.getElem?_append_right hlast, List.getElem?_replicate, List.getElem?_eq_none hlast]
    split <;> rfl

theorem itemAt_setAt (back : Bool) (k : Nat) (steps : List PathStep) (v : Value)
    (old : Option Value) (j : Nat) :
    itemAt back (some (setAt (.index (counted back k) :: steps) v old)) j =
      if k = j then setAt steps v (some (itemAt back old j)) else itemAt back old j := by
  rw [itemAt, itemAt, turned_setAt, List.getElem?_modify]
  rw [← getD_append_fillers (turned back (itemsOf old)) (k + 1 - (itemsOf old).length)]
  by_cases hkj : k = j
  · subst hkj
    have hlong : k < (turned back (itemsOf old) ++
        List.replicate (k + 1 - (itemsOf old).length) filler).length := by
      simp
      omega
    simp [List.getElem?_eq_getElem hlong]
  · simp [hkj]

section

variable {back : Bool} {list : List Assignment}

/-- **What comes of an item is the work of the assignments behind it.** -/
theorem itemAt_assign (h : ∀ a ∈ list, StartsAtItem back a) (old : Option Value) (k : Nat) :
    assign (behind (.index (counted back k)) list) (some (itemAt back old k)) =
      some (itemAt back (assign list old) k) := by
  induction list generalizing old with
  | nil => rfl
  | cons a list ih =>
    obtain ⟨j, steps, hsteps⟩ := h a List.mem_cons_self
    obtain ⟨_, v⟩ := a
    obtain rfl : _ = _ := hsteps
    rw [assign_cons, ← ih fun a ha => h a (List.mem_cons_of_mem _ ha), itemAt_setAt, behind_cons]
    by_cases hjk : j = k
    · rw [if_pos hjk, if_pos (congrArg _ (congrArg _ hjk)), assign_cons]
    · have hstep : PathStep.index (counted back j) ≠ .index (counted back k) :=
        fun heq => hjk (counted_inj.mp (PathStep.index.inj heq))
      rw [if_neg hjk, if_neg hstep]

/-- **A list gets as long as the greatest index asks.** -/
theorem lt_length_assign_iff (h : ∀ a ∈ list, StartsAtItem back a) (old : Option Value) (k : Nat) :
    k < (itemsOf (assign list old)).length ↔ k < (itemsOf old).length ∨
      ∃ a ∈ list, ∃ j steps, a.1 = .index (counted back j) :: steps ∧ k ≤ j := by
  induction list generalizing old with
  | nil => simp [assign]
  | cons a list ih =>
    obtain ⟨j, steps, hsteps⟩ := h a List.mem_cons_self
    obtain ⟨_, v⟩ := a
    obtain rfl : _ = _ := hsteps
    have hfirst : (∃ i rest, PathStep.index (counted back j) :: steps =
        .index (counted back i) :: rest ∧ k ≤ i) ↔ k ≤ j := by
      simp [counted_inj]
    have hlonger : k < max (itemsOf old).length (j + 1) ↔ k < (itemsOf old).length ∨ k ≤ j := by
      omega
    rw [assign_cons, ih (fun a ha => h a (List.mem_cons_of_mem _ ha)), length_setAt, hlonger]
    simp only [List.mem_cons, exists_eq_or_imp, hfirst, or_assoc]

/-- Assignments to items make a list of anything. -/
theorem assign_items (h : ∀ a ∈ list, StartsAtItem back a) (hne : list ≠ [])
    (old : Option Value) : ∃ items, assign list old = some (.array items) := by
  rcases List.eq_nil_or_concat list with rfl | ⟨before, ⟨steps, v⟩, rfl⟩
  · exact absurd rfl hne
  · obtain ⟨k, steps, rfl⟩ := h (steps, v) (by simp)
    rw [List.concat_eq_append, assign_concat, setAt]
    exact ⟨_, rfl⟩

/-- In another order, the list gets as long. -/
theorem length_assign_perm {list' : List Assignment} (h : ∀ a ∈ list, StartsAtItem back a)
    (hperm : list'.Perm list) {old old' : Option Value}
    (hlength : (itemsOf old').length = (itemsOf old).length) :
    (itemsOf (assign list' old')).length = (itemsOf (assign list old)).length := by
  have h' : ∀ a ∈ list', StartsAtItem back a := fun a ha => h a (hperm.mem_iff.mp ha)
  refine eq_of_forall_lt_iff fun k => ?_
  simp only [lt_length_assign_iff h, lt_length_assign_iff h', hlength, hperm.mem_iff]

end

/-! ## Another order -/

/-- **The same assignments in another order**: of scalars that can be held, and no two of them
meet. -/
structure Reordered (list list' : List Assignment) : Prop where
  perm : list'.Perm list
  diverging : Diverging list
  scalar : ∀ a ∈ list, a.2.IsScalar
  wellFormed : ∀ a ∈ list, a.2.WellFormed

theorem Reordered.ne_nil {list list' : List Assignment} (h : Reordered list list')
    (hne : list ≠ []) : list' ≠ [] := by
  rintro rfl
  exact hne h.perm.symm.eq_nil

/-- What is left of them behind a step is such a pair, too. -/
theorem reordered_behind {list list' : List Assignment} (h : Reordered list list')
    (step : PathStep) : Reordered (behind step list) (behind step list') where
  perm := h.perm.filterMap _
  diverging := diverging_behind h.diverging step
  scalar := fun a ha => h.scalar (step :: a.1, a.2) (mem_behind_iff.mp ha)
  wellFormed := fun a ha => h.wellFormed (step :: a.1, a.2) (mem_behind_iff.mp ha)

end DisplaySession.Config
