import DisplaySession.Text.Utf8

/-
Environments: variables with one value each.

A child sees its variables sorted by the bytes of their names, and of two values for one name the
later one counts. Both are kept by construction: the entries are a list whose names strictly
increase, and setting a variable puts it at its place or replaces what is there.
-/
set_option autoImplicit false

namespace DisplaySession

/-- One variable: its name and its value. -/
abbrev Variable := String × String

/-- Sets a variable in a list of variables sorted by name. -/
def setVariable (name value : String) : List Variable → List Variable
  | [] => [(name, value)]
  | v :: vs =>
    if Utf8.Precedes name v.1 then (name, value) :: v :: vs
    else if Utf8.ofString name = Utf8.ofString v.1 then (name, value) :: vs
    else v :: setVariable name value vs

/-- Names that strictly increase. -/
abbrev Increasing (vs : List Variable) : Prop :=
  vs.Pairwise fun a b => Utf8.Precedes a.1 b.1

/-- Where a variable of the result comes from. -/
theorem mem_setVariable {name value : String} {vs : List Variable} {v : Variable}
    (h : v ∈ setVariable name value vs) : v = (name, value) ∨ v ∈ vs := by
  induction vs with
  | nil => simpa [setVariable] using h
  | cons w ws ih =>
    simp only [setVariable] at h
    split at h
    · simpa using h
    · split at h
      · rcases List.mem_cons.mp h with h | h
        · exact .inl h
        · exact .inr (List.mem_cons_of_mem _ h)
      · rcases List.mem_cons.mp h with h | h
        · exact .inr (h ▸ List.mem_cons_self)
        · exact (ih h).imp id (List.mem_cons_of_mem _)

/-- **Setting a variable keeps the order.** -/
theorem increasing_setVariable (name value : String) {vs : List Variable} (h : Increasing vs) :
    Increasing (setVariable name value vs) := by
  induction vs with
  | nil => simp [setVariable, Increasing]
  | cons v vs ih =>
    obtain ⟨hv, hvs⟩ := List.pairwise_cons.mp h
    simp only [setVariable]
    split
    · rename_i hlt
      refine List.pairwise_cons.mpr ⟨fun w hw => ?_, h⟩
      rcases List.mem_cons.mp hw with rfl | hw
      · exact hlt
      · exact List.lt_trans hlt (hv w hw)
    · split
      · rename_i heq
        refine List.pairwise_cons.mpr ⟨fun w hw => ?_, hvs⟩
        have := hv w hw
        simp only [Utf8.Precedes, heq] at this ⊢
        exact this
      · rename_i hlt hne
        refine List.pairwise_cons.mpr ⟨fun w hw => ?_, ih hvs⟩
        rcases mem_setVariable hw with rfl | hw
        · exact Std.lt_of_le_of_ne (List.not_lt.mp hlt) (Ne.symm hne)
        · exact hv w hw

/-- **An environment**: variables whose names strictly increase by their bytes. -/
structure Environment where
  /-- The variables, in the order of their names. -/
  entries : List Variable
  /-- No name comes twice, and none out of order. -/
  increasing : Increasing entries
  deriving DecidableEq

namespace Environment

/-- The environment without variables. -/
def empty : Environment :=
  ⟨[], List.Pairwise.nil⟩

/-- **Sets a variable.** -/
def set (env : Environment) (v : Variable) : Environment :=
  ⟨setVariable v.1 v.2 env.entries, increasing_setVariable v.1 v.2 env.increasing⟩

/-- Variables set one after another; a later one replaces an earlier one of its name. -/
def ofList (vs : List Variable) : Environment :=
  vs.foldl set empty

/-- **The value of a variable.** -/
def get? (env : Environment) (name : String) : Option String :=
  (env.entries.find? (·.1 = name)).map (·.2)

end Environment

end DisplaySession
