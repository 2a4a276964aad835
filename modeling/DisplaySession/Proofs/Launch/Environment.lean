import DisplaySession.Launch.Plan
import DisplaySession.Proofs.Text.Utf8

/-
What a child finds in its environment.

Setting a variable changes that variable and no other (`get?_set`). The order in which the entries
are kept has no part in it: names are compared by their bytes, and different names have different
bytes.
-/
set_option autoImplicit false

namespace DisplaySession

theorem find?_setVariable (name value other : String) (vs : List Variable) :
    ((setVariable name value vs).find? (·.1 = other)).map (·.2) =
      if other = name then some value else (vs.find? (·.1 = other)).map (·.2) := by
  induction vs with
  | nil => by_cases h : other = name <;> simp [setVariable, h, eq_comm]
  | cons v vs ih =>
    rw [setVariable]
    split
    · by_cases h : other = name <;> simp [h, eq_comm]
    · split
      · rename_i hbytes
        -- A variable of the same bytes is the same variable, and it is replaced.
        have hname : v.1 = name := (Utf8.ofString_injective hbytes).symm
        by_cases h : other = name <;> simp [h, hname, eq_comm]
      · rename_i hbytes
        have hname : v.1 ≠ name := fun h => hbytes (congrArg Utf8.ofString h.symm)
        by_cases hother : v.1 = other
        · have h : other ≠ name := hother ▸ hname
          simp [hother, h]
        · simp [hother, ih]

namespace Environment

/-- **Setting a variable changes that variable and no other.** -/
theorem get?_set (env : Environment) (v : Variable) (name : String) :
    (env.set v).get? name = if name = v.1 then some v.2 else env.get? name :=
  find?_setVariable v.1 v.2 name env.entries

end Environment

/-- **Every child finds its display** under the name that all displays are found under, unless the
log variable has that name. -/
theorem get?_childEnvironment_display (identity : Identity) {settings : ChildEnvSettings}
    (h : settings.logVar ≠ "DISPLAY") :
    (childEnvironment identity settings).get? "DISPLAY" = some identity.display := by
  simp only [childEnvironment, Environment.ofList, List.foldl_cons, List.foldl_nil,
    Environment.get?_set, if_neg (Ne.symm h)]
  rfl

end DisplaySession
