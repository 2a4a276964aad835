import DisplaySession.Decimal.Binary64

/-
Values of a settings document.

Dates and times have no kind of their own: every setting that could take one takes text, so they are
read into the text by which they are known.
-/
set_option autoImplicit false

namespace DisplaySession.Toml

/-- **A value.** The entries of a table have different keys. -/
inductive Value
  | text (s : String)
  | integer (n : Int)
  | float (x : Binary64)
  | boolean (b : Bool)
  | array (items : List Value)
  | table (entries : List (String × Value))

/-- The entries of a table. -/
abbrev Table := List (String × Value)

/-- **What a table has under a key.** -/
def lookUp {α : Type} (key : String) (entries : List (String × α)) : Option α :=
  (entries.find? (·.1 = key)).map (·.2)

/-- Puts something under a key: in place of what is there, or at the end. -/
def put {α : Type} (key : String) (a : α) : List (String × α) → List (String × α)
  | [] => [(key, a)]
  | e :: es => if e.1 = key then (key, a) :: es else e :: put key a es

@[simp] theorem lookUp_nil {α : Type} (key : String) : lookUp key ([] : List (String × α)) = none :=
  rfl

@[simp] theorem lookUp_cons {α : Type} (key : String) (e : String × α) (es : List (String × α)) :
    lookUp key (e :: es) = if e.1 = key then some e.2 else lookUp key es := by
  by_cases h : e.1 = key <;> simp [lookUp, h]

/-- What is put under a key is found there, and nothing else changes. -/
theorem lookUp_put {α : Type} (key other : String) (a : α) (es : List (String × α)) :
    lookUp other (put key a es) = if other = key then some a else lookUp other es := by
  induction es with
  | nil => by_cases h : key = other <;> simp [put, h, eq_comm]
  | cons e es ih =>
    by_cases he : e.1 = key
    · by_cases h : other = key
      · simp [put, he, h]
      · have h' : ¬key = other := fun e => h e.symm
        simp [put, he, h, h']
    · by_cases h : other = key
      · subst h
        simp [put, he, ih]
      · simp [put, he, ih, h]

end DisplaySession.Toml
