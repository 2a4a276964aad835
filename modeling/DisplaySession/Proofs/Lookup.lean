import DisplaySession.Lookup

/-
The laws of lookups.

A lookup is opened one question at a time: what is bound to a question is asked only if the question
was answered (`bind_of_ok`, `bind_of_error`), and its notes go behind the question's.

Of the notes, some say what was asked and some what was reported. Two lookups that ask in different
places agree if they come to the same end and report the same on the way (`Agree`).
-/
set_option autoImplicit false

namespace DisplaySession

/-- The question in a note: a program and the arguments it was run with. -/
def Note.question? : Note → Option (Path × List String)
  | .asked program arguments _ => some (program, arguments)
  | .reported _ => none

namespace Lookup

variable {α β : Type}

/-! ## Opening a lookup -/

/-- A question that was answered is followed by what is bound to it. -/
theorem bind_of_ok {first : Lookup α} {a : α} (next : α → Lookup β) (h : first.result = .ok a) :
    first >>= next = ⟨(next a).result, first.notes ++ (next a).notes⟩ := by
  show first.andThen next = _
  simp only [andThen, h]

/-- A question that failed is followed by nothing. -/
theorem bind_of_error {first : Lookup α} {failure : Failure} (next : α → Lookup β)
    (h : first.result = .error failure) : first >>= next = ⟨.error failure, first.notes⟩ := by
  show first.andThen next = _
  simp only [andThen, h]

@[simp] theorem answer_bind (a : α) (next : α → Lookup β) : answer a >>= next = next a :=
  andThen_answer a next

/-! ## What was asked -/

/-- The questions of a lookup, in order. -/
def questions (lookup : Lookup α) : List (Path × List String) :=
  lookup.notes.filterMap Note.question?

theorem questions_append (result : Except Failure α) (before after : List Note) :
    (⟨result, before ++ after⟩ : Lookup α).questions =
      before.filterMap Note.question? ++ after.filterMap Note.question? := by
  rw [questions, List.filterMap_append]

/-- What asks nothing adds no question. -/
theorem questions_bind {first : Lookup α} {next : α → Lookup β}
    (hnext : ∀ a, (next a).questions = []) : (first >>= next).questions = first.questions := by
  cases h : first.result with
  | error failure =>
    rw [bind_of_error next h]
    rfl
  | ok a =>
    have hafter : (next a).notes.filterMap Note.question? = [] := hnext a
    rw [bind_of_ok next h, questions_append, hafter, List.append_nil, questions]

/-! ## Agreement -/

/-- **Two lookups agree** if they give the same answer or fail in the same way, and report the same
on the way. What they asked for it may differ. -/
structure Agree (first second : Lookup α) : Prop where
  result : first.result = second.result
  diagnostics : first.diagnostics = second.diagnostics

theorem agree_refl (lookup : Lookup α) : Agree lookup lookup :=
  ⟨rfl, rfl⟩

theorem diagnostics_append (result : Except Failure α) (before after : List Note) :
    (⟨result, before ++ after⟩ : Lookup α).diagnostics =
      before.filterMap Note.diagnostic? ++ after.filterMap Note.diagnostic? := by
  rw [diagnostics, List.filterMap_append]

/-- **Lookups that agree may be followed by lookups that agree.** -/
theorem agree_bind {first second : Lookup α} {next next' : α → Lookup β} (h : Agree first second)
    (hnext : ∀ a, Agree (next a) (next' a)) : Agree (first >>= next) (second >>= next') := by
  cases hfirst : first.result with
  | error failure =>
    rw [bind_of_error next hfirst, bind_of_error next' (h.result ▸ hfirst)]
    exact ⟨rfl, h.diagnostics⟩
  | ok a =>
    rw [bind_of_ok next hfirst, bind_of_ok next' (h.result ▸ hfirst)]
    refine ⟨(hnext a).result, ?_⟩
    have hbefore : first.notes.filterMap Note.diagnostic? =
        second.notes.filterMap Note.diagnostic? := h.diagnostics
    have hafter : (next a).notes.filterMap Note.diagnostic? =
        (next' a).notes.filterMap Note.diagnostic? := (hnext a).diagnostics
    rw [diagnostics_append, diagnostics_append, hbefore, hafter]

/-- A question that was answered with nothing reported may be left out. -/
theorem agree_bind_of_silent {first : Lookup α} {a : α} (next : α → Lookup β)
    (h : first.result = .ok a) (hsilent : first.diagnostics = []) :
    Agree (first >>= next) (next a) := by
  have hbefore : first.notes.filterMap Note.diagnostic? = [] := hsilent
  rw [bind_of_ok next h]
  refine ⟨rfl, ?_⟩
  rw [diagnostics_append, hbefore, List.nil_append, diagnostics]

end Lookup

end DisplaySession
