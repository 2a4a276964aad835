import DisplaySession.Diagnostic

/-
Questions that may fail and that leave notes.

Asking a database or the process table changes nothing in the world, but the tools that were asked
and the reports that were made on the way are part of what happened. A lookup is an answer with
these notes in order; a lookup that fails keeps the notes made before it failed.
-/
set_option autoImplicit false

namespace DisplaySession

/-- **A note on the way to an answer.** -/
inductive Note
  /-- A tool was asked, and so it answered. -/
  | asked (program : Path) (arguments : List String) (answer : Tool.Answer)
  /-- Something was reported. -/
  | reported (diagnostic : Diagnostic)
  deriving DecidableEq

/-- The report in a note. -/
def Note.diagnostic? : Note → Option Diagnostic
  | .asked .. => none
  | .reported d => some d

/-- **An answer or a failure, with the notes made on the way.** -/
structure Lookup (α : Type) where
  /-- The answer. -/
  result : Except Failure α
  /-- What happened on the way, in order. -/
  notes : List Note

namespace Lookup

variable {α β : Type}

/-- An answer that took nothing. -/
def answer (a : α) : Lookup α :=
  ⟨.ok a, []⟩

/-- A failure that took nothing. -/
def fail (failure : Failure) : Lookup α :=
  ⟨.error failure, []⟩

/-- One question after another; the second is asked only if the first was answered. -/
def andThen (first : Lookup α) (next : α → Lookup β) : Lookup β :=
  match first.result with
  | .error failure => ⟨.error failure, first.notes⟩
  | .ok a => ⟨(next a).result, first.notes ++ (next a).notes⟩

instance : Monad Lookup where
  pure := answer
  bind := andThen

/-- The reports of a lookup, in order. -/
def diagnostics (lookup : Lookup α) : List Diagnostic :=
  lookup.notes.filterMap Note.diagnostic?

@[simp] theorem andThen_answer (a : α) (next : α → Lookup β) :
    (answer a).andThen next = next a := by
  simp [andThen, answer]

@[simp] theorem andThen_fail (failure : Failure) (next : α → Lookup β) :
    (fail failure : Lookup α).andThen next = fail failure := by
  simp [andThen, fail]

end Lookup

end DisplaySession
