import DisplaySession.Session.Waiting

/-
What happens while a run waits for its display.

The wait looks for one file, pauses, and reports what its looks came to. That is all it leaves
(`waits_waitEvents`), for a fixed time as well as for any number of looks, and whatever they find.
-/
set_option autoImplicit false

namespace DisplaySession

/-- **An event of waiting for a screen file**: a look for it, a pause, or the report of what the
looks came to. -/
inductive Event.Waits (screen : Path) : Event → Prop
  | looked (found : Bool) : Waits screen (.looked screen found)
  | slept (milliseconds : Nat) : Waits screen (.slept milliseconds)
  | appeared (looks : Nat) : Waits screen (.reported (.screenAppeared screen looks))
  | missing (looks : Nat) : Waits screen (.reported (.screenMissing screen looks))

variable (found : Nat → Bool) (screen : Path)

theorem waits_pollScreen (interval remaining looks : Nat) :
    ∀ event ∈ pollScreen found screen interval remaining looks, event.Waits screen := by
  induction remaining generalizing looks with
  | zero =>
    intro event h
    rw [List.mem_singleton.mp h]
    exact .missing looks
  | succ remaining ih =>
    rw [pollScreen]
    by_cases hfound : found (looks + 1) = true
    · rw [if_pos hfound, List.forall_mem_cons, List.forall_mem_singleton]
      exact ⟨.looked true, .appeared (looks + 1)⟩
    · rw [if_neg hfound, List.forall_mem_cons, List.forall_mem_cons]
      exact ⟨.looked false, .slept interval, ih (looks + 1)⟩

/-- **A wait leaves nothing but waiting.** -/
theorem waits_waitEvents (readiness : Readiness) :
    ∀ event ∈ waitEvents found screen readiness, event.Waits screen := by
  cases readiness with
  | fixed settle =>
    intro event h
    rw [List.mem_singleton.mp h]
    exact .slept settle.toNat
  | poll interval attempts => exact waits_pollScreen found screen _ _ _

end DisplaySession
