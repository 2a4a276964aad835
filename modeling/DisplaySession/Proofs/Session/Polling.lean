import DisplaySession.Proofs.Session.Waiting
import Mathlib.Data.Nat.Find

/-
How often a wait looks for the screen file, and how long it pauses.

A wait by looks is known from the first look that finds the file. The looks before it miss, and each
of them is followed by a pause (`pollScreen_missed`); the one that finds it is the last one, and no
pause follows. If none of the looks that are allowed finds it, all of them are made and all of them
are followed by a pause. The number in the report is the number of looks in both cases
(`waitForDisplay_poll`).
-/
set_option autoImplicit false

namespace DisplaySession

/-- **The first look that finds the file**, of looks that are counted from one. -/
structure FirstFound (found : Nat → Bool) (look : Nat) : Prop where
  counted : 0 < look
  finds : found look = true
  earlier : ∀ n, 0 < n → n < look → found n = false

/-- Looks that miss, each with the pause behind it. -/
def missedLooks (screen : Path) (interval count : Nat) : List Event :=
  (List.replicate count [Event.looked screen false, .slept interval]).flatten

section

variable {found : Nat → Bool} (screen : Path) (interval : Nat)

theorem missedLooks_succ (count : Nat) :
    missedLooks screen interval (count + 1) =
      .looked screen false :: .slept interval :: missedLooks screen interval count := by
  unfold missedLooks
  rw [List.replicate_succ, List.flatten_cons]
  rfl

/-- Nothing is reported of a look that misses. -/
theorem reports_missedLooks (count : Nat) :
    (missedLooks screen interval count).filterMap Event.diagnostic? = [] := by
  induction count with
  | zero => rfl
  | succ count ih =>
    rw [missedLooks_succ]
    exact ih

/-- A look that finds the file at some time means that one of them is the first to do so. -/
theorem exists_firstFound {n : Nat} (hcounted : 0 < n) (hfound : found n = true) :
    ∃ k, FirstFound found k ∧ k ≤ n := by
  have hsome : ∃ k, 0 < k ∧ found k = true := ⟨n, hcounted, hfound⟩
  obtain ⟨hpos, hk⟩ := Nat.find_spec hsome
  refine ⟨Nat.find hsome, ⟨hpos, hk, ?_⟩, Nat.find_min' hsome ⟨hcounted, hfound⟩⟩
  intro m hm hlt
  have hnot := Nat.find_min hsome hlt
  rw [not_and, Bool.not_eq_true] at hnot
  exact hnot hm

/-- If no look up to a bound is the first one, none up to the bound finds the file. -/
theorem missed_of_no_firstFound {bound : Nat} (h : ∀ k, FirstFound found k → bound < k) :
    ∀ n, 0 < n → n ≤ bound → found n = false := by
  intro n hcounted hle
  by_contra hfound
  rw [Bool.not_eq_false] at hfound
  obtain ⟨k, hfirst, hkn⟩ := exists_firstFound hcounted hfound
  have hbound := h k hfirst
  omega

/-- **Looks that miss are made one after another**, and what is left of the wait follows them. -/
theorem pollScreen_missed (remaining : Nat) {count looks : Nat}
    (h : ∀ n, looks < n → n ≤ looks + count → found n = false) :
    pollScreen found screen interval (count + remaining) looks =
      missedLooks screen interval count ++
        pollScreen found screen interval remaining (looks + count) := by
  -- The looks already made grow from step to step, so they stay general.
  induction count generalizing looks with
  | zero =>
    rw [Nat.zero_add]
    rfl
  | succ count ih =>
    have hmiss : found (looks + 1) = false := h (looks + 1) (by omega) (by omega)
    have hrest : ∀ n, looks + 1 < n → n ≤ looks + 1 + count → found n = false := by
      intro n hlt hle
      apply h n <;> omega
    have hsteps : count + 1 + remaining = count + remaining + 1 := by omega
    have hlooks : looks + 1 + count = looks + (count + 1) := by omega
    rw [hsteps, pollScreen, if_neg (by rw [hmiss]; exact Bool.false_ne_true), ih hrest, hlooks,
      missedLooks_succ]
    rfl

/-- **A wait ends with the first look that finds the file**, if that one is allowed. -/
theorem pollScreen_of_found {attempts k : Nat} (hfirst : FirstFound found k) (hle : k ≤ attempts) :
    pollScreen found screen interval attempts 0 =
      missedLooks screen interval (k - 1) ++
        [.looked screen true, .reported (.screenAppeared screen k)] := by
  have hcounted := hfirst.counted
  have hmissed : ∀ n, 0 < n → n ≤ 0 + (k - 1) → found n = false := by
    intro n hpos hn
    apply hfirst.earlier n hpos
    omega
  have hattempts : attempts = k - 1 + (attempts - k + 1) := by omega
  have hlast : 0 + (k - 1) + 1 = k := by omega
  rw [hattempts, pollScreen_missed screen interval _ hmissed, pollScreen, hlast,
    if_pos hfirst.finds]

/-- **A wait whose looks all miss makes all of them**, and reports how many they were. -/
theorem pollScreen_of_missed {attempts : Nat} (h : ∀ n, 0 < n → n ≤ attempts → found n = false) :
    pollScreen found screen interval attempts 0 =
      missedLooks screen interval attempts ++
        [.reported (.screenMissing screen attempts)] := by
  have hmissed : ∀ n, 0 < n → n ≤ 0 + attempts → found n = false := by
    rw [Nat.zero_add]
    exact h
  have hend := pollScreen_missed screen interval 0 hmissed
  rw [Nat.add_zero, Nat.zero_add] at hend
  rw [hend, pollScreen]

end

/-- **A wait looks as often as it has to and not once more.** Whatever the schedule of the file and
the numbers are, the wait ends, gives a result and leaves the host as it is. If look `k` is the first
one to find the file and is allowed, the wait consists of `k - 1` looks that miss, each with a pause
behind it, the look that finds it, and the report that names `k`. Otherwise it consists of all the
looks that are allowed, each with a pause behind it, and the warning that names their number. -/
theorem waitForDisplay_poll {σ : Type} (host : Host σ) (interval : UInt64) (attempts : UInt32)
    (screen : Path) (s : σ) :
    let outcome := waitForDisplay host (.poll interval attempts) screen s
    let found := fun look => host.isPresent screen look s
    outcome.result = .ok () ∧ outcome.state = s ∧
    (∀ k, FirstFound found k → k ≤ attempts.toNat →
      outcome.trace = missedLooks screen interval.toNat (k - 1) ++
        [.looked screen true, .reported (.screenAppeared screen k)] ∧
      outcome.diagnostics.map Diagnostic.message =
        [⟨.debug, screen.shown ++ " appeared after " ++ k.repr ++ " checks"⟩]) ∧
    ((∀ k, FirstFound found k → attempts.toNat < k) →
      outcome.trace = missedLooks screen interval.toNat attempts.toNat ++
        [.reported (.screenMissing screen attempts.toNat)] ∧
      outcome.diagnostics.map Diagnostic.message =
        [⟨.warn, screen.shown ++ " did not appear after " ++ attempts.toNat.repr ++
          " checks, continuing anyway"⟩]) := by
  intro outcome found
  refine ⟨rfl, rfl, ?_, ?_⟩
  · intro k hfirst hle
    have htrace : outcome.trace = _ := pollScreen_of_found screen interval.toNat hfirst hle
    refine ⟨htrace, ?_⟩
    rw [Outcome.diagnostics, htrace, List.filterMap_append,
      reports_missedLooks]
    rfl
  · intro hnone
    have htrace : outcome.trace = _ :=
      pollScreen_of_missed screen interval.toNat (missed_of_no_firstFound hnone)
    refine ⟨htrace, ?_⟩
    rw [Outcome.diagnostics, htrace, List.filterMap_append,
      reports_missedLooks]
    rfl

/-- A file that appears with the last look that is allowed. -/
example (screen : Path) : pollScreen (· = 2) screen 5 2 0 =
    [.looked screen false, .slept 5, .looked screen true, .reported (.screenAppeared screen 2)] :=
  rfl

end DisplaySession
