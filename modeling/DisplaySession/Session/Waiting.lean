import DisplaySession.Config.Basic
import DisplaySession.Run

/-
Waiting for a new display.

The wait gives the display a head start and is no promise that it is ready. It cannot fail and it
changes nothing: however it ends, the run goes on.
-/
set_option autoImplicit false

namespace DisplaySession

/-- **Looks for the screen file**, at most `remaining` times after `looks` looks that did not find
it. Each look that does not find it is followed by a pause. -/
def pollScreen (found : Nat → Bool) (screen : Path) (interval : Nat) :
    (remaining looks : Nat) → List Event
  | 0, looks => [.reported (.screenMissing screen looks)]
  | remaining + 1, looks =>
    if found (looks + 1) then
      [.looked screen true, .reported (.screenAppeared screen (looks + 1))]
    else
      .looked screen false :: .slept interval ::
        pollScreen found screen interval remaining (looks + 1)

/-- What happens while waiting. -/
def waitEvents (found : Nat → Bool) (screen : Path) : Readiness → List Event
  | .fixed settle => [.slept settle.toNat]
  | .poll interval attempts => pollScreen found screen interval.toNat attempts.toNat 0

/-- **Waits for the display** (`wait_for_display`). -/
def waitForDisplay {σ : Type} (host : Host σ) (readiness : Readiness) (screen : Path) :
    Run σ Unit :=
  fun s => ⟨.ok (), s, waitEvents (fun look => host.isPresent screen look s) screen readiness⟩

end DisplaySession
