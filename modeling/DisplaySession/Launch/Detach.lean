import DisplaySession.Launch.Image
import DisplaySession.Lookup

/-
Launching a child that nobody waits for.

The child is started by a process in between, which ends at once; only its end is waited for.
Everything the child needs is put together before the first process is made, so a defect of the
command is found while it can still be reported. Whether the program exists shows only in the
child, which nobody waits for: a child that cannot start is launched all the same.
-/
set_option autoImplicit false

namespace DisplaySession

/-- **What makes processes**, on a state of any kind. -/
structure Processes (σ : Type) where
  /-- Makes a process that is to start the child with this image and to end then. Gives its id. -/
  fork : Image → σ → Except Cause UInt32 × σ
  /-- Waits for the end of a process, however often the waiting is interrupted. Gives its wait
  status. -/
  wait : UInt32 → σ → Except Cause UInt32 × σ

/-- Did a process with this wait status end by itself, and with the status zero? -/
def endedWell (status : UInt32) : Bool :=
  status &&& 0x7f = 0 && (status >>> 8) &&& 0xff = 0

/-- **Launches a child** (`detach` of `DoubleForkLauncher`). A process in between that ends
abnormally is no failure, but worth a warning. -/
def launch {σ : Type} (processes : Processes σ) (spec : ChildSpec) (s : σ) :
    (Except Failure Unit × List Note) × σ :=
  match Image.ofSpec spec with
  | .error defect => ((.error (.invalidCommand defect), []), s)
  | .ok image =>
    let detaching := Note.reported (.detaching spec.arguments)
    match processes.fork image s with
    | (.error cause, s') => ((.error (.launch spec.program cause), [detaching]), s')
    | (.ok process, s') =>
      match processes.wait process s' with
      | (.error cause, s'') => ((.error (.launch spec.program cause), [detaching]), s'')
      | (.ok status, s'') =>
        let ended :=
          if endedWell status then Diagnostic.handedOff spec.program
          else .endedAbnormally spec.program status
        ((.ok (), [detaching, .reported ended]), s'')

/-- **A machine that can always make a process**, and on which nothing of it shows. -/
def Processes.unhindered {σ : Type} : Processes σ where
  fork _ s := (.ok 1, s)
  wait _ s := (.ok 0, s)

/-- **Launches a child on such a machine**: its image, or the defect of its command. -/
def detachChild (spec : ChildSpec) : Lookup Image :=
  match Image.ofSpec spec with
  | .error defect => Lookup.fail (.invalidCommand defect)
  | .ok image =>
    ⟨.ok image, [.reported (.detaching spec.arguments), .reported (.handedOff spec.program)]⟩

/-- On a machine that can always make a process, a launch is what becomes of the image. -/
theorem launch_unhindered {σ : Type} (spec : ChildSpec) (s : σ) :
    launch .unhindered spec s =
      (((detachChild spec).result.map fun _ => (), (detachChild spec).notes), s) := by
  unfold launch detachChild
  cases Image.ofSpec spec <;> rfl

end DisplaySession
