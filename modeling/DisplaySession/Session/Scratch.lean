import DisplaySession.Run
import DisplaySession.Session.Layout

/-
Making sure that the scratch directory is there.

A directory that is there already is taken as it is, also behind a link and also if it belongs to
someone else; the latter is worth a warning. Anything else in its place is a failure.
-/
set_option autoImplicit false

namespace DisplaySession

/-- What is said about a directory that was there before. -/
def ownerReport (path : Path) (owner expected : UInt32) : List Event :=
  if owner = expected then [] else [.reported (.foreignOwner path owner expected)]

/-- **Makes the scratch directory if it is not there** (`ensure_scratch_dir`). -/
def ensureScratch {σ : Type} (storage : Storage σ) (user : σ → UInt32) (scratch : Path) :
    Run σ Unit :=
  fun s =>
    let (outcome, s') := storage.createDirectory scratch s
    let asked := Event.directoryAsked scratch outcome
    match outcome with
    | .ok () => ⟨.ok (), s', [asked]⟩
    | .error cause =>
      if cause = .nameTaken then
        match storage.metadata scratch s' with
        | .error cause => ⟨.error (.scratchDirectory scratch cause), s', [asked]⟩
        | .ok found =>
          if found.isDirectory then
            ⟨.ok (), s', asked :: ownerReport scratch found.owner (user s')⟩
          else ⟨.error (.scratchDirectory scratch .notDirectory), s', [asked]⟩
      else ⟨.error (.scratchDirectory scratch cause), s', [asked]⟩

end DisplaySession
