import DisplaySession.Launch.Environment

/-
What is launched: an argument list and an environment.
-/
set_option autoImplicit false

namespace DisplaySession

/-- **A child to be launched** (`ChildSpec`). It sees these variables and no others. -/
structure ChildSpec where
  /-- The arguments; the first one is the program. -/
  arguments : List String
  /-- The whole environment. -/
  environment : Environment
  deriving DecidableEq

/-- The program of a child. -/
def ChildSpec.program (spec : ChildSpec) : String :=
  spec.arguments.headD ""

end DisplaySession
