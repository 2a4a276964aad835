import DisplaySession.Launch.Spec
import DisplaySession.Failure

/-
What the system is handed when a program starts: zero-terminated strings.

An argument is its bytes; a variable is its name, an equals sign and its value in one string. A
string that holds a zero byte would be cut there, and a name that is empty or holds an equals sign
would be read back as another variable, so both are refused before anything starts. The first
defect is the one that is reported: arguments from left to right, then the variables in the order
of their names.
-/
set_option autoImplicit false

namespace DisplaySession

/-- The byte between a variable's name and its value. -/
def equalsByte : UInt8 := 0x3d

/-- **A program image** (`ExecImage`): the strings the system is handed. -/
structure Image where
  /-- The arguments. -/
  arguments : List Bytes
  /-- The variables, each as `name=value`. -/
  assignments : List Bytes
  deriving DecidableEq

namespace Image

/-- The path of the program that is started: the first argument. -/
def path (image : Image) : Bytes :=
  image.arguments.headD []

/-- A string without a zero byte. The position of the first zero byte is counted in bytes. -/
def zeroFree (program : String) (bytes : Bytes) : Except CommandDefect Bytes :=
  match bytes.findIdx? (· = 0) with
  | some position => .error (.zeroByte program position)
  | none => .ok bytes

/-- A variable's string. -/
def ofVariable (program : String) (v : Variable) : Except CommandDefect Bytes :=
  if v.1 = "" ∨ '=' ∈ v.1.toList then .error (.badVariableName v.1)
  else zeroFree program (Utf8.ofString v.1 ++ equalsByte :: Utf8.ofString v.2)

/-- **The image of a child**, or its first defect (`new` of `ExecImage`). -/
def ofSpec (spec : ChildSpec) : Except CommandDefect Image := do
  match spec.arguments with
  | [] => .error .noArguments
  | _ :: _ =>
    let arguments ← spec.arguments.mapM fun a => zeroFree spec.program (Utf8.ofString a)
    let assignments ← spec.environment.entries.mapM (ofVariable spec.program)
    return ⟨arguments, assignments⟩

/-- The variable in a string: what stands before the first equals sign, and what stands after it. -/
def nameAndValue (bytes : Bytes) : Bytes × Bytes :=
  (bytes.takeWhile (· ≠ equalsByte), (bytes.dropWhile (· ≠ equalsByte)).drop 1)

/-- **The variables that a child finds.** -/
def receivedVariables (image : Image) : List (Bytes × Bytes) :=
  image.assignments.map Image.nameAndValue

end Image

end DisplaySession
