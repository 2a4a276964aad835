import DisplaySession.FileSystem.Operations

/-
Tools that follow a script.

A script lists answers by key. A question is looked up by its arguments joined with blanks, then
by its first argument, then by a star; a question that the script does not know ends with status 2
and prints nothing. A question with a zero byte is never put.

A scripted tool stands at one place and has a file there. A path leads to it as it leads to any
other file, and a name without a separator is looked for in the directories of a search path. What
is no tool cannot be run, and the files say why.
-/
set_option autoImplicit false

namespace DisplaySession

/-- **A script**: no such program, a program that cannot be run, or answers by key. -/
inductive ToolScript
  | missing
  | notExecutable
  | answers (table : List (String × Tool.Answer))

namespace ToolScript

/-- The answer in a table. -/
def lookUp (table : List (String × Tool.Answer)) (arguments : List String) : Tool.Answer :=
  let find (key : String) := (table.find? (·.1 = key)).map (·.2)
  (find (" ".intercalate arguments) <|> find (arguments.headD "") <|> find "*").getD
    (.finished (.exited 2) [] [])

/-- Does an argument hold a zero byte? -/
def holdsNul (arguments : List String) : Bool :=
  arguments.any fun a => '\x00' ∈ a.toList

/-- **The tool that follows a script.** -/
def tool (script : ToolScript) : Tool := fun arguments =>
  if holdsNul arguments then .unavailable .nulInArgument
  else
    match script with
    | .missing => .unavailable .noEntry
    | .notExecutable => .unavailable .accessDenied
    | .answers table => lookUp table arguments

end ToolScript

/-- **A scripted tool at its place.** -/
structure InstalledTool where
  place : Location
  script : ToolScript

/-! ## Finding a program -/

/-- **The directories in which programs are looked for.** -/
abbrev SearchPath := List Path

namespace SearchPath

/-- The byte between two directories. -/
def colon : UInt8 := 0x3a

/-- The search path when none is set. -/
def standard : SearchPath :=
  [.ofString "/bin", .ofString "/usr/bin"]

/-- **The directories in a text**, between colons. An empty piece is the working directory. -/
def ofBytes (bytes : Bytes) : SearchPath :=
  (Path.pieces colon bytes).map Path.mk

end SearchPath

/-- **The program at a path.** A file that is no tool's cannot be run, and no directory can. -/
def programAt (installed : List InstalledTool) (files : FileSystem) (directory : Location)
    (path : Path) : Except Cause ToolScript := do
  match ← files.locate directory path with
  | .free _ => .error .noEntry
  | .entry place (.file ..) =>
    match installed.find? (·.place = place) with
    | some ⟨_, .answers table⟩ => .ok (.answers table)
    | _ => .error .accessDenied
  | .entry _ _ => .error .accessDenied

/-- **Looks for a name in directories**, one after another. A directory without the name is passed
over, and one with a name that cannot be run is, too; but that is remembered as the reason why
nothing was found. -/
def searchIn (find : Path → Except Cause ToolScript) (name : Bytes) :
    (reason : Cause) → SearchPath → Except Cause ToolScript
  | reason, [] => .error reason
  | reason, place :: places =>
    match find (place.join name) with
    | .ok script => .ok script
    | .error cause =>
      if cause = .accessDenied then searchIn find name cause places
      else if cause = .noEntry ∨ cause = .noDirectory then
        searchIn find name (if reason = .accessDenied then reason else cause) places
      else .error cause

/-- **The program that a path or a bare name leads to.** -/
def findProgram (installed : List InstalledTool) (files : FileSystem) (directory : Location)
    (search : SearchPath) (program : Path) : Except Cause ToolScript :=
  if 0 ∈ program.bytes then .error .nulInArgument
  else if slash ∈ program.bytes then programAt installed files directory program
  else if program.bytes = [] then .error .noEntry
  else if FileSystem.nameLimit < program.bytes.length then .error .nameTooLong
  else searchIn (programAt installed files directory) program.bytes .noEntry search

/-- **The tool at a path**, among the installed ones. -/
def toolAt (installed : List InstalledTool) (files : FileSystem) (directory : Location)
    (search : SearchPath) (program : Path) : Tool := fun arguments =>
  match findProgram installed files directory search program with
  | .ok script => script.tool arguments
  | .error cause =>
    if ToolScript.holdsNul arguments then .unavailable .nulInArgument else .unavailable cause

end DisplaySession
