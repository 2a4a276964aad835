import DisplaySession.CommandLine.Program

/-
The command line.

The process of this program keeps its ids and launches nothing. It takes the files that a call
looks at into a picture of the machine and prints what the call comes to there, as the superuser
and with no tool installed.
-/
set_option autoImplicit false

namespace DisplaySession

namespace Main

open CommandLine

/-- The name of the variable that overrides a setting. -/
def overridingName (area key : String) : String :=
  "SESSION_BOOTSTRAP__" ++ (area ++ "__" ++ key).toUpper

/-- The settings with every key of both ways to wait. -/
def allSections : List Toml.Section :=
  [Config.standard, { Config.standard with readiness := .poll 1 1 }].flatMap fun config =>
    (config.sections.toOption).getD []

/-- The variables that a call looks at. -/
def variableNames : List String :=
  configVariable :: filterVariable :: plainVariable :: styleVariable ::
    (allSections.flatMap fun area =>
      area.settings.map fun s => overridingName area.name s.1).eraseDups

/-- The variables that are set. -/
def readVariables : IO (List (String × Bytes)) :=
  variableNames.filterMapM fun name => do
    return (← IO.getEnv name).map fun value => (name, Utf8.ofString value)

/-- The contents of a file, if it can be read. -/
def contentsOf (path : Path) : IO (Option Bytes) := do
  try
    let bytes ← IO.FS.readBinFile path.shown
    return some bytes.toList
  catch _ => return none

/-- The files with one more file in them, and the directories on the way to it. -/
def withFile (files : FileSystem) (path : Path) (contents : Bytes) : FileSystem :=
  let parent : Path := ⟨(path.bytes.reverse.dropWhile (· ≠ slash)).reverse⟩
  let made := (files.createDirectories [] FileSystem.superuserId parent).toOption.getD files
  (made.write [] FileSystem.superuserId path contents).toOption.getD made

/-- Takes files into the picture. -/
def picture (files : FileSystem) (paths : List Path) : IO FileSystem :=
  paths.foldlM
    (fun files path => do
      match ← contentsOf path with
      | some contents => return withFile files path contents
      | none => return files)
    files

/-- A machine of the superuser with some files. -/
def machineWith (files : FileSystem) : Machine :=
  { files, directory := [], ids := .superuser, powers := ⟨true, true⟩, tools := [] }

/-- The files that the settings make a call look at. -/
def lookedAt (config : Config) (options : Options) : List Path :=
  [config.identity.passwdPath, config.identity.groupPath, options.handoff]

/-- The machine that a call finds. -/
def machineFor (invocation : Invocation) : IO Machine := do
  match requestOf invocation.arguments with
  | .session options =>
    let file := configFile invocation options
    let files ← picture FileSystem.empty (Config.candidates file)
    match Config.load (Config.fileAt files [] file) invocation.environment with
    | .ok config => return machineWith (← picture files (lookedAt config options))
    | .error _ => return machineWith files
  | _ => return machineWith FileSystem.empty

/-- An entry of the log in print. -/
def logText (entry : LogLine) : String :=
  let level := entry.level.label
  "[" ++ level ++ blanks (5 - level.length) ++ " " ++ entry.target ++ "] " ++ entry.text

/-- What is printed, as text. -/
def printedText : Printed → String
  | .logged entry => logText entry
  | .text text => text

/-- **Runs a call** and prints what it comes to. -/
def start (arguments : List String) : IO UInt32 := do
  let invocation : Invocation := ⟨arguments.map Utf8.ofString, ← readVariables⟩
  let exit := CommandLine.run (← machineFor invocation) invocation
  IO.print exit.output
  exit.errors.forM fun p => IO.eprint (printedText p)
  return exit.status.toUInt32

end Main

end DisplaySession

/-- The program. -/
def main (arguments : List String) : IO UInt32 :=
  DisplaySession.Main.start arguments
