import DisplaySession.CommandLine.Arguments
import DisplaySession.CommandLine.Complaint
import DisplaySession.CommandLine.Help
import DisplaySession.Config.Dump
import DisplaySession.Config.File
import DisplaySession.Config.Load
import DisplaySession.Logging.Filter
import DisplaySession.Machine

/-
The program as it is called: arguments and variables go in, and what it prints and its status come
out.

The arguments decide first, then the log is set up, then the settings are loaded, and only then
does a session begin. What comes later is not looked at when something before it has failed.
-/
set_option autoImplicit false

namespace DisplaySession

namespace CommandLine

/-- **A call of the program.** -/
structure Invocation where
  arguments : List Bytes
  /-- The environment. -/
  environment : List (String × Bytes)

/-- The value of a variable. -/
def Invocation.value? (invocation : Invocation) (name : String) : Option Bytes :=
  (invocation.environment.find? (·.1 = name)).map (·.2)

/-- **What is printed for errors**: an entry of the log, which has a head of its own and ends with a
line end unless its text swallows that, or any other text. -/
inductive Printed
  | logged (entry : LogLine)
  | text (text : String)
  deriving DecidableEq

/-- **How a call ends.** -/
structure Exit where
  /-- The exit status. -/
  status : UInt8
  /-- What is printed as the result. -/
  output : String
  /-- What is printed for errors, in order. -/
  errors : List Printed

namespace Exit

/-- The status of a call that failed. -/
def failed : UInt8 := 1

/-- The status of a call with a mistake in its arguments. -/
def misused : UInt8 := 2

/-- A call that printed its result. -/
def printed (output : String) : Exit :=
  ⟨0, output, []⟩

/-- A call with a mistake in its arguments. -/
def mistake (fault : UsageFault) : Exit :=
  ⟨misused, "", [.text ("error: " ++ fault.shown ++ "\n\n" ++ usageText)]⟩

/-- What was printed before comes first. -/
def after (before : List Printed) (exit : Exit) : Exit :=
  { exit with errors := before ++ exit.errors }

end Exit

/-! ## The log -/

/-- How far the later lines of a text in the log are indented. -/
def logIndent : Nat := 4

/-- **A line of the log as it is printed**: later lines of its text stand indented below the first
one, the line end is put behind the text, and control sequences are left out. -/
def printedLine (line : LogLine) : Printed :=
  .logged { line with text := Text.withoutControls (hanging logIndent line.text ++ "\n") }

/-- The level from which on a verbosity admits messages. -/
def levelOf : (verbosity : Nat) → Level
  | 0 => .info
  | 1 => .debug
  | _ => .trace

/-- The variable that sets the filter of the log. -/
def filterVariable : String := "RUST_LOG"

/-- **The filter of the log**: the variable's if it is text, and else the verbosity's. -/
def filterFor (invocation : Invocation) (options : Options) : LogFilter × List String :=
  match (invocation.value? filterVariable).bind Utf8.decode? with
  | some text => LogFilter.ofText (String.ofList text)
  | none => (LogFilter.fromLevel (levelOf options.verbosity), [])

/-- What is printed of some reports. -/
def printedReports (filter : LogFilter) (reports : List Diagnostic) : List Printed :=
  let lines := (Sink.log Sink.standardTarget (some .trace)).written (reports.map (·.message))
  (lines.filter filter.admits).map printedLine

/-- What is printed of some warnings about the filter. -/
def printedWarnings (warnings : List String) : List Printed :=
  warnings.map fun w => .text ("warning: " ++ w ++ ", ignoring it\n")

/-! ## The parts of a call -/

/-- A call that failed. -/
def failedExit (doing : String) (reasons : List String) : Exit :=
  ⟨Exit.failed, "", [.text (complaint doing reasons)]⟩

/-- **Prints the settings.** -/
def printConfig (config : Config) : Exit :=
  match config.dump with
  | .ok text => Exit.printed text
  | .error fault => failedExit (Failure.configuration fault).shown []

/-- The variable that names the directories in which programs are looked for. -/
def searchVariable : String := "PATH"

/-- **The machine as a call finds it**, with the search path of its environment. -/
def withSearchPath (machine : Machine) (invocation : Invocation) : Machine :=
  match invocation.value? searchVariable with
  | some bytes => { machine with search := SearchPath.ofBytes bytes }
  | none => machine

/-- **Runs a session.** -/
def runSession (machine : Machine) (filter : LogFilter) (config : Config) (options : Options) :
    Exit :=
  let outcome :=
    Bootstrap.run (Machine.host config.session) config (machine.database config.identity)
      options.username options.handoff machine
  let reports := printedReports filter outcome.diagnostics
  match outcome.result with
  | .ok _ => ⟨0, "", reports⟩
  | .error failure =>
    (failedExit ("bootstrapping session for " ++ options.username) failure.chain).after reports

/-- **Does what the options ask for**, with the settings of a file. -/
def runWith (machine : Machine) (invocation : Invocation) (options : Options) (file : Path) :
    Exit :=
  let (filter, warnings) := filterFor invocation options
  let contents := Config.fileAt machine.files machine.directory file
  Exit.after (printedWarnings warnings) <|
    match Config.load contents invocation.environment with
    | .error fault =>
      failedExit ("loading config from " ++ file.shown) (Failure.configuration fault).chain
    | .ok config =>
      if options.printsConfig then printConfig config
      else runSession (withSearchPath machine invocation) filter config options

/-- **The settings file**: the argument's, else the variable's, else the standard one. -/
def configFile (invocation : Invocation) (options : Options) : Path :=
  let named := options.config <|> (invocation.value? configVariable).map Path.mk
  named.getD (.ofString standardConfig)

/-! ## Style -/

/-- The variable that forbids emphasis. -/
def plainVariable : String := "NO_COLOR"

/-- The variable that asks for emphasis, also where no terminal is. -/
def styleVariable : String := "CLICOLOR_FORCE"

/-- **Is the help printed with its emphasis?** Only if it is asked for and not forbidden. -/
def keepsStyle (invocation : Invocation) : Bool :=
  let isSet (name : String) := ((invocation.value? name).getD []) ≠ []
  isSet styleVariable && !isSet plainVariable

/-- **A call of the program on a machine.** -/
def run (machine : Machine) (invocation : Invocation) : Exit :=
  match requestOf invocation.arguments with
  | .help =>
    Exit.printed (helpText (keepsStyle invocation)
      (Utf8.shown ((invocation.value? configVariable).getD [])))
  | .version => Exit.printed versionText
  | .mistake fault => Exit.mistake fault
  | .session options =>
    let file := configFile invocation options
    if file.bytes = [] then Exit.mistake (.empty "--config")
    else runWith machine invocation options file

end CommandLine

end DisplaySession
