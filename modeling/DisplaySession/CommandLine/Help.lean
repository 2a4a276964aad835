import DisplaySession.Text.ControlSequence
import DisplaySession.Text.Lines

/-
What the command line says about itself.

Operands and options are listed in two columns each, and the second column begins two places
behind the widest entry of the first one. Nothing is wrapped, but a line end inside a description
goes on below it.

The help is composed for a terminal, with headings and words to type set off. What is printed to
anything else has lost that, together with all other control sequences that got into it.
-/
set_option autoImplicit false

namespace DisplaySession

namespace CommandLine

/-- The name of the program. -/
def programName : String := "session-bootstrap"

/-- **The version line.** -/
def versionText : String :=
  programName ++ " 0.1.0\n"

/-- The settings file when none is named. -/
def standardConfig : String := "/etc/session-bootstrap/config.toml"

/-- The variable that names the settings file. -/
def configVariable : String := "SESSION_BOOTSTRAP_CONFIG"

/-- Blanks. -/
def blanks (n : Nat) : String :=
  String.ofList (List.replicate n ' ')

/-- A text whose later lines begin with so many blanks. -/
def hanging (n : Nat) (text : String) : String :=
  ("\n" ++ blanks n).intercalate ((Text.split '\n' text.toList).map String.ofList)

/-! ## Emphasis -/

/-- **A piece of a text** with its emphasis. -/
inductive Span
  | plain (text : String)
  /-- A word to type. -/
  | word (text : String)
  /-- The heading of a part. -/
  | heading (text : String)

namespace Span

/-- The text of a piece. -/
def text : Span → String
  | .plain text => text
  | .word text => text
  | .heading text => text

/-- A piece as a terminal takes it: bold words, and headings that are underlined as well. -/
def styled : Span → String
  | .plain text => text
  | .word text => "\x1b[1m" ++ text ++ "\x1b[0m"
  | .heading text => "\x1b[1m\x1b[4m" ++ text ++ "\x1b[0m"

end Span

/-- The width of some pieces. -/
def widthOf (spans : List Span) : Nat :=
  spans.foldl (· + ·.text.length) 0

/-- Some pieces as a terminal takes them. -/
def styledSpans (spans : List Span) : String :=
  String.join (spans.map Span.styled)

/-! ## Columns -/

/-- An entry of a list: what is described, and its description. -/
abbrev Entry := List Span × String

/-- One row of a list. -/
def row (width : Nat) (entry : Entry) : String :=
  "  " ++ styledSpans entry.1 ++ blanks (width - widthOf entry.1 + 2) ++
    hanging (width + 4) entry.2 ++ "\n"

/-- **A list in two columns.** -/
def columns (entries : List Entry) : String :=
  let width := (entries.map fun e => widthOf e.1).foldl max 0
  String.join (entries.map (row width))

/-- The operands. -/
def operandEntries : List Entry :=
  [([.plain "<USERNAME>"], "User to run the session as"),
    ([.plain "<HANDOFF>"], "Pre-created unix socket the video server will serve on")]

/-- The options. The value that names the settings file in the environment is shown with its
option. -/
def optionEntries (configInEnvironment : String) : List Entry :=
  [([.word "-v", .plain ", ", .word "--verbose", .plain "..."],
      "Increase logging verbosity (stackable)"),
    ([.word "-c", .plain ", ", .word "--config", .plain " <PATH>"],
      "Path to config file [env: " ++ configVariable ++ "=" ++ configInEnvironment ++
        "] [default: " ++ standardConfig ++ "]"),
    ([.plain "    ", .word "--print-config"],
      "Print the effective configuration as TOML and exit"),
    ([.word "-h", .plain ", ", .word "--help"], "Print help"),
    ([.word "-V", .plain ", ", .word "--version"], "Print version")]

/-- How the program is called. -/
def usageSpans : List Span :=
  [.heading "Usage:", .plain " ", .word programName, .plain " [OPTIONS] <USERNAME> <HANDOFF>\n"]

/-- How the program is called, without emphasis. -/
def usageText : String :=
  String.join (usageSpans.map Span.text)

/-- **The help**, as a terminal takes it. -/
def styledHelp (configInEnvironment : String) : String :=
  "Drop to a user, ensure their virtual display runs, and start the video server\n\n" ++
    styledSpans usageSpans ++
    "\n" ++ Span.styled (.heading "Arguments:") ++ "\n" ++ columns operandEntries ++
    "\n" ++ Span.styled (.heading "Options:") ++ "\n" ++
    columns (optionEntries configInEnvironment)

/-- **The help** as it is printed, with its emphasis or without. -/
def helpText (keepsStyle : Bool) (configInEnvironment : String) : String :=
  if keepsStyle then styledHelp configInEnvironment
  else Text.withoutControls (styledHelp configInEnvironment)

end CommandLine

end DisplaySession
