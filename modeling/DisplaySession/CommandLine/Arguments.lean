import DisplaySession.Path

/-
The arguments of the command line.

Options and operands may be mixed; two dashes end the options, and a dash alone is an operand.
Letters may be joined behind one dash, and what follows the letter that takes a path is the path.
Arguments are taken from left to right, and the first one that settles the matter does: a request
for help or for the version is met at once, and so is a mistake, whatever follows.
-/
set_option autoImplicit false

namespace DisplaySession

namespace CommandLine

/-- **What a session is asked for.** -/
structure Options where
  /-- The user to run the session as. -/
  username : String
  /-- The file that is handed over. -/
  handoff : Path
  /-- How often more messages were asked for. -/
  verbosity : Nat
  /-- The settings file, if one was named. -/
  config : Option Path
  /-- Are the settings to be printed, and nothing else done? -/
  printsConfig : Bool
  deriving DecidableEq

/-- **A mistake in the arguments.** -/
inductive UsageFault
  /-- An option that is not known, or one operand too many. -/
  | unexpected (argument : Bytes)
  /-- A value for an option that takes none. -/
  | unexpectedValue (option : String)
  /-- An option without the value that it takes. -/
  | valueMissing (option : String)
  /-- An option that may be given once. -/
  | repeated (option : String)
  /-- A value that is empty. -/
  | empty (what : String)
  /-- A value that has to be text is not. -/
  | notText (what : String)
  /-- An operand that is not there. -/
  | missing (what : String)
  deriving DecidableEq

/-- **What the arguments ask for.** -/
inductive Request
  | help
  | version
  | session (options : Options)
  | mistake (fault : UsageFault)
  deriving DecidableEq

namespace UsageFault

/-- The text of a mistake. -/
def shown : UsageFault → String
  | .unexpected argument => "unexpected argument '" ++ Utf8.shown argument ++ "'"
  | .unexpectedValue option => "no value is expected for '" ++ option ++ "'"
  | .valueMissing option => "a value is required for '" ++ option ++ "'"
  | .repeated option => "'" ++ option ++ "' cannot be used more than once"
  | .empty what => "a value is required for '" ++ what ++ "' but none was supplied"
  | .notText what => "the value for '" ++ what ++ "' is not valid UTF-8"
  | .missing what => "'" ++ what ++ "' was not provided"

end UsageFault

/-! ## Taking the arguments one by one -/

/-- What the next argument is taken for. -/
inductive Expectation
  /-- An option or an operand. -/
  | anything
  /-- The path of the settings file. -/
  | configPath
  /-- An operand. -/
  | operand
  deriving DecidableEq

/-- **The arguments so far.** -/
structure Draft where
  username : Option String := none
  handoff : Option Path := none
  verbosity : Nat := 0
  config : Option Path := none
  printsConfig : Bool := false
  next : Expectation := .anything

/-- What settles the matter before all arguments are taken. -/
abbrev Taking := Except Request

/-- A mistake ends the taking. -/
def mistaken {α : Type} (fault : UsageFault) : Taking α :=
  .error (.mistake fault)

namespace Draft

/-- Takes the path of the settings file. -/
def takeConfig (draft : Draft) (path : Path) : Taking Draft :=
  if path.bytes = [] then mistaken (.empty "--config")
  else if draft.config.isSome then mistaken (.repeated "--config")
  else .ok { draft with config := some path, next := .anything }

/-- Takes the request to print the settings. -/
def takePrint (draft : Draft) : Taking Draft :=
  if draft.printsConfig then mistaken (.repeated "--print-config")
  else .ok { draft with printsConfig := true }

/-- Takes the user name. -/
def takeUsername (draft : Draft) (argument : Bytes) : Taking Draft :=
  match Utf8.decode? argument with
  | some name => .ok { draft with username := some (String.ofList name) }
  | none => mistaken (.notText "<USERNAME>")

/-- Takes the handoff. -/
def takeHandoff (draft : Draft) (argument : Bytes) : Taking Draft :=
  if argument = [] then mistaken (.empty "<HANDOFF>")
  else .ok { draft with handoff := some ⟨argument⟩ }

/-- **Takes an operand**: the user name first, then the handoff. -/
def takeOperand (draft : Draft) (argument : Bytes) : Taking Draft :=
  if draft.username.isNone then draft.takeUsername argument
  else if draft.handoff.isNone then draft.takeHandoff argument
  else mistaken (.unexpected argument)

/-- One more message level. -/
def louder (draft : Draft) : Draft :=
  { draft with verbosity := draft.verbosity + 1 }

/-- Takes a long option without a value. -/
def takeName (draft : Draft) (name : Bytes) : Taking Draft :=
  if name = Utf8.ofString "verbose" then .ok draft.louder
  else if name = Utf8.ofString "print-config" then draft.takePrint
  else if name = Utf8.ofString "config" then .ok { draft with next := .configPath }
  else if name = Utf8.ofString "help" then .error .help
  else if name = Utf8.ofString "version" then .error .version
  else mistaken (.unexpected name)

/-- Takes a long option with a value. -/
def takeNameWithValue (draft : Draft) (name value : Bytes) : Taking Draft :=
  if name = Utf8.ofString "config" then draft.takeConfig ⟨value⟩
  else mistaken (.unexpectedValue (Utf8.shown name))

/-- The byte between an option and its value. -/
def assignment : UInt8 := 0x3d

/-- **Takes a long option**, given without its dashes. -/
def takeLong (draft : Draft) (option : Bytes) : Taking Draft :=
  match option.dropWhile (· ≠ assignment) with
  | [] => draft.takeName option
  | _ :: value => draft.takeNameWithValue (option.takeWhile (· ≠ assignment)) value

/-- Takes what stands behind the letter of the settings file. -/
def takeRest (draft : Draft) : Bytes → Taking Draft
  | [] => .ok { draft with next := .configPath }
  | b :: rest => draft.takeConfig ⟨if b = assignment then rest else b :: rest⟩

/-- **Takes letters behind one dash.** -/
def takeLetters (draft : Draft) : Bytes → Taking Draft
  | [] => .ok draft
  | 0x76 :: rest => draft.louder.takeLetters rest
  | 0x63 :: rest => draft.takeRest rest
  | 0x68 :: _ => .error .help
  | 0x56 :: _ => .error .version
  | letter :: _ => mistaken (.unexpected [letter])

/-- Takes an argument that may be an option. -/
def takeAnything (draft : Draft) : Bytes → Taking Draft
  | [0x2d, 0x2d] => .ok { draft with next := .operand }
  | 0x2d :: 0x2d :: option => draft.takeLong option
  | 0x2d :: letter :: letters => draft.takeLetters (letter :: letters)
  | argument => draft.takeOperand argument

/-- Does an argument look like an option? -/
def isOption : Bytes → Bool
  | 0x2d :: _ :: _ => true
  | _ => false

/-- **Takes one argument.** -/
def take (draft : Draft) (argument : Bytes) : Taking Draft :=
  match draft.next with
  | .anything => draft.takeAnything argument
  | .operand => draft.takeOperand argument
  | .configPath =>
    if isOption argument then mistaken (.valueMissing "--config") else draft.takeConfig ⟨argument⟩

/-- **What a draft comes to** when all arguments are taken. -/
def finished (draft : Draft) : Request :=
  if draft.next = .configPath then .mistake (.valueMissing "--config")
  else
    match draft.username, draft.handoff with
    | some username, some handoff =>
      .session ⟨username, handoff, draft.verbosity, draft.config, draft.printsConfig⟩
    | none, _ => .mistake (.missing "<USERNAME>")
    | _, none => .mistake (.missing "<HANDOFF>")

end Draft

/-- **What some arguments ask for.** -/
def requestOf (arguments : List Bytes) : Request :=
  match arguments.foldlM Draft.take {} with
  | .ok draft => draft.finished
  | .error request => request

end CommandLine

end DisplaySession
