import DisplaySession.Text.Lines

/-
Faults of search patterns, and how they are reported.

A fault has a place in the pattern, and a few have a second one. The report shows the pattern with
marks below these places and says what is wrong there. A pattern of several lines is shown with
their numbers, between two rules.
-/
set_option autoImplicit false

namespace DisplaySession

namespace Pattern

/-- **What can be wrong with a pattern.** -/
inductive FaultKind
  | badClassEscape
  | emptyClassRange
  | unsuitableRangeEnd
  | unclosedClass
  | badNumber
  | emptyHex
  | badHex
  | badHexDigit
  | unfinishedEscape
  | unknownEscape
  | danglingNegation
  | repeatedFlag
  | repeatedNegation
  | unfinishedFlags
  | unknownFlag
  | repeatedName
  | emptyName
  | badName
  | unclosedName
  | unclosedGroup
  | unopenedGroup
  | emptyRepetitionRange
  | emptyRepetitionCount
  | unclosedRepetition
  | nothingToRepeat
  | unclosedWordEdge
  | unknownWordEdge
  | unfinishedWordEdge
  | badProperty
  | backReference
  | lookAround
  | tooDeep
  | unknownProperty
  | unknownPropertyValue
  | unknownKind
  | unknownCases
  | notPlain
  | notText
  deriving DecidableEq

/-- **The words for what is wrong.** -/
def FaultKind.shown : FaultKind → String
  | badClassEscape => "invalid escape sequence found in character class"
  | emptyClassRange => "invalid character class range, the start must be <= the end"
  | unsuitableRangeEnd => "invalid range boundary, must be a literal"
  | unclosedClass => "unclosed character class"
  | badNumber => "decimal literal invalid"
  | emptyHex => "hexadecimal literal empty"
  | badHex => "hexadecimal literal is not a Unicode scalar value"
  | badHexDigit => "invalid hexadecimal digit"
  | unfinishedEscape => "incomplete escape sequence, reached end of pattern prematurely"
  | unknownEscape => "unrecognized escape sequence"
  | danglingNegation => "dangling flag negation operator"
  | repeatedFlag => "duplicate flag"
  | repeatedNegation => "flag negation operator repeated"
  | unfinishedFlags => "expected flag but got end of regex"
  | unknownFlag => "unrecognized flag"
  | repeatedName => "duplicate capture group name"
  | emptyName => "empty capture group name"
  | badName => "invalid capture group character"
  | unclosedName => "unclosed capture group name"
  | unclosedGroup => "unclosed group"
  | unopenedGroup => "unopened group"
  | emptyRepetitionRange =>
    "invalid repetition count range, the start must be <= the end"
  | emptyRepetitionCount => "repetition quantifier expects a valid decimal"
  | unclosedRepetition => "unclosed counted repetition"
  | nothingToRepeat => "repetition operator missing expression"
  | unclosedWordEdge =>
    "special word boundary assertion is either unclosed or contains an invalid character"
  | unknownWordEdge =>
    "unrecognized special word boundary assertion, valid choices are: start, end, start-half " ++
      "or end-half"
  | unfinishedWordEdge =>
    "found either the beginning of a special word boundary or a bounded repetition on a \\b " ++
      "with an opening brace, but no closing brace"
  | badProperty => "invalid Unicode character class"
  | backReference => "backreferences are not supported"
  | lookAround => "look-around, including look-ahead and look-behind, is not supported"
  | tooDeep => "exceed the maximum number of nested parentheses/brackets (250)"
  | unknownProperty => "Unicode property not found"
  | unknownPropertyValue => "Unicode property value not found"
  | unknownKind =>
    "Unicode-aware Perl class not found (make sure the unicode-perl feature is enabled)"
  | unknownCases =>
    "Unicode-aware case insensitivity matching is not available (make sure the unicode-case " ++
      "feature is enabled)"
  | notPlain => "Unicode not allowed here"
  | notText => "pattern can match invalid UTF-8"

/-- **A stretch of a pattern**: the numbers of its first character and of the one behind it. -/
structure Stretch where
  start : Nat
  stop : Nat
  deriving DecidableEq

/-- **A fault of a pattern.** -/
inductive Fault
  /-- Something is wrong at a stretch of the pattern, and maybe because of another one. -/
  | wrong (kind : FaultKind) (stretch : Stretch) (cause : Option Stretch)
  /-- The pattern is too big. -/
  | tooBig
  /-- The pattern asks for words of all scripts. -/
  | scriptWords
  deriving DecidableEq

/-! ## Reports -/

/-- The line and the column of a character, counted from zero. -/
def placeOf (pattern : List Char) (n : Nat) : Nat × Nat :=
  let lines := Text.split '\n' (pattern.take n)
  (lines.length - 1, (lines.getLast?.getD []).length)

/-- The marks below a line, for stretches of columns in increasing order. -/
def marks (column : Nat) : List (Nat × Nat) → List Char
  | [] => []
  | (start, stop) :: rest =>
    let width := max 1 (stop - start)
    List.replicate (start - column) ' ' ++ List.replicate width '^' ++
      marks (max column start + width) rest

/-- The columns of the stretches that lie in one line. -/
def columnsIn (pattern : List Char) (stretches : List Stretch) (line : Nat) : List (Nat × Nat) :=
  let columns (s : Stretch) : Option (Nat × Nat) :=
    let first := placeOf pattern s.start
    let last := placeOf pattern s.stop
    if first.1 = line ∧ last.1 = line then some (first.2, last.2) else none
  (stretches.filterMap columns).mergeSort fun a b => a.1 < b.1 ∨ (a.1 = b.1 ∧ a.2 ≤ b.2)

/-- A number with blanks in front up to a width. -/
def padded (width n : Nat) : List Char :=
  let digits := Nat.toDigits 10 n
  List.replicate (width - digits.length) ' ' ++ digits

/-- What stands before a line of the pattern: its number if there are several lines. -/
def margin (lines line : Nat) : List Char :=
  if lines ≤ 1 then List.replicate 4 ' '
  else padded (Nat.toDigits 10 lines).length (line + 1) ++ [':', ' ']

/-- **The pattern with marks** below some stretches. -/
def marked (pattern : List Char) (stretches : List Stretch) : List Char :=
  let lines := Text.lines pattern
  let count := lines.length + (if pattern.getLast? = some '\n' then 1 else 0)
  (lines.zipIdx.map fun (text, line) =>
    let before := margin count line
    let below :=
      match columnsIn pattern stretches line with
      | [] => []
      | columns => List.replicate before.length ' ' ++ marks 0 columns ++ ['\n']
    before ++ text ++ ['\n'] ++ below).flatten

/-- The notes about stretches that go over several lines. -/
def wideNotes (pattern : List Char) (stretches : List Stretch) : List String :=
  (stretches.filterMap fun s =>
    let first := placeOf pattern s.start
    let last := placeOf pattern s.stop
    if first.1 = last.1 then none
    else some ("on line " ++ (first.1 + 1).repr ++ " (column " ++ (first.2 + 1).repr ++
      ") through line " ++ (last.1 + 1).repr ++ " (column " ++ last.2.repr ++ ")"))

/-- A rule above and below a pattern of several lines. -/
def rule : String :=
  String.ofList (List.replicate 79 '~') ++ "\n"

/-- **The report about a fault** of a pattern. -/
def Fault.report (pattern : List Char) (fault : Fault) : String :=
  match fault with
  | wrong kind stretch cause =>
    let stretches := stretch :: cause.toList
    let shown := String.ofList (marked pattern stretches)
    let notes := wideNotes pattern stretches
    "regex parse error:\n" ++
      (if '\n' ∉ pattern then shown
      else rule ++ shown ++ rule ++ String.join (notes.map (· ++ "\n"))) ++
      "error: " ++ kind.shown
  | tooBig => "Compiled regex exceeds size limit of 10485760 bytes."
  | scriptWords => "error building NFA"

end Pattern

end DisplaySession
