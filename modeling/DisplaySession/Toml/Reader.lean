import DisplaySession.Toml.Assembly
import DisplaySession.Toml.Scalar
import DisplaySession.Toml.Text

/-
Reading a document.

A document is a sequence of lines, each of them empty, a header or a pair of a key and a value; a
value may go over several lines. The reader gives the statements in their order, and the document
is put together from them afterwards.

Values stand in values to a limited depth, and the number of steps is bounded by the number of
characters, so that the readers below count down from it.
-/
set_option autoImplicit false

namespace DisplaySession.Toml

/-! ## Space, comments and line ends -/

/-- Leaves out spaces and tabs. -/
def skipSpace (cs : List Char) : List Char :=
  cs.dropWhile isSpace

/-- **The rest of a line that says nothing more**: space, a comment, the line end. Gives what is
left behind the line. -/
def lineEnd (comment : Bool) : List Char → Option (List Char)
  | [] => some []
  | c :: cs =>
    if c = '\n' then some cs
    else if c = '\r' then (if feedNext cs then lineEnd comment cs else none)
    else if comment then (if isPlain c then lineEnd true cs else none)
    else if isSpace c then lineEnd false cs
    else if c = '#' then lineEnd true cs
    else none

/-- **Leaves out space, comments and line ends**, as may stand between the parts of a list or of a
table in braces. -/
def skipLines (comment : Bool) : List Char → Option (List Char)
  | [] => some []
  | c :: cs =>
    if c = '\n' then skipLines false cs
    else if c = '\r' then (if feedNext cs then skipLines comment cs else none)
    else if comment then (if isPlain c then skipLines true cs else none)
    else if isSpace c then skipLines false cs
    else if c = '#' then skipLines true cs
    else some (c :: cs)

/-! ## Keys -/

/-- A character of a key without quotes. -/
def isKeyChar (c : Char) : Bool :=
  c.isAlphanum || c == '_' || c == '-'

/-- One key: a word, or a text on one line. -/
def simpleKey (cs : List Char) : Option (String × List Char) :=
  match cs with
  | '"' :: _ => (lineText cs).map fun r => (String.ofList r.1, r.2)
  | '\'' :: _ => (lineText cs).map fun r => (String.ofList r.1, r.2)
  | _ =>
    if (cs.takeWhile isKeyChar).isEmpty then none
    else some (String.ofList (cs.takeWhile isKeyChar), cs.dropWhile isKeyChar)

/-- The greatest number of keys in a path. -/
def pathLimit : Nat := 80

/-- Keys with points between them; what is left begins behind the space that follows. -/
def dottedKeys : (steps : Nat) → List Char → Option (List String × List Char)
  | 0, _ => none
  | steps + 1, cs => do
    let (key, rest) ← simpleKey (skipSpace cs)
    match skipSpace rest with
    | '.' :: rest => do
      let (keys, rest) ← dottedKeys steps rest
      return (key :: keys, rest)
    | rest => return ([key], rest)

/-- **A path**: the keys on the way, and the last key. -/
def keyPath (steps : Nat) (cs : List Char) : Option ((List String × String) × List Char) := do
  let (keys, rest) ← dottedKeys steps cs
  let last ← keys.getLast?
  if pathLimit < keys.length then none
  else return ((keys.dropLast, last), rest)

/-! ## Values -/

/-- The depth to which values may stand in others. -/
def depthLimit : Nat := 80

mutual

/-- **A value.** -/
def value : (steps depth : Nat) → List Char → Option (Value × List Char)
  | 0, _, _ => none
  | steps + 1, depth, cs =>
    match cs with
    | '[' :: rest => do
      if depthLimit ≤ depth then none
      else
        let rest ← skipLines false rest
        let (items, rest) ← items steps (depth + 1) rest
        return (.array items, rest)
    | '\x7b' :: rest => do
      if depthLimit ≤ depth then none
      else
        let (pairs, rest) ← pairs steps (depth + 1) (← skipLines false rest)
        return (.table (← tableOf? pairs), rest)
    | c :: _ =>
      if c = '"' ∨ c = '\'' then (text cs).map fun r => (.text (String.ofList r.1), r.2)
      else (wordValue? (word cs).1).map fun v => (v, (word cs).2)
    | [] => none

/-- The rest of a list. -/
def items : (steps depth : Nat) → List Char → Option (List Value × List Char)
  | 0, _, _ => none
  | steps + 1, depth, cs =>
    match cs with
    | ']' :: rest => some ([], rest)
    | _ => do
      let (v, rest) ← value steps depth cs
      match ← skipLines false rest with
      | ',' :: rest =>
        let (vs, rest) ← items steps depth (← skipLines false rest)
        return (v :: vs, rest)
      | ']' :: rest => return ([v], rest)
      | _ => none

/-- The rest of a table in braces. -/
def pairs : (steps depth : Nat) → List Char →
    Option (List (List String × String × Value) × List Char)
  | 0, _, _ => none
  | steps + 1, depth, cs =>
    match cs with
    | '\x7d' :: rest => some ([], rest)
    | _ => do
      let ((way, key), rest) ← keyPath steps cs
      match ← skipLines false rest with
      | '=' :: rest =>
        let (v, rest) ← value steps depth (← skipLines false rest)
        match ← skipLines false rest with
        | ',' :: rest =>
          let (ps, rest) ← pairs steps depth (← skipLines false rest)
          return ((way, key, v) :: ps, rest)
        | '\x7d' :: rest => return ([(way, key, v)], rest)
        | _ => none
      | _ => none

end

/-! ## Statements -/

/-- A header up to its closing bracket. -/
def header (steps : Nat) (cs : List Char) : Option (Statement × List Char) := do
  let ((way, key), rest) ← keyPath steps cs
  match rest with
  | ']' :: rest => return (.openTable way key, rest)
  | _ => none

/-- A header in double brackets up to its closing ones. -/
def itemHeader (steps : Nat) (cs : List Char) : Option (Statement × List Char) := do
  let ((way, key), rest) ← keyPath steps cs
  match rest with
  | ']' :: ']' :: rest => return (.openItem way key, rest)
  | _ => none

/-- A pair of a key and a value. -/
def pair (steps : Nat) (cs : List Char) : Option (Statement × List Char) := do
  let ((way, key), rest) ← keyPath steps cs
  match rest with
  | '=' :: rest =>
    let (v, rest) ← value steps 0 (skipSpace rest)
    return (.pair way key v, rest)
  | _ => none

/-- **A statement.** -/
def statement (steps : Nat) (cs : List Char) : Option (Statement × List Char) :=
  match cs with
  | '[' :: '[' :: rest => itemHeader steps rest
  | '[' :: rest => header steps rest
  | _ => pair steps cs

/-- Does a line say nothing? -/
def isSilent : List Char → Bool
  | [] => true
  | c :: _ => c == '#' || c == '\n' || c == '\r'

/-- **The statements of a document.** `steps` bounds the steps inside a statement, and the first
number those from line to line. -/
def statements (steps : Nat) : (lines : Nat) → List Char → Option (List Statement)
  | 0, _ => none
  | lines + 1, cs =>
    let cs := skipSpace cs
    if cs.isEmpty then some []
    else if isSilent cs then do
      statements steps lines (← lineEnd false cs)
    else do
      let (s, rest) ← statement steps cs
      let rest ← statements steps lines (← lineEnd false rest)
      return s :: rest

/-- A mark that a document may begin with and that says nothing. -/
def dropMark : List Char → List Char
  | c :: cs => if c = '\ufeff' then cs else c :: cs
  | [] => []

/-- **The document in a text**, unless the text is malformed. -/
def read? (cs : List Char) : Option Table := do
  let cs := dropMark cs
  let steps := 2 * cs.length + 2
  documentOf? (← statements steps steps cs)

end DisplaySession.Toml
