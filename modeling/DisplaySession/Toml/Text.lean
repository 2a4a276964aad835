import DisplaySession.Text.Numeral
import DisplaySession.Toml.Value

/-
Reading the texts of a document.

Every reader takes the characters that are left and gives what it read together with the
characters that are left then, or nothing if the document is malformed there. The opening of a
text has been read when these readers begin.
-/
set_option autoImplicit false

namespace DisplaySession.Toml

/-- A space or a tab. -/
def isSpace (c : Char) : Bool :=
  c == ' ' || c == '\t'

/-- A character that may stand in a text or a comment: no control but the tab. -/
def isPlain (c : Char) : Bool :=
  c == '\t' || (0x20 ≤ c.toNat && c != '\x7f')

/-- Puts a character in front of what was read. -/
def push (c : Char) (read : Option (List Char × List Char)) : Option (List Char × List Char) :=
  read.map fun r => (c :: r.1, r.2)

/-! ## Escapes -/

/-- The character behind a backslash that stands for another one. -/
def escaped? (c : Char) : Option Char :=
  match c with
  | 'b' => some '\x08'
  | 'e' => some '\x1b'
  | 't' => some '\t'
  | 'n' => some '\n'
  | 'f' => some '\x0c'
  | 'r' => some '\r'
  | '"' => some '"'
  | '\\' => some '\\'
  | _ => none

/-- The value of hexadecimal digits. -/
def hexValue? (digits : List Char) : Option Nat :=
  digits.foldl (fun n c => do return (← n) * 16 + (← Text.hexDigit? c)) (some 0)

/-- The character with a number, if there is one. -/
def charOf? (n : Nat) : Option Char :=
  if n.isValidChar then some (Char.ofNat n) else none

/-- The character whose number is written in hexadecimal digits. -/
def charOfHex? (digits : List Char) : Option Char :=
  (hexValue? digits).bind charOf?

/-! ## Texts on one line -/

/-- **The rest of a text between quotes.** -/
def basic : List Char → Option (List Char × List Char)
  | [] => none
  | c :: cs =>
    if c = '"' then some ([], cs)
    else if c = '\\' then
      match cs with
      | [] => none
      | e :: cs' =>
        match escaped? e with
        | some d => push d (basic cs')
        | none =>
          if e = 'x' then
            match cs' with
            | h1 :: h2 :: cs'' =>
              match charOfHex? [h1, h2] with
              | some d => push d (basic cs'')
              | none => none
            | _ => none
          else if e = 'u' then
            match cs' with
            | h1 :: h2 :: h3 :: h4 :: cs'' =>
              match charOfHex? [h1, h2, h3, h4] with
              | some d => push d (basic cs'')
              | none => none
            | _ => none
          else if e = 'U' then
            match cs' with
            | h1 :: h2 :: h3 :: h4 :: h5 :: h6 :: h7 :: h8 :: cs'' =>
              match charOfHex? [h1, h2, h3, h4, h5, h6, h7, h8] with
              | some d => push d (basic cs'')
              | none => none
            | _ => none
          else none
    else if isPlain c then push c (basic cs)
    else none

/-- **The rest of a text between apostrophes.** -/
def literal : List Char → Option (List Char × List Char)
  | [] => none
  | c :: cs =>
    if c = '\'' then some ([], cs)
    else if isPlain c then push c (literal cs)
    else none

/-! ## Blocks -/

/-- The quotes that belong to a block although they stand at its end: up to two of those that follow
the three that close it. -/
def closing (quote : Char) : List Char → List Char × List Char
  | [] => ([], [])
  | a :: cs =>
    if a = quote then
      match cs with
      | [] => ([quote], [])
      | b :: cs' => if b = quote then ([quote, quote], cs') else ([quote], b :: cs')
    else ([], a :: cs)

/-- Do two quotes come next? -/
def pairNext (quote : Char) : List Char → Bool
  | a :: b :: _ => a == quote && b == quote
  | _ => false

/-- Does a line feed come next? -/
def feedNext : List Char → Bool
  | c :: _ => c == '\n'
  | [] => false

/-- What a backslash at the end of a line does. -/
inductive Fold
  /-- Nothing is being left out. -/
  | none
  /-- Spaces are left out up to the end of the line, which has to come. -/
  | toLineEnd
  /-- Spaces and line ends are left out up to the next character. -/
  | toText
  deriving DecidableEq

/-- Is the rest of the line behind a backslash empty? -/
def foldsLine : List Char → Bool
  | [] => false
  | c :: cs =>
    if isSpace c then foldsLine cs
    else c == '\n' || (c == '\r' && feedNext cs)

/-- **The rest of a block between three quotes.** A line end stands for itself, with its carriage
return if it has one. -/
def basicBlock (fold : Fold) : List Char → Option (List Char × List Char)
  | [] => none
  | c :: cs =>
    if fold ≠ .none ∧ isSpace c then basicBlock fold cs
    else if fold ≠ .none ∧ c = '\n' then basicBlock .toText cs
    else if c = '\r' then
      if feedNext cs then
        -- The line feed that follows is kept or left out together with this.
        if fold = .none then push c (basicBlock .none cs) else basicBlock fold cs
      else none
    else if c = '"' then
      if pairNext '"' cs then
        let (quotes, rest) := closing '"' (cs.drop 2)
        some (quotes, rest)
      else push c (basicBlock .none cs)
    else if c = '\\' then
      if foldsLine cs then basicBlock .toLineEnd cs
      else
        match cs with
        | [] => Option.none
        | e :: cs' =>
          match escaped? e with
          | some d => push d (basicBlock .none cs')
          | Option.none =>
            if e = 'x' then
              match cs' with
              | h1 :: h2 :: cs'' =>
                match charOfHex? [h1, h2] with
                | some d => push d (basicBlock .none cs'')
                | Option.none => Option.none
              | _ => Option.none
            else if e = 'u' then
              match cs' with
              | h1 :: h2 :: h3 :: h4 :: cs'' =>
                match charOfHex? [h1, h2, h3, h4] with
                | some d => push d (basicBlock .none cs'')
                | Option.none => Option.none
              | _ => Option.none
            else if e = 'U' then
              match cs' with
              | h1 :: h2 :: h3 :: h4 :: h5 :: h6 :: h7 :: h8 :: cs'' =>
                match charOfHex? [h1, h2, h3, h4, h5, h6, h7, h8] with
                | some d => push d (basicBlock .none cs'')
                | Option.none => Option.none
              | _ => Option.none
            else Option.none
    else if c = '\n' ∨ isPlain c then push c (basicBlock .none cs)
    else none

/-- **The rest of a block between three apostrophes.** -/
def literalBlock : List Char → Option (List Char × List Char)
  | [] => none
  | c :: cs =>
    if c = '\r' then
      if feedNext cs then push c (literalBlock cs) else none
    else if c = '\'' then
      if pairNext '\'' cs then
        let (quotes, rest) := closing '\'' (cs.drop 2)
        some (quotes, rest)
      else push c (literalBlock cs)
    else if c = '\n' ∨ isPlain c then push c (literalBlock cs)
    else none

/-- Leaves out a line end that stands just behind the opening of a block. -/
def dropLineEnd : List Char → List Char
  | '\n' :: cs => cs
  | '\r' :: '\n' :: cs => cs
  | cs => cs

/-! ## Any text -/

/-- **A text in any style**, from its opening on. -/
def text : List Char → Option (List Char × List Char)
  | '"' :: cs =>
    if pairNext '"' cs then basicBlock .none (dropLineEnd (cs.drop 2)) else basic cs
  | '\'' :: cs =>
    if pairNext '\'' cs then literalBlock (dropLineEnd (cs.drop 2)) else literal cs
  | _ => none

/-- **A text on one line**, from its opening on, as a key may be. -/
def lineText : List Char → Option (List Char × List Char)
  | '"' :: cs => basic cs
  | '\'' :: cs => literal cs
  | _ => none

end DisplaySession.Toml
