import DisplaySession.Text.Invisible

/-
Quoted text in messages.

A message that shows a name or a line puts it between double quotes and writes each character so
that it can be seen: a few by a letter after a backslash, every other invisible character by its
code point. Lists are written in brackets.
-/
set_option autoImplicit false

namespace DisplaySession.Text

/-- One character inside quotes. -/
def quotedChar (c : Char) : List Char :=
  match c with
  | '"' => ['\\', '"']
  | '\\' => ['\\', '\\']
  | '\t' => ['\\', 't']
  | '\r' => ['\\', 'r']
  | '\n' => ['\\', 'n']
  | '\x00' => ['\\', '0']
  | _ =>
    if isInvisible c then ['\\', 'u', '\x7b'] ++ Nat.toDigits 16 c.toNat ++ ['\x7d'] else [c]

/-- **A text between double quotes**, every character made visible. -/
def quoted (text : String) : String :=
  String.ofList ('"' :: (text.toList.flatMap quotedChar ++ ['"']))

/-- Items in brackets, separated by a comma and a space. -/
def bracketed (items : List String) : String :=
  "[" ++ ", ".intercalate items ++ "]"

/-- A list of texts, each quoted. -/
def quotedList (texts : List String) : String :=
  bracketed (texts.map quoted)

/-- A list of ids. -/
def numberList (ids : List UInt32) : String :=
  bracketed (ids.map fun id => id.toNat.repr)

end DisplaySession.Text
