import DisplaySession.Decimal.Binary64
import DisplaySession.Text.Lines
import DisplaySession.Text.Numeral
import DisplaySession.Text.Utf8
import DisplaySession.Toml.Value

/-
Variables that override settings.

A variable's name begins with the name of the program and two underscores, in letters of any case;
what follows names the setting. Its value is a boolean, a number or a text, whichever it reads as
first.
-/
set_option autoImplicit false

namespace DisplaySession

namespace Config

open Toml (Value)

/-! ## Names -/

/-- A character in lower case. The sign of the kelvin is the one character beyond ASCII whose
lower case is in ASCII; no other matters to a name. -/
def lowered (c : Char) : Char :=
  if c = '\u212a' then 'k' else c.toLower

/-- What the names of overriding variables begin with. -/
def variableStart : List Char :=
  "session_bootstrap__".toList

/-- A name with a point for every two underscores, from left to right. -/
def pointed : List Char → List Char
  | '_' :: '_' :: cs => '.' :: pointed cs
  | c :: cs => c :: pointed cs
  | [] => []

/-- **The setting that a variable names**, if it names one. -/
def settingName? (name : String) : Option String :=
  let cs := name.toList.map lowered
  if variableStart.isPrefixOf cs then
    some (String.ofList (pointed (cs.drop variableStart.length)))
  else none

/-! ## Values -/

/-- Digits only, and maybe none. -/
def allDigits (cs : List Char) : Bool :=
  cs.all Char.isDigit

/-- The power of ten behind the letter of a number. -/
def power? : Option (List Char) → Option Int
  | none => some 0
  | some cs =>
    let (negative, digits) := Text.sign cs
    (Text.digits? digits).map fun n => if negative then -(n : Int) else n

/-- A number that is written with digits. -/
def digitNumber? (negative : Bool) (cs : List Char) : Option Binary64 := do
  let (mantissa, power) := Text.cutAt (fun c => c == 'e' || c == 'E') cs
  let (whole, places) := Text.cutAt (· == '.') mantissa
  let places := places.getD []
  if allDigits places ∧ allDigits whole then
    let digits ← Text.digits? (whole ++ places)
    let power ← power? power
    return Binary64.ofDecimal negative digits (power - places.length)
  else none

/-- **A number with a point** or a power of ten, or one that is infinite or none by name. Digits may
be missing on one side of the point. -/
def number? (cs : List Char) : Option Binary64 :=
  let (negative, rest) := Text.sign cs
  let name := String.ofList (rest.map Char.toLower)
  if name = "inf" ∨ name = "infinity" then some (.infinite negative)
  else if name = "nan" then some .notANumber
  else digitNumber? negative rest

/-- **What a variable's text stands for**: a boolean in any case, an integer, another number, or
itself. -/
def variableValue (text : String) : Value :=
  let cs := text.toList
  let name := String.ofList (cs.map Char.toLower)
  if name = "true" then .boolean true
  else if name = "false" then .boolean false
  else
    match Text.int64? cs with
    | some n => .integer n
    | none =>
      match number? cs with
      | some x => .float x
      | none => .text text

end Config

end DisplaySession
