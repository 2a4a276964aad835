import DisplaySession.Text.Blank
import DisplaySession.Failure

/-
User names that may be looked up.

A name goes into a record, into a path and into an argument list, so a character that ends a field
or a path component, white space, controls and a leading dash are refused before anything is
asked.
-/
set_option autoImplicit false

namespace DisplaySession.Account

/-- A character that no user name has. -/
def isForbidden (c : Char) : Bool :=
  c == ':' || c == '/' || Text.isBlank c || Text.isControl c

/-- **A user name**: not empty, without a leading dash, without a forbidden character. -/
def isUsername (name : String) : Bool :=
  !name.toList.isEmpty && name.toList.head? != some '-' && !name.toList.any isForbidden

/-- **Refuses what is no user name** (`validate_username`). -/
def checkUsername (name : String) : Except Failure Unit :=
  if isUsername name then .ok () else .error (.invalidUsername name)

end DisplaySession.Account
