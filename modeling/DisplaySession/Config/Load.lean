import DisplaySession.Config.Decode
import DisplaySession.Config.Overlay
import DisplaySession.Config.Variable
import DisplaySession.Toml.Reader

/-
Loading the settings: variables over the file over the defaults.

There may be no file. The settings that come out of the layers are checked before anybody uses them.
The names of the document and those of the variables are set in any order, each layer in its own.
-/
set_option autoImplicit false

namespace DisplaySession

namespace Config

open Toml (Value Table lookUp)

/-- A text without the mark of its byte order. A document may begin with such a mark of its own. -/
def withoutMark (text : List Char) : List Char :=
  if text.head? = some '\ufeff' then text.drop 1 else text

/-- **The document in a file**; a file that is not there is an empty one. What is no text in it is
read leniently. -/
def documentIn : Option Bytes → Except ConfigFault Table
  | none => .ok []
  | some bytes =>
    match Toml.read? (withoutMark (Utf8.decodeLossy bytes)) with
    | none => .error .malformed
    | some table => .ok table

/-- **The settings that some variables name.** Of several variables for one name the last one
counts, and a variable that names none may hold anything. -/
def overridesIn : List (String × Bytes) → Except ConfigFault (List (String × Value))
  | [] => .ok []
  | (name, bytes) :: environment =>
    match settingName? name with
    | none => overridesIn environment
    | some setting =>
      match Utf8.decode? bytes with
      | none => .error .notText
      | some text => do
        let later ← overridesIn environment
        return if (lookUp setting later).isSome then later
          else (setting, variableValue (String.ofList text)) :: later

/-- **The table of a file and some variables.** -/
def tableOf (file : Option Bytes) (environment : List (String × Bytes))
    (orders : Orders := .given) : Except ConfigFault Table := do
  let document ← documentIn file
  let overrides ← overridesIn environment
  return layered (layered [] (orders.document.arrange document))
    (orders.overrides.arrange overrides)

/-- **Loads the settings** (`load`), the layers in these orders. -/
def load (file : Option Bytes) (environment : List (String × Bytes))
    (orders : Orders := .given) : Except ConfigFault Config := do
  let config ← decode (← tableOf file environment orders)
  check config
  return config

end Config

end DisplaySession
