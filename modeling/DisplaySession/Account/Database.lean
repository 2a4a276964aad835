import DisplaySession.Account.Identity
import DisplaySession.Account.Username
import DisplaySession.Lookup

/-
Databases of users and groups, and the identity they give for a name.

A database answers two questions: the record of a name, and every group. It may answer with the
record of another account, as a query by a numeric name does, so the name is compared once more
before a record counts. Groups are asked for only after the user was found.

Three databases are here: two files, the record tool, and a table. The files are read anew for
each question.
-/
set_option autoImplicit false

namespace DisplaySession

/-- **A source of records** (`IdentityDatabase`). -/
structure Database where
  /-- The record for a name, if there is one. -/
  user : String → Lookup (Option UserRecord)
  /-- Every group. -/
  groups : Lookup (List GroupRecord)

namespace Account

/-- A lookup that fails with a fault of the database. -/
def lookupFault {α : Type} (fault : LookupFault) : Lookup α :=
  Lookup.fail (.identityLookup fault)

/-! ## Resolving a name -/

/-- **The identity of a user name** (`resolve`). -/
def resolve (users : Database) (name : String) : Lookup Identity := do
  match checkUsername name with
  | .error failure => Lookup.fail failure
  | .ok () =>
    let found ← users.user name
    match found.filter (·.name = name) with
    | none => Lookup.fail (.userNotFound name)
    | some record =>
      let groups ← users.groups
      return identityOf record groups

/-! ## Groups in a text -/

/-- The groups of some lines, with a report for each line that is no record. -/
def groupsOfLines : List (List Char) → Lookup (List GroupRecord)
  | [] => Lookup.answer []
  | line :: lines =>
    let rest := groupsOfLines lines
    match groupOfLine line with
    | .ok group => ⟨rest.result.map (group :: ·), rest.notes⟩
    | .error fault => ⟨rest.result, .reported (.groupSkipped fault) :: rest.notes⟩

/-- **Every group in a text** (`parse_group_records`); what is no record is passed over. -/
def groupsOfText (contents : List Char) : Lookup (List GroupRecord) :=
  groupsOfLines (recordLines contents)

/-! ## Files -/

/-- A file's contents by its path. -/
abbrev FileReader := Path → Except Cause Bytes

/-- A file's text (`read` of `FileDatabase`). -/
def readText (read : FileReader) (path : Path) : Lookup (List Char) :=
  match read path with
  | .error cause => lookupFault (.unreadable path cause)
  | .ok bytes =>
    match Utf8.decode? bytes with
    | none => lookupFault (.unreadable path .notText)
    | some text => Lookup.answer text

/-- **The user record in a text** (`user` of `FileDatabase`). Only the first line filed under the
name is read as a record, so that other lines may be anything. -/
def userInText (contents : List Char) (name : String) : Lookup (Option UserRecord) :=
  match (recordLines contents).find? (keyOfLine · = name.toList) with
  | none => Lookup.answer none
  | some line =>
    match userOfLine line with
    | .ok record => Lookup.answer (some record)
    | .error fault => lookupFault fault

/-- **The database in two files** (`FileDatabase`). -/
def ofFiles (read : FileReader) (users groups : Path) : Database where
  user name := do
    let contents ← readText read users
    userInText contents name
  groups := do
    let contents ← readText read groups
    groupsOfText contents

/-! ## The record tool -/

/-- The status by which the record tool says that it has no such key. -/
def keyNotFound : Int := 2

/-- What the tool printed, or nothing if it has no such key. -/
def toolOutput (program : Path) (arguments : List String) :
    Tool.Answer → Except Failure (Option (List Char))
  | .unavailable cause =>
    .error (.identityLookup (.toolUnavailable program arguments cause))
  | .finished ending output errors =>
    if ending = .exited 0 then .ok (some (Utf8.decodeLossy output))
    else if ending = .exited keyNotFound then .ok none
    else
      .error (.identityLookup (.toolFailed program arguments ending
        (String.ofList (Text.trim (Utf8.decodeLossy errors)))))

/-- Asks the record tool (`query`). -/
def askRecords (program : Path) (tool : Tool) (arguments : List String) :
    Lookup (Option (List Char)) :=
  ⟨toolOutput program arguments (tool arguments), [.asked program arguments (tool arguments)]⟩

/-- **The record that the tool printed for a name** (`passwd_record_named`). The first line that is
not blank is the record, and it counts only if it is filed under exactly this name. -/
def printedUser (output : List Char) (name : String) : Lookup (Option UserRecord) :=
  match (Text.lines output).find? (!Text.isBlankText ·) with
  | none => lookupFault (.emptyRecord name)
  | some line =>
    match userOfLine line with
    | .error fault => lookupFault fault
    | .ok record =>
      if record.name = name then Lookup.answer (some record)
      else ⟨.ok none, [.reported (.otherAccount name)]⟩

/-- **The database behind the record tool** (`GetentDatabase`). -/
def ofTool (program : Path) (tool : Tool) : Database where
  user name := do
    match ← askRecords program tool ["passwd", name] with
    | none => return none
    | some output => printedUser output name
  groups := do
    let output ← askRecords program tool ["group"]
    groupsOfText (output.getD [])

/-! ## A table -/

/-- **The database in a table.** A name finds the first user who has it as a name or, written in
digits, as an id. -/
def ofTable (users : List UserRecord) (groups : List GroupRecord) : Database where
  user name := Lookup.answer (users.find? fun u => u.name = name ∨ u.uid.toNat.repr = name)
  groups := Lookup.answer groups

end Account

end DisplaySession
