import DisplaySession.Text.Blank
import DisplaySession.Text.Lines
import DisplaySession.Text.Numeral
import DisplaySession.Failure

/-
Records of users and groups, one a line, with fields between colons.

Both kinds are read by taking the fields apart and looking at a few of them; what the others hold
does not matter, and neither do fields beyond the last one of the format. An id is the exact value
of its field or there is no record.
-/
set_option autoImplicit false

namespace DisplaySession

/-- **A user's record** (`PasswdEntry`). -/
structure UserRecord where
  /-- The user's name. -/
  name : String
  /-- The user's id. -/
  uid : UInt32
  /-- The id of the primary group. -/
  gid : UInt32
  /-- The home directory. -/
  home : Path
  deriving DecidableEq

/-- **A group's record** (`GroupEntry`). -/
structure GroupRecord where
  /-- The group's name. -/
  name : String
  /-- The group's id. -/
  gid : UInt32
  /-- The names of its members. -/
  members : List String
  deriving DecidableEq

namespace Account

/-- An id in a field of a line (`parse_id`). -/
def id (what : String) (line field : List Char) : Except LookupFault UInt32 :=
  match Text.uint32? field with
  | some n => .ok n
  | none => .error (.badId what (String.ofList line))

/-- **The user record on a line** `name:passwd:uid:gid:gecos:home:shell` (`parse_passwd_line`). Of
two bad ids the user's is the one that is reported. -/
def userOfLine (line : List Char) : Except LookupFault UserRecord :=
  match Text.split ':' line with
  | name :: _ :: uid :: gid :: _ :: home :: _ :: _ => do
    let uid ← id "uid" line uid
    let gid ← id "gid" line gid
    return ⟨String.ofList name, uid, gid, ⟨Utf8.encode home⟩⟩
  | _ => .error (.malformedUser (String.ofList line))

/-- The names in a member list: the pieces between commas, trimmed, without the empty ones. -/
def memberNames (field : List Char) : List (List Char) :=
  ((Text.split ',' field).map Text.trim).filter (· ≠ [])

/-- **The group record on a line** `name:passwd:gid:member,member,...` (`parse_group_line`). -/
def groupOfLine (line : List Char) : Except LookupFault GroupRecord :=
  match Text.split ':' line with
  | name :: _ :: gid :: members :: _ => do
    let gid ← id "gid" line gid
    return ⟨String.ofList name, gid, (memberNames members).map String.ofList⟩
  | _ => .error (.malformedGroup (String.ofList line))

/-- **The lines of a database file that may be records** (`records`): trimmed at the end, neither
empty nor a comment. -/
def recordLines (contents : List Char) : List (List Char) :=
  ((Text.lines contents).map Text.trimEnd).filter fun line => line ≠ [] ∧ line.head? ≠ some '#'

/-- The name a line is filed under: its first field. -/
def keyOfLine (line : List Char) : List Char :=
  (Text.split ':' line).headD []

end Account

end DisplaySession
