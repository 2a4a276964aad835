import DisplaySession.Proofs.Account.Record
import DisplaySession.Proofs.Account.Resolve

/-
What was written to the files is what they resolve to.

A file is written row by row (`Document`). A row is an entry with white space behind it or a line
that has no part in the answer, a stray one, and which lines are stray depends on the file: one of
users is searched for a name, so that a line under another name does no harm whatever it holds; one
of groups is read as a whole, so that a line does no harm only if it is no record.

The types carry the conditions. A field has no colon and no line feed, a member has no comma and no
white space around it, the name at the head of an entry does not begin a comment. So an entry's line
splits into its fields (`RecordLine.split_trimEnd_text`), and both readers give what was written
(`userInText_text`, `groupsOfText_text`). White space at the end is taken off the last field only:
that is the shell, which is not read, or the members, none of whom ends in any.
-/
set_option autoImplicit false

namespace DisplaySession.Account

/-! ## Fields -/

/-- **A field**: text within a line and between colons. -/
structure Field where
  text : List Char
  noFeed : '\n' ∉ text
  noColon : ':' ∉ text

/-- **A member's name**, as it stands in a list of members. -/
structure Member extends Field where
  noComma : ',' ∉ text
  notEmpty : text ≠ []
  trimmed : Text.trim text = text

/-- The field of an id. -/
def Field.ofId (n : UInt32) : Field :=
  ⟨n.toNat.repr.toList, not_mem_repr (by decide) _, not_mem_repr (by decide) _⟩

/-- The field of a list of members. -/
def Field.ofMembers (members : List Member) : Field where
  text := [','].intercalate (members.map (·.text))
  noFeed := Text.not_mem_intercalate (by decide)
    (List.forall_mem_map.mpr fun member _ => member.noFeed)
  noColon := Text.not_mem_intercalate (by decide)
    (List.forall_mem_map.mpr fun member _ => member.noColon)

/-- **Members that were written are read**, with white space behind the last one or without. -/
theorem memberNames_ofMembers (members : List Member) :
    memberNames (Text.trimEnd (Field.ofMembers members).text) = members.map (·.text) := by
  -- Only the last member could lose anything to the trimming, so it is taken apart from the rest.
  rcases List.eq_nil_or_concat' members with rfl | ⟨front, last, rfl⟩
  · rfl
  · have htexts : (front ++ [last]).map (·.text) = front.map (·.text) ++ [last.text] :=
      List.map_append
    have hcomma : ∀ piece ∈ front.map (·.text) ++ [last.text], ',' ∉ piece := by
      rw [← htexts]
      exact List.forall_mem_map.mpr fun member _ => member.noComma
    have hpieces := Text.split_trimEnd_intercalate (by decide) hcomma
    have hclean : ((front ++ [last]).map (·.text)).map Text.trim =
        (front ++ [last]).map (·.text) := by
      rw [List.map_map]
      exact List.map_congr_left fun member _ => member.trimmed
    rw [Text.trimEnd_of_trim last.trimmed, ← htexts] at hpieces
    rw [memberNames, Field.ofMembers, hpieces, hclean, List.filter_eq_self]
    exact List.forall_mem_map.mpr fun member _ => decide_eq_true member.notEmpty

/-! ## Lines -/

/-- **A line with a record**: a name that does not begin a comment, and one more field at least. -/
structure RecordLine where
  name : Field
  unmarked : name.text.head? ≠ some '#'
  middle : List Field
  last : Field

namespace RecordLine

/-- The fields of a line but the last one. -/
def front (line : RecordLine) : List (List Char) :=
  line.name.text :: line.middle.map Field.text

/-- **The line as text**: its fields with colons between them. -/
def text (line : RecordLine) : List Char :=
  [':'].intercalate (line.front ++ [line.last.text])

theorem fields_eq (line : RecordLine) :
    line.front ++ [line.last.text] =
      (line.name :: (line.middle ++ [line.last])).map Field.text := by
  rw [front, List.map_cons, List.map_append, List.map_singleton, List.cons_append]

theorem noFeed_text (line : RecordLine) : '\n' ∉ line.text := by
  rw [text, fields_eq]
  exact Text.not_mem_intercalate (by decide) (List.forall_mem_map.mpr fun field _ => field.noFeed)

/-- **A line splits into its fields**, the last one without white space at its end. -/
theorem split_trimEnd_text (line : RecordLine) :
    Text.split ':' (Text.trimEnd line.text) = line.front ++ [Text.trimEnd line.last.text] := by
  refine Text.split_trimEnd_intercalate (by decide) ?_
  rw [fields_eq]
  exact List.forall_mem_map.mpr fun field _ => field.noColon

theorem keyOfLine_text (line : RecordLine) :
    keyOfLine (Text.trimEnd line.text) = line.name.text := by
  rw [keyOfLine, split_trimEnd_text, front, List.cons_append, List.headD_cons]

end RecordLine

/-- What a line begins with, its first field begins with. -/
theorem head?_keyOfLine {line : List Char} {c : Char} (hc : c ≠ ':') (h : line.head? = some c) :
    (keyOfLine line).head? = some c := by
  obtain ⟨rest, rfl⟩ := List.head?_eq_some_iff.mp h
  obtain ⟨piece, pieces, hsplit⟩ := List.exists_cons_of_ne_nil (Text.split_ne_nil ':' rest)
  rw [keyOfLine, Text.split, if_neg hc, hsplit]
  rfl

theorem keptLines_eq_singleton {line : List Char} (hne : Text.trimEnd line ≠ [])
    (hmark : (Text.trimEnd line).head? ≠ some '#') : keptLines [line] = [Text.trimEnd line] := by
  rw [keptLines, List.map_singleton, List.filter_singleton, decide_eq_true ⟨hne, hmark⟩]
  rfl

/-- **A line with a record is kept**, whatever white space is behind it. -/
theorem keptLines_text (line : RecordLine) :
    keptLines [line.text] = [Text.trimEnd line.text] := by
  refine keptLines_eq_singleton ?_ ?_
  · intro h
    -- An empty line has one field, and this one has two.
    have hsplit := line.split_trimEnd_text
    rw [h] at hsplit
    simp [Text.split, RecordLine.front] at hsplit
  · intro h
    -- A mark at the head of the line would stand at the head of the name.
    have hkey := head?_keyOfLine (by decide) h
    rw [line.keyOfLine_text] at hkey
    exact line.unmarked hkey

theorem keptLines_append_of_blank (line : List Char) {blanks : List Char}
    (h : Text.isBlankText blanks = true) : keptLines [line ++ blanks] = keptLines [line] := by
  rw [keptLines, keptLines, List.map_singleton, List.map_singleton,
    Text.trimEnd_append_of_blank line h]

/-- What is kept is one of the lines, without the white space at its end. -/
theorem exists_of_mem_keptLines {lines : List (List Char)} {kept : List Char}
    (h : kept ∈ keptLines lines) : ∃ line ∈ lines, kept = Text.trimEnd line := by
  rw [keptLines, List.mem_filter, List.mem_map] at h
  obtain ⟨⟨line, hline, htrimmed⟩, -⟩ := h
  exact ⟨line, hline, htrimmed.symm⟩

/-- A line that no file's reader looks at: a blank one or a comment. -/
def IsPassed (line : List Char) : Prop :=
  Text.isBlankText line = true ∨ line.head? = some '#'

instance (line : List Char) : Decidable (IsPassed line) :=
  inferInstanceAs (Decidable (_ ∨ _))

theorem keptLines_of_isPassed {line : List Char} (h : IsPassed line) : keptLines [line] = [] := by
  rw [keptLines, List.map_singleton, List.filter_singleton]
  rcases h with h | h
  · rw [Text.trimEnd_eq_nil_iff.mpr h]
    rfl
  · obtain ⟨rest, rfl⟩ := List.head?_eq_some_iff.mp h
    rw [Text.trimEnd_cons (by decide)]
    simp

/-! ## Files -/

/-- **A kind of file**: entries, the lines they are written as, and the lines that may stand between
them. -/
structure Format (Entry : Type) where
  line : Entry → RecordLine
  Stray : List Char → Prop

/-- White space within a line. -/
structure Padding where
  text : List Char
  blank : Text.isBlankText text = true
  noFeed : '\n' ∉ text

/-- **A row of a file.** -/
inductive Row {Entry : Type} (format : Format Entry) where
  /-- An entry, with white space behind it. -/
  | entry (entry : Entry) (padding : Padding)
  /-- A line that is no entry. -/
  | stray (line : List Char) (noFeed : '\n' ∉ line) (h : format.Stray line)

/-- How a row ends. -/
inductive LineEnd where
  | feed
  | returnFeed

/-- **A file, as it is written.** Every row has its line end; behind the last line end there may be
one more row. -/
structure Document {Entry : Type} (format : Format Entry) where
  ended : List (Row format × LineEnd)
  open? : Option (Row format)

namespace LineEnd

/-- What is in front of a line end's line feed. -/
def front : LineEnd → List Char
  | feed => []
  | returnFeed => ['\r']

theorem blank_front (ending : LineEnd) : Text.isBlankText ending.front = true := by
  cases ending <;> rfl

theorem noFeed_front (ending : LineEnd) : '\n' ∉ ending.front := by
  cases ending <;> decide

end LineEnd

namespace Row

variable {Entry : Type} {format : Format Entry}

/-- **The row as text.** -/
def text : Row format → List Char
  | .entry written padding => (format.line written).text ++ padding.text
  | .stray line _ _ => line

/-- The entry of a row, if it is one. -/
def entry? : Row format → Option Entry
  | .entry written _ => some written
  | .stray _ _ _ => none

theorem noFeed_text (row : Row format) : '\n' ∉ row.text := by
  cases row with
  | entry written padding =>
    rw [text, List.mem_append, not_or]
    exact ⟨(format.line written).noFeed_text, padding.noFeed⟩
  | stray _ noFeed _ => exact noFeed

end Row

namespace Document

variable {Entry : Type} {format : Format Entry}

/-- The rows of a file. -/
def rows (document : Document format) : List (Row format) :=
  document.ended.map Prod.fst ++ document.open?.toList

/-- **The entries of a file.** -/
def entries (document : Document format) : List Entry :=
  document.rows.filterMap Row.entry?

/-- The text of some rows and their line ends. -/
def endedText (ended : List (Row format × LineEnd)) : List Char :=
  ended.flatMap fun row => row.1.text ++ row.2.front ++ ['\n']

/-- **The text of a file.** -/
def text (document : Document format) : List Char :=
  endedText document.ended ++ document.open?.elim [] Row.text

end Document

theorem recordLines_of_noFeed {line : List Char} (h : '\n' ∉ line) :
    recordLines line = keptLines [line] := by
  rw [recordLines_eq, Text.split_of_not_mem h]

/-- A line end cuts a line off, and the carriage return in it has no part in the line. -/
theorem recordLines_append {line : List Char} (h : '\n' ∉ line) (ending : LineEnd)
    (rest : List Char) :
    recordLines (line ++ ending.front ++ ['\n'] ++ rest) =
      keptLines [line] ++ recordLines rest := by
  have hfeed : '\n' ∉ line ++ ending.front := by
    rw [List.mem_append, not_or]
    exact ⟨h, ending.noFeed_front⟩
  rw [List.append_assoc, List.singleton_append, recordLines_eq, Text.split_append_cons,
    keptLines_append, Text.split_of_not_mem hfeed,
    keptLines_append_of_blank line ending.blank_front, recordLines_eq]

section

variable {Entry : Type} {format : Format Entry}

theorem recordLines_endedText (ended : List (Row format × LineEnd)) (rest : List Char) :
    recordLines (Document.endedText ended ++ rest) =
      (ended.map Prod.fst).flatMap (fun row => keptLines [row.text]) ++ recordLines rest := by
  induction ended with
  | nil => rfl
  | cons row ended ih =>
    have hrest : Document.endedText (row :: ended) =
        row.1.text ++ row.2.front ++ ['\n'] ++ Document.endedText ended := rfl
    rw [hrest, List.append_assoc, recordLines_append row.1.noFeed_text, ih, List.map_cons,
      List.flatMap_cons, List.append_assoc]

/-- **The lines of a file that may be records are found row by row.** -/
theorem recordLines_text (document : Document format) :
    recordLines document.text = document.rows.flatMap fun row => keptLines [row.text] := by
  rw [Document.text, recordLines_endedText, Document.rows, List.flatMap_append]
  congr 1
  cases document.open? with
  | none => rfl
  | some row =>
    rw [Option.elim_some, recordLines_of_noFeed row.noFeed_text, Option.toList_some,
      List.flatMap_singleton]

theorem keptLines_entry (entry : Entry) (padding : Padding) :
    keptLines [(Row.entry entry padding : Row format).text] =
      [Text.trimEnd (format.line entry).text] := by
  rw [Row.text, keptLines_append_of_blank _ padding.blank, keptLines_text]

end

/-! ## The file of users -/

/-- **A user, as written**: the record and the fields that are not read. -/
structure UserEntry where
  name : Field
  unmarked : name.text.head? ≠ some '#'
  password : Field
  uid : UInt32
  gid : UInt32
  comment : Field
  home : Field
  shell : Field

namespace UserEntry

/-- **The record of a user's entry.** -/
def record (entry : UserEntry) : UserRecord :=
  ⟨String.ofList entry.name.text, entry.uid, entry.gid, ⟨Utf8.encode entry.home.text⟩⟩

/-- The line `name:passwd:uid:gid:gecos:home:shell`. -/
def line (entry : UserEntry) : RecordLine where
  name := entry.name
  unmarked := entry.unmarked
  middle := [entry.password, .ofId entry.uid, .ofId entry.gid, entry.comment, entry.home]
  last := entry.shell

/-- **A user's line reads back.** -/
theorem userOfLine_line (entry : UserEntry) :
    userOfLine (Text.trimEnd entry.line.text) = .ok entry.record :=
  userOfLine_eq_ok_iff.mpr ⟨_, _, _, _, _, _, _, [], entry.line.split_trimEnd_text, rfl,
    uint32?_repr entry.uid, uint32?_repr entry.gid, rfl⟩

end UserEntry

/-- **The file of users**, for who looks for one name: a line under another name may be anything. -/
def userFormat (name : String) : Format UserEntry where
  line := UserEntry.line
  Stray line := IsPassed line ∨ keyOfLine (Text.trimEnd line) ≠ name.toList

/-- Lines that are filed under other names are none that is looked for. -/
theorem find?_others {name : String} {lines : List (List Char)}
    (h : ∀ line ∈ lines, keyOfLine (Text.trimEnd line) ≠ name.toList) :
    (keptLines lines).find? (keyOfLine · = name.toList) = none := by
  rw [List.find?_eq_none]
  intro kept hkept
  obtain ⟨line, hline, rfl⟩ := exists_of_mem_keptLines hkept
  rw [decide_eq_true_eq]
  exact h line hline

theorem find?_stray {name : String} {line : List Char} (h : (userFormat name).Stray line) :
    (keptLines [line]).find? (keyOfLine · = name.toList) = none := by
  rcases h with h | h
  · rw [keptLines_of_isPassed h, List.find?_nil]
  · exact find?_others (List.forall_mem_singleton.mpr h)

/-- **The first line filed under a name is that of the first entry with the name.** -/
theorem find?_rows {name : String} (rows : List (Row (userFormat name))) :
    (rows.flatMap fun row => keptLines [row.text]).find? (keyOfLine · = name.toList) =
      ((rows.filterMap Row.entry?).find? (·.record.name = name)).map
        fun entry => Text.trimEnd entry.line.text := by
  induction rows with
  | nil => rfl
  | cons row rows ih =>
    rw [List.flatMap_cons, List.find?_append, ih]
    cases row with
    | stray line noFeed h =>
      -- A stray line is passed over or filed under another name.
      rw [Row.text, find?_stray h, Option.none_or, List.filterMap_cons_none rfl]
    | entry entry padding =>
      have hname : entry.record.name = name ↔
          entry.line.name.text = name.toList := by
        rw [← String.toList_inj, UserEntry.record, String.toList_ofList]
        rfl
      have hkey : keyOfLine (Text.trimEnd ((userFormat name).line entry).text) =
          entry.line.name.text := entry.line.keyOfLine_text
      simp only [keptLines_entry, List.filterMap_cons, Row.entry?, List.find?_cons, List.find?_nil,
        hkey]
      by_cases h : entry.record.name = name
      · simp only [hname.mp h, h, decide_true]
        rfl
      · simp only [mt hname.mpr h, h, decide_false]
        rfl

/-- **The record found in a file of users is that of the first entry with the name.** -/
theorem userInText_text {name : String} (document : Document (userFormat name)) :
    userInText document.text name = Lookup.answer
      ((document.entries.map UserEntry.record).find? (·.name = name)) := by
  have hentries : document.rows.filterMap Row.entry? = document.entries := rfl
  rw [userInText, recordLines_text, find?_rows, List.find?_map, hentries]
  show _ = Lookup.answer ((document.entries.find? (·.record.name = name)).map UserEntry.record)
  cases document.entries.find? (·.record.name = name) with
  | none => rfl
  | some entry => simp only [Option.map_some, entry.userOfLine_line]

/-! ## The file of groups -/

/-- **A group, as written**: the record and the field that is not read. -/
structure GroupEntry where
  name : Field
  unmarked : name.text.head? ≠ some '#'
  password : Field
  gid : UInt32
  members : List Member

namespace GroupEntry

/-- **The record of a group's entry.** -/
def record (entry : GroupEntry) : GroupRecord :=
  ⟨String.ofList entry.name.text, entry.gid, entry.members.map fun m => String.ofList m.text⟩

/-- The line `name:passwd:gid:member,member,...`. -/
def line (entry : GroupEntry) : RecordLine where
  name := entry.name
  unmarked := entry.unmarked
  middle := [entry.password, .ofId entry.gid]
  last := .ofMembers entry.members

/-- **A group's line reads back.** -/
theorem groupOfLine_line (entry : GroupEntry) :
    groupOfLine (Text.trimEnd entry.line.text) = .ok entry.record := by
  refine groupOfLine_eq_ok_iff.mpr ⟨_, _, _, _, [], entry.line.split_trimEnd_text, rfl,
    uint32?_repr entry.gid, ?_⟩
  show (memberNames (Text.trimEnd (Field.ofMembers entry.members).text)).map String.ofList = _
  rw [memberNames_ofMembers, List.map_map]
  rfl

end GroupEntry

/-- **The file of groups**, for who reads all of it: a line that is no entry is no record. -/
def groupFormat : Format GroupEntry where
  line := GroupEntry.line
  Stray line := IsPassed line ∨ (groupOfLine line).toOption = none

theorem filterMap_stray {line : List Char} (h : groupFormat.Stray line) :
    (keptLines [line]).filterMap (fun kept => (groupOfLine kept).toOption) = [] := by
  rcases h with h | h
  · rw [keptLines_of_isPassed h, List.filterMap_nil]
  · rw [List.filterMap_eq_nil_iff]
    intro kept hkept
    obtain ⟨_, hmem, rfl⟩ := exists_of_mem_keptLines hkept
    rw [List.mem_singleton.mp hmem]
    -- The reader sees the line without the white space at its end, which makes no difference.
    cases htrimmed : groupOfLine (Text.trimEnd line) with
    | error fault => rfl
    | ok record =>
      obtain ⟨record', hline⟩ := groupOfLine_trimEnd htrimmed
      rw [hline] at h
      cases h

/-- **The records among the lines are those of the entries**, in their order. -/
theorem filterMap_rows (rows : List (Row groupFormat)) :
    (rows.flatMap fun row => keptLines [row.text]).filterMap
        (fun line => (groupOfLine line).toOption) =
      (rows.filterMap Row.entry?).map GroupEntry.record := by
  induction rows with
  | nil => rfl
  | cons row rows ih =>
    rw [List.flatMap_cons, List.filterMap_append, ih]
    cases row with
    | stray line noFeed h =>
      rw [Row.text, filterMap_stray h, List.nil_append, List.filterMap_cons_none rfl]
    | entry entry padding =>
      have hrecord : groupOfLine (Text.trimEnd (groupFormat.line entry).text) = .ok entry.record :=
        entry.groupOfLine_line
      simp only [keptLines_entry, List.filterMap_cons, Row.entry?, hrecord, List.filterMap_nil]
      rfl

/-- **The groups listed from a file are those of its entries.** -/
theorem groupsOfText_text (document : Document groupFormat) :
    (groupsOfText document.text).result = .ok (document.entries.map GroupEntry.record) := by
  rw [groupsOfText, groupsOfLines_result, recordLines_text, filterMap_rows]
  rfl

/-! ## Both files -/

/-- **What was written is what is resolved.** From two files a name is resolved to the identity that
the first user with the name and all groups describe, and to none if there is no such user. -/
theorem resolve_written {name : String} (hname : checkUsername name = .ok ())
    (users : Document (userFormat name)) (groups : Document groupFormat) {read : FileReader}
    {usersPath groupsPath : Path} (husers : read usersPath = .ok (Utf8.encode users.text))
    (hgroups : read groupsPath = .ok (Utf8.encode groups.text)) :
    (∀ record, (users.entries.map UserEntry.record).find? (·.name = name) = some record →
      ∃ identity, (resolve (ofFiles read usersPath groupsPath) name).result = .ok identity ∧
        identity.Describes name record (groups.entries.map GroupEntry.record)) ∧
    ((users.entries.map UserEntry.record).find? (·.name = name) = none →
      (resolve (ofFiles read usersPath groupsPath) name).result = .error (.userNotFound name)) := by
  have huser : (ofFiles read usersPath groupsPath).user name = Lookup.answer
      ((users.entries.map UserEntry.record).find? (·.name = name)) := by
    rw [user_ofFiles husers, userInText_text]
  have hlisted : (ofFiles read usersPath groupsPath).groups.result =
      .ok (groups.entries.map GroupEntry.record) := by
    rw [groups_ofFiles hgroups, groupsOfText_text]
  constructor
  · intro record hfind
    have hfound := List.find?_some hfind
    obtain rfl : record.name = name := of_decide_eq_true hfound
    refine ⟨_, resolve_of_found hname ?_ rfl hlisted, Identity.describes_identityOf record _⟩
    rw [huser, hfind]
    rfl
  · intro hfind
    rw [resolve_of_accepted hname, huser, hfind, Lookup.answer_bind, identified_of_other]
    · rfl
    · rintro r ⟨⟩

/-- The field with a text. -/
def Field.ofText (text : String) (h : '\n' ∉ text.toList ∧ ':' ∉ text.toList) : Field :=
  ⟨text.toList, h.1, h.2⟩

/-- A user's entry with little in the fields that are not read. -/
def plainUser (name home : Field) (unmarked : name.text.head? ≠ some '#') (uid gid : UInt32) :
    UserEntry :=
  ⟨name, unmarked, .ofText "x" (by decide), uid, gid, .ofText "" (by decide), home,
    .ofText "" (by decide)⟩

def ann : Member := ⟨.ofText "ann" (by decide), by decide, by decide, by decide⟩

def bob : Member := ⟨.ofText "bob" (by decide), by decide, by decide, by decide⟩

def plainGroup (name : Field) (unmarked : name.text.head? ≠ some '#') (gid : UInt32)
    (members : List Member) : GroupEntry :=
  ⟨name, unmarked, .ofText "x" (by decide), gid, members⟩

/-- Users with a comment, a line that is no record, a name that stands twice, both line ends, and no
line end behind the last row. -/
def mixedUsers : Document (userFormat "ann") where
  ended := [
    (.stray "# users".toList (by decide) (.inl (by decide)), .feed),
    (.stray "+::::::".toList (by decide) (.inr (by decide)), .returnFeed),
    (.entry (plainUser bob.toField (.ofText "/home/bob" (by decide)) (by decide) 1001 100)
      ⟨[], by decide, by decide⟩, .returnFeed),
    (.entry (plainUser ann.toField (.ofText "/home/ann" (by decide)) (by decide) 1000 100)
      ⟨[' ', '\t'], by decide, by decide⟩, .returnFeed)]
  open? := some (.entry (plainUser ann.toField (.ofText "/" (by decide)) (by decide) 7 7)
    ⟨[' '], by decide, by decide⟩)

/-- Groups with a blank line, a line that is no record, two groups with one id, and a primary group
that lists nobody. -/
def mixedGroups : Document groupFormat where
  ended := [
    (.entry (plainGroup (.ofText "audio" (by decide)) (by decide) 29 [bob, ann])
      ⟨['\r'], by decide, by decide⟩, .feed),
    (.stray " \t".toList (by decide) (.inl (by decide)), .returnFeed),
    (.stray "+".toList (by decide) (.inr (by decide)), .feed),
    (.entry (plainGroup (.ofText "staff" (by decide)) (by decide) 100 [])
      ⟨[' '], by decide, by decide⟩, .feed),
    (.entry (plainGroup (.ofText "video" (by decide)) (by decide) 44 [ann])
      ⟨[], by decide, by decide⟩, .returnFeed),
    (.entry (plainGroup (.ofText "sound" (by decide)) (by decide) 29 [ann])
      ⟨[], by decide, by decide⟩, .returnFeed)]
  open? := none

theorem resolve_written_mixed :
    let read := twoFiles (.ofString "/etc/passwd") mixedUsers.text mixedGroups.text
    checkUsername "ann" = .ok () ∧
    read (.ofString "/etc/passwd") = .ok (Utf8.encode mixedUsers.text) ∧
    read (.ofString "/etc/group") = .ok (Utf8.encode mixedGroups.text) ∧
    (resolve (ofFiles read (.ofString "/etc/passwd") (.ofString "/etc/group")) "ann").result =
      .ok ⟨"ann", 1000, 100, .ofString "/home/ann", [29, 44, 100]⟩ := by
  have hname : checkUsername "ann" = .ok () := by decide
  have husers := twoFiles_users (.ofString "/etc/passwd") mixedUsers.text mixedGroups.text
  have hgroups : twoFiles (.ofString "/etc/passwd") mixedUsers.text mixedGroups.text
      (.ofString "/etc/group") = .ok (Utf8.encode mixedGroups.text) :=
    twoFiles_groups (by decide) mixedUsers.text mixedGroups.text
  obtain ⟨identity, hidentity, hdescribes⟩ :=
    (resolve_written hname mixedUsers mixedGroups husers hgroups).1
      ⟨"ann", 1000, 100, .ofString "/home/ann"⟩ (by decide)
  have hexpected := Identity.describes_identityOf ⟨"ann", 1000, 100, .ofString "/home/ann"⟩
    (mixedGroups.entries.map GroupEntry.record)
  refine ⟨hname, husers, hgroups, ?_⟩
  rw [hidentity, Identity.describes_unique hdescribes hexpected]
  decide

end DisplaySession.Account
