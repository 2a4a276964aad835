import DisplaySession.Account.Database
import DisplaySession.Proofs.Lookup
import DisplaySession.Proofs.Text.Lines
import DisplaySession.Proofs.Text.Numeral
import DisplaySession.Proofs.Text.Utf8

/-
Which lines are records, and what they say.

A line is a record exactly if it has enough fields and the ones for ids are ids, and then the record
is what stands in them (`userOfLine_eq_ok_iff`, `groupOfLine_eq_ok_iff`). White space at the end of
a line has no part in it (`groupOfLine_trimEnd`): it belongs to the last field, and a line of just
enough fields ends with one that is no id.

A file is read line by line, and its lines are known from the pieces between its line feeds
(`recordLines_eq`). Groups are listed from any lines at all, because what is no record is passed
over (`groupsOfLines_result`).
-/
set_option autoImplicit false

namespace DisplaySession.Account

/-! ## Ids -/

theorem id_eq_ok_iff {what : String} {line field : List Char} {n : UInt32} :
    id what line field = .ok n ↔ Text.uint32? field = some n := by
  rw [id]
  cases Text.uint32? field with
  | none => simp only [reduceCtorEq]
  | some m => simp only [Except.ok.injEq, Option.some.injEq]

theorem not_mem_repr {c : Char} (hc : c.isDigit = false) (n : Nat) : c ∉ n.repr.toList := by
  intro h
  rw [Text.isDigit_of_mem_repr h] at hc
  cases hc

theorem dropPlus_repr (n : Nat) : Text.dropPlus n.repr.toList = n.repr.toList := by
  have hplus : '+' ∉ n.repr.toList := not_mem_repr (by decide) n
  generalize n.repr.toList = cs at hplus
  rw [Text.dropPlus.eq_def]
  split
  · exact absurd List.mem_cons_self hplus
  · rfl

/-- **A printed id reads back.** -/
theorem uint32?_repr (n : UInt32) : Text.uint32? n.toNat.repr.toList = some n := by
  have hbound : n.toNat < UInt32.size := n.toNat_lt
  rw [Text.uint32?, Text.unsigned?, dropPlus_repr, Nat.repr, String.toList_ofList,
    Text.digits?_toDigits]
  simp only [Option.filter_some, hbound, decide_true, if_true, Option.map_some,
    UInt32.ofNat_toNat]

/-! ## Users -/

/-- **A line is a user's record exactly if it has seven fields or more and two ids among them.** -/
theorem userOfLine_eq_ok_iff {line : List Char} {record : UserRecord} :
    userOfLine line = .ok record ↔
      ∃ name password uid gid comment home shell rest,
        Text.split ':' line = name :: password :: uid :: gid :: comment :: home :: shell :: rest ∧
        String.ofList name = record.name ∧ Text.uint32? uid = some record.uid ∧
        Text.uint32? gid = some record.gid ∧ (⟨Utf8.encode home⟩ : Path) = record.home := by
  rw [userOfLine]
  constructor
  · intro h
    split at h
    · rename_i name password uid gid comment home shell rest hsplit
      cases huid : id "uid" line uid with
      | error fault =>
        rw [huid] at h
        cases h
      | ok u =>
        cases hgid : id "gid" line gid with
        | error fault =>
          rw [huid, hgid] at h
          cases h
        | ok g =>
          rw [huid, hgid] at h
          cases h
          exact ⟨_, _, _, _, _, _, _, _, hsplit, rfl, id_eq_ok_iff.mp huid,
            id_eq_ok_iff.mp hgid, rfl⟩
    · cases h
  · rintro ⟨name, password, uid, gid, comment, home, shell, rest, hsplit, hname, huid, hgid, hhome⟩
    rw [hsplit]
    simp only [id_eq_ok_iff.mpr huid, id_eq_ok_iff.mpr hgid, hname, hhome]
    rfl

/-- A record is filed under its name. -/
theorem name_of_userOfLine {line : List Char} {record : UserRecord}
    (h : userOfLine line = .ok record) : record.name = String.ofList (keyOfLine line) := by
  obtain ⟨name, _, _, _, _, _, _, _, hsplit, hname, -⟩ := userOfLine_eq_ok_iff.mp h
  rw [keyOfLine, hsplit, List.headD_cons, hname]

/-! ## Groups -/

/-- **A line is a group's record exactly if it has four fields or more and an id as the third.** -/
theorem groupOfLine_eq_ok_iff {line : List Char} {record : GroupRecord} :
    groupOfLine line = .ok record ↔
      ∃ name password gid members rest,
        Text.split ':' line = name :: password :: gid :: members :: rest ∧
        String.ofList name = record.name ∧ Text.uint32? gid = some record.gid ∧
        (memberNames members).map String.ofList = record.members := by
  rw [groupOfLine]
  constructor
  · intro h
    split at h
    · rename_i name password gid members rest hsplit
      cases hgid : id "gid" line gid with
      | error fault =>
        rw [hgid] at h
        cases h
      | ok g =>
        rw [hgid] at h
        cases h
        exact ⟨_, _, _, _, _, hsplit, rfl, id_eq_ok_iff.mp hgid, rfl⟩
    · cases h
  · rintro ⟨name, password, gid, members, rest, hsplit, hname, hgid, hmembers⟩
    rw [hsplit]
    simp only [id_eq_ok_iff.mpr hgid, hname, hmembers]
    rfl

/-- **White space at the end makes no record of a line that is none.** -/
theorem groupOfLine_trimEnd {line : List Char} {record : GroupRecord}
    (h : groupOfLine (Text.trimEnd line) = .ok record) :
    ∃ record', groupOfLine line = .ok record' := by
  obtain ⟨name, password, gid, members, rest, hsplit, -, hgid, -⟩ := groupOfLine_eq_ok_iff.mp h
  obtain ⟨front, last, hline, htrimmed⟩ := Text.split_trimEnd ':' (by decide) line
  rw [hsplit] at htrimmed
  -- The first three fields stand before the last one, so they are the same with the white space.
  match front, htrimmed with
  | name' :: password' :: gid' :: front, htrimmed =>
    simp only [List.cons_append, List.cons.injEq] at htrimmed
    obtain ⟨rfl, rfl, rfl, -⟩ := htrimmed
    obtain ⟨members', rest', hmembers⟩ := List.exists_cons_of_ne_nil
      (List.append_ne_nil_of_right_ne_nil front (List.cons_ne_nil last []))
    rw [List.cons_append, List.cons_append, List.cons_append, hmembers] at hline
    exact ⟨⟨_, record.gid, _⟩, groupOfLine_eq_ok_iff.mpr ⟨_, _, _, _, _, hline, rfl, hgid, rfl⟩⟩

/-- **What is listed are the records among the lines**, in their order; listing never fails. -/
theorem groupsOfLines_result (lines : List (List Char)) :
    (groupsOfLines lines).result =
      .ok (lines.filterMap fun line => (groupOfLine line).toOption) := by
  induction lines with
  | nil => rfl
  | cons line lines ih =>
    rw [groupsOfLines, List.filterMap_cons]
    cases groupOfLine line with
    | error fault => exact ih
    | ok group =>
      simp only [ih]
      rfl

/-- Listing groups notes nothing but the lines that were passed over. -/
theorem notes_groupsOfLines {lines : List (List Char)} {note : Note}
    (h : note ∈ (groupsOfLines lines).notes) :
    ∃ fault, note = .reported (.groupSkipped fault) := by
  induction lines with
  | nil => cases h
  | cons line lines ih =>
    rw [groupsOfLines] at h
    cases hline : groupOfLine line with
    | error fault =>
      rw [hline] at h
      rcases List.mem_cons.mp h with rfl | h
      · exact ⟨fault, rfl⟩
      · exact ih h
    | ok group =>
      rw [hline] at h
      exact ih h

/-! ## Lines of a file -/

/-- The lines that may be records, of lines as they are: trimmed at the end, neither empty nor a
comment. -/
def keptLines (lines : List (List Char)) : List (List Char) :=
  (lines.map Text.trimEnd).filter fun line => line ≠ [] ∧ line.head? ≠ some '#'

theorem keptLines_append (first second : List (List Char)) :
    keptLines (first ++ second) = keptLines first ++ keptLines second := by
  rw [keptLines, List.map_append, List.filter_append]
  rfl

/-- **Lines that may be records are known from the pieces between line feeds.** -/
theorem recordLines_eq (contents : List Char) :
    recordLines contents = keptLines (Text.split '\n' contents) :=
  Text.filter_trimEnd_lines (by decide) contents

/-- **What holds of a line that may be a record.** -/
structure IsRecordLine (line : List Char) : Prop where
  trimmed : Text.trimEnd line = line
  noFeed : '\n' ∉ line
  notEmpty : line ≠ []

theorem isRecordLine_of_mem {contents line : List Char} (h : line ∈ recordLines contents) :
    IsRecordLine line := by
  rw [recordLines_eq, keptLines, List.mem_filter, List.mem_map, decide_eq_true_eq] at h
  obtain ⟨⟨piece, hpiece, rfl⟩, hne, -⟩ := h
  refine ⟨Text.trimEnd_trimEnd piece, ?_, hne⟩
  exact mt Text.mem_of_mem_trimEnd (Text.not_mem_of_mem_split hpiece)

/-! ## Files -/

section

variable {read : FileReader} {users groups : Path} {text : List Char}

/-- A file with a text is read as the text. -/
theorem readText_of_decode {path : Path} {bytes : Bytes} (h : read path = .ok bytes)
    (hread : Utf8.decode? bytes = some text) : readText read path = Lookup.answer text := by
  simp only [readText, h, hread]

theorem user_ofFiles (h : read users = .ok (Utf8.encode text)) (name : String) :
    (ofFiles read users groups).user name = userInText text name := by
  show readText read users >>= _ = _
  rw [readText_of_decode h (Utf8.decode?_encode text), Lookup.answer_bind]

theorem groups_ofFiles (h : read groups = .ok (Utf8.encode text)) :
    (ofFiles read users groups).groups = groupsOfText text := by
  show readText read groups >>= _ = _
  rw [readText_of_decode h (Utf8.decode?_encode text), Lookup.answer_bind]

end

/-- A reader that finds one text at a path and another everywhere else. -/
def twoFiles (path : Path) (users groups : List Char) : FileReader := fun asked =>
  .ok (Utf8.encode (if asked = path then users else groups))

theorem twoFiles_users (path : Path) (users groups : List Char) :
    twoFiles path users groups path = .ok (Utf8.encode users) := by
  rw [twoFiles, if_pos rfl]

theorem twoFiles_groups {path other : Path} (h : other ≠ path) (users groups : List Char) :
    twoFiles path users groups other = .ok (Utf8.encode groups) := by
  rw [twoFiles, if_neg h]

end DisplaySession.Account
