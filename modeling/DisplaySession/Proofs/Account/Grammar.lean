import DisplaySession.Proofs.Account.Record
import Mathlib.Data.List.GetD

/-
The grammar of records: which lines they are, what they say, and why any other line is none.

A line is cut at its colons, and its fields are counted from zero. A kind of record has a layout: how
many fields it takes and which of them are ids. A line fits the layout if it has the fields and its
ids are ids, numerals of a value that fits into 32 bits. What fits is a record, and what does not is
refused for the first thing that is wrong with it (`RecordFault`), never read as something else.

The record is what stands in its fields (`IsUserLine`, `IsGroupLine`), and no other field has a part
in it. An id is the value of all of its digits, so only zeros are the id of the superuser. Members
are told apart as a whole: a name is one of them only if it stands between two commas with nothing
but white space around it (`mem_members_iff`).
-/
set_option autoImplicit false

namespace DisplaySession.Account

/-! ## Fields and layouts -/

/-- **The fields of a line**: the pieces between its colons. -/
def fieldsOf (line : List Char) : List (List Char) :=
  line.splitOn ':'

/-- The field at a place, counted from zero. -/
def fieldAt (line : List Char) (place : Nat) : List Char :=
  (fieldsOf line).getD place []

/-- **An id**: a numeral of a value that fits into 32 bits. -/
def IsId (field : List Char) : Prop :=
  ∃ n < UInt32.size, Text.IsNumeral field n

/-- **How a record is laid out.** -/
structure Layout where
  /-- How many fields it has at least. -/
  fields : Nat
  /-- Its ids in the order they are read: what they are called and where they stand. -/
  ids : List (String × Nat)
  /-- What is said of a line with fewer fields. -/
  malformed : String → LookupFault

/-- The line has the fields, and ids where the layout has them. -/
def Layout.Fits (layout : Layout) (line : List Char) : Prop :=
  layout.fields ≤ (fieldsOf line).length ∧ ∀ id ∈ layout.ids, IsId (fieldAt line id.2)

/-- **Why a line is no record**: it is too short, or it is long enough and this is the first of its
ids that is none. -/
inductive RecordFault (layout : Layout) (line : List Char) : LookupFault → Prop
  | short (h : (fieldsOf line).length < layout.fields) :
    RecordFault layout line (layout.malformed (String.ofList line))
  | badId {before after : List (String × Nat)} {what : String} {place : Nat}
    (h : layout.fields ≤ (fieldsOf line).length)
    (hids : layout.ids = before ++ (what, place) :: after)
    (hbefore : ∀ id ∈ before, IsId (fieldAt line id.2)) (hbad : ¬IsId (fieldAt line place)) :
    RecordFault layout line (.badId what (String.ofList line))

/-- The layout `name:passwd:uid:gid:gecos:home:shell`. -/
def userLayout : Layout :=
  ⟨7, [("uid", 2), ("gid", 3)], .malformedUser⟩

/-- The layout `name:passwd:gid:member,member,...`. -/
def groupLayout : Layout :=
  ⟨4, [("gid", 2)], .malformedGroup⟩

/-- **A line is the record of a user.** -/
structure IsUserLine (line : List Char) (record : UserRecord) : Prop where
  fields : 7 ≤ (fieldsOf line).length
  name : record.name.toList = fieldAt line 0
  uid : Text.IsNumeral (fieldAt line 2) record.uid.toNat
  gid : Text.IsNumeral (fieldAt line 3) record.gid.toNat
  home : record.home = ⟨Utf8.encode (fieldAt line 5)⟩

/-- **A line is the record of a group.** -/
structure IsGroupLine (line : List Char) (record : GroupRecord) : Prop where
  fields : 4 ≤ (fieldsOf line).length
  name : record.name.toList = fieldAt line 0
  gid : Text.IsNumeral (fieldAt line 2) record.gid.toNat
  /-- The pieces between commas, trimmed, without the empty ones, in their order. -/
  members : record.members.map String.toList =
    (((fieldAt line 3).splitOn ',').map Text.trim).filter (· ≠ [])

section

variable {line line' : List Char}

theorem split_eq_fieldsOf (line : List Char) : Text.split ':' line = fieldsOf line :=
  Text.split_eq_splitOn ':' line

/-- The fields of a line that has enough of them. -/
theorem split_eq_fields {count : Nat} (h : count ≤ (fieldsOf line).length) :
    Text.split ':' line = (List.range count).map (fieldAt line) ++ (fieldsOf line).drop count := by
  rw [split_eq_fieldsOf]
  conv_lhs => rw [← List.take_append_drop count (fieldsOf line)]
  congr 1
  apply List.ext_getElem
  · rw [List.length_take, List.length_map, List.length_range]
    omega
  · intro place hplace hplace'
    rw [List.length_take] at hplace
    rw [List.getElem_take, List.getElem_map, List.getElem_range, fieldAt,
      List.getD_eq_getElem _ _ (by omega)]

/-! ## Ids -/

theorem isId_iff {field : List Char} : IsId field ↔ ∃ n, Text.uint32? field = some n := by
  constructor
  · rintro ⟨n, hn, hnumeral⟩
    refine ⟨UInt32.ofNat n, Text.uint32?_eq_some_iff.mpr ?_⟩
    rw [UInt32.toNat_ofNat_of_lt' hn]
    exact hnumeral
  · rintro ⟨n, hn⟩
    exact ⟨n.toNat, n.toNat_lt, Text.uint32?_eq_some_iff.mp hn⟩

/-- A field that is an id is read under any name. -/
theorem exists_id_of_isId (what : String) (line : List Char) {field : List Char} (h : IsId field) :
    ∃ n, id what line field = .ok n := by
  obtain ⟨n, hn⟩ := isId_iff.mp h
  exact ⟨n, id_eq_ok_iff.mpr hn⟩

/-- A field that is no id is refused by the name it has. -/
theorem id_of_not_isId {what : String} {field : List Char} (h : ¬IsId field) :
    id what line field = .error (.badId what (String.ofList line)) := by
  have hnone : Text.uint32? field = none := by
    by_contra hsome
    exact h (isId_iff.mpr (Option.ne_none_iff_exists'.mp hsome))
  rw [id, hnone]

/-- **Only zeros are the id zero**, however many there are. -/
theorem eq_zero_iff_isZeros {field : List Char} {n : UInt32} (h : Text.IsNumeral field n.toNat) :
    n = 0 ↔ Text.IsZeros field := by
  rw [← Text.isNumeral_zero_iff]
  constructor
  · rintro rfl
    exact h
  · intro hzero
    have hread : Text.uint32? field = some 0 := Text.uint32?_eq_some_iff.mpr hzero
    rw [Text.uint32?_eq_some_iff.mpr h] at hread
    exact Option.some.inj hread

/-! ## Layouts -/

/-- Of ids that are not all ids, there is a first one that is none. -/
theorem exists_first_of_not_forall {ids : List (String × Nat)}
    (h : ¬∀ id ∈ ids, IsId (fieldAt line id.2)) :
    ∃ before what place after, ids = before ++ (what, place) :: after ∧
      (∀ id ∈ before, IsId (fieldAt line id.2)) ∧ ¬IsId (fieldAt line place) := by
  induction ids with
  | nil => exact absurd (List.forall_mem_nil _) h
  | cons id ids ih =>
    by_cases hid : IsId (fieldAt line id.2)
    · have hrest : ¬∀ id ∈ ids, IsId (fieldAt line id.2) := fun hall =>
        h (List.forall_mem_cons.mpr ⟨hid, hall⟩)
      obtain ⟨before, what, place, after, rfl, hbefore, hbad⟩ := ih hrest
      exact ⟨id :: before, what, place, after, rfl, List.forall_mem_cons.mpr ⟨hid, hbefore⟩, hbad⟩
    · exact ⟨[], id.1, id.2, ids, rfl, List.forall_mem_nil _, hid⟩

/-- **A line that does not fit a layout has a fault.** -/
theorem fits_or_fault (layout : Layout) (line : List Char) :
    layout.Fits line ∨ ∃ fault, RecordFault layout line fault := by
  by_cases hfields : layout.fields ≤ (fieldsOf line).length
  · by_cases hids : ∀ id ∈ layout.ids, IsId (fieldAt line id.2)
    · exact .inl ⟨hfields, hids⟩
    · -- The first of the ids that is none is the fault.
      obtain ⟨before, what, place, after, hlist, hbefore, hbad⟩ := exists_first_of_not_forall hids
      exact .inr ⟨_, .badId hfields hlist hbefore hbad⟩
  · exact .inr ⟨_, .short (Nat.lt_of_not_le hfields)⟩

section

variable {Record : Type} {read : List Char → Except LookupFault Record} {layout : Layout}

/-- A reader that takes what fits and refuses what has a fault takes nothing else. -/
theorem exists_ok_iff_fits (hfits : layout.Fits line → ∃ record, read line = .ok record)
    (hfault : ∀ fault, RecordFault layout line fault → read line = .error fault) :
    (∃ record, read line = .ok record) ↔ layout.Fits line := by
  constructor
  · rintro ⟨record, hrecord⟩
    rcases fits_or_fault layout line with h | ⟨fault, h⟩
    · exact h
    · rw [hfault fault h] at hrecord
      cases hrecord
  · exact hfits

/-- And it refuses a line for nothing but its fault. -/
theorem error_iff_fault (hfits : layout.Fits line → ∃ record, read line = .ok record)
    (hfault : ∀ fault, RecordFault layout line fault → read line = .error fault)
    {fault : LookupFault} : read line = .error fault ↔ RecordFault layout line fault := by
  constructor
  · intro herror
    rcases fits_or_fault layout line with h | ⟨fault', h⟩
    · obtain ⟨record, hrecord⟩ := hfits h
      rw [hrecord] at herror
      cases herror
    · rw [hfault fault' h] at herror
      cases herror
      exact h
  · exact hfault fault

end

/-! ## Users -/

/-- The fields of a line with seven or more. -/
theorem split_of_seven (h : 7 ≤ (fieldsOf line).length) :
    Text.split ':' line = fieldAt line 0 :: fieldAt line 1 :: fieldAt line 2 :: fieldAt line 3 ::
      fieldAt line 4 :: fieldAt line 5 :: fieldAt line 6 :: (fieldsOf line).drop 7 :=
  split_eq_fields h

theorem userOfLine_of_long (h : 7 ≤ (fieldsOf line).length) :
    userOfLine line = (do
      let uid ← id "uid" line (fieldAt line 2)
      let gid ← id "gid" line (fieldAt line 3)
      return ⟨String.ofList (fieldAt line 0), uid, gid, ⟨Utf8.encode (fieldAt line 5)⟩⟩) := by
  rw [userOfLine, split_of_seven h]

theorem userOfLine_of_short (h : (fieldsOf line).length < 7) :
    userOfLine line = .error (.malformedUser (String.ofList line)) := by
  rw [userOfLine]
  split
  · rename_i hsplit
    rw [← split_eq_fieldsOf, hsplit] at h
    simp only [List.length_cons] at h
    omega
  · rfl

/-- **The record is what stands in four fields of a line.** -/
theorem userOfLine_iff {record : UserRecord} :
    userOfLine line = .ok record ↔ IsUserLine line record := by
  constructor
  · intro h
    have hfields : 7 ≤ (fieldsOf line).length := by
      by_contra hshort
      rw [userOfLine_of_short (by omega)] at h
      cases h
    obtain ⟨name, password, uid, gid, comment, home, shell, rest, hsplit, hname, huid, hgid,
      hhome⟩ := userOfLine_eq_ok_iff.mp h
    rw [split_of_seven hfields] at hsplit
    simp only [List.cons.injEq] at hsplit
    obtain ⟨rfl, rfl, rfl, rfl, rfl, rfl, rfl, -⟩ := hsplit
    refine ⟨hfields, ?_, Text.uint32?_eq_some_iff.mp huid, Text.uint32?_eq_some_iff.mp hgid,
      hhome.symm⟩
    rw [← hname, String.toList_ofList]
  · intro h
    have hname : String.ofList (fieldAt line 0) = record.name := by
      rw [← h.name, String.ofList_toList]
    exact userOfLine_eq_ok_iff.mpr ⟨_, _, _, _, _, _, _, _, split_of_seven h.fields, hname,
      Text.uint32?_eq_some_iff.mpr h.uid, Text.uint32?_eq_some_iff.mpr h.gid, h.home.symm⟩

/-- A line that fits the layout of a user is read. -/
theorem exists_user_of_fits (h : userLayout.Fits line) :
    ∃ record, userOfLine line = .ok record := by
  obtain ⟨hfields, hids⟩ := h
  obtain ⟨uid, huid⟩ := exists_id_of_isId "uid" line (hids ("uid", 2) (by decide))
  obtain ⟨gid, hgid⟩ := exists_id_of_isId "gid" line (hids ("gid", 3) (by decide))
  rw [userOfLine_of_long hfields, huid, hgid]
  exact ⟨_, rfl⟩

/-- A line with a fault is refused for it. -/
theorem userOfLine_of_fault {fault : LookupFault} (h : RecordFault userLayout line fault) :
    userOfLine line = .error fault := by
  cases h with
  | short hfields => exact userOfLine_of_short hfields
  | @badId before after what place hfields hids hbefore hbad =>
    rw [userOfLine_of_long hfields]
    -- It is the first id of a user, or the second one behind an id.
    match before, hids with
    | [], hids =>
      cases hids
      rw [id_of_not_isId hbad]
      rfl
    | [_], hids =>
      cases hids
      obtain ⟨uid, huid⟩ := exists_id_of_isId "uid" line (hbefore _ List.mem_cons_self)
      rw [huid, id_of_not_isId hbad]
      rfl
    | _ :: _ :: _, hids => simp [userLayout] at hids

/-- **No other field has a part in a user's record.** -/
theorem IsUserLine.of_same {record : UserRecord} (h : IsUserLine line record)
    (hfields : 7 ≤ (fieldsOf line').length)
    (hsame : ∀ place ∈ [0, 2, 3, 5], fieldAt line' place = fieldAt line place) :
    IsUserLine line' record where
  fields := hfields
  name := by rw [h.name, hsame 0 (by decide)]
  uid := by rw [hsame 2 (by decide)]; exact h.uid
  gid := by rw [hsame 3 (by decide)]; exact h.gid
  home := by rw [h.home, hsame 5 (by decide)]

/-! ## Groups -/

/-- The fields of a line with four or more. -/
theorem split_of_four (h : 4 ≤ (fieldsOf line).length) :
    Text.split ':' line = fieldAt line 0 :: fieldAt line 1 :: fieldAt line 2 :: fieldAt line 3 ::
      (fieldsOf line).drop 4 :=
  split_eq_fields h

theorem groupOfLine_of_long (h : 4 ≤ (fieldsOf line).length) :
    groupOfLine line = (do
      let gid ← id "gid" line (fieldAt line 2)
      return ⟨String.ofList (fieldAt line 0), gid,
        (memberNames (fieldAt line 3)).map String.ofList⟩) := by
  rw [groupOfLine, split_of_four h]

theorem groupOfLine_of_short (h : (fieldsOf line).length < 4) :
    groupOfLine line = .error (.malformedGroup (String.ofList line)) := by
  rw [groupOfLine]
  split
  · rename_i hsplit
    rw [← split_eq_fieldsOf, hsplit] at h
    simp only [List.length_cons] at h
    omega
  · rfl

theorem map_toList_memberNames (field : List Char) :
    ((memberNames field).map String.ofList).map String.toList =
      ((field.splitOn ',').map Text.trim).filter (· ≠ []) := by
  rw [List.map_map, memberNames, Text.split_eq_splitOn]
  exact List.map_id'' (fun _ => String.toList_ofList) _

/-- **The record is what stands in three fields of a line.** -/
theorem groupOfLine_iff {record : GroupRecord} :
    groupOfLine line = .ok record ↔ IsGroupLine line record := by
  constructor
  · intro h
    have hfields : 4 ≤ (fieldsOf line).length := by
      by_contra hshort
      rw [groupOfLine_of_short (by omega)] at h
      cases h
    obtain ⟨name, password, gid, members, rest, hsplit, hname, hgid, hmembers⟩ :=
      groupOfLine_eq_ok_iff.mp h
    rw [split_of_four hfields] at hsplit
    simp only [List.cons.injEq] at hsplit
    obtain ⟨rfl, rfl, rfl, rfl, -⟩ := hsplit
    refine ⟨hfields, ?_, Text.uint32?_eq_some_iff.mp hgid, ?_⟩
    · rw [← hname, String.toList_ofList]
    · rw [← hmembers, map_toList_memberNames]
  · intro h
    have hname : String.ofList (fieldAt line 0) = record.name := by
      rw [← h.name, String.ofList_toList]
    have hmembers : (memberNames (fieldAt line 3)).map String.ofList = record.members := by
      apply List.map_injective_iff.mpr fun _ _ => String.toList_inj.mp
      rw [map_toList_memberNames, h.members]
    exact groupOfLine_eq_ok_iff.mpr ⟨_, _, _, _, _, split_of_four h.fields, hname,
      Text.uint32?_eq_some_iff.mpr h.gid, hmembers⟩

/-- A line that fits the layout of a group is read. -/
theorem exists_group_of_fits (h : groupLayout.Fits line) :
    ∃ record, groupOfLine line = .ok record := by
  obtain ⟨hfields, hids⟩ := h
  obtain ⟨gid, hgid⟩ := exists_id_of_isId "gid" line (hids ("gid", 2) (by decide))
  rw [groupOfLine_of_long hfields, hgid]
  exact ⟨_, rfl⟩

/-- A line with a fault is refused for it. -/
theorem groupOfLine_of_fault {fault : LookupFault} (h : RecordFault groupLayout line fault) :
    groupOfLine line = .error fault := by
  cases h with
  | short hfields => exact groupOfLine_of_short hfields
  | @badId before after what place hfields hids hbefore hbad =>
    rw [groupOfLine_of_long hfields]
    match before, hids with
    | [], hids =>
      cases hids
      rw [id_of_not_isId hbad]
      rfl
    | _ :: _, hids => simp [groupLayout] at hids

/-- **No other field has a part in a group's record.** -/
theorem IsGroupLine.of_same {record : GroupRecord} (h : IsGroupLine line record)
    (hfields : 4 ≤ (fieldsOf line').length)
    (hsame : ∀ place ∈ [0, 2, 3], fieldAt line' place = fieldAt line place) :
    IsGroupLine line' record where
  fields := hfields
  name := by rw [h.name, hsame 0 (by decide)]
  gid := by rw [hsame 2 (by decide)]; exact h.gid
  members := by rw [h.members, hsame 3 (by decide)]

/-- **A name without white space is a member exactly if it stands between two commas**, with nothing
but white space around it. -/
theorem mem_members_iff {record : GroupRecord} (h : IsGroupLine line record) {name : String}
    (hname : ∀ c ∈ name.toList, Text.isBlank c = false) :
    name ∈ record.members ↔ name ≠ "" ∧ ∃ piece ∈ (fieldAt line 3).splitOn ',', ∃ before after,
      Text.isBlankText before = true ∧ Text.isBlankText after = true ∧
        piece = before ++ name.toList ++ after := by
  have hlisted : name ∈ record.members ↔ name.toList ∈ record.members.map String.toList :=
    (List.mem_map_of_injective fun _ _ => String.toList_inj.mp).symm
  have hempty : name.toList ≠ [] ↔ name ≠ "" := not_congr String.toList_eq_nil_iff
  rw [hlisted, h.members, List.mem_filter, decide_eq_true_eq, hempty, List.mem_map, and_comm]
  simp only [Text.trim_eq_iff hname]

end

/-! ## Both -/

/-- **Records are read from exactly the lines of their grammar.** For a user's record a line has
seven fields or more and ids in the fields 2 and 3, for a group's four or more and an id in the
field 2, and these are the lines from which one is read. Of each line that is read:

* the record is what stands in the fields, names and home as they are, each id by its exact value
  and the members as the trimmed pieces that are not empty, in their order;
* an id is zero only if its field has no other digit;
* another line with the same in the fields that count is read as the same record;
* a name without white space is a member exactly if it is a whole piece between commas but for the
  white space around it.

Each other line is refused, as too short or for the first id that is none. -/
theorem records_exact (line : List Char) :
    ((∃ user, userOfLine line = .ok user) ↔
      7 ≤ (fieldsOf line).length ∧ IsId (fieldAt line 2) ∧ IsId (fieldAt line 3)) ∧
    (∀ fault, userOfLine line = .error fault ↔ RecordFault userLayout line fault) ∧
    (∀ user, userOfLine line = .ok user ↔ IsUserLine line user) ∧
    (∀ user, userOfLine line = .ok user →
      (user.uid = 0 ↔ Text.IsZeros (fieldAt line 2)) ∧
      (user.gid = 0 ↔ Text.IsZeros (fieldAt line 3)) ∧
      ∀ line', 7 ≤ (fieldsOf line').length →
        (∀ place ∈ [0, 2, 3, 5], fieldAt line' place = fieldAt line place) →
        userOfLine line' = .ok user) ∧
    ((∃ group, groupOfLine line = .ok group) ↔
      4 ≤ (fieldsOf line).length ∧ IsId (fieldAt line 2)) ∧
    (∀ fault, groupOfLine line = .error fault ↔ RecordFault groupLayout line fault) ∧
    (∀ group, groupOfLine line = .ok group ↔ IsGroupLine line group) ∧
    (∀ group, groupOfLine line = .ok group →
      (group.gid = 0 ↔ Text.IsZeros (fieldAt line 2)) ∧
      (∀ line', 4 ≤ (fieldsOf line').length →
        (∀ place ∈ [0, 2, 3], fieldAt line' place = fieldAt line place) →
        groupOfLine line' = .ok group) ∧
      ∀ name : String, (∀ c ∈ name.toList, Text.isBlank c = false) →
        (name ∈ group.members ↔ name ≠ "" ∧ ∃ piece ∈ (fieldAt line 3).splitOn ',',
          ∃ before after, Text.isBlankText before = true ∧ Text.isBlankText after = true ∧
            piece = before ++ name.toList ++ after)) := by
  have huser : userLayout.Fits line ↔
      7 ≤ (fieldsOf line).length ∧ IsId (fieldAt line 2) ∧ IsId (fieldAt line 3) := by
    simp [Layout.Fits, userLayout]
  have hgroup : groupLayout.Fits line ↔
      4 ≤ (fieldsOf line).length ∧ IsId (fieldAt line 2) := by
    simp [Layout.Fits, groupLayout]
  refine ⟨?_, fun fault => error_iff_fault exists_user_of_fits fun _ => userOfLine_of_fault,
    fun user => userOfLine_iff, fun user hread => ?_, ?_,
    fun fault => error_iff_fault exists_group_of_fits fun _ => groupOfLine_of_fault,
    fun group => groupOfLine_iff, fun group hread => ?_⟩
  · rw [← huser]
    exact exists_ok_iff_fits exists_user_of_fits fun _ => userOfLine_of_fault
  · have hline := userOfLine_iff.mp hread
    refine ⟨eq_zero_iff_isZeros hline.uid, eq_zero_iff_isZeros hline.gid, ?_⟩
    intro line' hfields hsame
    exact userOfLine_iff.mpr (hline.of_same hfields hsame)
  · rw [← hgroup]
    exact exists_ok_iff_fits exists_group_of_fits fun _ => groupOfLine_of_fault
  · have hline := groupOfLine_iff.mp hread
    refine ⟨eq_zero_iff_isZeros hline.gid, ?_, fun name hname => mem_members_iff hline hname⟩
    intro line' hfields hsame
    exact groupOfLine_iff.mpr (hline.of_same hfields hsame)

example : groupOfLine "staff:x:+050: alice ,,bob".toList = .ok ⟨"staff", 50, ["alice", "bob"]⟩ :=
  rfl

/-- The first number that is too large is no id, although it is zero in 32 bits. -/
example : groupOfLine "staff:x:4294967296:".toList =
    .error (.badId "gid" "staff:x:4294967296:") :=
  rfl

end DisplaySession.Account
