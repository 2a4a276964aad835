import DisplaySession.Proofs.Account.Tool

/-
The two sources of records agree.

The files are searched for the first line filed under a name, and only that line is read. The tool
prints a line, and the first line it printed is read and then compared by name. These are different
rules, but on a line that the files' rule found they come to the same: such a line is not blank,
ends in no carriage return that would be lost, and is filed under the name that its record has
(`printedUser_closed`). So a tool that prints that line, and the groups' text as it is, is no other
source than the files (`ofTool_agrees_ofFiles`): the same records and identities, the same faults,
and the same reports on lines that were passed over.
-/
set_option autoImplicit false

namespace DisplaySession.Account

/-! ## Resolving with either -/

/-- **Databases that agree on a name and on the groups resolve the name alike.** -/
theorem agree_resolve {first second : Database} {name : String}
    (huser : (first.user name).Agree (second.user name))
    (hgroups : first.groups.Agree second.groups) :
    (resolve first name).Agree (resolve second name) := by
  have hidentified (found : Option UserRecord) :
      (identified first name found).Agree (identified second name found) := by
    rw [identified, identified]
    cases found.filter (·.name = name) with
    | none => exact Lookup.agree_refl _
    | some record => exact Lookup.agree_bind hgroups fun _ => Lookup.agree_refl _
  rcases checkUsername_cases name with h | h
  · rw [resolve_of_accepted h, resolve_of_accepted h]
    exact Lookup.agree_bind huser hidentified
  · rw [resolve_of_refused h, resolve_of_refused h]
    exact Lookup.agree_refl _

/-! ## A line that was found in a file -/

/-- A line of a file, printed alone, is the first line that is not blank. -/
theorem firstLine_closed {line : List Char} (h : IsRecordLine line) :
    (Text.lines (line ++ ['\n'])).find? (!Text.isBlankText ·) = some line := by
  have hblank : Text.isBlankText line = false := by
    rw [Bool.eq_false_iff, ne_eq, ← Text.trimEnd_eq_nil_iff, h.trimmed]
    exact h.notEmpty
  rw [Text.lines_closed h.noFeed, Text.dropReturn_of_trimEnd h.trimmed, List.find?_singleton,
    hblank]
  rfl

/-- **A line of a file, printed alone, gives what it gives in the file.** -/
theorem printedUser_closed {users line : List Char} {name : String}
    (h : (recordLines users).find? (keyOfLine · = name.toList) = some line) :
    printedUser (line ++ ['\n']) name = userInText users name := by
  have hline := firstLine_closed (isRecordLine_of_mem (List.mem_of_find?_eq_some h))
  have hfound := List.find?_some h
  have hkey : keyOfLine line = name.toList := of_decide_eq_true hfound
  simp only [userInText, h]
  cases hrecord : userOfLine line with
  | error fault => rw [printedUser_of_error hline hrecord]
  | ok record =>
    -- The tool's reader compares by the record's name, which is the first field again.
    have hname : record.name = name := by
      rw [name_of_userOfLine hrecord, hkey, String.ofList_toList]
    rw [printedUser_of_name hline hrecord hname]

/-! ## A tool and files with the same content -/

/-- **A tool mirrors two texts** as far as a name goes. For the user it prints the first line of the
one text that is filed under the name, or says that there is none; for the groups it prints the
other text as it is. -/
structure Mirrors (tool : Tool) (name : String) (users groups : List Char) : Prop where
  found (line : List Char) : (recordLines users).find? (keyOfLine · = name.toList) = some line →
    ∃ errors, tool ["passwd", name] =
      .finished (.exited 0) (Utf8.encode (line ++ ['\n'])) errors
  missing : (recordLines users).find? (keyOfLine · = name.toList) = none →
    ∃ errors, tool ["passwd", name] = .finished (.exited 2) [] errors
  groups : ∃ errors, tool ["group"] = .finished (.exited 0) (Utf8.encode groups) errors

section

variable {program : Path} {tool : Tool} {name : String} {users groups : List Char}

theorem agree_user_of_mirrors (h : Mirrors tool name users groups) :
    ((ofTool program tool).user name).Agree (userInText users name) := by
  have hask : (askRecords program tool ["passwd", name]).result =
      toolOutput program ["passwd", name] (tool ["passwd", name]) := rfl
  rw [user_ofTool]
  cases hfind : (recordLines users).find? (keyOfLine · = name.toList) with
  | none =>
    have hnone : userInText users name = readUser name none := by
      simp only [userInText, hfind, readUser]
    obtain ⟨errors, hanswer⟩ := h.missing hfind
    rw [toolOutput_of_notFound _ _ ⟨_, _, hanswer⟩] at hask
    rw [hnone]
    exact Lookup.agree_bind_of_silent _ hask rfl
  | some line =>
    obtain ⟨errors, hanswer⟩ := h.found line hfind
    rw [hanswer, toolOutput_of_succeeded, Utf8.decodeLossy_encode] at hask
    rw [← printedUser_closed hfind]
    exact Lookup.agree_bind_of_silent (readUser name) hask rfl

theorem agree_groups_of_mirrors (h : Mirrors tool name users groups) :
    (ofTool program tool).groups.Agree (groupsOfText groups) := by
  obtain ⟨errors, hanswer⟩ := h.groups
  have hask : (askRecords program tool ["group"]).result = .ok (some groups) := by
    rw [askRecords, hanswer, toolOutput_of_succeeded, Utf8.decodeLossy_encode]
  rw [groups_ofTool]
  exact Lookup.agree_bind_of_silent _ hask rfl

end

/-- **A tool that mirrors the texts of two files agrees with the files**: on the user, on the groups
and on the identity of the name, in the answer or the fault and in what is reported. -/
theorem ofTool_agrees_ofFiles (program : Path) {tool : Tool} {name : String}
    {users groups : List Char} (h : Mirrors tool name users groups) {read : FileReader}
    {usersPath groupsPath : Path} (husers : read usersPath = .ok (Utf8.encode users))
    (hgroups : read groupsPath = .ok (Utf8.encode groups)) :
    ((ofTool program tool).user name).Agree ((ofFiles read usersPath groupsPath).user name) ∧
    (ofTool program tool).groups.Agree (ofFiles read usersPath groupsPath).groups ∧
    (resolve (ofTool program tool) name).Agree
      (resolve (ofFiles read usersPath groupsPath) name) := by
  have hagree : ((ofTool program tool).user name).Agree
      ((ofFiles read usersPath groupsPath).user name) := by
    rw [user_ofFiles husers]
    exact agree_user_of_mirrors h
  have hagree' : (ofTool program tool).groups.Agree
      (ofFiles read usersPath groupsPath).groups := by
    rw [groups_ofFiles hgroups]
    exact agree_groups_of_mirrors h
  exact ⟨hagree, hagree', agree_resolve hagree hagree'⟩

/-- The tool that mirrors two texts for every name. -/
def mirror (users groups : List Char) : Tool
  | ["passwd", name] =>
    match (recordLines users).find? (keyOfLine · = name.toList) with
    | some line => .finished (.exited 0) (Utf8.encode (line ++ ['\n'])) []
    | none => .finished (.exited 2) [] []
  | ["group"] => .finished (.exited 0) (Utf8.encode groups) []
  | _ => .finished (.exited 1) [] []

theorem mirrors_mirror (users groups : List Char) (name : String) :
    Mirrors (mirror users groups) name users groups := by
  refine ⟨fun line h => ⟨[], ?_⟩, fun h => ⟨[], ?_⟩, ⟨[], rfl⟩⟩
  · simp only [mirror, h]
  · simp only [mirror, h]

/-- Users with a comment, white space behind a record, and a second record of one name that is too
short. -/
def paddedUsers : List Char :=
  "# users\r\nann:x:1000:100:Ann:/home/ann:/bin/sh  \r\n\nann:x".toList

/-- Groups with a line that is no record and white space around members. -/
def brokenGroups : List Char :=
  "audio:x:29: ann ,bob\n+\nstaff:x:100:".toList

theorem ofTool_agrees_ofFiles_padded :
    let tool := mirror paddedUsers brokenGroups
    let read := twoFiles (.ofString "/etc/passwd") paddedUsers brokenGroups
    let byTool := ofTool (.ofString "getent") tool
    let byFiles := ofFiles read (.ofString "/etc/passwd") (.ofString "/etc/group")
    Mirrors tool "ann" paddedUsers brokenGroups ∧
    read (.ofString "/etc/passwd") = .ok (Utf8.encode paddedUsers) ∧
    read (.ofString "/etc/group") = .ok (Utf8.encode brokenGroups) ∧
    (byTool.user "ann").Agree (byFiles.user "ann") ∧ byTool.groups.Agree byFiles.groups ∧
    (resolve byTool "ann").Agree (resolve byFiles "ann") := by
  have hmirrors := mirrors_mirror paddedUsers brokenGroups "ann"
  have husers := twoFiles_users (.ofString "/etc/passwd") paddedUsers brokenGroups
  have hgroups : twoFiles (.ofString "/etc/passwd") paddedUsers brokenGroups
      (.ofString "/etc/group") = .ok (Utf8.encode brokenGroups) :=
    twoFiles_groups (by decide) paddedUsers brokenGroups
  exact ⟨hmirrors, husers, hgroups, ofTool_agrees_ofFiles _ hmirrors husers hgroups⟩

end DisplaySession.Account
