import DisplaySession.Proofs.Account.Agreement
import DisplaySession.Proofs.Account.Written

/-
Which accepted names a file of users can hold.

A user name is checked before it is looked up, so that no name is asked for that a record cannot
have: a colon would end the field, a line feed the line, and white space at its end would be taken
off. For nearly all of the accepted names that is enough, and the first line that is filed under the
name is found, whatever its other fields hold and whatever the file holds besides
(`user_found_iff`).

But a line that begins with a number sign is a comment to the reader of a file, and a name may begin
with one. The line of such a user is passed over, in every file, and the name has no identity
(`user_of_marked`, `resolve_marked`). It is a record all the same (`userOfLine_userLine`), and the
reader of what the record tool prints, who knows no comments, finds it (`printedUser_userLine`).
-/
set_option autoImplicit false

namespace DisplaySession.Account

/-! ## Accepted names -/

theorem not_isForbidden_of_accepted {name : String} (h : checkUsername name = .ok ()) {c : Char}
    (hc : c ∈ name.toList) : isForbidden c = false := by
  have hname : isUsername name = true := by
    by_contra hrefused
    rw [checkUsername, if_neg hrefused] at h
    cases h
  simp only [isUsername, Bool.and_eq_true, Bool.not_eq_true', List.any_eq_false] at hname
  exact Bool.eq_false_iff.mpr (hname.2 c hc)

/-- **An accepted name is a field.** -/
def Field.ofAccepted (name : String) (h : checkUsername name = .ok ()) : Field where
  text := name.toList
  noFeed := by
    intro hc
    exact absurd (not_isForbidden_of_accepted h hc) (by decide)
  noColon := by
    intro hc
    exact absurd (not_isForbidden_of_accepted h hc) (by decide)

/-! ## Lines -/

/-- The line `name:passwd:uid:gid:gecos:home:shell` of a user, under any name. -/
def userLine (name : String) (password : Field) (uid gid : UInt32) (comment home shell : Field) :
    List Char :=
  [':'].intercalate [name.toList, password.text, uid.toNat.repr.toList, gid.toNat.repr.toList,
    comment.text, home.text, shell.text]

section

variable {name : String} {password comment home shell : Field} {uid gid : UInt32}

/-- The pieces of a user's line are fields, if the name is accepted. -/
theorem userLine_eq (hname : checkUsername name = .ok ()) :
    userLine name password uid gid comment home shell =
      [':'].intercalate ([Field.ofAccepted name hname, password, .ofId uid, .ofId gid, comment,
        home, shell].map Field.text) :=
  rfl

theorem noFeed_userLine (hname : checkUsername name = .ok ()) :
    '\n' ∉ userLine name password uid gid comment home shell := by
  rw [userLine_eq hname]
  exact Text.not_mem_intercalate (by decide) (List.forall_mem_map.mpr fun field _ => field.noFeed)

/-- White space at the end of the line is at the end of the shell. -/
theorem split_userLine (hname : checkUsername name = .ok ()) :
    Text.split ':' (Text.trimEnd (userLine name password uid gid comment home shell)) =
      [name.toList, password.text, uid.toNat.repr.toList, gid.toNat.repr.toList, comment.text,
        home.text] ++ [Text.trimEnd shell.text] := by
  have hblank : Text.isBlank ':' = false := by decide
  have hcolon : ∀ piece ∈ [name.toList, password.text, uid.toNat.repr.toList,
      gid.toNat.repr.toList, comment.text, home.text] ++ [shell.text], ':' ∉ piece := by
    intro piece hpiece
    have hfield : piece ∈ [Field.ofAccepted name hname, password, .ofId uid, .ofId gid, comment,
      home, shell].map Field.text := hpiece
    obtain ⟨field, -, rfl⟩ := List.mem_map.mp hfield
    exact field.noColon
  exact Text.split_trimEnd_intercalate hblank hcolon

/-- **The line of an accepted name is the user's record**, whatever it begins with. -/
theorem userOfLine_userLine (hname : checkUsername name = .ok ()) :
    userOfLine (Text.trimEnd (userLine name password uid gid comment home shell)) =
      .ok ⟨name, uid, gid, ⟨Utf8.encode home.text⟩⟩ :=
  userOfLine_eq_ok_iff.mpr ⟨_, _, _, _, _, _, _, [], split_userLine hname, String.ofList_toList,
    uint32?_repr uid, uint32?_repr gid, rfl⟩

/-- **What the record tool prints of a user is found**, under every accepted name. -/
theorem printedUser_userLine (hname : checkUsername name = .ok ()) :
    printedUser (Text.trimEnd (userLine name password uid gid comment home shell) ++ ['\n']) name =
      Lookup.answer (some ⟨name, uid, gid, ⟨Utf8.encode home.text⟩⟩) := by
  have hne : Text.trimEnd (userLine name password uid gid comment home shell) ≠ [] := by
    intro hempty
    -- An empty line has one field only.
    have hfields := congrArg List.length (hempty ▸ split_userLine hname)
    simp [Text.split] at hfields
  have hline : IsRecordLine (Text.trimEnd (userLine name password uid gid comment home shell)) :=
    ⟨Text.trimEnd_trimEnd _, mt Text.mem_of_mem_trimEnd (noFeed_userLine hname), hne⟩
  exact printedUser_of_name (firstLine_closed hline) (userOfLine_userLine hname) rfl

end

/-! ## Comments -/

/-- What the first field of a line begins with, the line begins with. -/
theorem head?_of_head?_keyOfLine {line : List Char} {c : Char}
    (h : (keyOfLine line).head? = some c) : line.head? = some c := by
  cases line with
  | nil => exact h
  | cons d rest =>
    by_cases hd : d = ':'
    · -- The first field is empty.
      rw [keyOfLine, Text.split, if_pos hd] at h
      cases h
    · rw [← h]
      exact (head?_keyOfLine hd rfl).symm

/-- **No line that may be a record is filed under a name that begins a comment.** -/
theorem find?_marked {name : String} (h : name.toList.head? = some '#')
    (lines : List (List Char)) : (keptLines lines).find? (keyOfLine · = name.toList) = none := by
  rw [List.find?_eq_none]
  intro kept hkept hkey
  rw [keptLines, List.mem_filter, decide_eq_true_eq] at hkept
  rw [decide_eq_true_eq] at hkey
  rw [← hkey] at h
  exact hkept.2.2 (head?_of_head?_keyOfLine h)

/-! ## Files -/

section

variable {read : FileReader} {users groups : Path} {name : String} {contents : List Char}

/-- **A name that begins a comment is in no file of users**, whatever its lines are. -/
theorem user_of_marked (hread : read users = .ok (Utf8.encode contents))
    (hmark : name.toList.head? = some '#') :
    (ofFiles read users groups).user name = Lookup.answer none := by
  rw [user_ofFiles hread, userInText, recordLines_eq, find?_marked hmark]

/-- So it is accepted, and then there is no such user. -/
theorem resolve_marked (hname : checkUsername name = .ok ())
    (hread : read users = .ok (Utf8.encode contents)) (hmark : name.toList.head? = some '#') :
    (resolve (ofFiles read users groups) name).result = .error (.userNotFound name) := by
  rw [resolve_of_accepted hname, user_of_marked hread hmark]
  rfl

/-- **The first line of a user is found**, under an accepted name that begins no comment. -/
theorem user_of_first (hname : checkUsername name = .ok ()) {password comment home shell : Field}
    {uid gid : UInt32} {before after : List (List Char)}
    (hread : read users = .ok (Utf8.encode contents))
    (hlines : contents.splitOn '\n' =
      before ++ userLine name password uid gid comment home shell :: after)
    (hfirst : ∀ line ∈ before, keyOfLine (Text.trimEnd line) ≠ name.toList)
    (hmark : name.toList.head? ≠ some '#') :
    (ofFiles read users groups).user name =
      Lookup.answer (some ⟨name, uid, gid, ⟨Utf8.encode home.text⟩⟩) := by
  let entry : UserEntry := ⟨.ofAccepted name hname, hmark, password, uid, gid, comment, home, shell⟩
  have hline : userLine name password uid gid comment home shell = entry.line.text := rfl
  have hkey : keyOfLine (Text.trimEnd entry.line.text) = name.toList := entry.line.keyOfLine_text
  have hfound : (keptLines (contents.splitOn '\n')).find? (keyOfLine · = name.toList) =
      some (Text.trimEnd entry.line.text) := by
    rw [hlines, hline, ← List.singleton_append, keptLines_append, keptLines_append, keptLines_text,
      List.find?_append, find?_others hfirst, Option.none_or, List.singleton_append]
    exact List.find?_cons_of_pos (decide_eq_true hkey)
  rw [user_ofFiles hread, userInText, recordLines_eq, Text.split_eq_splitOn, hfound, ← hline]
  simp only [userOfLine_userLine hname]

/-- **An accepted name finds its line exactly if it begins no comment.** A file of users is text, and
a line of it is that of a user with this name, the first one that is filed under the name. The
answer is the user's record if the name does not begin with a number sign. If it does, the answer is
that there is none. -/
theorem user_found_iff (hname : checkUsername name = .ok ())
    {password comment home shell : Field} {uid gid : UInt32} {before after : List (List Char)}
    (hread : read users = .ok (Utf8.encode contents))
    (hlines : contents.splitOn '\n' =
      before ++ userLine name password uid gid comment home shell :: after)
    (hfirst : ∀ line ∈ before, keyOfLine (Text.trimEnd line) ≠ name.toList) :
    ((ofFiles read users groups).user name =
        Lookup.answer (some ⟨name, uid, gid, ⟨Utf8.encode home.text⟩⟩) ↔
      name.toList.head? ≠ some '#') ∧
    (name.toList.head? = some '#' →
      (ofFiles read users groups).user name = Lookup.answer none) := by
  refine ⟨⟨?_, user_of_first hname hread hlines hfirst⟩, user_of_marked hread⟩
  intro hfound hmark
  rw [user_of_marked hread hmark] at hfound
  cases hfound

end

/-- A file with a comment, a line of another user and a line that is looked for. -/
def commentedUsers : List Char :=
  "#alice:x:1:1::/:\nbob:x\nalice:x:1000:100:Alice:/home/alice:/bin/sh \n".toList

theorem user_found_iff_behindComment :
    let read := twoFiles (.ofString "/etc/passwd") commentedUsers []
    checkUsername "alice" = .ok () ∧
    read (.ofString "/etc/passwd") = .ok (Utf8.encode commentedUsers) ∧
    (ofFiles read (.ofString "/etc/passwd") (.ofString "/etc/group")).user "alice" =
      Lookup.answer (some ⟨"alice", 1000, 100, .ofString "/home/alice"⟩) := by
  have hname : checkUsername "alice" = .ok () := by decide
  have hread := twoFiles_users (.ofString "/etc/passwd") commentedUsers []
  have hlines : commentedUsers.splitOn '\n' =
      ["#alice:x:1:1::/:".toList, "bob:x".toList] ++
        userLine "alice" (.ofText "x" (by decide)) 1000 100 (.ofText "Alice" (by decide))
          (.ofText "/home/alice" (by decide)) (.ofText "/bin/sh " (by decide)) :: [[]] := by
    decide
  exact ⟨hname, hread, (user_found_iff hname hread hlines (by decide)).1.mpr (by decide)⟩

/-- **A name that is accepted, and a file in which its only line is not found.** -/
theorem marked_name_hidden :
    let contents := "#bob:x:1:1::/home/bob:/bin/sh\n".toList
    let read := twoFiles (.ofString "/etc/passwd") contents []
    checkUsername "#bob" = .ok () ∧
    read (.ofString "/etc/passwd") = .ok (Utf8.encode contents) ∧
    contents.splitOn '\n' = [userLine "#bob" (.ofText "x" (by decide)) 1 1 (.ofText "" (by decide))
      (.ofText "/home/bob" (by decide)) (.ofText "/bin/sh" (by decide)), []] ∧
    (ofFiles read (.ofString "/etc/passwd") (.ofString "/etc/group")).user "#bob" =
      Lookup.answer none ∧
    (ofFiles read (.ofString "/etc/passwd") (.ofString "/etc/group")).user "#bob" ≠
      Lookup.answer (some ⟨"#bob", 1, 1, .ofString "/home/bob"⟩) := by
  intro contents read
  have hread : read (.ofString "/etc/passwd") = .ok (Utf8.encode contents) :=
    twoFiles_users _ contents []
  have hnone : (ofFiles read (.ofString "/etc/passwd") (.ofString "/etc/group")).user "#bob" =
      Lookup.answer none := user_of_marked hread (by decide)
  refine ⟨by decide, hread, by decide, hnone, ?_⟩
  intro hfound
  cases hnone.symm.trans hfound

end DisplaySession.Account
