import DisplaySession.Proofs.Account.Written
import Mathlib.Logic.Relation

/-
Lines that have no part in an answer, put into the files.

A line can be put in front of a line of a file, behind its last line end, or behind a last line that
has no end. Each way leaves the lines that were there as they are and adds one (`read_putIn`), so a
line that no reader looks at changes no answer, wherever it is put and however many there are
(`resolve_littered`).

This is so for lines of text. A file is read as a whole, and one line that is no text makes all of
it unreadable: then no name is found, although the line has nothing to do with any
(`stray_byte_refused`).
-/
set_option autoImplicit false

namespace DisplaySession.Account

/-- The byte that ends a line. -/
def lineFeed : UInt8 := 0x0a

/-- A run of whole lines: nothing, or bytes that end in a line end. -/
def Ended (bytes : Bytes) : Prop :=
  bytes = [] ∨ bytes.getLast? = some lineFeed

/-- **A line put into a file**: the file before and the file after. -/
inductive PutIn (line : Bytes) : Bytes → Bytes → Prop
  /-- In front of a line, or with a line end behind the last one. -/
  | front {front : Bytes} (h : Ended front) (back : Bytes) :
    PutIn line (front ++ back) (front ++ line ++ lineFeed :: back)
  /-- Behind the last line end, without one of its own. -/
  | last {file : Bytes} (h : Ended file) : PutIn line file (file ++ line)
  /-- Behind a last line that has no end. -/
  | behind (file : Bytes) {ending : Bytes} (h : ending = [] ∨ ending = [lineFeed]) :
    PutIn line file (file ++ lineFeed :: line ++ ending)

/-! ## What is read after a line was put in -/

theorem decode?_feed (front rest : Bytes) :
    Utf8.decode? (front ++ lineFeed :: rest) = (Utf8.decode? front).bind fun cs =>
      (Utf8.decode? rest).map fun ds => cs ++ '\n' :: ds :=
  Utf8.decode?_append (by decide) front rest

/-- Whole lines are nothing, or some bytes with a line end behind them. -/
theorem exists_of_ended {bytes : Bytes} (h : Ended bytes) :
    bytes = [] ∨ ∃ front, bytes = front ++ [lineFeed] := by
  rcases h with h | h
  · exact .inl h
  · exact .inr (List.getLast?_eq_some_iff.mp h)

theorem recordLines_feed (front back : List Char) :
    recordLines (front ++ '\n' :: back) = recordLines front ++ recordLines back := by
  rw [recordLines_eq, recordLines_eq, recordLines_eq, Text.split_append_cons, keptLines_append]

theorem recordLines_nil : recordLines [] = [] :=
  rfl

section

variable {line file file' : Bytes}

/-- **A line that is no text makes the file unreadable.** -/
theorem unreadable_of_putIn (h : PutIn line file file') (hline : Utf8.decode? line = none) :
    Utf8.decode? file' = none := by
  have hrest (back : Bytes) : Utf8.decode? (line ++ lineFeed :: back) = none := by
    rw [decode?_feed, hline, Option.bind_none]
  have hbehind {rest : Bytes} (front : Bytes) (hnone : Utf8.decode? rest = none) :
      Utf8.decode? (front ++ lineFeed :: rest) = none := by
    rw [decode?_feed, hnone]
    cases Utf8.decode? front <;> rfl
  cases h with
  | front hended back =>
    rcases exists_of_ended hended with rfl | ⟨front, rfl⟩
    · exact hrest back
    · simpa using hbehind front (hrest back)
  | last hended =>
    rcases exists_of_ended hended with rfl | ⟨front, rfl⟩
    · exact hline
    · simpa using hbehind front hline
  | behind file hending =>
    rcases hending with rfl | rfl
    · simpa using hbehind file hline
    · simpa using hbehind file (hrest [])

/-- **What is read after a line of text was put in**: the lines that were there, and this one
between them. -/
theorem read_putIn (h : PutIn line file file') {added contents : List Char}
    (hline : Utf8.decode? line = some added) (hfile : Utf8.decode? file = some contents) :
    ∃ contents' first second, Utf8.decode? file' = some contents' ∧
      recordLines contents = first ++ second ∧
      recordLines contents' = first ++ recordLines added ++ second := by
  have hjoin {front rest : Bytes} {cs ds : List Char} (hfront : Utf8.decode? front = some cs)
      (hrest : Utf8.decode? rest = some ds) :
      Utf8.decode? (front ++ lineFeed :: rest) = some (cs ++ '\n' :: ds) := by
    rw [decode?_feed, hfront, hrest]
    rfl
  -- The file is text up to each of its line ends and from there on.
  have hcut {front rest : Bytes} {text : List Char}
      (htext : Utf8.decode? (front ++ lineFeed :: rest) = some text) : ∃ cs ds,
      Utf8.decode? front = some cs ∧ Utf8.decode? rest = some ds ∧ text = cs ++ '\n' :: ds := by
    rw [decode?_feed, Option.bind_eq_some_iff] at htext
    obtain ⟨cs, hfront, htext⟩ := htext
    obtain ⟨ds, hrest, htext⟩ := Option.map_eq_some_iff.mp htext
    exact ⟨cs, ds, hfront, hrest, htext.symm⟩
  cases h with
  | front hended back =>
    rcases exists_of_ended hended with rfl | ⟨front, rfl⟩
    · refine ⟨_, [], recordLines contents, hjoin hline hfile, rfl, ?_⟩
      rw [recordLines_feed, List.nil_append]
    · rw [List.append_assoc, List.singleton_append] at hfile
      obtain ⟨cs, ds, hfront, hback, rfl⟩ := hcut hfile
      refine ⟨cs ++ '\n' :: (added ++ '\n' :: ds), recordLines cs, recordLines ds, ?_,
        recordLines_feed cs ds, ?_⟩
      · simpa using hjoin hfront (hjoin hline hback)
      · rw [recordLines_feed, recordLines_feed, List.append_assoc]
  | last hended =>
    rcases exists_of_ended hended with rfl | ⟨front, rfl⟩
    · obtain rfl : [] = contents := Option.some.inj hfile
      exact ⟨added, [], [], hline, rfl, by simp⟩
    · obtain ⟨cs, ds, hfront, hback, rfl⟩ := hcut hfile
      obtain rfl : [] = ds := Option.some.inj hback
      refine ⟨cs ++ '\n' :: added, recordLines cs, [], ?_, recordLines_feed cs [], ?_⟩
      · simpa using hjoin hfront hline
      · rw [recordLines_feed, List.append_nil]
  | behind file hending =>
    rcases hending with rfl | rfl
    · refine ⟨contents ++ '\n' :: added, recordLines contents, [], ?_, by rw [List.append_nil], ?_⟩
      · simpa using hjoin hfile hline
      · rw [recordLines_feed, List.append_nil]
    · refine ⟨contents ++ '\n' :: (added ++ '\n' :: []), recordLines contents, [], ?_,
        by rw [List.append_nil], ?_⟩
      · simpa using hjoin hfile (hjoin hline (rfl : Utf8.decode? [] = some []))
      · rw [recordLines_feed, recordLines_feed, recordLines_nil, List.append_assoc]

end

/-! ## Any number of lines -/

/-- **A file with more lines in it**, each one a line of text of this kind, put in one after
another. -/
def Littered (Stray : List Char → Prop) : Bytes → Bytes → Prop :=
  Relation.ReflTransGen fun file file' => ∃ line added, PutIn line file file' ∧
    Utf8.decode? line = some added ∧ '\n' ∉ added ∧ Stray added

/-- **What no added line changes**: a value that is made of the lines of a file and to which lines of
this kind add nothing. -/
theorem littered_invariant {α : Type} {Stray : List Char → Prop}
    (value : List (List Char) → α)
    (hstray : ∀ added first second, '\n' ∉ added → Stray added →
      value (first ++ keptLines [added] ++ second) = value (first ++ second))
    {file file' : Bytes} (h : Littered Stray file file') {contents : List Char}
    (hfile : Utf8.decode? file = some contents) :
    ∃ contents', Utf8.decode? file' = some contents' ∧
      value (recordLines contents') = value (recordLines contents) := by
  induction h with
  | refl => exact ⟨contents, hfile, rfl⟩
  | tail _ hstep ih =>
    obtain ⟨contents', hread, hvalue⟩ := ih
    obtain ⟨line, added, hput, hline, hfeed, hadded⟩ := hstep
    obtain ⟨contents'', first, second, hread', hlines, hlines'⟩ := read_putIn hput hline hread
    refine ⟨contents'', hread', ?_⟩
    rw [hlines', recordLines_of_noFeed hfeed, hstray added first second hfeed hadded, ← hlines,
      hvalue]

section

variable {file file' : Bytes} {contents : List Char}

/-- **A user is found as before** among lines that are filed under other names. -/
theorem userInText_littered {name : String} (h : Littered (userFormat name).Stray file file')
    (hfile : Utf8.decode? file = some contents) :
    ∃ contents', Utf8.decode? file' = some contents' ∧
      userInText contents' name = userInText contents name := by
  obtain ⟨contents', hread, hfind⟩ := littered_invariant
    (fun lines => lines.find? (keyOfLine · = name.toList)) (fun added first second _ hadded => by
      rw [List.find?_append, List.find?_append, find?_stray hadded, Option.or_none,
        List.find?_append]) h hfile
  refine ⟨contents', hread, ?_⟩
  rw [userInText, userInText, hfind]

/-- **The same groups are listed** among lines that are no records. -/
theorem groupsOfText_littered (h : Littered groupFormat.Stray file file')
    (hfile : Utf8.decode? file = some contents) :
    ∃ contents', Utf8.decode? file' = some contents' ∧
      (groupsOfText contents').result = (groupsOfText contents).result := by
  obtain ⟨contents', hread, hlisted⟩ := littered_invariant
    (fun lines => lines.filterMap fun line => (groupOfLine line).toOption)
    (fun added first second _ hadded => by
      rw [List.filterMap_append, List.filterMap_append, filterMap_stray hadded, List.append_nil,
        List.filterMap_append]) h hfile
  refine ⟨contents', hread, ?_⟩
  rw [groupsOfText, groupsOfText, groupsOfLines_result, groupsOfLines_result, hlisted]

end

/-! ## What is resolved -/

theorem readText_of_unreadable {read : FileReader} {path : Path} {bytes : Bytes}
    (h : read path = .ok bytes) (hread : Utf8.decode? bytes = none) :
    readText read path = lookupFault (.unreadable path .notText) := by
  simp only [readText, h, hread]

/-- A file from which something was read is text. -/
theorem decode?_of_readText {α : Type} {read : FileReader} {path : Path} {bytes : Bytes} {a : α}
    {next : List Char → Lookup α} (h : read path = .ok bytes)
    (hread : (readText read path >>= next).result = .ok a) :
    ∃ contents, Utf8.decode? bytes = some contents ∧ (next contents).result = .ok a := by
  cases hbytes : Utf8.decode? bytes with
  | none =>
    rw [readText_of_unreadable h hbytes] at hread
    cases hread
  | some contents =>
    rw [readText_of_decode h hbytes, Lookup.answer_bind] at hread
    exact ⟨contents, rfl, hread⟩

/-- **Lines of text that have no part in an answer do not change it; one line that is no text undoes
it.** A name is resolved from two files, and lines are put into both.

* If each line is text without a line end in it, those in the file of users are filed under other
  names, and those in the file of groups are no records, then the name has the same identity.
* If a line that is no text is put into the file of users, or into that of groups, the file cannot
  be read and the name has none. -/
theorem resolve_littered {read read' : FileReader} {usersPath groupsPath : Path} {name : String}
    {identity : Identity} {users users' groups groups' : Bytes}
    (hresolve : (resolve (ofFiles read usersPath groupsPath) name).result = .ok identity)
    (husers : read usersPath = .ok users) (hgroups : read groupsPath = .ok groups)
    (husers' : read' usersPath = .ok users') (hgroups' : read' groupsPath = .ok groups') :
    (Littered (userFormat name).Stray users users' → Littered groupFormat.Stray groups groups' →
      (resolve (ofFiles read' usersPath groupsPath) name).result = .ok identity) ∧
    (∀ line, Utf8.decode? line = none → PutIn line users users' →
      (resolve (ofFiles read' usersPath groupsPath) name).result =
        .error (.identityLookup (.unreadable usersPath .notText))) ∧
    (∀ line, Utf8.decode? line = none → Littered (userFormat name).Stray users users' →
      PutIn line groups groups' →
      (resolve (ofFiles read' usersPath groupsPath) name).result =
        .error (.identityLookup (.unreadable groupsPath .notText))) := by
  obtain ⟨hname, record, listed, huser, hrecord, hlisted, rfl⟩ := found_of_resolve hresolve
  obtain ⟨contents, husersText, hfound⟩ := decode?_of_readText husers huser
  obtain ⟨text, hgroupsText, hlisted⟩ := decode?_of_readText hgroups hlisted
  -- As long as the file of users is littered with text only, the record is found in it.
  have huser' (h : Littered (userFormat name).Stray users users') :
      ((ofFiles read' usersPath groupsPath).user name).result = .ok (some record) := by
    obtain ⟨contents', hread, hsame⟩ := userInText_littered h husersText
    show (readText read' usersPath >>= _).result = _
    rw [readText_of_decode husers' hread, Lookup.answer_bind, hsame, hfound]
  refine ⟨fun h h' => ?_, fun line hline h => ?_, fun line hline h h' => ?_⟩
  · obtain ⟨text', hread, hsame⟩ := groupsOfText_littered h' hgroupsText
    refine resolve_of_found hname (huser' h) hrecord ?_
    show (readText read' groupsPath >>= _).result = _
    rw [readText_of_decode hgroups' hread, Lookup.answer_bind, hsame, hlisted]
  · have hunread := readText_of_unreadable husers' (unreadable_of_putIn h hline)
    rw [resolve_of_accepted hname]
    show (readText read' usersPath >>= _ >>= _).result = _
    rw [hunread]
    rfl
  · have hunread := readText_of_unreadable hgroups' (unreadable_of_putIn h' hline)
    rw [resolve_of_accepted hname, Lookup.bind_of_ok _ (huser' h), identified_of_name hrecord]
    show (readText read' groupsPath >>= _ >>= _).result = _
    rw [hunread]
    rfl

/-- The paths of the two files. -/
def usersFile : Path := .ofString "/etc/passwd"

def groupsFile : Path := .ofString "/etc/group"

/-- A reader that finds these two files. -/
def readerOf (users groups : Bytes) : FileReader := fun asked =>
  .ok (if asked = usersFile then users else groups)

/-- One user, on a line with its end. -/
def plainUsers : Bytes :=
  Utf8.ofString "alice:x:1000:1000::/home/alice:/bin/sh\n"

/-- One group that lists the user, on a line without an end. -/
def plainGroups : Bytes :=
  Utf8.ofString "staff:x:50:alice"

/-- The identity in the two files. -/
def aliceOfStaff : Identity :=
  ⟨"alice", 1000, 1000, .ofString "/home/alice", [50, 1000]⟩

theorem resolve_littered_junk :
    (resolve (ofFiles (readerOf plainUsers plainGroups) usersFile groupsFile) "alice").result =
      .ok aliceOfStaff ∧
    Littered (userFormat "alice").Stray plainUsers (Utf8.ofString "bob\n" ++ plainUsers) ∧
    Littered groupFormat.Stray plainGroups (plainGroups ++ Utf8.ofString "\njunk:x:y:alice") ∧
    (resolve (ofFiles (readerOf (Utf8.ofString "bob\n" ++ plainUsers)
      (plainGroups ++ Utf8.ofString "\njunk:x:y:alice")) usersFile groupsFile) "alice").result =
      .ok aliceOfStaff := by
  have hresolve : (resolve (ofFiles (readerOf plainUsers plainGroups) usersFile groupsFile)
      "alice").result = .ok aliceOfStaff := by decide +kernel
  have husers : Littered (userFormat "alice").Stray plainUsers
      (Utf8.ofString "bob\n" ++ plainUsers) :=
    .single ⟨_, "bob".toList, @PutIn.front _ [] (.inl rfl) plainUsers,
      Utf8.decode?_encode "bob".toList, by decide, .inr (by decide)⟩
  have hgroups : Littered groupFormat.Stray plainGroups
      (plainGroups ++ Utf8.ofString "\njunk:x:y:alice") :=
    .single ⟨Utf8.ofString "junk:x:y:alice", _, .behind plainGroups (.inl rfl),
      Utf8.decode?_encode _, by decide, .inr (by decide)⟩
  exact ⟨hresolve, husers, hgroups,
    (resolve_littered hresolve rfl rfl rfl rfl).1 husers hgroups⟩

/-- **One byte that is no text, on a line of its own, and the name is not resolved any more.** -/
theorem stray_byte_refused :
    PutIn [0xff] plainUsers (0xff :: lineFeed :: plainUsers) ∧
    lineFeed ∉ [(0xff : UInt8)] ∧
    keyOfLine (Text.trimEnd (Utf8.decodeLossy [0xff])) ≠ "alice".toList ∧
    (resolve (ofFiles (readerOf plainUsers plainGroups) usersFile groupsFile) "alice").result =
      .ok aliceOfStaff ∧
    (resolve (ofFiles (readerOf (0xff :: lineFeed :: plainUsers) plainGroups) usersFile groupsFile)
      "alice").result = .error (.identityLookup (.unreadable usersFile .notText)) := by
  refine ⟨@PutIn.front _ [] (.inl rfl) plainUsers, ?_⟩
  decide +kernel

end DisplaySession.Account
