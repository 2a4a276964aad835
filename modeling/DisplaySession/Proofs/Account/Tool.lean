import DisplaySession.Proofs.Account.Record
import DisplaySession.Proofs.Account.Resolve

/-
Resolving a name with the record tool.

The tool is open in every respect: it may not be there, it may end with any status or by a signal,
and it may print any bytes. For the question for a user all of this comes to four cases
(`UserAnswer`), for the question for the groups to two (`groups_cases`). A status of two is no fault
in either question, but it says that there is no such user in the one and that there are no groups
in the other.
-/
set_option autoImplicit false

namespace DisplaySession

/-! ## What the tool answered -/

namespace Tool.Answer

/-- The tool ended well. -/
def Succeeded (answer : Tool.Answer) : Prop :=
  ∃ output errors, answer = .finished (.exited 0) output errors

/-- The tool ended with the status that says that it has no such key. -/
def NotFound (answer : Tool.Answer) : Prop :=
  ∃ output errors, answer = .finished (.exited 2) output errors

/-- **The tool answered with a user's record**: it ended well, and this line, the first it printed
that is not blank, is read as this record. -/
def IsRecord (answer : Tool.Answer) (line : List Char) (record : UserRecord) : Prop :=
  ∃ output errors, answer = .finished (.exited 0) output errors ∧
    (Text.lines (Utf8.decodeLossy output)).find? (!Text.isBlankText ·) = some line ∧
    Account.userOfLine line = .ok record

variable {answer : Tool.Answer} {line line' : List Char} {record record' : UserRecord}

theorem isRecord_iff {output errors : Bytes} :
    (Tool.Answer.finished (.exited 0) output errors).IsRecord line record ↔
      (Text.lines (Utf8.decodeLossy output)).find? (!Text.isBlankText ·) = some line ∧
        Account.userOfLine line = .ok record := by
  constructor
  · rintro ⟨output', errors', heq, h⟩
    cases heq
    exact h
  · intro h
    exact ⟨output, errors, rfl, h⟩

theorem isRecord_unique (h : answer.IsRecord line record) (h' : answer.IsRecord line' record') :
    line = line' ∧ record = record' := by
  obtain ⟨output, errors, rfl, hline, hrecord⟩ := h
  obtain ⟨hline', hrecord'⟩ := isRecord_iff.mp h'
  obtain rfl : line = line' := Option.some.inj (hline.symm.trans hline')
  exact ⟨rfl, Except.ok.inj (hrecord.symm.trans hrecord')⟩

theorem userOfLine_of_isRecord (h : answer.IsRecord line record) :
    Account.userOfLine line = .ok record := by
  obtain ⟨_, _, _, _, hrecord⟩ := h
  exact hrecord

theorem not_notFound_of_succeeded (h : answer.Succeeded) : ¬answer.NotFound := by
  rintro ⟨output', errors', rfl⟩
  obtain ⟨output, errors, heq⟩ := h
  cases heq

theorem succeeded_of_isRecord (h : answer.IsRecord line record) : answer.Succeeded := by
  obtain ⟨output, errors, heq, -⟩ := h
  exact ⟨output, errors, heq⟩

end Tool.Answer

namespace Tool

/-- The tool has the record of a name. -/
def HasUser (tool : Tool) (name : String) : Prop :=
  ∃ line record, (tool ["passwd", name]).IsRecord line record ∧ record.name = name

/-- The tool has no record of a name: it says so, or it answers with another account's record. -/
def LacksUser (tool : Tool) (name : String) : Prop :=
  (tool ["passwd", name]).NotFound ∨
    ∃ line record, (tool ["passwd", name]).IsRecord line record ∧ record.name ≠ name

/-- The tool says which groups there are: those that it lists, or none. -/
def HasGroups (tool : Tool) : Prop :=
  (tool ["group"]).Succeeded ∨ (tool ["group"]).NotFound

end Tool

namespace Account

open Tool (Answer)

section

variable {answer : Answer} (program : Path) (arguments : List String)

theorem toolOutput_of_succeeded (output errors : Bytes) :
    toolOutput program arguments (.finished (.exited 0) output errors) =
      .ok (some (Utf8.decodeLossy output)) := by
  rw [toolOutput, if_pos rfl]

theorem toolOutput_of_notFound (h : answer.NotFound) :
    toolOutput program arguments answer = .ok none := by
  obtain ⟨output, errors, rfl⟩ := h
  have htwo : Tool.Ending.exited 2 = .exited keyNotFound := rfl
  rw [toolOutput, if_neg (by decide), if_pos htwo]

theorem toolOutput_of_neither (hsucceeded : ¬answer.Succeeded) (hfound : ¬answer.NotFound) :
    ∃ fault, toolOutput program arguments answer = .error (.identityLookup fault) := by
  cases answer with
  | unavailable cause => exact ⟨_, rfl⟩
  | finished ending output errors =>
    have hzero : ending ≠ .exited 0 := by
      rintro rfl
      exact hsucceeded ⟨output, errors, rfl⟩
    have htwo : ending ≠ .exited keyNotFound := by
      rintro rfl
      exact hfound ⟨output, errors, rfl⟩
    rw [toolOutput, if_neg hzero, if_neg htwo]
    exact ⟨_, rfl⟩

end

/-! ## The question for a user -/

section

variable {output line : List Char} {name : String}

theorem printedUser_of_blank
    (h : (Text.lines output).find? (!Text.isBlankText ·) = none) :
    printedUser output name = lookupFault (.emptyRecord name) := by
  rw [printedUser, h]

theorem printedUser_of_error {fault : LookupFault}
    (h : (Text.lines output).find? (!Text.isBlankText ·) = some line)
    (hrecord : userOfLine line = .error fault) : printedUser output name = lookupFault fault := by
  simp only [printedUser, h, hrecord]

theorem printedUser_of_name {record : UserRecord}
    (h : (Text.lines output).find? (!Text.isBlankText ·) = some line)
    (hrecord : userOfLine line = .ok record) (hname : record.name = name) :
    printedUser output name = Lookup.answer (some record) := by
  simp only [printedUser, h, hrecord, if_pos hname]

theorem printedUser_of_other {record : UserRecord}
    (h : (Text.lines output).find? (!Text.isBlankText ·) = some line)
    (hrecord : userOfLine line = .ok record) (hname : record.name ≠ name) :
    printedUser output name = ⟨.ok none, [.reported (.otherAccount name)]⟩ := by
  simp only [printedUser, h, hrecord, if_neg hname]

theorem questions_printedUser (output : List Char) (name : String) :
    (printedUser output name).questions = [] := by
  rw [printedUser]
  split
  · rfl
  · split
    · rfl
    · split <;> rfl

end

section

variable (program : Path) (tool : Tool) (name : String)

/-- What is left of the question for a user when the tool was run. -/
def readUser (name : String) : Option (List Char) → Lookup (Option UserRecord)
  | none => Lookup.answer none
  | some output => printedUser output name

theorem user_ofTool : (ofTool program tool).user name =
    askRecords program tool ["passwd", name] >>= readUser name :=
  rfl

theorem questions_user : ((ofTool program tool).user name).questions =
    [(program, ["passwd", name])] := by
  have hread (found : Option (List Char)) : (readUser name found).questions = [] := by
    cases found with
    | none => rfl
    | some output => exact questions_printedUser output name
  rw [user_ofTool, Lookup.questions_bind hread]
  rfl

/-- **What the tool's answer comes to** as the record of a name. -/
inductive UserAnswer (answer : Answer) (name : String) : Except Failure (Option UserRecord) → Prop
  /-- It is the record of this name. -/
  | same {line : List Char} {record : UserRecord} (h : answer.IsRecord line record)
    (hname : record.name = name) : UserAnswer answer name (.ok (some record))
  /-- It is a record of another name. -/
  | other {line : List Char} {record : UserRecord} (h : answer.IsRecord line record)
    (hname : record.name ≠ name) : UserAnswer answer name (.ok none)
  /-- There is no such user. -/
  | notFound (h : answer.NotFound) : UserAnswer answer name (.ok none)
  /-- It is neither. -/
  | neither {fault : LookupFault} (hrecord : ¬∃ line record, answer.IsRecord line record)
    (hfound : ¬answer.NotFound) : UserAnswer answer name (.error (.identityLookup fault))

theorem userAnswer_printed (output errors : Bytes) :
    UserAnswer (.finished (.exited 0) output errors) name
      (printedUser (Utf8.decodeLossy output) name).result := by
  have hfound : ¬(Answer.finished (.exited 0) output errors).NotFound :=
    Answer.not_notFound_of_succeeded ⟨output, errors, rfl⟩
  cases hline : (Text.lines (Utf8.decodeLossy output)).find? (!Text.isBlankText ·) with
  | none =>
    rw [printedUser_of_blank hline]
    refine .neither ?_ hfound
    rintro ⟨line, record, h⟩
    rw [Answer.isRecord_iff, hline] at h
    cases h.1
  | some line =>
    cases hrecord : userOfLine line with
    | error fault =>
      rw [printedUser_of_error hline hrecord]
      refine .neither ?_ hfound
      rintro ⟨line', record, h⟩
      rw [Answer.isRecord_iff, hline] at h
      obtain ⟨heq, h⟩ := h
      cases heq
      rw [hrecord] at h
      cases h
    | ok record =>
      have his : (Answer.finished (.exited 0) output errors).IsRecord line record :=
        Answer.isRecord_iff.mpr ⟨hline, hrecord⟩
      by_cases hname : record.name = name
      · rw [printedUser_of_name hline hrecord hname]
        exact .same his hname
      · rw [printedUser_of_other hline hrecord hname]
        exact .other his hname

/-- **Every answer comes to one of these.** -/
theorem userAnswer :
    UserAnswer (tool ["passwd", name]) name ((ofTool program tool).user name).result := by
  have hask : (askRecords program tool ["passwd", name]).result =
      toolOutput program ["passwd", name] (tool ["passwd", name]) := rfl
  rw [user_ofTool]
  by_cases hsucceeded : (tool ["passwd", name]).Succeeded
  · obtain ⟨output, errors, hanswer⟩ := hsucceeded
    rw [hanswer, toolOutput_of_succeeded] at hask
    rw [Lookup.bind_of_ok _ hask, hanswer]
    exact userAnswer_printed name output errors
  · by_cases hfound : (tool ["passwd", name]).NotFound
    · rw [toolOutput_of_notFound _ _ hfound] at hask
      rw [Lookup.bind_of_ok _ hask]
      exact .notFound hfound
    · obtain ⟨fault, hfault⟩ := toolOutput_of_neither program ["passwd", name] hsucceeded hfound
      rw [hfault] at hask
      rw [Lookup.bind_of_error _ hask]
      refine .neither ?_ hfound
      rintro ⟨line, record, h⟩
      exact hsucceeded (Answer.succeeded_of_isRecord h)

variable {program tool name}

/-- The database has a user's record if the tool answered with one of this name. -/
theorem user_eq_some_iff {record : UserRecord} :
    ((ofTool program tool).user name).result = .ok (some record) ↔
      ∃ line, (tool ["passwd", name]).IsRecord line record ∧ record.name = name := by
  have hanswer := userAnswer program tool name
  generalize ((ofTool program tool).user name).result = result at hanswer
  cases hanswer with
  | same h hname =>
    constructor
    · rintro heq
      cases heq
      exact ⟨_, h, hname⟩
    · rintro ⟨line', h', -⟩
      rw [(Answer.isRecord_unique h h').2]
  | other h hname =>
    refine iff_of_false nofun ?_
    rintro ⟨line', h', hname'⟩
    rw [← (Answer.isRecord_unique h h').2] at hname'
    exact hname hname'
  | notFound h =>
    refine iff_of_false nofun ?_
    rintro ⟨line, h', -⟩
    exact Answer.not_notFound_of_succeeded (Answer.succeeded_of_isRecord h') h
  | neither hrecord _ =>
    refine iff_of_false nofun ?_
    rintro ⟨line, h, -⟩
    exact hrecord ⟨line, record, h⟩

variable (program)

theorem hasUser_iff :
    tool.HasUser name ↔ ∃ record, ((ofTool program tool).user name).result = .ok (some record) := by
  rw [Tool.HasUser, exists_comm]
  exact exists_congr fun record => user_eq_some_iff.symm

theorem lacksUser_iff :
    tool.LacksUser name ↔ ((ofTool program tool).user name).result = .ok none := by
  have hanswer := userAnswer program tool name
  generalize ((ofTool program tool).user name).result = result at hanswer
  cases hanswer with
  | same h hname =>
    refine iff_of_false ?_ nofun
    rintro (hfound | ⟨line', record', h', hname'⟩)
    · exact Answer.not_notFound_of_succeeded (Answer.succeeded_of_isRecord h) hfound
    · rw [← (Answer.isRecord_unique h h').2] at hname'
      exact hname' hname
  | other h hname => exact iff_of_true (.inr ⟨_, _, h, hname⟩) rfl
  | notFound h => exact iff_of_true (.inl h) rfl
  | neither hrecord hfound =>
    refine iff_of_false ?_ nofun
    rintro (h | ⟨line, record, h, -⟩)
    · exact hfound h
    · exact hrecord ⟨line, record, h⟩

variable {program}

theorem fault_of_user {failure : Failure}
    (h : ((ofTool program tool).user name).result = .error failure) :
    ∃ fault, failure = .identityLookup fault := by
  have hanswer := userAnswer program tool name
  rw [h] at hanswer
  cases hanswer with
  | neither _ _ => exact ⟨_, rfl⟩

end

/-! ## The question for the groups -/

section

variable (program : Path) (tool : Tool)

theorem groups_ofTool : (ofTool program tool).groups =
    askRecords program tool ["group"] >>= fun output => groupsOfText (output.getD []) :=
  rfl

theorem questions_groupsOfText (contents : List Char) : (groupsOfText contents).questions = [] := by
  rw [Lookup.questions, List.filterMap_eq_nil_iff]
  intro note h
  obtain ⟨fault, rfl⟩ := notes_groupsOfLines h
  rfl

theorem questions_groups : (ofTool program tool).groups.questions = [(program, ["group"])] := by
  rw [groups_ofTool, Lookup.questions_bind fun _ => questions_groupsOfText _]
  rfl

/-- **Groups are listed if the tool ended well or found none**, and otherwise there is a fault. -/
theorem groups_cases :
    (tool.HasGroups ∧ ∃ groups, (ofTool program tool).groups.result = .ok groups) ∨
    (¬tool.HasGroups ∧
      ∃ fault, (ofTool program tool).groups.result = .error (.identityLookup fault)) := by
  have hask : (askRecords program tool ["group"]).result =
      toolOutput program ["group"] (tool ["group"]) := rfl
  rw [groups_ofTool]
  by_cases hsucceeded : (tool ["group"]).Succeeded
  · have hanswered := hsucceeded
    obtain ⟨output, errors, hanswer⟩ := hanswered
    rw [hanswer, toolOutput_of_succeeded] at hask
    rw [Lookup.bind_of_ok _ hask]
    exact .inl ⟨.inl hsucceeded, _, groupsOfLines_result _⟩
  · by_cases hfound : (tool ["group"]).NotFound
    · rw [toolOutput_of_notFound _ _ hfound] at hask
      rw [Lookup.bind_of_ok _ hask]
      exact .inl ⟨.inr hfound, _, groupsOfLines_result _⟩
    · obtain ⟨fault, hfault⟩ := toolOutput_of_neither program ["group"] hsucceeded hfound
      rw [hfault] at hask
      rw [Lookup.bind_of_error _ hask]
      exact .inr ⟨not_or.mpr ⟨hsucceeded, hfound⟩, fault, rfl⟩

variable {program tool}

/-- A status of two says that there are no groups. -/
theorem groups_of_notFound (h : (tool ["group"]).NotFound) :
    (ofTool program tool).groups.result = .ok [] := by
  have hask : (askRecords program tool ["group"]).result = .ok none :=
    toolOutput_of_notFound program _ h
  rw [groups_ofTool, Lookup.bind_of_ok _ hask]
  rfl

end

/-! ## The resolution of a name -/

/-- **How what the tool does decides what a name is resolved to.** -/
structure Classified (program : Path) (tool : Tool) (name : String) (resolved : Lookup Identity) :
    Prop where
  /-- The tool is asked for the user, and for the groups exactly if it has the user's record. -/
  asked : tool.HasUser name ∧
      resolved.questions = [(program, ["passwd", name]), (program, ["group"])] ∨
    ¬tool.HasUser name ∧ resolved.questions = [(program, ["passwd", name])]
  notFound : resolved.result = .error (.userNotFound name) ↔ tool.LacksUser name
  found : (∃ identity, resolved.result = .ok identity) ↔ tool.HasUser name ∧ tool.HasGroups
  /-- What is neither found nor missing is a fault of the database. -/
  otherwise : (∃ identity, resolved.result = .ok identity) ∨
    resolved.result = .error (.userNotFound name) ∨
    ∃ fault, resolved.result = .error (.identityLookup fault)
  /-- An identity is what stands on the line that the tool printed. -/
  printed (identity : Identity) : resolved.result = .ok identity →
    ∃ line record, (tool ["passwd", name]).IsRecord line record ∧ record.name = name ∧
      identity.username = name ∧
      (Text.split ':' line)[2]?.bind Text.uint32? = some identity.uid ∧
      (Text.split ':' line)[3]?.bind Text.uint32? = some identity.gid ∧
      (Text.split ':' line)[5]?.map (fun home => ⟨Utf8.encode home⟩) = some identity.home
  /-- With no groups to list there is only the primary one. -/
  noGroups (identity : Identity) : resolved.result = .ok identity → (tool ["group"]).NotFound →
    identity.groups = [identity.gid]

theorem fields_of_userOfLine {line : List Char} {record : UserRecord}
    (h : userOfLine line = .ok record) :
    (Text.split ':' line)[2]?.bind Text.uint32? = some record.uid ∧
      (Text.split ':' line)[3]?.bind Text.uint32? = some record.gid ∧
      (Text.split ':' line)[5]?.map (fun home => (⟨Utf8.encode home⟩ : Path)) =
        some record.home := by
  obtain ⟨_, _, _, _, _, _, _, _, hsplit, -, huid, hgid, hhome⟩ := userOfLine_eq_ok_iff.mp h
  rw [hsplit]
  exact ⟨huid, hgid, congrArg some hhome⟩

section

variable {program : Path} {tool : Tool} {name : String}

theorem not_hasUser
    (h : ∀ record, ((ofTool program tool).user name).result ≠ .ok (some record)) :
    ¬tool.HasUser name := by
  rw [hasUser_iff program]
  exact not_exists.mpr h

theorem classified_of_userFailed {failure : Failure}
    (huser : ((ofTool program tool).user name).result = .error failure) :
    Classified program tool name ⟨.error failure, ((ofTool program tool).user name).notes⟩ := by
  have hnot : ¬tool.HasUser name := not_hasUser (by rw [huser]; exact nofun)
  have hthere : ¬tool.LacksUser name := by
    rw [lacksUser_iff program, huser]
    exact nofun
  obtain ⟨fault, rfl⟩ := fault_of_user huser
  exact ⟨.inr ⟨hnot, questions_user program tool name⟩, iff_of_false nofun hthere,
    iff_of_false nofun fun h => hnot h.1, .inr (.inr ⟨fault, rfl⟩), nofun, nofun⟩

theorem classified_of_missing
    (huser : ((ofTool program tool).user name).result = .ok none) :
    Classified program tool name
      ⟨.error (.userNotFound name), ((ofTool program tool).user name).notes⟩ := by
  have hnot : ¬tool.HasUser name := not_hasUser (by rw [huser]; exact nofun)
  have hmissing : tool.LacksUser name := (lacksUser_iff program).mpr huser
  exact ⟨.inr ⟨hnot, questions_user program tool name⟩, iff_of_true rfl hmissing,
    iff_of_false nofun fun h => hnot h.1, .inr (.inl rfl), nofun, nofun⟩

section

variable {record : UserRecord}
  (huser : ((ofTool program tool).user name).result = .ok (some record))

include huser

theorem not_lacksUser_of_some : ¬tool.LacksUser name := by
  rw [lacksUser_iff program, huser]
  exact nofun

theorem asked_both (result : Except Failure Identity) :
    tool.HasUser name ∧ (⟨result, ((ofTool program tool).user name).notes ++
      (ofTool program tool).groups.notes⟩ : Lookup Identity).questions =
        [(program, ["passwd", name]), (program, ["group"])] := by
  refine ⟨(hasUser_iff program).mpr ⟨record, huser⟩, ?_⟩
  rw [Lookup.questions_append]
  exact congrArg₂ _ (questions_user program tool name) (questions_groups program tool)

theorem classified_of_groupsFailed {failure : Failure}
    (hgroups : (ofTool program tool).groups.result = .error failure) :
    Classified program tool name ⟨.error failure,
      ((ofTool program tool).user name).notes ++ (ofTool program tool).groups.notes⟩ := by
  rcases groups_cases program tool with ⟨-, groups, hlisted⟩ | ⟨hneither, fault, hfault⟩
  · rw [hlisted] at hgroups
    cases hgroups
  · rw [hfault] at hgroups
    cases hgroups
    exact ⟨.inl (asked_both huser _), iff_of_false nofun (not_lacksUser_of_some huser),
      iff_of_false nofun fun h => hneither h.2, .inr (.inr ⟨fault, rfl⟩), nofun, nofun⟩

theorem classified_of_found {groups : List GroupRecord} (hname : record.name = name)
    (hgroups : (ofTool program tool).groups.result = .ok groups) :
    Classified program tool name ⟨.ok (identityOf record groups),
      ((ofTool program tool).user name).notes ++ (ofTool program tool).groups.notes⟩ := by
  rcases groups_cases program tool with ⟨hlisted, -⟩ | ⟨-, fault, hfault⟩
  · have hboth := asked_both huser (.ok (identityOf record groups))
    refine ⟨.inl hboth, iff_of_false nofun (not_lacksUser_of_some huser),
      iff_of_true ⟨_, rfl⟩ ⟨hboth.1, hlisted⟩, .inl ⟨_, rfl⟩, ?_, ?_⟩
    · rintro identity heq
      cases heq
      obtain ⟨line, hrecord, -⟩ := user_eq_some_iff.mp huser
      have hread := Answer.userOfLine_of_isRecord hrecord
      exact ⟨line, record, hrecord, hname, hname, fields_of_userOfLine hread⟩
    · rintro identity heq hnone
      cases heq
      rw [groups_of_notFound hnone] at hgroups
      cases hgroups
      rfl
  · rw [hfault] at hgroups
    cases hgroups

end

end

/-- **Whatever the tool does, the resolution of a name is classified.** A name that is none is
refused before anything is asked. -/
theorem resolve_classified (program : Path) (tool : Tool) (name : String) :
    (checkUsername name ≠ .ok () →
      (resolve (ofTool program tool) name).result = .error (.invalidUsername name) ∧
        (resolve (ofTool program tool) name).notes = []) ∧
    (checkUsername name = .ok () →
      Classified program tool name (resolve (ofTool program tool) name)) := by
  have hends := resolution (ofTool program tool) name
  generalize resolve (ofTool program tool) name = resolved at hends
  cases hends with
  | refused h =>
    rw [h]
    exact ⟨fun _ => ⟨rfl, rfl⟩, nofun⟩
  | userFailed h huser =>
    exact ⟨fun hnot => absurd h hnot, fun _ => classified_of_userFailed huser⟩
  | @missing found h huser hother =>
    refine ⟨fun hnot => absurd h hnot, fun _ => ?_⟩
    -- The reader of the tool's output took another account's record for none.
    cases found with
    | none => exact classified_of_missing huser
    | some record =>
      obtain ⟨line, -, hname⟩ := user_eq_some_iff.mp huser
      exact absurd hname (hother record rfl)
  | groupsFailed h huser _ hgroups =>
    exact ⟨fun hnot => absurd h hnot, fun _ => classified_of_groupsFailed huser hgroups⟩
  | found h huser hname hgroups =>
    exact ⟨fun hnot => absurd h hnot, fun _ => classified_of_found huser hname hgroups⟩

end Account

end DisplaySession
