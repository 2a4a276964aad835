import DisplaySession.Proofs.Toml.Setting

/-
The lines of a written document are statements: a header for each section and a pair for each
setting.

Each line is taken with whatever stands behind it, so lines are put together by induction on the
settings, and sections by induction on the sections.
-/
set_option autoImplicit false

namespace DisplaySession.Toml

/-! ## Keys -/

/-- **A bare key**: characters that need no quotes, and at least one. -/
def IsBare (key : String) : Prop :=
  key.toList ≠ [] ∧ ∀ c ∈ key.toList, isKeyChar c = true

instance (key : String) : Decidable (IsBare key) :=
  decidable_of_iff (key.toList ≠ [] ∧ key.toList.all isKeyChar = true)
    (by rw [IsBare, List.all_eq_true])

theorem ne_of_isKeyChar {c d : Char} (hc : isKeyChar c = true) (hd : isKeyChar d = false) :
    c ≠ d := by
  rintro rfl
  rw [hc] at hd
  cases hd

theorem simpleKey_bare {key : String} (h : IsBare key) {d : Char} (hd : isKeyChar d = false)
    (rest : List Char) : simpleKey (key.toList ++ d :: rest) = some (key, d :: rest) := by
  obtain ⟨c, cs, hkey⟩ := List.exists_cons_of_ne_nil h.1
  have hc : isKeyChar c = true := h.2 c (hkey ▸ List.mem_cons_self)
  have htake : (key.toList ++ d :: rest).takeWhile isKeyChar = key.toList := by
    rw [List.takeWhile_append_of_pos h.2, List.takeWhile_cons, hd]
    simp
  have hdrop : (key.toList ++ d :: rest).dropWhile isKeyChar = d :: rest := by
    rw [List.dropWhile_append_of_pos h.2, List.dropWhile_cons, hd]
    simp
  have hempty : key.toList.isEmpty = false := List.isEmpty_eq_false_iff.mpr h.1
  -- A key that begins with a quote or an apostrophe would be read as a text.
  rw [simpleKey.eq_def]
  split
  · rename_i hcons
    rw [hkey] at hcons
    exact absurd (List.cons.inj hcons).1 (ne_of_isKeyChar hc rfl)
  · rename_i hcons
    rw [hkey] at hcons
    exact absurd (List.cons.inj hcons).1 (ne_of_isKeyChar hc rfl)
  · rw [htake, hdrop, hempty, String.ofList_toList]
    rfl

theorem skipSpace_cons {c : Char} (h : isSpace c = false) (cs : List Char) :
    skipSpace (c :: cs) = c :: cs := by
  rw [skipSpace, List.dropWhile_cons, h]
  rfl

theorem skipSpace_space (cs : List Char) : skipSpace (' ' :: cs) = skipSpace cs :=
  rfl

theorem isSpace_of_isKeyChar {c : Char} (h : isKeyChar c = true) : isSpace c = false := by
  rw [isSpace, Bool.or_eq_false_iff, beq_eq_false_iff_ne, beq_eq_false_iff_ne]
  exact ⟨ne_of_isKeyChar h rfl, ne_of_isKeyChar h rfl⟩

theorem skipSpace_bare {key : String} (h : IsBare key) (rest : List Char) :
    skipSpace (key.toList ++ rest) = key.toList ++ rest := by
  obtain ⟨c, cs, hkey⟩ := List.exists_cons_of_ne_nil h.1
  rw [hkey, List.cons_append]
  exact skipSpace_cons (isSpace_of_isKeyChar (h.2 c (hkey ▸ List.mem_cons_self))) _

/-- **A bare key is a path by itself** if no point follows it. -/
theorem keyPath_bare {key : String} (h : IsBare key) {d e : Char} {rest after : List Char}
    (hd : isKeyChar d = false) (hrest : skipSpace (d :: rest) = e :: after) (he : e ≠ '.')
    (steps : Nat) :
    keyPath (steps + 1) (key.toList ++ d :: rest) = some (([], key), e :: after) := by
  have hkeys : dottedKeys (steps + 1) (key.toList ++ d :: rest) = some ([key], e :: after) := by
    rw [dottedKeys, skipSpace_bare h, simpleKey_bare h hd]
    simp only [Option.bind_eq_bind, Option.bind_some, hrest]
    split
    · rename_i hpoint
      exact absurd (List.cons.inj hpoint).1 he
    · rfl
  rw [keyPath, hkeys]
  rfl

/-! ## Statements -/

/-- **A section that the writer can hold**: bare keys that are all different, and settings that
fit. -/
structure Section.WellFormed (s : Section) : Prop where
  name : IsBare s.name
  keys : ∀ pair ∈ s.settings, IsBare pair.1
  distinct : (s.settings.map (·.1)).Nodup
  fits : ∀ pair ∈ s.settings, pair.2.Fits

def pairStatement (pair : String × Setting) : Statement :=
  .pair [] pair.1 pair.2.value

/-- **The statements that a section is read as.** -/
def sectionStatements (s : Section) : List Statement :=
  .openTable [] s.name :: s.settings.map pairStatement

theorem lineEnd_feed (rest : List Char) : lineEnd false ('\n' :: rest) = some rest := by
  rw [lineEnd, if_pos rfl]

/-- A setting on a line is a statement. -/
theorem statement_writePair {pair : String × Setting} (hkey : IsBare pair.1)
    (hfits : pair.2.Fits) (steps : Nat) (rest : List Char) :
    statement (steps + 1) (writePair pair ++ rest) = some (pairStatement pair, '\n' :: rest) := by
  obtain ⟨c, cs, hcons⟩ := List.exists_cons_of_ne_nil hkey.1
  have hc : isKeyChar c = true := hkey.2 c (hcons ▸ List.mem_cons_self)
  have hline : writePair pair ++ rest =
      pair.1.toList ++ ' ' :: '=' :: ' ' :: (writeSetting pair.2 ++ '\n' :: rest) := by
    simp [writePair]
  have hpath : keyPath (steps + 1)
      (pair.1.toList ++ ' ' :: '=' :: ' ' :: (writeSetting pair.2 ++ '\n' :: rest)) =
        some (([], pair.1), '=' :: ' ' :: (writeSetting pair.2 ++ '\n' :: rest)) :=
    keyPath_bare hkey rfl rfl (by decide) steps
  have hspace : skipSpace (' ' :: (writeSetting pair.2 ++ '\n' :: rest)) =
      writeSetting pair.2 ++ '\n' :: rest := by
    obtain ⟨q, qs, hq, hkind⟩ := writeSetting_cons pair.2
    rw [skipSpace_space, hq, List.cons_append, skipSpace_cons hkind]
  -- A line that begins with a bracket would be a header.
  rw [hline, statement.eq_def]
  split
  · rename_i h
    rw [hcons] at h
    exact absurd (List.cons.inj h).1 (ne_of_isKeyChar hc rfl)
  · rename_i h
    rw [hcons] at h
    exact absurd (List.cons.inj h).1 (ne_of_isKeyChar hc rfl)
  rw [Toml.pair, hpath]
  simp only [Option.bind_eq_bind, Option.bind_some, hspace, value_writeSetting hfits]
  rfl

/-- A header on a line is a statement. -/
theorem statement_header {name : String} (hname : IsBare name) (steps : Nat) (rest : List Char) :
    statement (steps + 1) ('[' :: (name.toList ++ ']' :: '\n' :: rest)) =
      some (.openTable [] name, '\n' :: rest) := by
  obtain ⟨c, cs, hcons⟩ := List.exists_cons_of_ne_nil hname.1
  have hc : isKeyChar c = true := hname.2 c (hcons ▸ List.mem_cons_self)
  have hpath : keyPath (steps + 1) (name.toList ++ ']' :: '\n' :: rest) =
      some (([], name), ']' :: '\n' :: rest) :=
    keyPath_bare hname rfl rfl (by decide) steps
  -- With a second bracket, the line would open a list of tables.
  rw [statement.eq_def]
  split
  · rename_i h
    rw [hcons] at h
    exact absurd (List.cons.inj (List.cons.inj h).2).1 (ne_of_isKeyChar hc rfl)
  · rename_i h
    obtain rfl := (List.cons.inj h).2
    rw [header, hpath]
    rfl
  · rename_i h
    exact absurd rfl (h _)

/-! ## Lines -/

/-- An empty line says nothing. -/
theorem statements_feed (steps lines : Nat) (rest : List Char) :
    statements steps (lines + 1) ('\n' :: rest) = statements steps lines rest := by
  have hspace : skipSpace ('\n' :: rest) = '\n' :: rest := skipSpace_cons rfl rest
  have hsilent : isSilent ('\n' :: rest) = true := rfl
  rw [statements]
  simp only [hspace, List.isEmpty_cons, Bool.false_eq_true, if_false, hsilent, if_true,
    lineEnd_feed, Option.bind_eq_bind, Option.bind_some]

/-- A line with a statement says that statement. -/
theorem statements_line {steps : Nat} {c : Char} {cs rest : List Char} {s : Statement}
    (hspace : isSpace c = false) (hsilent : isSilent (c :: cs) = false)
    (hread : statement steps (c :: cs) = some (s, '\n' :: rest)) (lines : Nat) :
    statements steps (lines + 1) (c :: cs) = (statements steps lines rest).map (s :: ·) := by
  rw [statements]
  simp only [skipSpace_cons hspace, List.isEmpty_cons, Bool.false_eq_true, if_false, hsilent, hread,
    lineEnd_feed, Option.bind_eq_bind, Option.bind_some]
  cases statements steps lines rest <;> rfl

theorem isSilent_of_isKeyChar {c : Char} (h : isKeyChar c = true) (cs : List Char) :
    isSilent (c :: cs) = false := by
  rw [isSilent, Bool.or_eq_false_iff, Bool.or_eq_false_iff, beq_eq_false_iff_ne,
    beq_eq_false_iff_ne, beq_eq_false_iff_ne]
  exact ⟨⟨ne_of_isKeyChar h rfl, ne_of_isKeyChar h rfl⟩, ne_of_isKeyChar h rfl⟩

theorem writePair_cons {pair : String × Setting} (h : IsBare pair.1) :
    ∃ c cs, writePair pair = c :: cs ∧ isKeyChar c = true := by
  obtain ⟨c, cs, hcons⟩ := List.exists_cons_of_ne_nil h.1
  have hwritten : writePair pair =
      c :: (cs ++ [' ', '=', ' '] ++ writeSetting pair.2 ++ ['\n']) := by
    rw [writePair, hcons]
    rfl
  exact ⟨c, _, hwritten, h.2 c (hcons ▸ List.mem_cons_self)⟩

/-- **Settings on lines are statements**, one for each. -/
theorem statements_settings {settings : List (String × Setting)}
    (hkeys : ∀ pair ∈ settings, IsBare pair.1) (hfits : ∀ pair ∈ settings, pair.2.Fits)
    (steps lines : Nat) (rest : List Char) :
    statements (steps + 1) (lines + settings.length) (settings.flatMap writePair ++ rest) =
      (statements (steps + 1) lines rest).map (settings.map pairStatement ++ ·) := by
  induction settings with
  | nil =>
    rw [List.flatMap_nil, List.nil_append]
    exact (Option.map_id' ..).symm
  | cons pair settings ih =>
    have hkey := hkeys pair List.mem_cons_self
    have hread := statement_writePair hkey (hfits pair List.mem_cons_self) steps
      (settings.flatMap writePair ++ rest)
    obtain ⟨c, cs, hcons, hc⟩ := writePair_cons hkey
    have hrest := ih (fun p hp => hkeys p (List.mem_cons_of_mem _ hp))
      (fun p hp => hfits p (List.mem_cons_of_mem _ hp))
    rw [List.flatMap_cons, List.append_assoc]
    rw [hcons, List.cons_append] at hread ⊢
    rw [List.length_cons, ← Nat.add_assoc,
      statements_line (isSpace_of_isKeyChar hc) (isSilent_of_isKeyChar hc _) hread, hrest]
    cases statements (steps + 1) lines rest <;> rfl

/-- **A section is its statements.** -/
theorem statements_writeSection {s : Section} (h : s.WellFormed) (steps lines : Nat)
    (rest : List Char) :
    statements (steps + 1) (lines + (s.settings.length + 1)) (writeSection s ++ rest) =
      (statements (steps + 1) lines rest).map (sectionStatements s ++ ·) := by
  have hsection : writeSection s ++ rest =
      '[' :: (s.name.toList ++ ']' :: '\n' :: (s.settings.flatMap writePair ++ rest)) := by
    simp [writeSection]
  have hread := statement_header h.name steps (s.settings.flatMap writePair ++ rest)
  rw [hsection, ← Nat.add_assoc, statements_line rfl rfl hread,
    statements_settings h.keys h.fits]
  cases statements (steps + 1) lines rest <;> rfl

theorem lines_lt_length (s : Section) : s.settings.length + 1 < (writeSection s).length := by
  have hsettings : s.settings.length ≤ (s.settings.flatMap writePair).length := by
    induction s.settings with
    | nil => exact Nat.le_refl 0
    | cons pair settings ih =>
      have hpair : 1 ≤ (writePair pair).length := by
        simp only [writePair, List.length_append, List.length_cons]
        omega
      rw [List.flatMap_cons, List.length_append, List.length_cons]
      omega
  simp only [writeSection, List.length_cons, List.length_append]
  omega

theorem writeSections_one (s : Section) : writeSections [s] = writeSection s := by
  rw [writeSections, List.map_singleton, List.intercalate_singleton]

/-- Between two sections stands an empty line. -/
theorem writeSections_more (s s' : Section) (sections : List Section) :
    writeSections (s :: s' :: sections) =
      writeSection s ++ '\n' :: writeSections (s' :: sections) := by
  simp [writeSections, List.intercalate]

theorem writeSections_cons (s : Section) (sections : List Section) :
    ∃ cs, writeSections (s :: sections) = '[' :: cs := by
  cases sections with
  | nil =>
    rw [writeSections_one]
    exact ⟨_, rfl⟩
  | cons s' sections =>
    rw [writeSections_more]
    exact ⟨_, rfl⟩

/-- **A document that was written is its statements.** -/
theorem statements_writeSections {sections : List Section} (h : ∀ s ∈ sections, s.WellFormed)
    (steps : Nat) {lines : Nat} (hlines : (writeSections sections).length < lines) :
    statements (steps + 1) lines (writeSections sections) =
      some (sections.flatMap sectionStatements) := by
  induction sections generalizing lines with
  | nil =>
    obtain ⟨lines, rfl⟩ := Nat.exists_eq_add_of_le' (show 1 ≤ lines by omega)
    rw [statements]
    rfl
  | cons s sections ih =>
    -- The reader counts down once for each line, and it was given a count beyond the characters.
    have hs := h s List.mem_cons_self
    have hlong := lines_lt_length s
    cases sections with
    | nil =>
      have hone : writeSections [s] = writeSection s ++ [] := by
        rw [writeSections_one, List.append_nil]
      rw [writeSections_one] at hlines
      obtain ⟨extra, rfl⟩ := Nat.exists_eq_add_of_le'
        (show s.settings.length + 1 + 1 ≤ lines by omega)
      have hend : statements (steps + 1) (extra + 1) [] = some [] := by
        rw [statements]
        rfl
      rw [hone, Nat.add_comm (s.settings.length + 1), ← Nat.add_assoc, statements_writeSection hs,
        hend]
      rfl
    | cons s' sections =>
      rw [writeSections_more, List.length_append, List.length_cons] at hlines
      obtain ⟨extra, rfl⟩ := Nat.exists_eq_add_of_le'
        (show s.settings.length + 1 + 1 ≤ lines by omega)
      have hrest : statements (steps + 1) extra (writeSections (s' :: sections)) = _ :=
        ih (fun t ht => h t (List.mem_cons_of_mem _ ht)) (by omega)
      rw [writeSections_more, Nat.add_comm (s.settings.length + 1), ← Nat.add_assoc,
        statements_writeSection hs, statements_feed, hrest]
      rfl

end DisplaySession.Toml
