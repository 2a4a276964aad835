import DisplaySession.Toml.Text
import DisplaySession.Toml.Writer

/-
Every text reads back, in whichever style it was written.

The writer picks a style by what is in a text, and the reader finds out the style by the first
characters; in between stand the escapes and the quotes next to the closing ones. For each of the
four styles there is one statement about the inside of a text, by induction on its characters
(`basic_escape`, `basicBlock_escape`, `literal_append`, `literalBlock_append`), and `text_writeText`
puts them together.

What stands behind a text matters, because a quote there could belong to it. A setting ends with its
line, so a line feed stands there.
-/
set_option autoImplicit false

namespace DisplaySession.Toml

/-! ## One character between quotes -/

/-- **How a character is written between quotes.** -/
inductive Written (block : Bool) (c : Char) : List Char → Prop
  /-- A backslash and a character that stands for it. -/
  | short {e : Char} (h : escaped? e = some c)
    (hfold : isSpace e = false ∧ e ≠ '\n' ∧ e ≠ '\r') : Written block c ['\\', e]
  /-- The number of the character. -/
  | number (h : c.toNat < 0x80) : Written block c ('\\' :: 'u' :: hex4 c.toNat)
  /-- The character itself. -/
  | self (hquote : c ≠ '"') (hbackslash : c ≠ '\\') (hreturn : c ≠ '\r')
    (hplain : isPlain c = true ∨ block = true ∧ c = '\n') : Written block c [c]

theorem written_escapeChar (block : Bool) {c : Char} (hquote : c ≠ '"') :
    Written block c (escapeChar block c) := by
  unfold escapeChar
  split
  · subst c
    exact .short rfl ⟨rfl, by decide, by decide⟩
  split
  · subst c
    exact .short rfl ⟨rfl, by decide, by decide⟩
  split
  · subst c
    split
    · rename_i hblock
      exact .self (by decide) (by decide) (by decide) (.inr ⟨hblock, rfl⟩)
    · exact .short rfl ⟨rfl, by decide, by decide⟩
  split
  · subst c
    exact .short rfl ⟨rfl, by decide, by decide⟩
  split
  · subst c
    exact .short rfl ⟨rfl, by decide, by decide⟩
  split
  · subst c
    exact .short rfl ⟨rfl, by decide, by decide⟩
  split
  · rename_i hcontrol
    refine .number ?_
    rcases hcontrol with h | h
    · omega
    · subst c
      decide
  · rename_i hreturn hbackslash hcontrol
    rw [not_or] at hcontrol
    refine .self hquote hbackslash hreturn (.inl ?_)
    rw [isPlain, Bool.or_eq_true, Bool.and_eq_true, decide_eq_true_eq, bne_iff_ne]
    exact .inr ⟨by omega, hcontrol.2⟩

/-- **The four digits of a number read back.** -/
theorem charOfHex?_hex4 : ∀ n < 0x80, charOfHex? (hex4 n) = some (Char.ofNat n) := by
  decide +kernel

theorem escape_nil (block : Bool) (free : Nat) : escape block free [] = [] := by
  rw [escape.eq_def]

theorem escape_bound (block : Bool) (cs : List Char) :
    escape block 0 ('"' :: cs) = '\\' :: '"' :: escape block (freeQuotes block) cs := by
  rw [escape.eq_def]
  rfl

theorem escape_free (block : Bool) (free : Nat) (cs : List Char) :
    escape block (free + 1) ('"' :: cs) = '"' :: escape block free cs := by
  rw [escape.eq_def]
  rfl

theorem escape_other (block : Bool) (free : Nat) {c : Char} (h : c ≠ '"') (cs : List Char) :
    escape block free (c :: cs) = escapeChar block c ++ escape block (freeQuotes block) cs := by
  rw [escape.eq_def]
  exact if_neg h

/-- What is written begins with a backslash or with the first character. -/
theorem escape_cons (block : Bool) (free : Nat) (c : Char) (cs : List Char) :
    ∃ d ds, escape block free (c :: cs) = d :: ds ∧
      (d = '\\' ∨ d = c ∧ c ≠ '\r' ∧ (c = '"' → free ≠ 0)) := by
  by_cases hquote : c = '"'
  · subst hquote
    cases free with
    | zero => exact ⟨_, _, escape_bound block cs, .inl rfl⟩
    | succ free =>
      exact ⟨_, _, escape_free block free cs, .inr ⟨rfl, by decide, fun _ => Nat.succ_ne_zero _⟩⟩
  · have hwritten := written_escapeChar block hquote
    rw [escape_other _ _ hquote]
    generalize escapeChar block c = written at hwritten ⊢
    cases hwritten with
    | short _ _ => exact ⟨_, _, rfl, .inl rfl⟩
    | number _ => exact ⟨_, _, rfl, .inl rfl⟩
    | self _ _ hreturn _ => exact ⟨_, _, rfl, .inr ⟨rfl, hreturn, fun h => absurd h hquote⟩⟩

theorem escape_head (block : Bool) {free : Nat} {c : Char} (h : c ≠ '"' ∨ free = 0)
    (cs : List Char) : ∃ d ds, escape block free (c :: cs) = d :: ds ∧ d ≠ '"' := by
  obtain ⟨d, ds, hwritten, hd⟩ := escape_cons block free c cs
  refine ⟨d, ds, hwritten, ?_⟩
  rintro rfl
  rcases hd with hd | ⟨rfl, -, hfree⟩
  · cases hd
  · exact h.elim (fun hne => hne rfl) (hfree rfl)

/-! ## Between quotes -/

theorem basic_written {c : Char} {written : List Char} (h : Written false c written)
    (rest : List Char) : basic (written ++ rest) = push c (basic rest) := by
  cases h with
  | short h hfold =>
    rw [List.cons_append, basic.eq_def]
    simp [h]
  | number h =>
    have hread := charOfHex?_hex4 c.toNat h
    obtain ⟨h1, h2, h3, h4, hdigits⟩ : ∃ h1 h2 h3 h4, hex4 c.toNat = [h1, h2, h3, h4] :=
      ⟨_, _, _, _, rfl⟩
    rw [hdigits, Char.ofNat_toNat] at hread
    rw [hdigits, List.cons_append, basic.eq_def]
    simp [escaped?, hread]
  | self hquote hbackslash hreturn hplain =>
    -- A line feed is written as itself in blocks only.
    rcases hplain with hplain | ⟨hblock, -⟩
    · rw [List.singleton_append, basic.eq_def]
      simp [hquote, hbackslash, hplain]
    · cases hblock

/-- **A text between quotes reads back.** -/
theorem basic_escape (cs rest : List Char) :
    basic (escape false 0 cs ++ '"' :: rest) = some (cs, rest) := by
  induction cs with
  | nil =>
    rw [escape_nil, List.nil_append, basic.eq_def]
    simp
  | cons c cs ih =>
    by_cases hquote : c = '"'
    · subst hquote
      have hread : basic ('\\' :: '"' :: (escape false 0 cs ++ '"' :: rest)) =
          push '"' (basic (escape false 0 cs ++ '"' :: rest)) := by
        rw [basic.eq_def]
        simp [escaped?]
      rw [escape_bound]
      exact hread.trans (congrArg (push '"') ih)
    · rw [escape_other _ _ hquote, List.append_assoc,
        basic_written (written_escapeChar false hquote)]
      exact congrArg (push c) ih

/-! ## Between apostrophes -/

theorem literal_append {cs : List Char} (happostrophe : '\'' ∉ cs)
    (hplain : ∀ c ∈ cs, isPlain c = true) (rest : List Char) :
    literal (cs ++ '\'' :: rest) = some (cs, rest) := by
  induction cs with
  | nil =>
    rw [List.nil_append, literal, if_pos rfl]
  | cons c cs ih =>
    rw [List.mem_cons, not_or] at happostrophe
    have hc := hplain c List.mem_cons_self
    have hread : literal (c :: (cs ++ '\'' :: rest)) = push c (literal (cs ++ '\'' :: rest)) := by
      rw [literal, if_neg (Ne.symm happostrophe.1), if_pos hc]
    rw [List.cons_append, hread, ih happostrophe.2 fun d hd => hplain d (List.mem_cons_of_mem _ hd)]
    rfl

/-! ## In a block between three quotes -/

theorem basicBlock_written {c : Char} {written : List Char} (h : Written true c written)
    (rest : List Char) :
    basicBlock .none (written ++ rest) = push c (basicBlock .none rest) := by
  cases h with
  | @short e h hfold =>
    -- A backslash in front of blanks and a line end would take both away.
    have hkept : foldsLine (e :: rest) = false := by simp [foldsLine, hfold]
    rw [List.cons_append, List.singleton_append, basicBlock.eq_def]
    simp only [ne_eq, not_true_eq_false, false_and, if_false, if_true, hkept, h,
      Bool.false_eq_true, Char.reduceEq]
  | number h =>
    have hread := charOfHex?_hex4 c.toNat h
    obtain ⟨h1, h2, h3, h4, hdigits⟩ : ∃ h1 h2 h3 h4, hex4 c.toNat = [h1, h2, h3, h4] :=
      ⟨_, _, _, _, rfl⟩
    rw [hdigits, Char.ofNat_toNat] at hread
    have hkept : foldsLine ('u' :: h1 :: h2 :: h3 :: h4 :: rest) = false := rfl
    have hnone : escaped? 'u' = none := rfl
    rw [hdigits]
    simp only [List.cons_append, List.nil_append]
    rw [basicBlock.eq_def]
    simp only [ne_eq, not_true_eq_false, false_and, if_false, if_true, hkept, hnone, hread,
      Bool.false_eq_true, Char.reduceEq]
  | self hquote hbackslash hreturn hplain =>
    have hplain' : c = '\n' ∨ isPlain c = true := hplain.elim .inr fun h => .inl h.2
    rw [List.singleton_append, basicBlock.eq_def]
    simp only [ne_eq, not_true_eq_false, false_and, if_false, hquote, hbackslash, hreturn, hplain',
      if_true]

/-- A quote in a block is one of the text unless two others follow. -/
theorem basicBlock_quote {rest : List Char} (h : pairNext '"' rest = false) :
    basicBlock .none ('"' :: rest) = push '"' (basicBlock .none rest) := by
  rw [basicBlock.eq_def]
  simp [h]

theorem basicBlock_close (rest : List Char) :
    basicBlock .none ('"' :: '"' :: '"' :: rest) =
      some ((closing '"' rest).1, (closing '"' rest).2) := by
  rw [basicBlock.eq_def]
  simp [pairNext]

/-- **Behind a quote of a text, two others follow only if the text ends there**: with the quote, or
with one more. -/
theorem end_of_pairNext {free : Nat} {cs rest : List Char} (hfree : free ≤ 1)
    (h : pairNext '"' (escape true free cs ++ '"' :: '"' :: '"' :: rest) = true) :
    cs = [] ∨ cs = ['"'] ∧ free = 1 := by
  cases cs with
  | nil => exact .inl rfl
  | cons c cs =>
    -- Of what is written, only a quote of the text that is still free begins with a quote.
    by_cases hhead : c ≠ '"' ∨ free = 0
    · obtain ⟨d, ds, hwritten, hd⟩ := escape_head true hhead cs
      rw [hwritten, List.cons_append] at h
      cases ds <;> simp [pairNext, hd] at h
    · rw [not_or, Decidable.not_not] at hhead
      obtain ⟨rfl, hzero⟩ := hhead
      obtain rfl : free = 1 := by omega
      cases cs with
      | nil => exact .inr ⟨rfl, rfl⟩
      | cons e es =>
        -- That quote was the last free one, so whatever follows it begins with no quote.
        obtain ⟨d, ds, hwritten, hd⟩ : ∃ d ds, escape true 0 (e :: es) = d :: ds ∧ d ≠ '"' :=
          escape_head true (.inr rfl) es
        rw [escape_free, hwritten] at h
        simp [pairNext, hd] at h

/-- **A text in a block between three quotes reads back**, with the quotes at its end. -/
theorem basicBlock_escape {free : Nat} (hfree : free ≤ 2) (cs rest : List Char) :
    basicBlock .none (escape true free cs ++ '"' :: '"' :: '"' :: '\n' :: rest) =
      some (cs, '\n' :: rest) := by
  -- The number of quotes that are still free changes along the text, so it stays general.
  induction cs generalizing free with
  | nil =>
    rw [escape_nil, List.nil_append, basicBlock_close]
    rfl
  | cons c cs ih =>
    by_cases hquote : c = '"'
    · subst hquote
      cases free with
      | zero =>
        rw [escape_bound]
        have hescaped : Written true '"' ['\\', '"'] := .short rfl ⟨rfl, by decide, by decide⟩
        exact (basicBlock_written hescaped _).trans
          (congrArg (push '"') (ih (Nat.le_refl 2)))
      | succ free =>
        rw [escape_free, List.cons_append]
        cases hpair : pairNext '"' (escape true free cs ++ '"' :: '"' :: '"' :: '\n' :: rest) with
        | false => exact (basicBlock_quote hpair).trans (congrArg (push '"') (ih (by omega)))
        | true =>
          -- The text ends here, and its last quotes stand behind those that close the block.
          rcases end_of_pairNext (by omega) hpair with rfl | ⟨rfl, rfl⟩
          · rw [escape_nil]
            exact basicBlock_close _
          · rw [escape_free, escape_nil]
            exact basicBlock_close _
    · rw [escape_other _ _ hquote, List.append_assoc,
        basicBlock_written (written_escapeChar true hquote)]
      exact congrArg (push c) (ih (Nat.le_refl 2))

/-! ## In a block between three apostrophes -/

theorem le_longestRun (c : Char) (run : Nat) (cs : List Char) : run ≤ longestRun c run cs := by
  induction cs generalizing run with
  | nil => exact Nat.le_refl run
  | cons d ds ih =>
    rw [longestRun]
    split
    · exact Nat.le_trans (Nat.le_succ run) (ih (run + 1))
    · exact Nat.le_max_left _ _

theorem longestRun_mono (c : Char) {run run' : Nat} (h : run ≤ run') (cs : List Char) :
    longestRun c run cs ≤ longestRun c run' cs := by
  induction cs generalizing run run' with
  | nil => exact h
  | cons d ds ih =>
    rw [longestRun, longestRun]
    split
    · exact ih (Nat.succ_le_succ h)
    · omega

/-- No quote but the last two of a text has two others behind it. -/
theorem end_of_short {cs rest : List Char} (hruns : longestRun '\'' 1 cs ≤ 2)
    (h : pairNext '\'' (cs ++ '\'' :: '\'' :: '\'' :: rest) = true) : cs = [] ∨ cs = ['\''] := by
  cases cs with
  | nil => exact .inl rfl
  | cons c cs =>
    -- Two apostrophes follow. Both of the text, they would make a run of three with the one in
    -- front.
    have hc : c = '\'' := by
      cases cs with
      | nil => simpa [pairNext] using h
      | cons d ds =>
        simp [pairNext] at h
        exact h.1
    subst hc
    cases cs with
    | nil => exact .inr rfl
    | cons d ds =>
      have hd : d = '\'' := by simpa [pairNext] using h
      have hthree := le_longestRun '\'' (1 + 1 + 1) ds
      rw [hd, longestRun, if_pos rfl, longestRun, if_pos rfl] at hruns
      omega

theorem literalBlock_plain {c : Char} (happostrophe : c ≠ '\'')
    (hplain : c = '\n' ∨ isPlain c = true) (rest : List Char) :
    literalBlock (c :: rest) = push c (literalBlock rest) := by
  have hreturn : c ≠ '\r' := by
    rintro rfl
    rcases hplain with h | h <;> cases h
  rw [literalBlock, if_neg hreturn, if_neg happostrophe, if_pos hplain]

theorem literalBlock_apostrophe {rest : List Char} (h : pairNext '\'' rest = false) :
    literalBlock ('\'' :: rest) = push '\'' (literalBlock rest) := by
  rw [literalBlock, if_neg (by decide), if_pos rfl, h]
  rfl

theorem literalBlock_close (rest : List Char) :
    literalBlock ('\'' :: '\'' :: '\'' :: rest) =
      some ((closing '\'' rest).1, (closing '\'' rest).2) := by
  rw [literalBlock, if_neg (by decide), if_pos rfl]
  rfl

/-- **A text in a block between three apostrophes reads back**, with the apostrophes at its end. -/
theorem literalBlock_append {cs : List Char} (hruns : longestRun '\'' 0 cs ≤ 2)
    (hplain : ∀ c ∈ cs, c = '\n' ∨ isPlain c = true) (rest : List Char) :
    literalBlock (cs ++ '\'' :: '\'' :: '\'' :: '\n' :: rest) = some (cs, '\n' :: rest) := by
  induction cs with
  | nil => exact literalBlock_close _
  | cons c cs ih =>
    have hplain' : ∀ d ∈ cs, d = '\n' ∨ isPlain d = true :=
      fun d hd => hplain d (List.mem_cons_of_mem _ hd)
    rw [longestRun] at hruns
    rw [List.cons_append]
    by_cases happostrophe : c = '\''
    · subst happostrophe
      rw [if_pos rfl] at hruns
      -- The rest is looked at with no run open, which can only make its runs shorter.
      have hruns' := Nat.le_trans (longestRun_mono '\'' (Nat.zero_le 1) cs) hruns
      cases hpair : pairNext '\'' (cs ++ '\'' :: '\'' :: '\'' :: '\n' :: rest) with
      | false =>
        rw [literalBlock_apostrophe hpair, ih hruns' hplain']
        rfl
      | true =>
        -- The text ends here, and its last apostrophes stand behind those that close the block.
        rcases end_of_short hruns hpair with rfl | rfl
        · exact literalBlock_close _
        · exact literalBlock_close _
    · rw [if_neg happostrophe] at hruns
      rw [literalBlock_plain happostrophe (hplain c List.mem_cons_self),
        ih (by omega) hplain']
      rfl

/-! ## Any text -/

/-- The line feed behind the opening of a block is left out again, and nothing else is. -/
theorem dropLineEnd_opening {cs body : List Char}
    (hbody : '\n' ∉ cs → ∃ c rest, body = c :: rest ∧ c ≠ '\n' ∧ c ≠ '\r') :
    dropLineEnd (opening cs ++ body) = body := by
  unfold opening
  split
  · rfl
  · rename_i hfeed
    obtain ⟨c, rest, rfl, hline, hreturn⟩ := hbody (by simpa using hfeed)
    rw [List.nil_append]
    unfold dropLineEnd
    split
    · rename_i h
      cases h
      exact absurd rfl hline
    · rename_i h
      cases h
      exact absurd rfl hreturn
    · rfl

/-- A text without special controls is plain but for its line feeds. -/
theorem plain_of_special {cs : List Char} (h : cs.any isSpecial = false) :
    ∀ c ∈ cs, c = '\n' ∨ isPlain c = true := by
  intro c hc
  have hspecial : isSpecial c = false := by
    rw [List.any_eq_false] at h
    simpa using h c hc
  simp only [isSpecial, isPlain, Bool.or_eq_false_iff, Bool.and_eq_false_iff,
    decide_eq_false_iff_not, bne_eq_false_iff_eq, beq_eq_false_iff_ne, Bool.or_eq_true,
    Bool.and_eq_true, decide_eq_true_eq, beq_iff_eq, bne_iff_ne] at hspecial ⊢
  obtain ⟨(hlow | htab) | hfeed, hdelete⟩ := hspecial
  · exact .inr (.inr ⟨by omega, hdelete⟩)
  · exact .inr (.inl htab)
  · exact .inl hfeed

theorem not_mem_of_longestRun {c : Char} {cs : List Char} (h : longestRun c 0 cs = 0) : c ∉ cs := by
  induction cs with
  | nil => exact List.not_mem_nil
  | cons d ds ih =>
    rw [longestRun] at h
    split at h
    · have hone := le_longestRun c (0 + 1) ds
      omega
    · rename_i hne
      rw [List.mem_cons, not_or]
      exact ⟨Ne.symm hne, ih (by omega)⟩

theorem text_basic (cs rest : List Char) :
    text (writeStyled .basic cs ++ '\n' :: rest) = some (cs, '\n' :: rest) := by
  -- With no quote free, two quotes follow the first one for no text: an empty text has the closing
  -- quote and the line feed there.
  have hopen : pairNext '"' (escape false 0 cs ++ '"' :: '\n' :: rest) = false := by
    cases cs with
    | nil => simp [escape_nil, pairNext]
    | cons c cs =>
      obtain ⟨d, ds, hwritten, hd⟩ : ∃ d ds, escape false 0 (c :: cs) = d :: ds ∧ d ≠ '"' :=
        escape_head false (.inr rfl) cs
      rw [hwritten, List.cons_append]
      cases ds <;> simp [pairNext, hd]
  have hstyled : writeStyled .basic cs ++ '\n' :: rest =
      '"' :: (escape false 0 cs ++ '"' :: '\n' :: rest) := by
    simp [writeStyled, freeQuotes]
  rw [hstyled, text, hopen]
  exact basic_escape cs ('\n' :: rest)

theorem text_literal {cs : List Char} (happostrophe : '\'' ∉ cs)
    (hplain : ∀ c ∈ cs, isPlain c = true) (rest : List Char) :
    text (writeStyled .literal cs ++ '\n' :: rest) = some (cs, '\n' :: rest) := by
  have hopen : pairNext '\'' (cs ++ '\'' :: '\n' :: rest) = false := by
    cases cs with
    | nil => simp [pairNext]
    | cons c cs =>
      rw [List.mem_cons, not_or] at happostrophe
      cases cs <;> simp [pairNext, Ne.symm happostrophe.1]
  have hstyled : writeStyled .literal cs ++ '\n' :: rest =
      '\'' :: (cs ++ '\'' :: '\n' :: rest) := by
    simp [writeStyled]
  rw [hstyled, text, hopen]
  exact literal_append happostrophe hplain ('\n' :: rest)

theorem text_basicBlock (cs rest : List Char) :
    text (writeStyled .basicBlock cs ++ '\n' :: rest) = some (cs, '\n' :: rest) := by
  have hstyled : writeStyled .basicBlock cs ++ '\n' :: rest = '"' :: '"' :: '"' ::
      (opening cs ++ (escape true 2 cs ++ '"' :: '"' :: '"' :: '\n' :: rest)) := by
    simp [writeStyled, freeQuotes]
  have hdrop : dropLineEnd
      (opening cs ++ (escape true 2 cs ++ '"' :: '"' :: '"' :: '\n' :: rest)) =
        escape true 2 cs ++ '"' :: '"' :: '"' :: '\n' :: rest := by
    -- A text without a line feed opens with none, and what is written for it begins with none.
    refine dropLineEnd_opening fun hfeed => ?_
    cases cs with
    | nil => exact ⟨'"', _, by rw [escape_nil, List.nil_append], by decide, by decide⟩
    | cons c cs =>
      obtain ⟨d, ds, hwritten, hd⟩ := escape_cons true 2 c cs
      refine ⟨d, _, by rw [hwritten, List.cons_append], ?_, ?_⟩
      · rcases hd with rfl | ⟨rfl, -, -⟩
        · decide
        · exact fun h => hfeed (h ▸ List.mem_cons_self)
      · rcases hd with rfl | ⟨rfl, hreturn, -⟩
        · decide
        · exact hreturn
  rw [hstyled]
  show basicBlock .none (dropLineEnd (opening cs ++ _)) = _
  rw [hdrop]
  exact basicBlock_escape (Nat.le_refl 2) cs rest

theorem text_literalBlock {cs : List Char} (hruns : longestRun '\'' 0 cs ≤ 2)
    (hplain : ∀ c ∈ cs, c = '\n' ∨ isPlain c = true) (rest : List Char) :
    text (writeStyled .literalBlock cs ++ '\n' :: rest) = some (cs, '\n' :: rest) := by
  have hstyled : writeStyled .literalBlock cs ++ '\n' :: rest = '\'' :: '\'' :: '\'' ::
      (opening cs ++ (cs ++ '\'' :: '\'' :: '\'' :: '\n' :: rest)) := by
    simp [writeStyled]
  have hdrop : dropLineEnd (opening cs ++ (cs ++ '\'' :: '\'' :: '\'' :: '\n' :: rest)) =
      cs ++ '\'' :: '\'' :: '\'' :: '\n' :: rest := by
    refine dropLineEnd_opening fun hfeed => ?_
    cases cs with
    | nil => exact ⟨'\'', _, rfl, by decide, by decide⟩
    | cons c cs =>
      have hc : c ≠ '\n' := fun h => hfeed (h ▸ List.mem_cons_self)
      refine ⟨c, _, rfl, hc, ?_⟩
      rintro rfl
      rcases hplain '\r' List.mem_cons_self with h | h <;> cases h
  rw [hstyled]
  show literalBlock (dropLineEnd (opening cs ++ _)) = _
  rw [hdrop]
  exact literalBlock_append hruns hplain rest

/-- **Every text reads back.** -/
theorem text_writeText (cs rest : List Char) :
    text (writeText cs ++ '\n' :: rest) = some (cs, '\n' :: rest) := by
  -- The cases are those in which a style is chosen. Each choice has tested what the style needs.
  unfold writeText styleOf
  simp only []
  split
  · exact text_basic cs rest
  split
  · rename_i hliteral
    simp only [Bool.and_eq_true, Bool.not_eq_true', decide_eq_true_eq] at hliteral
    obtain ⟨⟨hspecial, hnone⟩, hlines⟩ := hliteral
    refine text_literal (not_mem_of_longestRun hnone) (fun c hc => ?_) rest
    rcases plain_of_special hspecial c hc with rfl | hplain
    · rw [List.elem_eq_mem, decide_eq_false_iff_not] at hlines
      exact absurd hc hlines
    · exact hplain
  split
  · exact text_basicBlock cs rest
  split
  · rename_i hblock
    simp only [Bool.and_eq_true, Bool.not_eq_true', decide_eq_true_eq] at hblock
    exact text_literalBlock hblock.2 (plain_of_special hblock.1) rest
  split
  · exact text_basicBlock cs rest
  · exact text_basic cs rest

end DisplaySession.Toml
