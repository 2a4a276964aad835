import DisplaySession.Text.Blank
import DisplaySession.Text.Lines
import Mathlib.Data.List.DropRight

/-
Pieces, lines, and the white space around them.

Cutting a text is the library's `List.splitOn` and taking white space off its end the library's
`List.rdropWhile`, so their laws hold here. A piece is trimmed to a word only if it is the word but
for white space around it (`trim_eq_iff`).

Two more laws are about both at once. No separator of fields is white space, so what is taken off
the end of a text is taken off its last piece (`split_trimEnd`). And for a reader that trims lines
and passes over empty ones, the lines of a text are its pieces between line feeds
(`filter_trimEnd_lines`): the carriage return at a line's end is white space, and a last line that is
missing is an empty one.
-/
set_option autoImplicit false

namespace DisplaySession.Text

/-! ## Pieces -/

section

variable {separator : Char} {cs : List Char}

theorem split_eq_splitOn (separator : Char) (cs : List Char) :
    split separator cs = cs.splitOn separator := by
  induction cs with
  | nil => rfl
  | cons c cs ih =>
    rw [split, List.splitOn_cons_eq_if_modifyHead, ← ih]
    by_cases hc : c = separator
    · rw [if_pos hc, if_pos (beq_iff_eq.mpr hc)]
    · rw [if_neg hc, if_neg (mt beq_iff_eq.mp hc)]
      obtain ⟨piece, pieces, h⟩ := List.exists_cons_of_ne_nil (split_ne_nil separator cs)
      rw [h]
      rfl

theorem split_append_cons (separator : Char) (before after : List Char) :
    split separator (before ++ separator :: after) =
      split separator before ++ split separator after := by
  simp only [split_eq_splitOn]
  exact List.splitOn_append_cons_self before after

/-- **Pieces that were joined are found again.** -/
theorem split_intercalate {pieces : List (List Char)} (hne : pieces ≠ [])
    (h : ∀ piece ∈ pieces, separator ∉ piece) :
    split separator ([separator].intercalate pieces) = pieces := by
  rw [split_eq_splitOn]
  exact List.splitOn_intercalate separator h hne

/-- A character of a joined text is the separator or in a piece. -/
theorem not_mem_intercalate {c : Char} (hc : c ≠ separator) {pieces : List (List Char)}
    (h : ∀ piece ∈ pieces, c ∉ piece) : c ∉ [separator].intercalate pieces := by
  induction pieces with
  | nil => exact List.not_mem_nil
  | cons first rest ih =>
    rw [List.forall_mem_cons] at h
    cases rest with
    | nil =>
      rw [List.intercalate_singleton]
      exact h.1
    | cons second rest =>
      rw [List.intercalate_cons_cons, List.mem_append, List.mem_append, List.mem_singleton, not_or,
        not_or]
      exact ⟨⟨h.1, hc⟩, ih h.2⟩

theorem not_mem_of_mem_split {piece : List Char} (h : piece ∈ split separator cs) :
    separator ∉ piece := by
  induction cs generalizing piece with
  | nil =>
    rw [List.mem_singleton.mp h]
    exact List.not_mem_nil
  | cons c cs ih =>
    by_cases hc : c = separator
    · rw [split, if_pos hc] at h
      rcases List.mem_cons.mp h with rfl | h
      · exact List.not_mem_nil
      · exact ih h
    · obtain ⟨first, rest, hsplit⟩ := List.exists_cons_of_ne_nil (split_ne_nil separator cs)
      rw [hsplit] at ih
      rw [split, if_neg hc, hsplit] at h
      rcases List.mem_cons.mp h with rfl | h
      · rw [List.mem_cons, not_or]
        exact ⟨Ne.symm hc, ih List.mem_cons_self⟩
      · exact ih (List.mem_cons_of_mem _ h)

end

/-! ## White space at the end -/

section

variable {cs : List Char}

theorem trimEnd_eq_rdropWhile (cs : List Char) : trimEnd cs = cs.rdropWhile isBlank :=
  rfl

theorem trimEnd_append_of_blank (cs : List Char) {blanks : List Char}
    (h : isBlankText blanks = true) : trimEnd (cs ++ blanks) = trimEnd cs := by
  have hreverse : ∀ c ∈ blanks.reverse, isBlank c = true := by
    intro c hc
    exact List.all_eq_true.mp h c (List.mem_reverse.mp hc)
  rw [trimEnd, List.reverse_append, List.dropWhile_append_of_pos hreverse, trimEnd]

/-- **Nothing is taken off before a character that is no white space.** -/
theorem trimEnd_append_cons {c : Char} (hc : isBlank c = false) (before after : List Char) :
    trimEnd (before ++ c :: after) = before ++ c :: trimEnd after := by
  rw [trimEnd, List.reverse_append, List.reverse_cons, List.append_assoc, List.singleton_append,
    List.dropWhile_append]
  by_cases hafter : (after.reverse.dropWhile isBlank).isEmpty = true
  · rw [if_pos hafter, List.dropWhile_cons_of_neg (by simp [hc]), trimEnd,
      List.isEmpty_iff.mp hafter, List.reverse_cons, List.reverse_reverse, List.reverse_nil]
  · rw [if_neg hafter, List.reverse_append, List.reverse_cons, List.reverse_reverse, trimEnd,
      List.append_assoc, List.singleton_append]

theorem trimEnd_cons {c : Char} (hc : isBlank c = false) (after : List Char) :
    trimEnd (c :: after) = c :: trimEnd after :=
  trimEnd_append_cons hc [] after

theorem trimEnd_eq_nil_iff : trimEnd cs = [] ↔ isBlankText cs = true := by
  rw [trimEnd_eq_rdropWhile, List.rdropWhile_eq_nil_iff, isBlankText, List.all_eq_true]

theorem trimEnd_trimEnd (cs : List Char) : trimEnd (trimEnd cs) = trimEnd cs :=
  List.rdropWhile_idempotent isBlank cs

theorem trimEnd_of_trim (h : trim cs = cs) : trimEnd cs = cs := by
  rw [← h, trim, trimEnd_trimEnd]

theorem mem_of_mem_trimEnd {c : Char} (h : c ∈ trimEnd cs) : c ∈ cs :=
  (List.rdropWhile_prefix isBlank cs).subset h

/-- The carriage return of a line's end is white space. -/
theorem trimEnd_dropReturn (cs : List Char) : trimEnd (dropReturn cs) = trimEnd cs := by
  by_cases hlast : cs.getLast? = some '\r'
  · obtain ⟨front, rfl⟩ := List.getLast?_eq_some_iff.mp hlast
    rw [dropReturn, if_pos hlast, List.dropLast_concat, trimEnd_append_of_blank front (by decide)]
  · rw [dropReturn, if_neg hlast]

/-- A text with no white space at its end does not end in a carriage return. -/
theorem dropReturn_of_trimEnd (h : trimEnd cs = cs) : dropReturn cs = cs := by
  by_cases hlast : cs.getLast? = some '\r'
  · obtain ⟨front, rfl⟩ := List.getLast?_eq_some_iff.mp hlast
    rw [trimEnd_append_of_blank front (by decide)] at h
    -- The trimmed text is as long as the front at most.
    have hlength := (List.rdropWhile_prefix isBlank front).length_le
    rw [← trimEnd_eq_rdropWhile, h, List.length_append, List.length_singleton] at hlength
    omega
  · rw [dropReturn, if_neg hlast]

end

/-! ## White space at both ends -/

theorem trimStart_append_of_blank {blanks : List Char} (h : isBlankText blanks = true)
    (cs : List Char) : trimStart (blanks ++ cs) = trimStart cs :=
  List.dropWhile_append_of_pos (List.all_eq_true.mp h)

/-- White space is all that is taken off the end of a text. -/
theorem exists_trimEnd_append (cs : List Char) :
    ∃ blanks, isBlankText blanks = true ∧ cs = trimEnd cs ++ blanks := by
  refine ⟨(cs.reverse.takeWhile isBlank).reverse, ?_, ?_⟩
  · rw [isBlankText, List.all_reverse, List.all_eq_true]
    intro c hc
    exact List.mem_takeWhile_imp hc
  · rw [trimEnd, ← List.reverse_append, List.takeWhile_append_dropWhile, List.reverse_reverse]

/-- **A piece is trimmed to a word exactly if there is only white space around the word.** -/
theorem trim_eq_iff {word : List Char} (hword : ∀ c ∈ word, isBlank c = false) (piece : List Char) :
    trim piece = word ↔ ∃ before after, isBlankText before = true ∧ isBlankText after = true ∧
      piece = before ++ word ++ after := by
  constructor
  · rintro rfl
    obtain ⟨after, hafter, hend⟩ := exists_trimEnd_append (trimStart piece)
    refine ⟨piece.takeWhile isBlank, after, ?_, hafter, ?_⟩
    · rw [isBlankText, List.all_eq_true]
      intro c hc
      exact List.mem_takeWhile_imp hc
    · rw [List.append_assoc, trim, ← hend, trimStart, List.takeWhile_append_dropWhile]
  · rintro ⟨before, after, hbefore, hafter, rfl⟩
    rw [trim, List.append_assoc, trimStart_append_of_blank hbefore]
    cases word with
    | nil =>
      have hnone : trimStart after = [] :=
        List.dropWhile_eq_nil_iff.mpr (List.all_eq_true.mp hafter)
      rw [List.nil_append, hnone]
      rfl
    | cons c word =>
      have hc := hword c List.mem_cons_self
      have hstart : trimStart (c :: word ++ after) = c :: word ++ after :=
        List.dropWhile_cons_of_neg (by simp [hc])
      rw [hstart, trimEnd_append_of_blank _ hafter, trimEnd_eq_rdropWhile]
      refine List.rdropWhile_eq_self_iff.mpr ?_
      intro hne
      rw [hword _ (List.getLast_mem hne)]
      exact Bool.false_ne_true

/-! ## Both -/

/-- **What is taken off the end of a text is taken off its last piece.** -/
theorem split_trimEnd (separator : Char) (h : isBlank separator = false) (cs : List Char) :
    ∃ front last, split separator cs = front ++ [last] ∧
      split separator (trimEnd cs) = front ++ [trimEnd last] := by
  by_cases hmem : separator ∈ cs
  · -- The last separator is the first one from behind.
    obtain ⟨last, front, hcs, hlast⟩ := List.eq_append_cons_of_mem (List.mem_reverse.mpr hmem)
    rw [List.reverse_eq_iff, List.reverse_append, List.reverse_cons, List.append_assoc,
      List.singleton_append] at hcs
    have hlast' : separator ∉ last.reverse := mt List.mem_reverse.mp hlast
    refine ⟨split separator front.reverse, last.reverse, ?_, ?_⟩
    · rw [hcs, split_append_cons, split_of_not_mem hlast']
    · rw [hcs, trimEnd_append_cons h, split_append_cons,
        split_of_not_mem (mt mem_of_mem_trimEnd hlast')]
  · exact ⟨[], cs, split_of_not_mem hmem, split_of_not_mem (mt mem_of_mem_trimEnd hmem)⟩

/-- **Pieces that were joined are found again behind white space**, the last one without it. -/
theorem split_trimEnd_intercalate {separator : Char} (hseparator : isBlank separator = false)
    {front : List (List Char)} {last : List Char}
    (h : ∀ piece ∈ front ++ [last], separator ∉ piece) :
    split separator (trimEnd ([separator].intercalate (front ++ [last]))) =
      front ++ [trimEnd last] := by
  obtain ⟨front', last', hsplit, htrimmed⟩ :=
    split_trimEnd separator hseparator ([separator].intercalate (front ++ [last]))
  rw [split_intercalate (List.concat_ne_nil last front) h] at hsplit
  obtain ⟨rfl, hlast⟩ := List.append_inj' hsplit rfl
  rw [htrimmed, List.singleton_inj.mp hlast]

/-- **For a reader that trims lines and passes over empty ones, lines are the pieces between line
feeds.** -/
theorem filter_trimEnd_lines {p : List Char → Bool} (h : p [] = false) (cs : List Char) :
    ((lines cs).map trimEnd).filter p = ((split '\n' cs).map trimEnd).filter p := by
  have hfront (pieces : List (List Char)) :
      (pieces.map dropReturn).map trimEnd = pieces.map trimEnd := by
    rw [List.map_map]
    exact List.map_congr_left fun piece _ => trimEnd_dropReturn piece
  obtain ⟨front, last, hsplit⟩ : ∃ front last, split '\n' cs = front ++ [last] :=
    ⟨_, _, (List.dropLast_concat_getLast (split_ne_nil '\n' cs)).symm⟩
  rw [lines, hsplit, linesOfPieces, List.dropLast_concat, List.getLast?_concat, List.map_append,
    List.map_append, List.filter_append, List.filter_append, hfront]
  congr 1
  cases last with
  | nil => simp only [List.map_nil, List.filter_nil, List.map_cons, trimEnd_eq_rdropWhile,
      List.rdropWhile_nil, List.filter_cons, h, Bool.false_eq_true, if_false]
  | cons c last => rfl

/-- A text that ends with its only line feed is one line. -/
theorem lines_closed {cs : List Char} (h : '\n' ∉ cs) : lines (cs ++ ['\n']) = [dropReturn cs] := by
  rw [lines, split_append_cons, split_of_not_mem h]
  rfl

end DisplaySession.Text
