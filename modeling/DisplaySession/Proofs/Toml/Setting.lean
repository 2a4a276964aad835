import DisplaySession.Proofs.Toml.Text
import DisplaySession.Toml.Reader

/-
A setting that was written reads back as its value.

A text is covered by its own module. A number is a run of digits that no other kind of value can
begin with, so most of the work is to show which of the reader's questions it does not answer.
-/
set_option autoImplicit false

namespace DisplaySession.Toml

/-! ## Numbers -/

/-- The digits of a number that is not zero begin with no zero. -/
theorem head_toDigits {n : Nat} (h : 0 < n) : (Nat.toDigits 10 n).head? ≠ some '0' := by
  induction n using Nat.strongRecOn with
  | _ n ih =>
    by_cases hsmall : n < 10
    · rw [Nat.toDigits_of_lt_base hsmall, List.head?_cons]
      have hdigits : ∀ d < 10, 0 < d → some d.digitChar ≠ some '0' := by decide
      exact hdigits n hsmall h
    · -- A longer numeral begins as the numeral without its last digit does.
      rw [Nat.toDigits_of_base_le (by decide) (by omega)]
      have hne : Nat.toDigits 10 (n / 10) ≠ [] := Nat.toDigits_ne_nil
      have hfront := ih (n / 10) (by omega) (by omega)
      obtain ⟨d, ds, hd⟩ := List.exists_cons_of_ne_nil hne
      rw [hd] at hfront ⊢
      exact hfront

theorem isDigit_of_mem {n : Nat} {c : Char} (h : c ∈ Nat.toDigits 10 n) : c.isDigit = true :=
  Nat.isDigit_of_mem_toDigits (by decide) (by decide) h

theorem valueIn_eq {cs : List Char} (h : ∀ c ∈ cs, c.isDigit = true) :
    valueIn 10 cs = Nat.ofDigitChars 10 cs 0 := by
  -- Both fold over the digits; the value so far stays general.
  have hfold (init : Nat) :
      cs.foldl (fun n c => n * 10 + (Text.hexDigit? c).getD 0) init =
        cs.foldl (fun n c => 10 * n + (c.toNat - '0'.toNat)) init := by
    induction cs generalizing init with
    | nil => rfl
    | cons c cs ih =>
      have hc : (Text.hexDigit? c).getD 0 = c.toNat - '0'.toNat := by
        rw [Text.hexDigit?, if_pos (h c List.mem_cons_self)]
        rfl
      rw [List.foldl_cons, List.foldl_cons, hc, Nat.mul_comm init 10]
      exact ih (fun d hd => h d (List.mem_cons_of_mem _ hd)) _
  rw [valueIn, Nat.ofDigitChars_eq_foldl, hfold]

/-- **The digits of a number are read as its value.** -/
theorem decimalRun?_toDigits (n : Nat) :
    decimalRun? (Nat.toDigits 10 n) = some (Nat.toDigits 10 n) := by
  have hzero : ¬((Nat.toDigits 10 n).head? = some '0' ∧ Nat.toDigits 10 n ≠ ['0']) := by
    rintro ⟨hhead, hne⟩
    rcases Nat.eq_zero_or_pos n with rfl | hpos
    · exact hne (Nat.toDigits_zero 10)
    · exact head_toDigits hpos hhead
  have hall : (Nat.toDigits 10 n).all Char.isDigit = true :=
    List.all_eq_true.mpr fun c hc => isDigit_of_mem hc
  have hempty : (Nat.toDigits 10 n).isEmpty = false :=
    List.isEmpty_eq_false_iff.mpr Nat.toDigits_ne_nil
  rw [decimalRun?, if_neg hzero, digitRun?, Text.split_of_not_mem Nat.underscore_not_in_toDigits]
  simp [hall, hempty]

/-- **A number that was written is read as an integer.** -/
theorem integer?_toDigits {n : Nat} (h : n < Text.signedLimit) :
    integer? (Nat.toDigits 10 n) = some (n : Int) := by
  have hvalue : valueIn 10 (Nat.toDigits 10 n) = n := by
    rw [valueIn_eq fun c hc => isDigit_of_mem hc, Nat.ofDigitChars_ten_toDigits]
  -- Every question of the reader is about a character that is no digit.
  have hno {c : Char} (hc : c.isDigit = false) : c ∉ Nat.toDigits 10 n := by
    intro hmem
    rw [isDigit_of_mem hmem] at hc
    cases hc
  have hsign : Text.sign (Nat.toDigits 10 n) = (false, Nat.toDigits 10 n) := by
    unfold Text.sign
    split
    · rename_i hdigits
      exact absurd (by simp [hdigits]) (hno (c := '-') rfl)
    · rename_i hdigits
      exact absurd (by simp [hdigits]) (hno (c := '+') rfl)
    · rfl
  have hbase : basedInteger? (Nat.toDigits 10 n) = none := by
    unfold basedInteger?
    split
    · rename_i hdigits
      exact absurd (by simp [hdigits]) (hno (c := 'x') rfl)
    · rename_i hdigits
      exact absurd (by simp [hdigits]) (hno (c := 'o') rfl)
    · rename_i hdigits
      exact absurd (by simp [hdigits]) (hno (c := 'b') rfl)
    · rfl
  have hrange : signed64? (n : Int) = some (n : Int) := by
    rw [signed64?, if_pos]
    omega
  rw [integer?, hbase]
  simp only [hsign, decimalRun?_toDigits, hvalue]
  exact hrange

theorem isWordChar_of_isDigit {c : Char} (h : c.isDigit = true) : isWordChar c = true := by
  simp [isWordChar, Char.isAlphanum, h]

theorem word_toDigits (n : Nat) (rest : List Char) :
    word (Nat.toDigits 10 n ++ '\n' :: rest) = (Nat.toDigits 10 n, '\n' :: rest) := by
  have hall : ∀ c ∈ Nat.toDigits 10 n, isWordChar c = true :=
    fun c hc => isWordChar_of_isDigit (isDigit_of_mem hc)
  have hstop : isWordChar '\n' = false := rfl
  have htake : (Nat.toDigits 10 n ++ '\n' :: rest).takeWhile isWordChar = Nat.toDigits 10 n := by
    rw [List.takeWhile_append_of_pos hall, List.takeWhile_cons, hstop]
    simp
  have hdrop : (Nat.toDigits 10 n ++ '\n' :: rest).dropWhile isWordChar = '\n' :: rest := by
    rw [List.dropWhile_append_of_pos hall, List.dropWhile_cons, hstop]
    simp
  have hspace : digitBehindSpace ('\n' :: rest) = false := rfl
  simp only [word, htake, hdrop, hspace, Bool.and_false, Bool.false_eq_true, if_false]

/-- **A number that was written is read as a value.** -/
theorem wordValue?_toDigits {n : Nat} (h : n < Text.signedLimit) :
    wordValue? (Nat.toDigits 10 n) = some (.integer n) := by
  -- The words for the truth values both hold an `e`.
  have hno {cs : List Char} (hcs : 'e' ∈ cs) : Nat.toDigits 10 n ≠ cs := by
    rintro rfl
    have hdigit := isDigit_of_mem hcs
    cases hdigit
  rw [wordValue?, if_neg (hno (by decide)), if_neg (hno (by decide)), integer?_toDigits h]

/-! ## Values -/

/-- The value that a setting is read as. -/
def Setting.value : Setting → Value
  | .text s => .text s
  | .number n => .integer n

/-- A setting that the writer can hold: any text, and a number with 63 bits. -/
def Setting.Fits : Setting → Prop
  | .text _ => True
  | .number n => n < Text.signedLimit

theorem writeText_cons (cs : List Char) :
    ∃ q qs, writeText cs = q :: qs ∧ (q = '"' ∨ q = '\'') := by
  unfold writeText
  cases styleOf cs with
  | basic => exact ⟨_, _, rfl, .inl rfl⟩
  | literal => exact ⟨_, _, rfl, .inr rfl⟩
  | basicBlock => exact ⟨_, _, rfl, .inl rfl⟩
  | literalBlock => exact ⟨_, _, rfl, .inr rfl⟩

theorem writeSetting_cons (setting : Setting) :
    ∃ q qs, writeSetting setting = q :: qs ∧ isSpace q = false := by
  cases setting with
  | text s =>
    obtain ⟨q, qs, h, hq⟩ := writeText_cons s.toList
    refine ⟨q, qs, h, ?_⟩
    rcases hq with rfl | rfl <;> rfl
  | number n =>
    obtain ⟨q, qs, h⟩ := List.exists_cons_of_ne_nil (Nat.toDigits_ne_nil (n := n) (b := 10))
    have hdigit : q.isDigit = true := isDigit_of_mem (h ▸ List.mem_cons_self)
    refine ⟨q, qs, h, ?_⟩
    rw [isSpace, Bool.or_eq_false_iff, beq_eq_false_iff_ne, beq_eq_false_iff_ne]
    constructor <;>
      rintro rfl <;>
      cases hdigit

/-- **A setting reads back.** -/
theorem value_writeSetting {setting : Setting} (hfits : setting.Fits) (steps depth : Nat)
    (rest : List Char) : value (steps + 1) depth (writeSetting setting ++ '\n' :: rest) =
      some (setting.value, '\n' :: rest) := by
  cases setting with
  | text s =>
    obtain ⟨q, qs, h, hq⟩ := writeText_cons s.toList
    have hread := text_writeText s.toList rest
    rw [writeSetting]
    rw [h, List.cons_append] at hread ⊢
    rw [value, if_pos hq, hread]
    · rw [Option.map_some, String.ofList_toList]
      rfl
    all_goals
      rintro rfl
      simp at hq
  | number n =>
    obtain ⟨q, qs, h⟩ := List.exists_cons_of_ne_nil (Nat.toDigits_ne_nil (n := n) (b := 10))
    have hdigit : q.isDigit = true := isDigit_of_mem (h ▸ List.mem_cons_self)
    have hno {c : Char} (hc : c.isDigit = false) : q ≠ c := by
      rintro rfl
      rw [hdigit] at hc
      cases hc
    have hword := word_toDigits n rest
    rw [writeSetting]
    rw [h, List.cons_append] at hword ⊢
    rw [value, if_neg, hword, ← h, wordValue?_toDigits hfits]
    · rfl
    · exact not_or.mpr ⟨hno rfl, hno rfl⟩
    · exact hno rfl
    · exact hno rfl

end DisplaySession.Toml
