import DisplaySession.Text.Numeral

/-
Which texts are numerals, and what they say.

An unsigned numeral is one plus sign or none and then at least one digit, with any number of leading
zeros; its value is that of all of its digits. It is read exactly if the value is inside the range,
so that nothing wraps (`uint32?_eq_some_iff`), and it is zero only if all of its digits are
(`isNumeral_zero_iff`).
-/
set_option autoImplicit false

namespace DisplaySession.Text

/-- **A numeral of a value**: an optional plus sign and the value's digits, leading zeros allowed. -/
def IsNumeral (cs : List Char) (value : Nat) : Prop :=
  ∃ digits, (cs = digits ∨ cs = '+' :: digits) ∧ digits ≠ [] ∧
    (∀ c ∈ digits, c.isDigit = true) ∧ Nat.ofDigitChars 10 digits 0 = value

theorem digits?_eq_some_iff {cs : List Char} {n : Nat} :
    digits? cs = some n ↔
      cs ≠ [] ∧ (∀ c ∈ cs, c.isDigit = true) ∧ Nat.ofDigitChars 10 cs 0 = n := by
  rw [digits?]
  split
  · rename_i h
    rw [List.all_eq_true] at h
    simp only [Option.some.injEq]
    exact ⟨fun hn => ⟨h.1, h.2, hn⟩, fun hn => hn.2.2⟩
  · rename_i h
    rw [List.all_eq_true] at h
    simp only [reduceCtorEq, false_iff]
    exact fun hn => h ⟨hn.1, hn.2.1⟩

/-- What is left without the plus sign are the digits of the numeral, whether it has one or not. -/
theorem isNumeral_iff {cs : List Char} {n : Nat} :
    IsNumeral cs n ↔ digits? (dropPlus cs) = some n := by
  rw [digits?_eq_some_iff]
  constructor
  · rintro ⟨digits, rfl | rfl, hne, hall, hvalue⟩
    · -- Digits do not begin with a plus sign, so that nothing is dropped.
      have hdrop : dropPlus cs = cs := by
        cases cs with
        | nil => rfl
        | cons c cs =>
          have hdigit := hall c List.mem_cons_self
          have hplus : c ≠ '+' := by
            rintro rfl
            exact absurd hdigit (by decide)
          rw [dropPlus.eq_def]
          split
          · rename_i heq
            exact absurd (List.cons.inj heq).1 hplus
          · rfl
      rw [hdrop]
      exact ⟨hne, hall, hvalue⟩
    · exact ⟨hne, hall, hvalue⟩
  · rintro ⟨hne, hall, hvalue⟩
    refine ⟨dropPlus cs, ?_, hne, hall, hvalue⟩
    rw [dropPlus.eq_def]
    split
    · exact .inr rfl
    · exact .inl rfl

/-- **An id is read exactly from a numeral of its value.** -/
theorem uint32?_eq_some_iff {cs : List Char} {n : UInt32} :
    uint32? cs = some n ↔ IsNumeral cs n.toNat := by
  rw [isNumeral_iff, uint32?, unsigned?, Option.map_eq_some_iff]
  constructor
  · rintro ⟨value, hvalue, rfl⟩
    rw [Option.filter_eq_some_iff] at hvalue
    obtain ⟨hread, hbound⟩ := hvalue
    rw [hread, UInt32.toNat_ofNat_of_lt' (by simpa using hbound)]
  · intro hread
    refine ⟨n.toNat, ?_, UInt32.ofNat_toNat⟩
    rw [Option.filter_eq_some_iff]
    exact ⟨hread, by simpa using n.toNat_lt⟩

/-! ## Numerals of zero -/

/-- **Nothing but zeros**: one plus sign or none, and then at least one zero. -/
def IsZeros (cs : List Char) : Prop :=
  ∃ n, cs = List.replicate (n + 1) '0' ∨ cs = '+' :: List.replicate (n + 1) '0'

theorem toNat_of_isDigit {c : Char} (h : c.isDigit = true) : 48 ≤ c.toNat := by
  simp only [Char.isDigit, Bool.and_eq_true, decide_eq_true_eq, UInt32.le_iff_toNat_le] at h
  exact h.1

/-- The value of some digits is zero only if each of them is. -/
theorem eq_zeros_of_value {digits : List Char} {start : Nat}
    (hdigits : ∀ c ∈ digits, c.isDigit = true) (h : Nat.ofDigitChars 10 digits start = 0) :
    start = 0 ∧ ∀ c ∈ digits, c = '0' := by
  induction digits generalizing start with
  | nil => exact ⟨h, by simp⟩
  | cons c digits ih =>
    rw [List.forall_mem_cons] at hdigits
    rw [Nat.ofDigitChars_cons] at h
    obtain ⟨hvalue, hzeros⟩ := ih hdigits.2 h
    have hlow := toNat_of_isDigit hdigits.1
    have hzero : '0'.toNat = 48 := rfl
    have hc : c.toNat = '0'.toNat := by omega
    refine ⟨by omega, List.forall_mem_cons.mpr ⟨?_, hzeros⟩⟩
    exact Char.toNat_inj.mp hc

theorem value_zeros (n : Nat) : Nat.ofDigitChars 10 (List.replicate n '0') 0 = 0 := by
  induction n with
  | zero => rfl
  | succ n ih =>
    rw [List.replicate_succ, Nat.ofDigitChars_cons]
    exact ih

/-- **A numeral of zero has no other digit than zero**, however long it is. -/
theorem isNumeral_zero_iff {cs : List Char} : IsNumeral cs 0 ↔ IsZeros cs := by
  constructor
  · rintro ⟨digits, hcs, hne, hdigits, hvalue⟩
    obtain ⟨-, hzeros⟩ := eq_zeros_of_value hdigits hvalue
    obtain ⟨n, hn⟩ := Nat.exists_eq_succ_of_ne_zero (mt List.length_eq_zero_iff.mp hne)
    have hreplicate : digits = List.replicate (n + 1) '0' :=
      List.eq_replicate_iff.mpr ⟨hn, hzeros⟩
    rw [hreplicate] at hcs
    exact ⟨n, hcs⟩
  · rintro ⟨n, hcs⟩
    refine ⟨List.replicate (n + 1) '0', hcs, by simp, ?_, value_zeros (n + 1)⟩
    intro c hc
    rw [List.eq_of_mem_replicate hc]
    rfl

/-! ## Printed numbers -/

/-- A printed number has digits only. -/
theorem isDigit_of_mem_repr {n : Nat} {c : Char} (h : c ∈ n.repr.toList) : c.isDigit = true := by
  rw [Nat.repr, String.toList_ofList] at h
  exact Nat.isDigit_of_mem_toDigits (by decide) (by decide) h

theorem repr_ne_empty (n : Nat) : n.repr.toList ≠ [] := by
  rw [Nat.repr, String.toList_ofList]
  exact Nat.toDigits_ne_nil

theorem repr_injective : Function.Injective Nat.repr := by
  intro n m h
  have hread := digits?_toDigits n
  have hdigits : Nat.toDigits 10 n = Nat.toDigits 10 m := String.ofList_injective h
  rw [hdigits, digits?_toDigits] at hread
  exact (Option.some.inj hread).symm

/-! ## Signed numbers -/

/-- **A signed numeral fits into 64 bits.** -/
theorem int64?_fits {cs : List Char} {n : Int} (h : int64? cs = some n) :
    -(signedLimit : Int) ≤ n ∧ n < signedLimit := by
  have hpositive : 0 < signedLimit := by decide
  rw [int64?.eq_def] at h
  split at h
  · obtain ⟨value, hvalue, rfl⟩ := Option.map_eq_some_iff.mp h
    obtain ⟨digits, hdigits, hvalue⟩ := Option.bind_eq_some_iff.mp hvalue
    obtain rfl := Option.some.inj hvalue
    have hbound : digits ≤ signedLimit := by
      simpa using (Option.filter_eq_some_iff.mp hdigits).2
    omega
  · obtain ⟨value, hvalue, rfl⟩ := Option.map_eq_some_iff.mp h
    obtain ⟨digits, hdigits, hvalue⟩ := Option.bind_eq_some_iff.mp hvalue
    obtain rfl := Option.some.inj hvalue
    have hbound : digits < signedLimit := by
      simpa using (Option.filter_eq_some_iff.mp hdigits).2
    omega

end DisplaySession.Text
