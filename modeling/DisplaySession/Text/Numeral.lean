/-
Decimal numerals in texts.

Printing is the core library's (`Nat.repr`). Reading admits what the records, the process table and
the settings admit: one sign in front, at least one ASCII digit, any number of leading zeros, and a
value inside the stated range. A numeral out of range is no numeral; nothing wraps.
-/
set_option autoImplicit false

namespace DisplaySession.Text

/-- The value of a run of ASCII digits that is not empty. -/
def digits? (cs : List Char) : Option Nat :=
  if cs ≠ [] ∧ cs.all Char.isDigit then some (Nat.ofDigitChars 10 cs 0) else none

/-- A text without the one plus sign it may begin with. -/
def dropPlus : List Char → List Char
  | '+' :: cs => cs
  | cs => cs

/-- Is there a minus sign in front, and what follows the sign, if there is one? -/
def sign : List Char → Bool × List Char
  | '-' :: cs => (true, cs)
  | '+' :: cs => (false, cs)
  | cs => (false, cs)

/-- **An unsigned numeral below a bound.** -/
def unsigned? (bound : Nat) (cs : List Char) : Option Nat :=
  (digits? (dropPlus cs)).filter (· < bound)

/-- A numeral for an id or a process number. -/
def uint32? (cs : List Char) : Option UInt32 :=
  (unsigned? UInt32.size cs).map UInt32.ofNat

/-- The number of signed numbers of 64 bits that are not negative: two to the sixty-third. -/
def signedLimit : Nat := 0x8000000000000000

/-- **A signed numeral** of 64 bits. -/
def int64? : List Char → Option Int
  | '-' :: cs => ((digits? cs).filter (· ≤ signedLimit)).map fun n => -(n : Int)
  | cs => (unsigned? signedLimit cs).map fun n => (n : Int)

/-- What is printed reads back. -/
theorem digits?_toDigits (n : Nat) : digits? (Nat.toDigits 10 n) = some n := by
  have hall : (Nat.toDigits 10 n).all Char.isDigit = true := by
    rw [List.all_eq_true]
    intro c hc
    exact Nat.isDigit_of_mem_toDigits (by decide) (by decide) hc
  simp [digits?, Nat.toDigits_ne_nil, hall, Nat.ofDigitChars_ten_toDigits]

/-- One hexadecimal digit's value. -/
def hexDigit? (c : Char) : Option Nat :=
  if c.isDigit then some (c.toNat - 48)
  else if 'a' ≤ c ∧ c ≤ 'f' then some (c.toNat - 87)
  else if 'A' ≤ c ∧ c ≤ 'F' then some (c.toNat - 55)
  else none

end DisplaySession.Text
