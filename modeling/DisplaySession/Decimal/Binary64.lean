/-
Numbers of 64 bits with a binary point, as exact values.

A finite number is a sign, a mantissa below `2^53` and a power of two that is at least `2^-1074`.
Reading a decimal rounds the exact quotient to the nearest such number, and of two equally near
ones takes the one with the even mantissa. All of it is arithmetic on natural numbers, so that
nothing here depends on what a machine does.
-/
set_option autoImplicit false

namespace DisplaySession

/-- **A number of 64 bits.** -/
inductive Binary64
  | notANumber
  | infinite (negative : Bool)
  /-- The number `mantissa * 2 ^ exponent` with a sign, which zero has, too. -/
  | finite (negative : Bool) (mantissa : Nat) (exponent : Int)
  deriving DecidableEq

namespace Binary64

/-- The number of bits of a mantissa. -/
def mantissaBits : Nat := 53

/-- The least power of two. -/
def leastExponent : Int := -1074

/-- The greatest power of two. -/
def greatestExponent : Int := 971

/-- Zero with a sign. -/
def zero (negative : Bool) : Binary64 :=
  .finite negative 0 leastExponent

/-- A quotient times a power of a base, as a quotient. -/
def scale (base : Nat) (exponent : Int) (num den : Nat) : Nat × Nat :=
  if 0 ≤ exponent then (num * Nat.pow base exponent.toNat, den)
  else (num, den * Nat.pow base (-exponent).toNat)

/-- The integer nearest to a quotient, the even one of two. -/
def roundQuotient (num den : Nat) : Nat :=
  let q := num / den
  let r := num % den
  if den < 2 * r ∨ (2 * r = den ∧ q % 2 = 1) then q + 1 else q

/-- The power of two by which a quotient becomes a mantissa: the least one, not below the least of
all, for which the quotient is below `2 ^ 53` of it. The logarithms leave two candidates. -/
def exponentFor (num den : Nat) : Int :=
  let estimate : Int := (num.log2 : Int) - (den.log2 : Int) - mantissaBits
  let (n, d) := scale 2 (-estimate) num den
  max leastExponent (if n < d * Nat.pow 2 mantissaBits then estimate else estimate + 1)

/-- **The number nearest to a quotient.** A mantissa that rounds up to one bit more is the next
power of two. -/
def ofQuotient (negative : Bool) (num den : Nat) : Binary64 :=
  let e := exponentFor num den
  let (n, d) := scale 2 (-e) num den
  let m := roundQuotient n d
  let (m, e) := if m = Nat.pow 2 mantissaBits then (Nat.pow 2 (mantissaBits - 1), e + 1) else (m, e)
  if greatestExponent < e then .infinite negative else .finite negative m e

/-- The number of decimal digits in front of the point beyond which every number is infinite. -/
def digitsOfInfinity : Int := 310

/-- The number of zeros behind the point beyond which every number is zero. -/
def zerosOfZero : Int := 330

/-- **The number nearest to a decimal** `digits * 10 ^ exponent`. Far outside the range the answer
is known without the power of ten. -/
def ofDecimal (negative : Bool) (digits : Nat) (exponent : Int) : Binary64 :=
  let size : Int := (Nat.toDigits 10 digits).length + exponent
  if digits = 0 then zero negative
  else if digitsOfInfinity < size then .infinite negative
  else if size < -zerosOfZero then zero negative
  else
    let (num, den) := scale 10 exponent digits 1
    ofQuotient negative num den

end Binary64

end DisplaySession
