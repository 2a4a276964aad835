import DisplaySession.Decimal.Binary64

/-
The shortest decimal that reads back as a given number.

The decimals that read back as a number form an interval around it, from half way to the number
below to half way to the number above; the ends belong to it if the mantissa is even. The shortest
decimal is a point of the coarsest decimal grid that has a point in the interval, and of two such
points the nearer one; of two equally near ones the greater is taken. A grid has a point in the
interval only if one of the two grid points next to the number is in it, so two points a grid are
enough to look at.

The decimal is written positionally, however many zeros that takes.
-/
set_option autoImplicit false

namespace DisplaySession

namespace Binary64

/-- The power of ten of the coarsest grid worth a look. -/
def coarsestGrid : Int := 309

/-- The number of grids from the coarsest to the finest. -/
def gridCount : Nat := 640

/-- The interval of the decimals that read back, in quarters of the last place. -/
structure Interval where
  low : Nat
  value : Nat
  high : Nat
  /-- Do the ends belong to it? -/
  closed : Bool

/-- **The interval around a number.** Below a power of two the numbers are twice as dense. -/
def intervalOf (mantissa : Nat) (exponent : Int) : Interval :=
  let dense := mantissa = Nat.pow 2 (mantissaBits - 1) ∧ leastExponent < exponent
  ⟨if dense then 4 * mantissa - 1 else 4 * mantissa - 2, 4 * mantissa, 4 * mantissa + 2,
    mantissa % 2 = 0⟩

/-- An interval in units of a grid, over one denominator. -/
structure Scaled where
  low : Nat
  value : Nat
  high : Nat
  den : Nat
  closed : Bool

/-- The interval in units of `10 ^ grid`. -/
def Interval.scaled (interval : Interval) (exponent grid : Int) : Scaled :=
  let f := Nat.pow 2 (exponent - 2).toNat * Nat.pow 10 (-grid).toNat
  ⟨interval.low * f, interval.value * f, interval.high * f,
    Nat.pow 2 (2 - exponent).toNat * Nat.pow 10 grid.toNat, interval.closed⟩

/-- Is a grid point in the interval? -/
def Scaled.contains (s : Scaled) (point : Nat) : Bool :=
  if s.closed then s.low ≤ point * s.den ∧ point * s.den ≤ s.high
  else s.low < point * s.den ∧ point * s.den < s.high

/-- **The grid point that stands for the number**, if the grid has a point in the interval. -/
def Scaled.point? (s : Scaled) : Option Nat :=
  let below := s.value / s.den
  match s.contains below, s.contains (below + 1) with
  | true, true => some (if s.den ≤ 2 * (s.value % s.den) then below + 1 else below)
  | true, false => some below
  | false, true => some (below + 1)
  | false, false => none

/-- **The coarsest grid with a point in the interval**, among so many from a given one on. -/
def coarsest (interval : Interval) (exponent : Int) : (grids : Nat) → (grid : Int) → Nat × Int
  | 0, grid => (0, grid)
  | grids + 1, grid =>
    match (interval.scaled exponent grid).point? with
    | some point => (point, grid)
    | none => coarsest interval exponent grids (grid - 1)

/-- A decimal written out: `point * 10 ^ grid`. -/
def positional (point : Nat) (grid : Int) : List Char :=
  let digits := Nat.toDigits 10 point
  if 0 ≤ grid then digits ++ List.replicate grid.toNat '0'
  else
    let places := (-grid).toNat
    let padded := List.replicate (places + 1 - digits.length) '0' ++ digits
    padded.take (padded.length - places) ++ '.' :: padded.drop (padded.length - places)

/-- A minus sign, if there is one. -/
def signText (negative : Bool) : List Char :=
  if negative then ['-'] else []

/-- **The shortest text of a number.** -/
def shown : Binary64 → String
  | .notANumber => "NaN"
  | .infinite negative => String.ofList (signText negative ++ ['i', 'n', 'f'])
  | .finite negative mantissa exponent =>
    if mantissa = 0 then String.ofList (signText negative ++ ['0'])
    else
      let (point, grid) := coarsest (intervalOf mantissa exponent) exponent gridCount coarsestGrid
      String.ofList (signText negative ++ positional point grid)

end Binary64

end DisplaySession
