import DisplaySession.Text.Lines
import DisplaySession.Text.Numeral
import DisplaySession.Toml.Value

/-
Values that are written without quotes: booleans, numbers, dates and times.

All of them are words without spaces, but for the space that may stand between a date and a time.
A word is read as a whole and then told apart.
-/
set_option autoImplicit false

namespace DisplaySession.Toml

/-! ## Digits -/

/-- Digits of some kind, with single underscores between them, without the underscores. -/
def digitRun? (isDigit : Char → Bool) (cs : List Char) : Option (List Char) :=
  let pieces := Text.split '_' cs
  if pieces.all fun p => !p.isEmpty && p.all isDigit then some pieces.flatten else none

/-- The value of digits in a base up to sixteen. -/
def valueIn (base : Nat) (digits : List Char) : Nat :=
  digits.foldl (fun n c => n * base + (Text.hexDigit? c).getD 0) 0

/-- Decimal digits without a zero in front. -/
def decimalRun? (cs : List Char) : Option (List Char) :=
  if cs.head? = some '0' ∧ cs ≠ ['0'] then none else digitRun? Char.isDigit cs

/-! ## Integers -/

/-- The digits of a base, and the base: behind a zero and a letter. -/
def basedInteger? : List Char → Option Nat
  | '0' :: 'x' :: cs => (digitRun? (fun c => (Text.hexDigit? c).isSome) cs).map (valueIn 16)
  | '0' :: 'o' :: cs => (digitRun? (fun c => '0' ≤ c ∧ c ≤ '7') cs).map (valueIn 8)
  | '0' :: 'b' :: cs => (digitRun? (fun c => c = '0' ∨ c = '1') cs).map (valueIn 2)
  | _ => none

/-- A number that has 64 bits with a sign. -/
def signed64? (n : Int) : Option Int :=
  if -(Text.signedLimit : Int) ≤ n ∧ n < Text.signedLimit then some n else none

/-- **An integer.** -/
def integer? (cs : List Char) : Option Int :=
  match basedInteger? cs with
  | some n => signed64? n
  | none =>
    let (negative, digits) := Text.sign cs
    match decimalRun? digits with
    | some ds => signed64? (if negative then -(valueIn 10 ds : Int) else valueIn 10 ds)
    | none => none

/-! ## Numbers with a point -/

/-- The power of ten behind the letter. -/
def exponent? : Option (List Char) → Option Int
  | none => some 0
  | some cs =>
    let (negative, digits) := Text.sign cs
    (digitRun? Char.isDigit digits).map fun ds =>
      if negative then -(valueIn 10 ds : Int) else valueIn 10 ds

/-- The digits behind the point. -/
def fraction? : Option (List Char) → Option (List Char)
  | none => some []
  | some cs => digitRun? Char.isDigit cs

/-- A decimal number with a point or a power of ten. -/
def pointNumber? (negative : Bool) (cs : List Char) : Option Binary64 := do
  let (mantissa, power) := Text.cutAt (fun c => c == 'e' || c == 'E') cs
  let (whole, places) := Text.cutAt (· == '.') mantissa
  if power = none ∧ places = none then none
  else
    let whole ← decimalRun? whole
    let places ← fraction? places
    let power ← exponent? power
    return Binary64.ofDecimal negative (valueIn 10 (whole ++ places)) (power - places.length)

/-- **A number with a point**, or one that is infinite or none by name. A number that is too great
is refused, whatever its sign. -/
def float? (cs : List Char) : Option Binary64 :=
  let (negative, rest) := Text.sign cs
  if rest = ['i', 'n', 'f'] then some (.infinite negative)
  else if rest = ['n', 'a', 'n'] then some .notANumber
  else (pointNumber? negative rest).filter (· ≠ .infinite negative)

/-! ## Dates and times -/

/-- A two-digit number below a bound. -/
def twoDigits? (bound : Nat) (a b : Char) : Option Nat :=
  if a.isDigit ∧ b.isDigit then
    let n := valueIn 10 [a, b]
    if n < bound then some n else none
  else none

/-- The number of days of a month. -/
def daysOf (year month : Nat) : Nat :=
  if month = 2 then
    if year % 4 = 0 ∧ (year % 100 ≠ 0 ∨ year % 400 = 0) then 29 else 28
  else if month = 4 ∨ month = 6 ∨ month = 9 ∨ month = 11 then 30
  else 31

/-- A day that is in the calendar. -/
def isDate (cs : List Char) : Bool :=
  match cs with
  | [y1, y2, y3, y4, '-', m1, m2, '-', d1, d2] =>
    let year := valueIn 10 [y1, y2, y3, y4]
    [y1, y2, y3, y4].all Char.isDigit &&
      (match twoDigits? 13 m1 m2, twoDigits? 32 d1 d2 with
      | some month, some day => 1 ≤ month && 1 ≤ day && day ≤ daysOf year month
      | _, _ => false)
  | _ => false

/-- The digits of a part of a second that count: nine at most, without zeros at the end. -/
def shortFraction (digits : List Char) : List Char :=
  ((digits.take 9).reverse.dropWhile (· == '0')).reverse

/-- A part of a second as it is written: one zero if nothing of it counts. -/
def fractionText (digits : List Char) : List Char :=
  match shortFraction digits with
  | [] => ['.', '0']
  | ds => '.' :: ds

/-- The part of a second that a text begins with, and what follows. -/
def secondPart? : List Char → Option (List Char × List Char)
  | '.' :: cs =>
    let digits := cs.takeWhile Char.isDigit
    if digits.isEmpty then none else some (fractionText digits, cs.dropWhile Char.isDigit)
  | cs => some ([], cs)

/-- The seconds behind a colon, with the part of a second behind them. -/
def seconds? : List Char → Option (List Char × List Char)
  | s1 :: s2 :: rest => do
    let _ ← twoDigits? 61 s1 s2
    let (part, rest) ← secondPart? rest
    return (s1 :: s2 :: part, rest)
  | _ => none

/-- A time of day, and what follows it. The seconds may be missing. -/
def time? : List Char → Option (List Char × List Char)
  | h1 :: h2 :: ':' :: m1 :: m2 :: rest => do
    let _ ← twoDigits? 24 h1 h2
    let _ ← twoDigits? 60 m1 m2
    match rest with
    | ':' :: rest =>
      let (seconds, rest) ← seconds? rest
      return ([h1, h2, ':', m1, m2, ':'] ++ seconds, rest)
    | rest => return ([h1, h2, ':', m1, m2], rest)
  | _ => none

/-- The distance from the world's time, as it is written. No distance is a plus. -/
def offset? (cs : List Char) : Option (List Char) :=
  match cs with
  | [] => some []
  | ['Z'] => some ['Z']
  | ['z'] => some ['Z']
  | [s, h1, h2, ':', m1, m2] => do
    let hours ← twoDigits? 24 h1 h2
    let minutes ← twoDigits? 60 m1 m2
    if s = '+' ∨ (s = '-' ∧ hours = 0 ∧ minutes = 0) then some ['+', h1, h2, ':', m1, m2]
    else if s = '-' then some ['-', h1, h2, ':', m1, m2]
    else none
  | _ => none

/-- A time behind a date. -/
def timeBehindDate? : List Char → Option (List Char)
  | [] => some []
  | mark :: cs =>
    if mark = 'T' ∨ mark = 't' ∨ mark = ' ' then do
      let (time, rest) ← time? cs
      let offset ← offset? rest
      return 'T' :: (time ++ offset)
    else none

/-- **A date, a time or both**, as the text by which it is known. -/
def moment? (cs : List Char) : Option (List Char) :=
  if isDate (cs.take 10) then (timeBehindDate? (cs.drop 10)).map (cs.take 10 ++ ·)
  else
    match time? cs with
    | some (time, []) => some time
    | _ => none

/-! ## Words -/

/-- A character of a word. -/
def isWordChar (c : Char) : Bool :=
  c.isAlphanum || c == '_' || c == '-' || c == '+' || c == '.' || c == ':'

/-- Does a digit come behind a space? -/
def digitBehindSpace : List Char → Bool
  | ' ' :: c :: _ => c.isDigit
  | _ => false

/-- **The word a text begins with**, and what follows. A date goes on behind a space with a time. -/
def word (cs : List Char) : List Char × List Char :=
  let first := cs.takeWhile isWordChar
  let rest := cs.dropWhile isWordChar
  if isDate first && digitBehindSpace rest then
    (first ++ ' ' :: (rest.drop 1).takeWhile isWordChar, (rest.drop 1).dropWhile isWordChar)
  else (first, rest)

/-- **The value of a word.** -/
def wordValue? (cs : List Char) : Option Value :=
  if cs = ['t', 'r', 'u', 'e'] then some (.boolean true)
  else if cs = ['f', 'a', 'l', 's', 'e'] then some (.boolean false)
  else
    match integer? cs with
    | some n => some (.integer n)
    | none =>
      match float? cs with
      | some x => some (.float x)
      | none => (moment? cs).map fun m => .text (String.ofList m)

end DisplaySession.Toml
