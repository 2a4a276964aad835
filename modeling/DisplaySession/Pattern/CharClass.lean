/-
Classes of characters, as a pattern can name them.

A class is built from intervals of code points by the operations of sets, and by taking in the
other case of its letters. It is only ever asked whether it holds a character. All classes that
have a name are classes of ASCII.
-/
set_option autoImplicit false

namespace DisplaySession

/-- **A class of characters**, given by their code points. -/
inductive CharClass
  /-- The code points of a closed interval. -/
  | between (low high : Nat)
  /-- What one of two classes holds. -/
  | either (a b : CharClass)
  /-- What both of two classes hold. -/
  | both (a b : CharClass)
  /-- What a class does not hold. -/
  | other (a : CharClass)
  /-- What a class holds in one of the two cases of ASCII. -/
  | anyCase (a : CharClass)
  deriving DecidableEq

namespace CharClass

/-- The code point of the same letter of ASCII in the other case. -/
def swapCase (n : Nat) : Nat :=
  if 65 ≤ n ∧ n ≤ 90 then n + 32 else if 97 ≤ n ∧ n ≤ 122 then n - 32 else n

/-- **Does a class hold a code point?** -/
def holds : CharClass → Nat → Bool
  | between low high, n => low ≤ n && n ≤ high
  | either a b, n => holds a n || holds b n
  | both a b, n => holds a n && holds b n
  | other a, n => !holds a n
  | anyCase a, n => holds a n || holds a (swapCase n)

/-- The class of one character. -/
def only (c : Char) : CharClass :=
  between c.toNat c.toNat

/-- The class of an interval of characters. -/
def range (low high : Char) : CharClass :=
  between low.toNat high.toNat

/-- The class of no character. -/
def none : CharClass :=
  between 1 0

/-- The class of all characters. -/
def all : CharClass :=
  other none

/-- What a class holds, or what it does not hold. -/
def negatedIf (negated : Bool) (a : CharClass) : CharClass :=
  if negated then other a else a

/-- What exactly one of two classes holds. -/
def apart (a b : CharClass) : CharClass :=
  either (both a (other b)) (both b (other a))

/-- Is a class built of intervals of ASCII alone, without a complement? -/
def isPlain : CharClass → Bool
  | between _ high => high < 0x80
  | either a b => isPlain a && isPlain b
  | both a b => isPlain a || isPlain b
  | other _ => false
  | anyCase a => isPlain a

/-- The number of intervals in a class. -/
def intervals : CharClass → Nat
  | between _ _ => 1
  | either a b => intervals a + intervals b
  | both a b => intervals a + intervals b
  | other a => intervals a + 1
  | anyCase a => 2 * intervals a

/-! ## Classes of ASCII -/

/-- Digits. -/
def digit : CharClass := range '0' '9'

/-- Small letters. -/
def small : CharClass := range 'a' 'z'

/-- Capital letters. -/
def capital : CharClass := range 'A' 'Z'

/-- Letters. -/
def letter : CharClass := either capital small

/-- Letters and digits. -/
def letterOrDigit : CharClass := either digit letter

/-- Letters, digits and the low line. -/
def word : CharClass := either letterOrDigit (only '_')

/-- White space. -/
def blank : CharClass := either (only ' ') (range '\t' '\r')

/-- **The classes that have a name in brackets.** -/
def ofName? (name : String) : Option CharClass :=
  match name with
  | "alnum" => some letterOrDigit
  | "alpha" => some letter
  | "ascii" => some (between 0 0x7f)
  | "blank" => some (either (only '\t') (only ' '))
  | "cntrl" => some (either (between 0 0x1f) (only '\x7f'))
  | "digit" => some digit
  | "graph" => some (range '!' '~')
  | "lower" => some small
  | "print" => some (range ' ' '~')
  | "punct" => some (both (range '!' '~') (other letterOrDigit))
  | "space" => some blank
  | "upper" => some capital
  | "word" => some word
  | "xdigit" => some (either digit (either (range 'A' 'F') (range 'a' 'f')))
  | _ => Option.none

end CharClass

end DisplaySession
