/-
UTF-8: writing characters as bytes and reading bytes as characters.

Paths and file contents are bytes; names and messages are text. The reader cuts bytes into pieces:
a well-formed sequence is a piece with its character, and the longest run of bytes that begins a
well-formed sequence but does not finish it is a piece without one. Strict reading refuses pieces
without a character, lenient reading shows each as one replacement character.

The first byte of a sequence decides how many bytes follow and which second bytes are possible, and
that rules out overlong forms and surrogates.
-/
set_option autoImplicit false

namespace DisplaySession

/-- A run of bytes: a path, a file's contents, a tool's output. -/
abbrev Bytes := List UInt8

namespace Utf8

/-- The bytes of one character. -/
def encodeChar (c : Char) : Bytes :=
  let n := c.toNat
  if n < 0x80 then [UInt8.ofNat n]
  else if n < 0x800 then [UInt8.ofNat (0xc0 + n / 64), UInt8.ofNat (0x80 + n % 64)]
  else if n < 0x10000 then
    [UInt8.ofNat (0xe0 + n / 4096), UInt8.ofNat (0x80 + n / 64 % 64), UInt8.ofNat (0x80 + n % 64)]
  else
    [UInt8.ofNat (0xf0 + n / 262144), UInt8.ofNat (0x80 + n / 4096 % 64),
      UInt8.ofNat (0x80 + n / 64 % 64), UInt8.ofNat (0x80 + n % 64)]

/-- **The bytes of a text.** -/
def encode (cs : List Char) : Bytes :=
  cs.flatMap encodeChar

/-- The bytes of a string. -/
def ofString (s : String) : Bytes :=
  encode s.toList

/-- A byte that continues a sequence. -/
def isTail (b : UInt8) : Bool :=
  0x80 ≤ b && b ≤ 0xbf

/-- The six low bits of a byte that continues a sequence. -/
def tailBits (b : UInt8) : Nat :=
  b.toNat % 64

/-- What a first byte announces. -/
inductive Lead
  /-- A character of one byte. -/
  | one
  /-- One more byte; the bits of the first. -/
  | two (bits : Nat)
  /-- Two more bytes, the next one from a closed range. -/
  | three (bits : Nat) (low high : UInt8)
  /-- Three more bytes, the next one from a closed range. -/
  | four (bits : Nat) (low high : UInt8)
  /-- No sequence begins with this byte. -/
  | none
  deriving DecidableEq

/-- **What follows a first byte.** The ranges leave out overlong forms (after `e0` and `f0`),
surrogates (after `ed`) and values beyond the last code point (after `f4`). -/
def lead (b : UInt8) : Lead :=
  if b < 0x80 then .one
  else if 0xc2 ≤ b && b ≤ 0xdf then .two (b.toNat - 0xc0)
  else if b == 0xe0 then .three 0 0xa0 0xbf
  else if b == 0xed then .three 0xd 0x80 0x9f
  else if 0xe1 ≤ b && b ≤ 0xef then .three (b.toNat - 0xe0) 0x80 0xbf
  else if b == 0xf0 then .four 0 0x90 0xbf
  else if 0xf1 ≤ b && b ≤ 0xf3 then .four (b.toNat - 0xf0) 0x80 0xbf
  else if b == 0xf4 then .four 4 0x80 0x8f
  else .none

/-- **The pieces of a run of bytes**: a character, or nothing for a longest unfinished beginning. -/
def pieces : Bytes → List (Option Char)
  | [] => []
  | a :: rest =>
    match lead a with
    | .one => some (Char.ofNat a.toNat) :: pieces rest
    | .none => none :: pieces rest
    | .two bits =>
      match rest with
      | [] => [none]
      | b :: rest' =>
        if isTail b then some (Char.ofNat (bits * 64 + tailBits b)) :: pieces rest'
        else none :: pieces (b :: rest')
    | .three bits low high =>
      match rest with
      | [] => [none]
      | b :: rest' =>
        if low ≤ b && b ≤ high then
          match rest' with
          | [] => [none]
          | c :: rest'' =>
            if isTail c then
              some (Char.ofNat (bits * 4096 + tailBits b * 64 + tailBits c)) :: pieces rest''
            else none :: pieces (c :: rest'')
        else none :: pieces (b :: rest')
    | .four bits low high =>
      match rest with
      | [] => [none]
      | b :: rest' =>
        if low ≤ b && b ≤ high then
          match rest' with
          | [] => [none]
          | c :: rest'' =>
            if isTail c then
              match rest'' with
              | [] => [none]
              | d :: rest''' =>
                if isTail d then
                  some (Char.ofNat
                    (bits * 262144 + tailBits b * 4096 + tailBits c * 64 + tailBits d)) ::
                    pieces rest'''
                else none :: pieces (d :: rest''')
            else none :: pieces (c :: rest'')
        else none :: pieces (b :: rest')

/-- The characters of pieces that all have one. -/
def allChars : List (Option Char) → Option (List Char)
  | [] => some []
  | none :: _ => none
  | some c :: ps => (allChars ps).map (c :: ·)

/-- **Strict reading**: nothing unless every piece has a character. -/
def decode? (bytes : Bytes) : Option (List Char) :=
  allChars (pieces bytes)

/-- **Lenient reading**: a piece without a character is shown as one replacement character. -/
def decodeLossy (bytes : Bytes) : List Char :=
  (pieces bytes).map (·.getD '\ufffd')

/-- Lenient reading as a string. -/
def shown (bytes : Bytes) : String :=
  String.ofList (decodeLossy bytes)

/-- **The order of texts by their bytes.** -/
def Precedes (a b : String) : Prop :=
  ofString a < ofString b

instance (a b : String) : Decidable (Precedes a b) :=
  inferInstanceAs (Decidable (ofString a < ofString b))

end Utf8

end DisplaySession
