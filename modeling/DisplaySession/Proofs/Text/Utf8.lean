import DisplaySession.Text.Utf8

/-
UTF-8 loses nothing.

Reading what was written gives the characters back (`decode?_encode`, `decodeLossy_encode`), and
bytes that can be read strictly are what writing their characters gives (`encode_of_decode?`).

Both rest on how one piece is cut off (`exists_cut`): either the bytes begin with the sequence of a
character, or they begin with bytes that are all beyond ASCII and begin no sequence. So every ASCII
byte of a run is a character of its own, whatever surrounds it (`mem_decodeLossy`), and a run can be
read in two parts wherever one stands (`pieces_append`).
-/
set_option autoImplicit false

namespace DisplaySession

namespace Utf8

/-! ## First and further bytes -/

/-- The lowest second byte of a sequence of three. -/
def lowOfThree (bits : Nat) : Nat :=
  if bits = 0 then 0xa0 else 0x80

/-- The highest second byte of a sequence of three. -/
def highOfThree (bits : Nat) : Nat :=
  if bits = 0xd then 0x9f else 0xbf

/-- The lowest second byte of a sequence of four. -/
def lowOfFour (bits : Nat) : Nat :=
  if bits = 0 then 0x90 else 0x80

/-- The highest second byte of a sequence of four. -/
def highOfFour (bits : Nat) : Nat :=
  if bits = 4 then 0x8f else 0xbf

/-- **The ranges of a first byte.** -/
theorem lead_cases : ∀ n < 256, n < 0x80 ∨ (0x80 ≤ n ∧ lead (UInt8.ofNat n) = .none) ∨
    (0xc2 ≤ n ∧ n < 0xe0) ∨ (0xe0 ≤ n ∧ n < 0xf0) ∨ (0xf0 ≤ n ∧ n < 0xf5) := by
  decide +kernel

theorem lead_one : ∀ n < 0x80, lead (UInt8.ofNat n) = .one := by
  decide +kernel

theorem lead_two : ∀ bits < 32, 2 ≤ bits → lead (UInt8.ofNat (0xc0 + bits)) = .two bits := by
  decide

theorem lead_three : ∀ bits < 16, lead (UInt8.ofNat (0xe0 + bits)) =
    .three bits (UInt8.ofNat (lowOfThree bits)) (UInt8.ofNat (highOfThree bits)) := by
  decide

theorem lead_four : ∀ bits < 5, lead (UInt8.ofNat (0xf0 + bits)) =
    .four bits (UInt8.ofNat (lowOfFour bits)) (UInt8.ofNat (highOfFour bits)) := by
  decide

theorem tailBits_ofNat {n : Nat} (h : n < 64) : tailBits (UInt8.ofNat (0x80 + n)) = n := by
  rw [tailBits, UInt8.toNat_ofNat_of_lt' (by show _ < 256; omega)]
  omega

theorem isTail_ofNat : ∀ n < 64, isTail (UInt8.ofNat (0x80 + n)) = true := by
  decide

theorem tailBits_lt (b : UInt8) : tailBits b < 64 :=
  Nat.mod_lt _ (by decide)

/-- A byte between `80` and `bf` is known by its six low bits. -/
theorem ofNat_tailBits {b : UInt8} (hlow : 0x80 ≤ b.toNat) (hhigh : b.toNat ≤ 0xbf) :
    UInt8.ofNat (0x80 + tailBits b) = b := by
  have h : 0x80 + tailBits b = b.toNat := by
    unfold tailBits
    omega
  rw [h, UInt8.ofNat_toNat]

theorem range_of_isTail {b : UInt8} (h : isTail b = true) : 0x80 ≤ b.toNat ∧ b.toNat ≤ 0xbf := by
  rw [isTail, Bool.and_eq_true, decide_eq_true_eq, decide_eq_true_eq] at h
  exact ⟨UInt8.le_iff_toNat_le.mp h.1, UInt8.le_iff_toNat_le.mp h.2⟩

theorem between_iff {low high : Nat} (hlow : low < 256) (hhigh : high < 256) (b : UInt8) :
    (decide (UInt8.ofNat low ≤ b) && decide (b ≤ UInt8.ofNat high)) = true ↔
      low ≤ b.toNat ∧ b.toNat ≤ high := by
  rw [Bool.and_eq_true, decide_eq_true_eq, decide_eq_true_eq, UInt8.le_iff_toNat_le,
    UInt8.le_iff_toNat_le, UInt8.toNat_ofNat_of_lt' hlow, UInt8.toNat_ofNat_of_lt' hhigh]

theorem between_three (bits : Nat) (b : UInt8) :
    (decide (UInt8.ofNat (lowOfThree bits) ≤ b) && decide (b ≤ UInt8.ofNat (highOfThree bits))) =
      true ↔ lowOfThree bits ≤ b.toNat ∧ b.toNat ≤ highOfThree bits := by
  apply between_iff
  · unfold lowOfThree
    split <;> decide
  · unfold highOfThree
    split <;> decide

theorem between_four (bits : Nat) (b : UInt8) :
    (decide (UInt8.ofNat (lowOfFour bits) ≤ b) && decide (b ≤ UInt8.ofNat (highOfFour bits))) =
      true ↔ lowOfFour bits ≤ b.toNat ∧ b.toNat ≤ highOfFour bits := by
  apply between_iff
  · unfold lowOfFour
    split <;> decide
  · unfold highOfFour
    split <;> decide

/-! ## Writing a character and reading it back -/

/-- **What was written for a character is one piece.** -/
theorem pieces_encodeChar (c : Char) (rest : Bytes) :
    pieces (encodeChar c ++ rest) = some c :: pieces rest := by
  have hvalid : c.toNat < 0xd800 ∨ 0xdfff < c.toNat ∧ c.toNat < 0x110000 := c.valid
  have hback {n : Nat} (h : n = c.toNat) : Char.ofNat n = c := by rw [h, Char.ofNat_toNat]
  have hbyte {n : Nat} (h : n < 64) : (UInt8.ofNat (0x80 + n)).toNat = 0x80 + n :=
    UInt8.toNat_ofNat_of_lt' (by show _ < 256; omega)
  unfold encodeChar
  -- Only the number of the character matters from here on. Its base-64 digits are the bits of the
  -- further bytes, and the four cases are the four widths.
  generalize c.toNat = n at hvalid hback
  have h0 : n % 64 < 64 := Nat.mod_lt _ (by decide)
  have h1 : n / 64 % 64 < 64 := Nat.mod_lt _ (by decide)
  have h2 : n / 4096 % 64 < 64 := Nat.mod_lt _ (by decide)
  simp only []
  split
  · rw [List.singleton_append, pieces, lead_one n ‹_›]
    simp only []
    rw [hback (UInt8.toNat_ofNat_of_lt' (by show _ < 256; omega))]
  split
  · simp only [List.cons_append, List.nil_append]
    rw [pieces, lead_two (n / 64) (by omega) (by omega)]
    simp only [isTail_ofNat _ h0, if_true, tailBits_ofNat h0]
    rw [hback (by omega)]
  split
  · have hbetween := (between_three (n / 4096) (UInt8.ofNat (0x80 + n / 64 % 64))).mpr (by
      rw [hbyte h1, lowOfThree, highOfThree]
      constructor <;> split <;> omega)
    simp only [List.cons_append, List.nil_append]
    rw [pieces, lead_three (n / 4096) (by omega)]
    simp only [hbetween, isTail_ofNat _ h0, if_true, tailBits_ofNat h0, tailBits_ofNat h1]
    rw [hback (by omega)]
  · have hbetween := (between_four (n / 262144) (UInt8.ofNat (0x80 + n / 4096 % 64))).mpr (by
      rw [hbyte h2, lowOfFour, highOfFour]
      constructor <;> split <;> omega)
    simp only [List.cons_append, List.nil_append]
    rw [pieces, lead_four (n / 262144) (by omega)]
    simp only [hbetween, isTail_ofNat _ h0, isTail_ofNat _ h1, if_true, tailBits_ofNat h0,
      tailBits_ofNat h1, tailBits_ofNat h2]
    rw [hback (by omega)]

theorem toNat_ofNat {n : Nat} (h : n.isValidChar) : (Char.ofNat n).toNat = n := by
  rw [Char.ofNat, dif_pos h]
  rfl

theorem encodeChar_one {n : Nat} (h : n < 0x80) : encodeChar (Char.ofNat n) = [UInt8.ofNat n] := by
  unfold encodeChar
  rw [toNat_ofNat (.inl (by omega))]
  exact if_pos h

theorem encodeChar_two {bits last : Nat} (hlow : 2 ≤ bits) (hhigh : bits < 32) (hlast : last < 64) :
    encodeChar (Char.ofNat (bits * 64 + last)) =
      [UInt8.ofNat (0xc0 + bits), UInt8.ofNat (0x80 + last)] := by
  have hdiv : (bits * 64 + last) / 64 = bits := by omega
  have hmod : (bits * 64 + last) % 64 = last := by omega
  unfold encodeChar
  rw [toNat_ofNat (.inl (by omega))]
  simp only []
  rw [if_neg (by omega), if_pos (by omega), hdiv, hmod]

theorem encodeChar_three {bits second last : Nat} (hbits : bits < 16) (hsecond : second < 64)
    (hlow : lowOfThree bits ≤ 0x80 + second) (hhigh : 0x80 + second ≤ highOfThree bits)
    (hlast : last < 64) :
    encodeChar (Char.ofNat (bits * 4096 + second * 64 + last)) =
      [UInt8.ofNat (0xe0 + bits), UInt8.ofNat (0x80 + second), UInt8.ofNat (0x80 + last)] := by
  have hdiv : (bits * 4096 + second * 64 + last) / 4096 = bits := by omega
  have hmiddle : (bits * 4096 + second * 64 + last) / 64 % 64 = second := by omega
  have hmod : (bits * 4096 + second * 64 + last) % 64 = last := by omega
  -- The lower bound on the second byte rules out a shorter form, the upper one a surrogate.
  have hlow' : 0x800 ≤ bits * 4096 + second * 64 + last := by
    unfold lowOfThree at hlow
    split at hlow <;> omega
  have hvalid : (bits * 4096 + second * 64 + last).isValidChar := by
    unfold highOfThree at hhigh
    unfold Nat.isValidChar
    split at hhigh <;> omega
  unfold encodeChar
  rw [toNat_ofNat hvalid]
  simp only []
  rw [if_neg (by omega), if_neg (by omega), if_pos (by omega), hdiv, hmiddle, hmod]

theorem encodeChar_four {bits second third last : Nat} (hbits : bits < 5) (hsecond : second < 64)
    (hlow : lowOfFour bits ≤ 0x80 + second) (hhigh : 0x80 + second ≤ highOfFour bits)
    (hthird : third < 64) (hlast : last < 64) :
    encodeChar (Char.ofNat (bits * 262144 + second * 4096 + third * 64 + last)) =
      [UInt8.ofNat (0xf0 + bits), UInt8.ofNat (0x80 + second), UInt8.ofNat (0x80 + third),
        UInt8.ofNat (0x80 + last)] := by
  have hdiv : (bits * 262144 + second * 4096 + third * 64 + last) / 262144 = bits := by omega
  have hmiddle : (bits * 262144 + second * 4096 + third * 64 + last) / 4096 % 64 = second := by
    omega
  have hmiddle' : (bits * 262144 + second * 4096 + third * 64 + last) / 64 % 64 = third := by omega
  have hmod : (bits * 262144 + second * 4096 + third * 64 + last) % 64 = last := by omega
  -- The lower bound on the second byte rules out a shorter form, the upper one what is beyond the
  -- last character.
  have hlow' : 0x10000 ≤ bits * 262144 + second * 4096 + third * 64 + last := by
    unfold lowOfFour at hlow
    split at hlow <;> omega
  have hvalid : (bits * 262144 + second * 4096 + third * 64 + last).isValidChar := by
    unfold highOfFour at hhigh
    unfold Nat.isValidChar
    split at hhigh <;> omega
  unfold encodeChar
  rw [toNat_ofNat hvalid]
  simp only []
  rw [if_neg (by omega), if_neg (by omega), if_neg (by omega), hdiv, hmiddle, hmiddle', hmod]

/-! ## Cutting off one piece -/

/-- **How a piece is cut off**: the whole run, the piece, and what is left. -/
inductive Cut : Bytes → Option Char → Bytes → Prop
  /-- The sequence of a character. -/
  | char (c : Char) (rest : Bytes) : Cut (encodeChar c ++ rest) (some c) rest
  /-- Bytes beyond ASCII that are no sequence. -/
  | malformed {bad : Bytes} (hne : bad ≠ []) (hbad : ∀ b ∈ bad, 0x80 ≤ b.toNat) (rest : Bytes) :
    Cut (bad ++ rest) none rest

theorem cut_one {a : UInt8} (ha : 0x80 ≤ a.toNat) (rest : Bytes) : Cut (a :: rest) none rest :=
  @Cut.malformed [a] (by simp) (by simpa using ha) rest

theorem cut_two {a b : UInt8} (ha : 0x80 ≤ a.toNat) (hb : 0x80 ≤ b.toNat) (rest : Bytes) :
    Cut (a :: b :: rest) none rest :=
  @Cut.malformed [a, b] (by simp) (by simpa using ⟨ha, hb⟩) rest

theorem cut_three {a b c : UInt8} (ha : 0x80 ≤ a.toNat) (hb : 0x80 ≤ b.toNat) (hc : 0x80 ≤ c.toNat)
    (rest : Bytes) : Cut (a :: b :: c :: rest) none rest :=
  @Cut.malformed [a, b, c] (by simp) (by simpa using ⟨ha, hb, hc⟩) rest

theorem exists_cut_two {bits : Nat} (hlow : 2 ≤ bits) (hhigh : bits < 32) (rest : Bytes) :
    ∃ piece left, Cut (UInt8.ofNat (0xc0 + bits) :: rest) piece left ∧
      pieces (UInt8.ofNat (0xc0 + bits) :: rest) = piece :: pieces left := by
  have ha : 0x80 ≤ (UInt8.ofNat (0xc0 + bits)).toNat := by
    rw [UInt8.toNat_ofNat_of_lt' (by show _ < 256; omega)]
    omega
  rw [pieces, lead_two bits hhigh hlow]
  cases rest with
  | nil => exact ⟨none, [], cut_one ha [], rfl⟩
  | cons b rest =>
    simp only []
    split
    · rename_i htail
      obtain ⟨hb, hb'⟩ := range_of_isTail htail
      have hcut := Cut.char (Char.ofNat (bits * 64 + tailBits b)) rest
      rw [encodeChar_two hlow hhigh (tailBits_lt b), ofNat_tailBits hb hb'] at hcut
      exact ⟨_, _, hcut, rfl⟩
    · exact ⟨none, b :: rest, cut_one ha _, rfl⟩

theorem exists_cut_three {bits : Nat} (hbits : bits < 16) (rest : Bytes) :
    ∃ piece left, Cut (UInt8.ofNat (0xe0 + bits) :: rest) piece left ∧
      pieces (UInt8.ofNat (0xe0 + bits) :: rest) = piece :: pieces left := by
  have ha : 0x80 ≤ (UInt8.ofNat (0xe0 + bits)).toNat := by
    rw [UInt8.toNat_ofNat_of_lt' (by show _ < 256; omega)]
    omega
  rw [pieces, lead_three bits hbits]
  -- The bytes after the first are taken one at a time. A run that ends, or goes on with a byte that
  -- does not fit, is cut before that byte.
  cases rest with
  | nil => exact ⟨none, [], cut_one ha [], rfl⟩
  | cons b rest =>
    simp only []
    split
    · rename_i hbetween
      obtain ⟨hlow, hhigh⟩ := (between_three bits b).mp hbetween
      have hb : 0x80 ≤ b.toNat := by
        unfold lowOfThree at hlow
        split at hlow <;> omega
      have hb' : b.toNat ≤ 0xbf := by
        unfold highOfThree at hhigh
        split at hhigh <;> omega
      -- The second byte is known by its bits only because it is in the narrower range.
      have hbyte : 0x80 + tailBits b = b.toNat := by
        unfold tailBits
        omega
      cases rest with
      | nil => exact ⟨none, [], cut_two ha hb [], rfl⟩
      | cons c rest =>
        simp only []
        split
        · rename_i htail
          obtain ⟨hc, hc'⟩ := range_of_isTail htail
          have hcut := Cut.char
            (Char.ofNat (bits * 4096 + tailBits b * 64 + tailBits c)) rest
          rw [encodeChar_three hbits (tailBits_lt b) (hbyte ▸ hlow) (hbyte ▸ hhigh) (tailBits_lt c),
            ofNat_tailBits hb hb', ofNat_tailBits hc hc'] at hcut
          exact ⟨_, _, hcut, rfl⟩
        · exact ⟨none, c :: rest, cut_two ha hb _, rfl⟩
    · exact ⟨none, b :: rest, cut_one ha _, rfl⟩

theorem exists_cut_four {bits : Nat} (hbits : bits < 5) (rest : Bytes) :
    ∃ piece left, Cut (UInt8.ofNat (0xf0 + bits) :: rest) piece left ∧
      pieces (UInt8.ofNat (0xf0 + bits) :: rest) = piece :: pieces left := by
  have ha : 0x80 ≤ (UInt8.ofNat (0xf0 + bits)).toNat := by
    rw [UInt8.toNat_ofNat_of_lt' (by show _ < 256; omega)]
    omega
  rw [pieces, lead_four bits hbits]
  cases rest with
  | nil => exact ⟨none, [], cut_one ha [], rfl⟩
  | cons b rest =>
    simp only []
    split
    · rename_i hbetween
      obtain ⟨hlow, hhigh⟩ := (between_four bits b).mp hbetween
      have hb : 0x80 ≤ b.toNat := by
        unfold lowOfFour at hlow
        split at hlow <;> omega
      have hb' : b.toNat ≤ 0xbf := by
        unfold highOfFour at hhigh
        split at hhigh <;> omega
      have hbyte : 0x80 + tailBits b = b.toNat := by
        unfold tailBits
        omega
      cases rest with
      | nil => exact ⟨none, [], cut_two ha hb [], rfl⟩
      | cons c rest =>
        simp only []
        split
        · rename_i htail
          obtain ⟨hc, hc'⟩ := range_of_isTail htail
          cases rest with
          | nil => exact ⟨none, [], cut_three ha hb hc [], rfl⟩
          | cons d rest =>
            simp only []
            split
            · rename_i htail'
              obtain ⟨hd, hd'⟩ := range_of_isTail htail'
              have hcut := Cut.char (Char.ofNat
                (bits * 262144 + tailBits b * 4096 + tailBits c * 64 + tailBits d)) rest
              rw [encodeChar_four hbits (tailBits_lt b) (hbyte ▸ hlow) (hbyte ▸ hhigh)
                (tailBits_lt c) (tailBits_lt d), ofNat_tailBits hb hb', ofNat_tailBits hc hc',
                ofNat_tailBits hd hd'] at hcut
              exact ⟨_, _, hcut, rfl⟩
            · exact ⟨none, d :: rest, cut_three ha hb hc _, rfl⟩
        · exact ⟨none, c :: rest, cut_two ha hb _, rfl⟩
    · exact ⟨none, b :: rest, cut_one ha _, rfl⟩

theorem encodeChar_ne_nil (c : Char) : encodeChar c ≠ [] := by
  unfold encodeChar
  simp only []
  split
  · exact List.cons_ne_nil _ _
  split
  · exact List.cons_ne_nil _ _
  split <;> exact List.cons_ne_nil _ _

theorem length_of_cut {bytes left : Bytes} {piece : Option Char} (h : Cut bytes piece left) :
    left.length < bytes.length := by
  cases h with
  | char c left =>
    rw [List.length_append]
    have hpos := List.length_pos_iff.mpr (encodeChar_ne_nil c)
    omega
  | malformed hne hbad left =>
    rw [List.length_append]
    have hpos := List.length_pos_iff.mpr hne
    omega

/-- **Every run that is not empty has a first piece.** -/
theorem exists_cut (a : UInt8) (rest : Bytes) :
    ∃ piece left, Cut (a :: rest) piece left ∧ pieces (a :: rest) = piece :: pieces left := by
  -- The facts on first bytes are stated over numbers, so that each holds by looking at all of them.
  rw [← @UInt8.ofNat_toNat a]
  have hbound := a.toNat_lt
  generalize a.toNat = n at hbound
  rcases lead_cases n hbound with h | ⟨hhigh, hnone⟩ | ⟨hlow, hhigh⟩ | ⟨hlow, hhigh⟩ | ⟨hlow, hhigh⟩
  · have hcut := Cut.char (Char.ofNat n) rest
    rw [encodeChar_one h] at hcut
    refine ⟨_, _, hcut, ?_⟩
    rw [pieces, lead_one n h, UInt8.toNat_ofNat_of_lt' hbound]
  · refine ⟨none, rest, cut_one ?_ rest, ?_⟩
    · rw [UInt8.toNat_ofNat_of_lt' hbound]
      exact hhigh
    · rw [pieces, hnone]
  · obtain ⟨bits, rfl⟩ := Nat.exists_eq_add_of_le (show 0xc0 ≤ n by omega)
    exact exists_cut_two (by omega) (by omega) rest
  · obtain ⟨bits, rfl⟩ := Nat.exists_eq_add_of_le (show 0xe0 ≤ n by omega)
    exact exists_cut_three (by omega) rest
  · obtain ⟨bits, rfl⟩ := Nat.exists_eq_add_of_le (show 0xf0 ≤ n by omega)
    exact exists_cut_four (by omega) rest

/-! ## Reading -/

theorem pieces_encode (cs : List Char) : pieces (encode cs) = cs.map some := by
  induction cs with
  | nil => rw [encode, List.flatMap_nil, pieces, List.map_nil]
  | cons c cs ih =>
    rw [encode, List.flatMap_cons, pieces_encodeChar, List.map_cons]
    exact congrArg _ ih

theorem allChars_map_some (cs : List Char) : allChars (cs.map some) = some cs := by
  induction cs with
  | nil => rfl
  | cons c cs ih => rw [List.map_cons, allChars, ih, Option.map_some]

/-- **What was written is read strictly.** -/
theorem decode?_encode (cs : List Char) : decode? (encode cs) = some cs := by
  rw [decode?, pieces_encode, allChars_map_some]

theorem ofString_injective : Function.Injective ofString := by
  intro s t h
  have hread := decode?_encode s.toList
  have hbytes : encode s.toList = encode t.toList := h
  rw [hbytes, decode?_encode] at hread
  exact String.toList_injective (Option.some.inj hread).symm

/-- **What was written is read leniently.** -/
theorem decodeLossy_encode (cs : List Char) : decodeLossy (encode cs) = cs := by
  rw [decodeLossy, pieces_encode, List.map_map]
  exact List.map_id cs

/-- **Bytes that can be read strictly are what writing their characters gives.** -/
theorem encode_of_decode? {bytes : Bytes} {cs : List Char} (h : decode? bytes = some cs) :
    encode cs = bytes := by
  -- A step takes off one piece, which may be several bytes, so the induction is on their number.
  induction hn : bytes.length using Nat.strongRecOn generalizing bytes cs with
  | _ n ih =>
    cases bytes with
    | nil =>
      rw [decode?, pieces, allChars, Option.some.injEq] at h
      rw [← h]
      rfl
    | cons a rest =>
      obtain ⟨piece, left, hcut, hpieces⟩ := exists_cut a rest
      rw [decode?, hpieces] at h
      generalize hbytes : a :: rest = bytes at hcut hn
      cases hcut with
      | malformed hne hbad left =>
        -- A piece without a character makes strict reading give nothing.
        cases h
      | char c left =>
        rw [allChars, Option.map_eq_some_iff] at h
        obtain ⟨ds, hds, rfl⟩ := h
        rw [encode, List.flatMap_cons]
        exact congrArg _ (ih left.length (hn ▸ length_of_cut (.char c left)) hds rfl)

/-! ## ASCII bytes -/

/-- All bytes of a character beyond ASCII are beyond ASCII. -/
theorem high_of_mem_encodeChar {c : Char} {b : UInt8} (hc : 0x80 ≤ c.toNat)
    (h : b ∈ encodeChar c) : 0x80 ≤ b.toNat := by
  have hvalid : c.toNat < 0xd800 ∨ 0xdfff < c.toNat ∧ c.toNat < 0x110000 := c.valid
  have hbyte {n : Nat} (hlow : 0x80 ≤ n) (hhigh : n < 256) (hb : b = UInt8.ofNat n) :
      0x80 ≤ b.toNat := by
    rw [hb, UInt8.toNat_ofNat_of_lt' hhigh]
    exact hlow
  -- Every byte of a longer sequence is a number from `80` on plus some bits.
  unfold encodeChar at h
  simp only [] at h
  rw [if_neg (by omega)] at h
  split at h
  · simp only [List.mem_cons, List.not_mem_nil, or_false] at h
    rcases h with h | h <;> exact hbyte (by omega) (by omega) h
  split at h
  · simp only [List.mem_cons, List.not_mem_nil, or_false] at h
    rcases h with h | h | h <;> exact hbyte (by omega) (by omega) h
  · simp only [List.mem_cons, List.not_mem_nil, or_false] at h
    rcases h with h | h | h | h <;> exact hbyte (by omega) (by omega) h

/-- An ASCII byte is in the sequence of no other character than its own. -/
theorem mem_encodeChar {b : UInt8} (hb : b.toNat < 0x80) (c : Char) :
    b ∈ encodeChar c ↔ Char.ofNat b.toNat = c := by
  have hvalid : b.toNat.isValidChar := .inl (by omega)
  by_cases hc : c.toNat < 0x80
  · have hone := encodeChar_one hc
    rw [Char.ofNat_toNat] at hone
    rw [hone, List.mem_singleton]
    constructor
    · rintro rfl
      rw [UInt8.toNat_ofNat_of_lt' (by show _ < 256; omega), Char.ofNat_toNat]
    · rintro rfl
      rw [toNat_ofNat hvalid, UInt8.ofNat_toNat]
  · constructor
    · intro h
      have hhigh := high_of_mem_encodeChar (by omega) h
      omega
    · rintro rfl
      rw [toNat_ofNat hvalid] at hc
      omega

/-- **An ASCII byte is in a run exactly if its character is read there.** -/
theorem mem_decodeLossy {b : UInt8} (hb : b.toNat < 0x80) (bytes : Bytes) :
    Char.ofNat b.toNat ∈ decodeLossy bytes ↔ b ∈ bytes := by
  have hvalid : b.toNat.isValidChar := .inl (by omega)
  induction hn : bytes.length using Nat.strongRecOn generalizing bytes with
  | _ n ih =>
    cases bytes with
    | nil => simp [decodeLossy, pieces]
    | cons a rest =>
      obtain ⟨piece, left, hcut, hpieces⟩ := exists_cut a rest
      rw [decodeLossy, hpieces, List.map_cons, List.mem_cons]
      generalize hbytes : a :: rest = bytes at hcut hn ⊢
      have hrest : Char.ofNat b.toNat ∈ List.map (·.getD '\ufffd') (pieces left) ↔ b ∈ left :=
        ih left.length (hn ▸ length_of_cut hcut) left rfl
      rw [hrest]
      cases hcut with
      | char c left =>
        rw [List.mem_append, mem_encodeChar hb]
        rfl
      | @malformed bad hne hbad left =>
        -- What is read for malformed bytes is beyond ASCII, and so are the bytes.
        have hreplaced : Char.ofNat b.toNat ≠ '\ufffd' := by
          intro h
          have hnum := congrArg Char.toNat h
          rw [toNat_ofNat hvalid] at hnum
          change b.toNat = 0xfffd at hnum
          omega
        have hno : b ∉ bad := fun h => absurd (hbad b h) (by omega)
        rw [List.mem_append]
        simp [hreplaced, hno]

theorem mem_encode {b : UInt8} (hb : b.toNat < 0x80) (cs : List Char) :
    b ∈ encode cs ↔ Char.ofNat b.toNat ∈ cs := by
  rw [← mem_decodeLossy hb, decodeLossy_encode]

theorem length_encode {cs : List Char} (h : ∀ c ∈ cs, c.toNat < 0x80) :
    (encode cs).length = cs.length := by
  induction cs with
  | nil => rfl
  | cons c cs ih =>
    rw [List.forall_mem_cons] at h
    have hone : encodeChar c = [UInt8.ofNat c.toNat] := by simp [encodeChar, h.1]
    have hlength : (encode cs).length = cs.length := ih h.2
    rw [encode, List.flatMap_cons, hone, List.length_append, ← encode, hlength,
      List.length_singleton, List.length_cons, Nat.add_comm]

/-! ## Cutting at an ASCII byte -/

/-- A byte that may follow a first byte in a range is beyond ASCII. -/
theorem low_of_lead {a low high : UInt8} {bits : Nat}
    (h : lead a = .three bits low high ∨ lead a = .four bits low high) : 0x80 ≤ low.toNat := by
  rw [← @UInt8.ofNat_toNat a] at h
  have hbound := a.toNat_lt
  generalize a.toNat = n at hbound h
  rcases lead_cases n hbound with hn | ⟨-, hn⟩ | ⟨hlow, hhigh⟩ | ⟨hlow, hhigh⟩ | ⟨hlow, hhigh⟩
  · simp [lead_one n hn] at h
  · simp [hn] at h
  · obtain ⟨bits', rfl⟩ := Nat.exists_eq_add_of_le (show 0xc0 ≤ n by omega)
    simp only [lead_two bits' (by omega) (by omega), reduceCtorEq, or_self] at h
  · obtain ⟨bits', rfl⟩ := Nat.exists_eq_add_of_le hlow
    simp only [lead_three bits' (by omega), Lead.three.injEq, reduceCtorEq, or_false] at h
    obtain ⟨-, rfl, -⟩ := h
    unfold lowOfThree
    split <;> decide
  · obtain ⟨bits', rfl⟩ := Nat.exists_eq_add_of_le hlow
    simp only [lead_four bits' (by omega), Lead.four.injEq, reduceCtorEq, false_or] at h
    obtain ⟨-, rfl, -⟩ := h
    unfold lowOfFour
    split <;> decide

theorem pieces_cons {b : UInt8} (hb : b.toNat < 0x80) (rest : Bytes) :
    pieces (b :: rest) = some (Char.ofNat b.toNat) :: pieces rest := by
  have hlead := lead_one b.toNat hb
  rw [UInt8.ofNat_toNat] at hlead
  rw [pieces, hlead]

/-- **No sequence reaches over an ASCII byte.** What stands in front of one is cut as if nothing
followed, also where it ends inside a sequence. -/
theorem pieces_append {b : UInt8} (hb : b.toNat < 0x80) (front rest : Bytes) :
    pieces (front ++ b :: rest) = pieces front ++ pieces (b :: rest) := by
  have htail : isTail b = false := by
    rw [Bool.eq_false_iff]
    intro h
    have hrange := range_of_isTail h
    omega
  have hbetween {a low high : UInt8} {bits : Nat}
      (h : lead a = .three bits low high ∨ lead a = .four bits low high) :
      (decide (low ≤ b) && decide (b ≤ high)) = false := by
    have hlow := low_of_lead h
    rw [Bool.and_eq_false_iff, decide_eq_false_iff_not, UInt8.le_iff_toNat_le]
    omega
  -- One case for each way in which a piece is cut off. In the two that are told apart the front
  -- ends behind a first byte, so the ASCII byte is the one that is held against its range.
  fun_induction pieces front with
  | case1 => rfl
  | case7 _ _ _ _ hlead =>
    rw [List.singleton_append, pieces]
    simp only [hlead, hbetween (.inl hlead)]
    rfl
  | case12 _ _ _ _ hlead =>
    rw [List.singleton_append, pieces]
    simp only [hlead, hbetween (.inr hlead)]
    rfl
  | _ =>
    simp only [List.cons_append, List.nil_append] at *
    rw [pieces]
    simp only [*, if_true, if_false, Bool.false_eq_true]

/-- **Lenient reading goes on behind an ASCII byte as if nothing stood in front.** -/
theorem shown_append {b : UInt8} (hb : b.toNat < 0x80) (front rest : Bytes) :
    shown (front ++ b :: rest) = shown front ++ shown (b :: rest) := by
  rw [shown, decodeLossy, pieces_append hb, List.map_append, String.ofList_append]
  rfl

theorem decodeLossy_eq_nil_iff {bytes : Bytes} : decodeLossy bytes = [] ↔ bytes = [] := by
  cases bytes with
  | nil => exact iff_of_true rfl rfl
  | cons a rest =>
    obtain ⟨piece, left, -, hpieces⟩ := exists_cut a rest
    simp [decodeLossy, hpieces]

/-- **A lenient reading ends in an ASCII character** exactly if the bytes do. -/
theorem getLast?_decodeLossy {b : UInt8} (hb : b.toNat < 0x80) (bytes : Bytes) :
    (decodeLossy bytes).getLast? = some (Char.ofNat b.toNat) ↔ bytes.getLast? = some b := by
  have hcut (front rest : Bytes) : decodeLossy (front ++ b :: rest) =
      decodeLossy front ++ Char.ofNat b.toNat :: decodeLossy rest := by
    rw [decodeLossy, pieces_append hb, pieces_cons hb, List.map_append]
    rfl
  constructor
  · intro h
    -- Nothing stands behind the last such byte, for its reading would end in another character.
    have hmem : b ∈ bytes := (mem_decodeLossy hb bytes).mp (List.mem_of_getLast? h)
    obtain ⟨after, before, hrev, hnone⟩ := List.eq_append_cons_of_mem (List.mem_reverse.mpr hmem)
    obtain rfl : bytes = before.reverse ++ b :: after.reverse := by
      simpa using congrArg List.reverse hrev
    by_cases hafter : after = []
    · rw [hafter]
      exact List.getLast?_concat
    have hne : decodeLossy after.reverse ≠ [] := fun heq =>
      hafter (List.reverse_eq_nil_iff.mp (decodeLossy_eq_nil_iff.mp heq))
    rw [hcut, List.getLast?_append, List.getLast?_cons_of_ne_nil hne,
      Option.or_of_isSome (List.getLast?_isSome.mpr hne)] at h
    exact absurd (List.mem_reverse.mp ((mem_decodeLossy hb _).mp (List.mem_of_getLast? h))) hnone
  · intro h
    obtain ⟨front, rfl⟩ := List.getLast?_eq_some_iff.mp h
    rw [hcut]
    exact List.getLast?_concat

/-! ## The bytes of what is shown -/

theorem ofString_append (first second : String) :
    ofString (first ++ second) = ofString first ++ ofString second := by
  rw [ofString, String.toList_append, encode, List.flatMap_append]
  rfl

theorem decodeLossy_ofString_shown (bytes : Bytes) :
    decodeLossy (ofString (shown bytes)) = decodeLossy bytes := by
  rw [ofString, shown, String.toList_ofList, decodeLossy_encode]

theorem ofString_shown_eq_nil_iff {bytes : Bytes} : ofString (shown bytes) = [] ↔ bytes = [] := by
  rw [← decodeLossy_eq_nil_iff, decodeLossy_ofString_shown, decodeLossy_eq_nil_iff]

theorem getLast?_ofString_shown {b : UInt8} (hb : b.toNat < 0x80) (bytes : Bytes) :
    (ofString (shown bytes)).getLast? = some b ↔ bytes.getLast? = some b := by
  rw [← getLast?_decodeLossy hb, decodeLossy_ofString_shown, getLast?_decodeLossy hb]

theorem allChars_append (first second : List (Option Char)) :
    allChars (first ++ second) =
      (allChars first).bind fun cs => (allChars second).map (cs ++ ·) := by
  induction first with
  | nil => simp [allChars]
  | cons piece first ih =>
    cases piece with
    | none => rfl
    | some c =>
      rw [List.cons_append, allChars, allChars, ih]
      cases allChars first <;> simp [Function.comp_def]

/-- **Strict reading succeeds on both sides of an ASCII byte or not at all.** -/
theorem decode?_append {b : UInt8} (hb : b.toNat < 0x80) (front rest : Bytes) :
    decode? (front ++ b :: rest) = (decode? front).bind fun cs =>
      (decode? rest).map fun ds => cs ++ Char.ofNat b.toNat :: ds := by
  rw [decode?, pieces_append hb, allChars_append, pieces_cons hb, allChars]
  simp only [decode?, Option.map_map, Function.comp_def]

end Utf8

end DisplaySession
