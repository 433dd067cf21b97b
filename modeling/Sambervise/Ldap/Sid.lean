import Mathlib.Data.Nat.Digits.Defs

namespace Sambervise.Ldap

/-! Security identifiers as bytes: a header of eight bytes, the second of which
counts the sub-authorities, and each of these as a little-endian word. -/

def littleEndian (bytes : List UInt8) : Nat := Nat.ofDigits 256 (bytes.map UInt8.toNat)

def wordOfBytes (b0 b1 b2 b3 : UInt8) : BitVec 32 :=
  b0.toBitVec.setWidth 32 ||| b1.toBitVec.setWidth 32 <<< 8 |||
    b2.toBitVec.setWidth 32 <<< 16 ||| b3.toBitVec.setWidth 32 <<< 24

def wordBytes (word : BitVec 32) : List UInt8 :=
  [ UInt8.ofNat word.toNat, UInt8.ofNat (word.toNat / 2 ^ 8),
    UInt8.ofNat (word.toNat / 2 ^ 16), UInt8.ofNat (word.toNat / 2 ^ 24) ]

theorem littleEndian_wordBytes (word : BitVec 32) :
    littleEndian (wordBytes word) = word.toNat := by
  have bound := word.isLt
  simp only [littleEndian, wordBytes, List.map_cons, List.map_nil, Nat.ofDigits_cons,
    Nat.ofDigits_nil, UInt8.toNat_ofNat']
  omega

theorem or_shiftLeft (low high : Nat) {shift : Nat} (small : low < 2 ^ shift) :
    low ||| high <<< shift = low + 2 ^ shift * high := by
  rw [Nat.or_comm, ← Nat.shiftLeft_add_eq_or_of_lt small, Nat.shiftLeft_eq, Nat.mul_comm,
    Nat.add_comm]

theorem toNat_shiftedByte (byte : UInt8) {shift : Nat} (fits : shift ≤ 24) :
    (byte.toBitVec.setWidth 32 <<< shift).toNat = byte.toNat <<< shift := by
  have small : byte.toNat < 2 ^ 8 := byte.toNat_lt
  have below : byte.toNat * 2 ^ shift < 2 ^ 32 :=
    calc
      byte.toNat * 2 ^ shift < 2 ^ 8 * 2 ^ shift :=
        Nat.mul_lt_mul_of_pos_right small (Nat.two_pow_pos shift)
      _ ≤ 2 ^ 8 * 2 ^ 24 :=
        Nat.mul_le_mul_left _ (Nat.pow_le_pow_right (by decide) fits)
  rw [BitVec.toNat_shiftLeft, BitVec.toNat_setWidth, UInt8.toNat_toBitVec,
    Nat.mod_eq_of_lt (show byte.toNat < 2 ^ 32 by omega), Nat.shiftLeft_eq,
    Nat.mod_eq_of_lt below]

theorem toNat_wordOfBytes (b0 b1 b2 b3 : UInt8) :
    (wordOfBytes b0 b1 b2 b3).toNat = littleEndian [b0, b1, b2, b3] := by
  have small0 : b0.toNat < 2 ^ 8 := b0.toNat_lt
  have small1 : b1.toNat < 2 ^ 8 := b1.toNat_lt
  have small2 : b2.toNat < 2 ^ 8 := b2.toNat_lt
  have two := or_shiftLeft b0.toNat b1.toNat small0
  have three := or_shiftLeft (b0.toNat + 2 ^ 8 * b1.toNat) b2.toNat
    (show _ < 2 ^ 16 by omega)
  have four := or_shiftLeft (b0.toNat + 2 ^ 8 * b1.toNat + 2 ^ 16 * b2.toNat) b3.toNat
    (show _ < 2 ^ 24 by omega)
  rw [wordOfBytes, BitVec.toNat_or, BitVec.toNat_or, BitVec.toNat_or,
    toNat_shiftedByte b1 (by decide), toNat_shiftedByte b2 (by decide),
    toNat_shiftedByte b3 (by decide), BitVec.toNat_setWidth, UInt8.toNat_toBitVec,
    Nat.mod_eq_of_lt (show b0.toNat < 2 ^ 32 by omega), two, three, four]
  simp only [littleEndian, List.map_cons, List.map_nil, Nat.ofDigits_cons, Nat.ofDigits_nil]
  omega

structure Sid where
  revision : UInt8
  authority : List UInt8
  subAuthorities : List (BitVec 32)
  sized : authority.length = 6
  counted : subAuthorities.length < 256

namespace Sid

def header (sid : Sid) : List UInt8 :=
  sid.revision :: UInt8.ofNat sid.subAuthorities.length :: sid.authority

def encode (sid : Sid) : List UInt8 := sid.header ++ sid.subAuthorities.flatMap wordBytes

theorem length_header (sid : Sid) : sid.header.length = 8 := by
  simp [header, sid.sized]

theorem length_flatMap_wordBytes (words : List (BitVec 32)) :
    (words.flatMap wordBytes).length = words.length * 4 := by
  induction words with
  | nil => rfl
  | cons word rest ih =>
      rw [List.flatMap_cons, List.length_append, ih, List.length_cons]
      simp only [wordBytes, List.length_cons, List.length_nil]
      omega

theorem length_encode (sid : Sid) :
    sid.encode.length = 8 + sid.subAuthorities.length * 4 := by
  rw [encode, List.length_append, length_header, length_flatMap_wordBytes]

theorem count_encode (sid : Sid) :
    (sid.encode.getD 1 0).toNat = sid.subAuthorities.length := by
  have counted := sid.counted
  show (UInt8.ofNat sid.subAuthorities.length).toNat = sid.subAuthorities.length
  rw [UInt8.toNat_ofNat', Nat.mod_eq_of_lt counted]

/-- The last four bytes of the encoding are those of the last sub-authority. -/
theorem lastWord_encode {sid : Sid} {last : BitVec 32}
    (isLast : sid.subAuthorities.getLast? = some last) :
    (sid.encode.drop (8 + (sid.subAuthorities.length - 1) * 4)).take 4 = wordBytes last := by
  obtain ⟨before, split⟩ := List.getLast?_eq_some_iff.mp isLast
  have skipped : (sid.header ++ before.flatMap wordBytes).length =
      8 + (sid.subAuthorities.length - 1) * 4 := by
    rw [split, List.length_append, length_header, length_flatMap_wordBytes]
    simp
  rw [← skipped, encode, split, List.flatMap_append, ← List.append_assoc, List.drop_left]
  simp [wordBytes]

end Sid

end Sambervise.Ldap
