import Mathlib.Data.Nat.Digits.Lemmas
import Sambervise.Text.CString

namespace Sambervise.Text

/-! Decimal numerals: what `printf` writes and what `strtol` and
`g_ascii_strtoll` read back. -/

/-- `gint64`, and `long` where it has 64 bits. -/
abbrev GInt64 := BitVec 64

def maxInt64 : GInt64 := BitVec.intMax 64
def minInt64 : GInt64 := BitVec.intMin 64

def digitChar (digit : Nat) : UInt8 := 0x30 + UInt8.ofNat digit

def digitValue (char : UInt8) : Nat := char.toNat - 0x30

def formatNat (value : Nat) : CString :=
  if value = 0 then [digitChar 0] else (Nat.digits 10 value).reverse.map digitChar

def formatInt : Int → CString
  | .ofNat value => formatNat value
  | .negSucc value => 0x2D :: formatNat (value + 1)

def formatInt64 (value : GInt64) : CString := formatInt value.toInt

/-- White space to the reading functions, which unlike `g_ascii_isspace` skip the
vertical tab. -/
def skipsSpace (char : UInt8) : Bool := asciiIsSpace char || char == 0x0B

def readDigits (string : CString) : Nat :=
  (string.takeWhile asciiIsDigit).foldl (fun value char => value * 10 + digitValue char) 0

def readInt (string : CString) : Int :=
  let rest := string.dropWhile skipsSpace
  if rest.head? = some 0x2D then -(readDigits rest.tail)
  else if rest.head? = some 0x2B then readDigits rest.tail
  else readDigits rest

/-- Out of range values are read as the nearest bound. -/
def saturate (value : Int) : GInt64 :=
  if maxInt64.toInt < value then maxInt64
  else if value < minInt64.toInt then minInt64
  else BitVec.ofInt 64 value

def strtoll (string : CString) : GInt64 := saturate (readInt string)

theorem digitChar_spec :
    ∀ digit < 10, digitValue (digitChar digit) = digit ∧
      asciiIsDigit (digitChar digit) = true := by
  decide

theorem formatNat_digits {value : Nat} {char : UInt8}
    (member : char ∈ formatNat value) : asciiIsDigit char = true := by
  unfold formatNat at member
  split at member
  · rw [List.mem_singleton] at member
    exact member ▸ (digitChar_spec 0 (by decide)).2
  · obtain ⟨digit, inDigits, rfl⟩ := List.mem_map.mp member
    have small := Nat.digits_lt_base (by decide) (List.mem_reverse.mp inDigits)
    exact (digitChar_spec digit small).2

theorem formatNat_ne_nil (value : Nat) : formatNat value ≠ [] := by
  unfold formatNat
  split
  · simp
  · simp_all [Nat.digits_ne_nil_iff_ne_zero]

theorem foldr_digits {digits : List Nat} (small : ∀ digit ∈ digits, digit < 10) :
    digits.foldr (fun digit value => value * 10 + digitValue (digitChar digit)) 0 =
      Nat.ofDigits 10 digits := by
  induction digits with
  | nil => rfl
  | cons digit rest ih =>
      have value := (digitChar_spec digit (small digit List.mem_cons_self)).1
      have later := ih fun digit member => small digit (List.mem_cons_of_mem _ member)
      rw [List.foldr_cons, later, value, Nat.ofDigits_cons]
      omega

theorem readDigits_formatNat (value : Nat) : readDigits (formatNat value) = value := by
  have whole : (formatNat value).takeWhile asciiIsDigit = formatNat value :=
    List.takeWhile_eq_self_iff.mpr fun char member => formatNat_digits member
  rw [readDigits, whole, formatNat]
  split
  next zero =>
    simp [zero, (digitChar_spec 0 (by decide)).1]
  · rw [List.foldl_map, List.foldl_reverse, foldr_digits, Nat.ofDigits_digits]
    exact fun digit member => Nat.digits_lt_base (by decide) member

theorem asciiIsDigit_ne {char : UInt8} (digit : asciiIsDigit char = true)
    (other : UInt8) (notDigit : asciiIsDigit other = false) : char ≠ other := by
  intro equal
  subst equal
  rw [digit] at notDigit
  cases notDigit

theorem skipsSpace_of_digit {char : UInt8} (digit : asciiIsDigit char = true) :
    skipsSpace char = false := by
  simp [skipsSpace, asciiIsSpace, asciiIsDigit_ne digit 0x20 (by decide),
    asciiIsDigit_ne digit 0x09 (by decide),
    asciiIsDigit_ne digit 0x0A (by decide),
    asciiIsDigit_ne digit 0x0C (by decide),
    asciiIsDigit_ne digit 0x0D (by decide),
    asciiIsDigit_ne digit 0x0B (by decide)]

/-- A decimal numeral, which may have leading zeros. -/
def IsNumeral (string : CString) (value : Nat) : Prop :=
  string ≠ [] ∧ (∀ char ∈ string, asciiIsDigit char = true) ∧ readDigits string = value

instance (string : CString) (value : Nat) : Decidable (IsNumeral string value) :=
  inferInstanceAs (Decidable (_ ∧ _ ∧ _))

theorem isNumeral_formatNat (value : Nat) : IsNumeral (formatNat value) value :=
  ⟨formatNat_ne_nil value, fun _ => formatNat_digits, readDigits_formatNat value⟩

/-- A numeral is read up to the first character that is no digit. -/
theorem IsNumeral.cut {digits : CString} {value : Nat} (numeral : IsNumeral digits value)
    {rest : CString} (ends : ∀ char ∈ rest.head?, asciiIsDigit char = false) :
    (digits ++ rest).takeWhile asciiIsDigit = digits ∧
      (digits ++ rest).dropWhile asciiIsDigit = rest := by
  have whole := numeral.2.1
  rw [List.takeWhile_append_of_pos whole, List.dropWhile_append_of_pos whole]
  cases rest with
  | nil => exact ⟨List.append_nil digits, rfl⟩
  | cons char rest =>
      have stops : asciiIsDigit char = false := ends char rfl
      simp [stops]

theorem IsNumeral.starts {digits : CString} {value : Nat} (numeral : IsNumeral digits value) :
    ∃ first rest, digits = first :: rest ∧ asciiIsDigit first = true := by
  obtain ⟨nonempty, whole, _⟩ := numeral
  obtain ⟨first, rest, rfl⟩ := List.exists_cons_of_ne_nil nonempty
  exact ⟨first, rest, rfl, whole first List.mem_cons_self⟩

theorem foldl_digits_lt {digits : CString}
    (whole : ∀ char ∈ digits, asciiIsDigit char = true) (start : Nat) :
    digits.foldl (fun value char => value * 10 + digitValue char) start <
      (start + 1) * 10 ^ digits.length := by
  induction digits generalizing start with
  | nil => simp
  | cons char rest ih =>
      have digit : digitValue char < 10 := by
        have inRange := whole char List.mem_cons_self
        simp only [asciiIsDigit, Bool.and_eq_true, decide_eq_true_eq] at inRange
        have below : char.toNat ≤ 0x39 := inRange.2
        unfold digitValue
        omega
      have later := ih (fun char member => whole char (List.mem_cons_of_mem _ member))
        (start * 10 + digitValue char)
      calc
        (char :: rest).foldl (fun value char => value * 10 + digitValue char) start
            < (start * 10 + digitValue char + 1) * 10 ^ rest.length := later
        _ ≤ ((start + 1) * 10) * 10 ^ rest.length := Nat.mul_le_mul_right _ (by omega)
        _ = (start + 1) * 10 ^ (char :: rest).length := by
            rw [List.length_cons, Nat.pow_succ']
            exact Nat.mul_assoc _ _ _

theorem IsNumeral.lt {digits : CString} {value : Nat} (numeral : IsNumeral digits value) :
    value < 10 ^ digits.length := by
  obtain ⟨_, whole, read⟩ := numeral
  have below := foldl_digits_lt whole 0
  rw [Nat.zero_add, Nat.one_mul] at below
  rw [readDigits, List.takeWhile_eq_self_iff.mpr whole] at read
  exact read ▸ below

theorem readInt_of_digit {first : UInt8} (digit : asciiIsDigit first = true)
    (rest : CString) : readInt (first :: rest) = readDigits (first :: rest) := by
  have kept : (first :: rest).dropWhile skipsSpace = first :: rest :=
    List.dropWhile_cons_of_neg (by simp [skipsSpace_of_digit digit])
  simp [readInt, kept, asciiIsDigit_ne digit 0x2D (by decide),
    asciiIsDigit_ne digit 0x2B (by decide)]

theorem IsNumeral.readDigits_append {digits : CString} {value : Nat}
    (numeral : IsNumeral digits value) {rest : CString}
    (ends : ∀ char ∈ rest.head?, asciiIsDigit char = false) :
    readDigits (digits ++ rest) = value := by
  rw [readDigits, (numeral.cut ends).1, ← numeral.2.2, readDigits,
    List.takeWhile_eq_self_iff.mpr numeral.2.1]

theorem IsNumeral.readInt_append {digits : CString} {value : Nat}
    (numeral : IsNumeral digits value) {rest : CString}
    (ends : ∀ char ∈ rest.head?, asciiIsDigit char = false) :
    readInt (digits ++ rest) = value := by
  have read := numeral.readDigits_append ends
  obtain ⟨first, others, rfl, digit⟩ := numeral.starts
  rw [List.cons_append] at read ⊢
  rw [readInt_of_digit digit, read]

theorem readInt_of_isNumeral {string : CString} {value : Nat}
    (numeral : IsNumeral string value) : readInt string = value := by
  have read := @IsNumeral.readInt_append _ _ numeral [] (by simp)
  rwa [List.append_nil] at read

/-- What stands behind a numeral and starts with no digit does not count. -/
theorem readInt_formatInt_append (value : Int) {rest : CString}
    (ends : ∀ char ∈ rest.head?, asciiIsDigit char = false) :
    readInt (formatInt value ++ rest) = value := by
  cases value with
  | ofNat value => exact (isNumeral_formatNat value).readInt_append ends
  | negSucc value =>
      have kept : (formatInt (.negSucc value) ++ rest).dropWhile skipsSpace =
          0x2D :: (formatNat (value + 1) ++ rest) :=
        List.dropWhile_cons_of_neg (by decide)
      simp only [readInt, kept, List.head?_cons, List.tail_cons, if_true,
        (isNumeral_formatNat (value + 1)).readDigits_append ends]
      rfl

theorem readInt_formatInt (value : Int) : readInt (formatInt value) = value := by
  have read := @readInt_formatInt_append value [] (by simp)
  rwa [List.append_nil] at read

/-- Two texts that each start with a numeral, where no digit follows it. -/
theorem formatInt64_append_inj {first second : GInt64} {rest others : CString}
    (ends : ∀ char ∈ rest.head?, asciiIsDigit char = false)
    (endsToo : ∀ char ∈ others.head?, asciiIsDigit char = false)
    (same : formatInt64 first ++ rest = formatInt64 second ++ others) :
    first = second ∧ rest = others := by
  have read := congrArg readInt same
  rw [formatInt64, formatInt64, readInt_formatInt_append _ ends,
    readInt_formatInt_append _ endsToo] at read
  obtain rfl := BitVec.eq_of_toInt_eq read
  exact ⟨rfl, List.append_cancel_left same⟩

theorem formatInt_injective : Function.Injective formatInt :=
  Function.LeftInverse.injective readInt_formatInt

theorem saturate_toInt (value : GInt64) : saturate value.toInt = value := by
  have below : value.toInt < 2 ^ 63 := BitVec.toInt_lt
  have above : -2 ^ 63 ≤ value.toInt := BitVec.le_toInt value
  have top : maxInt64.toInt = 2 ^ 63 - 1 := by decide
  have bottom : minInt64.toInt = -2 ^ 63 := by decide
  rw [saturate, if_neg (by omega), if_neg (by omega), BitVec.ofInt_toInt]

theorem toInt_ofInt64 {value : Int} (above : -2 ^ 63 ≤ value) (below : value < 2 ^ 63) :
    (BitVec.ofInt 64 value).toInt = value := by
  rw [BitVec.toInt_ofInt, Int.bmod_eq_of_le (by omega) (by omega)]

theorem toInt_saturate {value : Int} (above : -2 ^ 63 ≤ value) (below : value < 2 ^ 63) :
    (saturate value).toInt = value := by
  have top : maxInt64.toInt = 2 ^ 63 - 1 := by decide
  have bottom : minInt64.toInt = -2 ^ 63 := by decide
  rw [saturate, if_neg (by omega), if_neg (by omega), toInt_ofInt64 above below]

theorem strtoll_formatInt64 (value : GInt64) : strtoll (formatInt64 value) = value := by
  rw [strtoll, formatInt64, readInt_formatInt, saturate_toInt]

/-- A 32-bit number is read back from its decimal form as what it was. -/
theorem setWidth_strtoll_formatInt (value : BitVec 32) :
    (strtoll (formatInt value.toInt)).setWidth 32 = value := by
  have below : value.toInt < 2 ^ 31 := BitVec.toInt_lt
  have above : -2 ^ 31 ≤ value.toInt := BitVec.le_toInt value
  have top : maxInt64.toInt = 2 ^ 63 - 1 := by decide
  have bottom : minInt64.toInt = -2 ^ 63 := by decide
  rw [strtoll, readInt_formatInt, saturate, if_neg (by omega), if_neg (by omega)]
  apply BitVec.eq_of_toInt_eq
  rw [BitVec.toInt_setWidth, BitVec.toNat_ofInt]
  have nonneg : 0 ≤ value.toInt % (2 ^ 64 : Nat) := Int.emod_nonneg _ (by decide)
  rw [Int.toNat_of_nonneg nonneg, Int.bmod_def]
  omega

theorem untilNul_formatInt (value : Int) : untilNul (formatInt value) = formatInt value := by
  have plain : ∀ number, (0 : UInt8) ∉ formatNat number := fun number member =>
    asciiIsDigit_ne (formatNat_digits member) 0 (by decide) rfl
  apply untilNul_of_notMem
  cases value with
  | ofNat number => exact plain number
  | negSucc number =>
      rw [formatInt, List.mem_cons]
      intro either
      rcases either with sign | digit
      · exact absurd sign (by decide)
      · exact plain (number + 1) digit

theorem untilNul_formatInt64 (value : GInt64) :
    untilNul (formatInt64 value) = formatInt64 value := untilNul_formatInt value.toInt

end Sambervise.Text
