import Mathlib.Tactic.Common

namespace Sambervise.Bits

/-! Writes to some of the bits of a word, and what a sequence of them leaves. -/

/-- Sets the bits of `mask` to those of `value` and keeps every other bit. -/
structure MaskedUpdate (width : Nat) where
  mask : BitVec width
  value : BitVec width
  deriving DecidableEq, Repr

namespace MaskedUpdate

variable {width : Nat}

def apply (update : MaskedUpdate width) (word : BitVec width) : BitVec width :=
  word &&& ~~~update.mask ||| update.value &&& update.mask

def Agree (update : MaskedUpdate width) (first second : BitVec width) : Prop :=
  first &&& ~~~update.mask = second &&& ~~~update.mask

instance (update : MaskedUpdate width) (first second : BitVec width) :
    Decidable (update.Agree first second) :=
  inferInstanceAs (Decidable (_ = _))

def set (bits : BitVec width) : MaskedUpdate width := { mask := bits, value := bits }

def clear (bits : BitVec width) : MaskedUpdate width := { mask := bits, value := 0 }

def whole (value : BitVec width) : MaskedUpdate width :=
  { mask := BitVec.allOnes width, value }

@[simp] theorem apply_set (bits word : BitVec width) :
    (set bits).apply word = word ||| bits := by
  ext i inside
  simp [apply, set]
  cases word[i] <;> cases bits[i] <;> rfl

@[simp] theorem apply_clear (bits word : BitVec width) :
    (clear bits).apply word = word &&& ~~~bits := by
  simp [apply, clear]

@[simp] theorem apply_whole (value word : BitVec width) :
    (whole value).apply word = value := by
  simp [apply, whole]

/-- A write started from one word leaves what it leaves of another exactly where the
two agree on every bit it is not about. -/
theorem apply_eq_apply_iff (update : MaskedUpdate width) (first second : BitVec width) :
    update.apply first = update.apply second ↔ update.Agree first second := by
  constructor
  · intro same
    unfold Agree
    ext i inside
    have bit : (update.apply first)[i] = (update.apply second)[i] := by rw [same]
    simp only [apply, BitVec.getElem_or, BitVec.getElem_and, BitVec.getElem_not] at bit ⊢
    cases masked : update.mask[i] with
    | true => simp
    | false => simpa [masked] using bit
  · intro agree
    unfold apply
    rw [agree]

/-- What a sequence of writes leaves, the first of the list first. -/
def applyAll (updates : List (MaskedUpdate width)) (word : BitVec width) : BitVec width :=
  updates.foldl (fun word update => update.apply word) word

@[simp] theorem applyAll_nil (word : BitVec width) : applyAll [] word = word := rfl

@[simp] theorem applyAll_concat (updates : List (MaskedUpdate width))
    (update : MaskedUpdate width) (word : BitVec width) :
    applyAll (updates ++ [update]) word = update.apply (applyAll updates word) := by
  simp [applyAll]

end MaskedUpdate

end Sambervise.Bits
