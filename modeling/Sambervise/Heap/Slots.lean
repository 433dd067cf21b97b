import Mathlib.Data.List.Basic

namespace Sambervise.Heap

/-! Arrays of a fixed number of elements, none of which has a value at first. A write behind
the end and a read of what was never written have no result. -/

abbrev Slots (α : Type*) := List (Option α)

namespace Slots

variable {α : Type*}

def declared (count : Nat) : Slots α := List.replicate count none

def read (slots : Slots α) (index : Nat) : Option α := slots[index]?.join

def write (slots : Slots α) (index : Nat) (value : α) : Option (Slots α) :=
  if index < slots.length then some (slots.set index (some value)) else none

/-- The pointers in front of the first NULL, as a callee that is given only the array
reads them. -/
def terminated : Slots (Option α) → Option (List α)
  | [] => none
  | none :: _ => none
  | some none :: _ => some []
  | some (some value) :: rest => (value :: ·) <$> terminated rest

variable {slots : Slots α} {index other : Nat}

theorem write_of_lt (inside : index < slots.length) (value : α) :
    slots.write index value = some (slots.set index (some value)) :=
  if_pos inside

theorem read_set_self (inside : index < slots.length) (value : α) :
    Slots.read (slots.set index (some value)) index = some value := by
  rw [read, List.getElem?_set_self inside]
  rfl

theorem read_set_of_ne (elsewhere : index ≠ other) (value : Option α) :
    Slots.read (slots.set index value) other = slots.read other := by
  rw [read, List.getElem?_set_ne elsewhere]
  rfl

theorem terminated_of_read {slots : Slots (Option α)} {values : List α}
    (written : ∀ (index : Nat) (value : α), values[index]? = some value →
      slots.read index = some (some value))
    (ended : slots.read values.length = some none) : slots.terminated = some values := by
  induction values generalizing slots with
  | nil =>
      match slots, ended with
      | some none :: _, _ => rfl
  | cons value rest ih =>
      match slots, written 0 value rfl with
      | some (some _) :: later, first =>
          cases first
          rw [terminated, ih (fun index value at_ => written (index + 1) value at_) ended]
          rfl

theorem mapM_range_of_read {values : List α} {readAt : Nat → Option α}
    (reads : ∀ (index : Nat) (value : α), values[index]? = some value →
      readAt index = some value) :
    (List.range values.length).mapM readAt = some values := by
  induction values generalizing readAt with
  | nil => rfl
  | cons value rest ih =>
      have later : (List.range rest.length).mapM (readAt ∘ Nat.succ) = some rest :=
        ih fun index value at_ => reads (index + 1) value at_
      rw [List.length_cons, List.range_succ_eq_map, List.mapM_cons, reads 0 value rfl,
        List.mapM_map, later]
      rfl

end Slots

end Sambervise.Heap
