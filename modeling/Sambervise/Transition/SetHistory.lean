import Mathlib.Data.List.Chain
import Mathlib.Data.List.Induction
import Mathlib.Data.Set.Insert
import Sambervise.Transition.Run

namespace Sambervise.Transition

universe u

/-! Histories of a set whose edits are accepted only where they change it: a member is
added that is not in the set, or one is removed that is. -/

inductive SetEdit (α : Type u) where
  | insert (value : α)
  | erase (value : α)
  deriving DecidableEq, Repr

namespace SetEdit

variable {α : Type u}

def value : SetEdit α → α
  | insert value | erase value => value

def inserts : SetEdit α → Bool
  | insert _ => true
  | erase _ => false

def apply (members : Set α) : SetEdit α → Set α
  | insert value => Insert.insert value members
  | erase value => members \ {value}

def Fits (members : Set α) : SetEdit α → Prop
  | insert value => value ∉ members
  | erase value => value ∈ members

theorem mem_apply_self {members : Set α} {edit : SetEdit α} :
    edit.value ∈ edit.apply members ↔ edit.inserts = true := by
  cases edit with
  | insert value => simp [apply, SetEdit.value, inserts]
  | erase value => simp [apply, SetEdit.value, inserts]

theorem mem_apply_of_ne {members : Set α} {edit : SetEdit α} {other : α}
    (different : edit.value ≠ other) : other ∈ edit.apply members ↔ other ∈ members := by
  cases edit with
  | insert value => simp [apply, Ne.symm (show value ≠ other from different)]
  | erase value => simp [apply, Ne.symm (show value ≠ other from different)]

theorem fits_iff {members : Set α} {edit : SetEdit α} :
    edit.Fits members ↔ (edit.inserts = true ↔ edit.value ∉ members) := by
  cases edit with
  | insert value => simp [Fits, inserts, SetEdit.value]
  | erase value => simp [Fits, inserts, SetEdit.value]

variable [DecidableEq α]

/-- The edits of one member, oldest first: whether each adds or removes it. -/
def ofValue (value : α) (edits : List (SetEdit α)) : List Bool :=
  (edits.filter fun edit => edit.value = value).map inserts

/-- Whether a value is in the set is decided by the last edit of it. -/
theorem mem_run_iff (members : Set α) (edits : List (SetEdit α)) (value : α) :
    value ∈ run apply members edits ↔
      match (ofValue value edits).getLast? with
      | some inserted => inserted = true
      | none => value ∈ members := by
  induction edits using List.reverseRecOn with
  | nil => exact Iff.rfl
  | append_singleton edits edit ih =>
      rw [run_append, run_cons, run_nil]
      by_cases same : edit.value = value
      · subst same
        simp [ofValue, mem_apply_self]
      · rw [mem_apply_of_ne same, ih]
        simp [ofValue, same]

/-- One value is added and removed by turns, beginning with the one that fits. -/
theorem isChain_ofValue {members : Set α} {edits : List (SetEdit α)} (value : α)
    (fits : Along apply (fun members edit => edit.Fits members) members edits) :
    (ofValue value edits).IsChain (· ≠ ·) ∧
      ∀ first ∈ (ofValue value edits).head?, first = true ↔ value ∉ members := by
  induction edits generalizing members with
  | nil => exact ⟨.nil, nofun⟩
  | cons edit rest ih =>
      obtain ⟨chain, next⟩ := ih fits.2
      by_cases same : edit.value = value
      · subst same
        have split : ofValue edit.value (edit :: rest) =
            edit.inserts :: ofValue edit.value rest := by
          simp [ofValue]
        rw [split]
        constructor
        · refine chain.cons fun second member equal => ?_
          have later := next second member
          rw [← equal, mem_apply_self] at later
          exact (iff_not_self later)
        · intro first member
          rw [List.head?_cons, Option.mem_some_iff] at member
          rw [← member]
          exact fits_iff.mp fits.1
      · have split : ofValue value (edit :: rest) = ofValue value rest := by
          simp [ofValue, same]
        rw [split]
        refine ⟨chain, fun first member => ?_⟩
        rw [next first member, mem_apply_of_ne same]

end SetEdit

end Sambervise.Transition
