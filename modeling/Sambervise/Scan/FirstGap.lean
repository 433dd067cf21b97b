import Mathlib.Data.Int.SuccPred
import Mathlib.Order.Bounds.Basic

namespace Sambervise.Scan

/-! The first value of an interval that a sorted list leaves free, found by walking the
interval and the list side by side. -/

section Walk

variable {α : Type*} [LinearOrder α]

theorem mem_dropWhile_lt_iff {taken : List α} (sorted : taken.Pairwise (· ≤ ·))
    {candidate value : α} (above : candidate ≤ value) :
    value ∈ taken.dropWhile (· < candidate) ↔ value ∈ taken := by
  induction taken with
  | nil => exact Iff.rfl
  | cons head rest ih =>
      have later := ih (List.pairwise_cons.mp sorted).2
      by_cases below : head < candidate
      · have different : value ≠ head := (below.trans_le above).ne'
        rw [List.dropWhile_cons_of_pos (by simpa using below), later]
        simp [different]
      · rw [List.dropWhile_cons_of_neg (by simpa using below)]

theorem pairwise_dropWhile {taken : List α} (sorted : taken.Pairwise (· ≤ ·)) (candidate : α) :
    (taken.dropWhile (· < candidate)).Pairwise (· ≤ ·) :=
  sorted.sublist (List.dropWhile_sublist _)

theorem le_head_dropWhile {taken later : List α} {candidate value : α}
    (split : taken.dropWhile (· < candidate) = value :: later) : candidate ≤ value := by
  have first := List.head?_dropWhile_not (· < candidate) taken
  rw [split] at first
  simpa using first

variable [SuccOrder α]

/-- The walk over `count` candidates; list elements below the candidate are skipped, so
that repeated ones do no harm. -/
def firstGap : List α → Nat → α → Option α
  | _, 0, _ => none
  | taken, count + 1, candidate =>
      match taken.dropWhile (· < candidate) with
      | [] => some candidate
      | value :: later =>
          if value = candidate then firstGap later count (Order.succ candidate)
          else some candidate

def gaps (taken : List α) (count : Nat) (candidate : α) : Set α :=
  { value | candidate ≤ value ∧ value < Order.succ^[count] candidate ∧ value ∉ taken }

variable [NoMaxOrder α]

theorem lt_iterate_succ (count : Nat) (candidate : α) :
    candidate < Order.succ^[count + 1] candidate := by
  induction count generalizing candidate with
  | zero => exact Order.lt_succ candidate
  | succ count ih =>
      rw [Function.iterate_succ_apply]
      exact (Order.lt_succ candidate).trans (ih (Order.succ candidate))

theorem isLeast_gaps_of_notMem {taken : List α} {candidate : α} (free : candidate ∉ taken)
    (count : Nat) : IsLeast (gaps taken (count + 1) candidate) candidate := by
  constructor
  · exact ⟨le_rfl, lt_iterate_succ count candidate, free⟩
  · intro value gap
    exact gap.1

/-- A candidate that is taken is left behind together with the list up to it. -/
theorem gaps_of_taken {taken later : List α} (sorted : taken.Pairwise (· ≤ ·)) {candidate : α}
    (split : taken.dropWhile (· < candidate) = candidate :: later) (count : Nat) :
    gaps taken (count + 1) candidate = gaps later count (Order.succ candidate) := by
  ext value
  simp only [gaps, Set.mem_ofPred_eq, Function.iterate_succ_apply]
  constructor
  · intro both
    obtain ⟨above, below, free⟩ := both
    have kept := mem_dropWhile_lt_iff sorted above
    rw [split, List.mem_cons] at kept
    have different : candidate ≠ value := by
      intro equal
      subst equal
      exact free (kept.mp (.inl rfl))
    exact ⟨Order.succ_le_of_lt (lt_of_le_of_ne above different), below,
      fun member => free (kept.mp (.inr member))⟩
  · intro both
    obtain ⟨above, below, free⟩ := both
    have beyond : candidate < value := Order.succ_le_iff.mp above
    have kept := mem_dropWhile_lt_iff sorted beyond.le
    rw [split, List.mem_cons] at kept
    refine ⟨beyond.le, below, ?_⟩
    intro member
    rcases kept.mpr member with same | inLater
    · exact beyond.ne' same
    · exact free inLater

theorem firstGap_spec {taken : List α} (sorted : taken.Pairwise (· ≤ ·)) (count : Nat)
    (candidate : α) :
    match firstGap taken count candidate with
    | some value => IsLeast (gaps taken count candidate) value
    | none => gaps taken count candidate = ∅ := by
  induction count generalizing taken candidate with
  | zero =>
      ext value
      simp only [gaps, Set.mem_ofPred_eq, Function.iterate_zero, id_eq, Set.mem_empty_iff_false,
        iff_false, not_and]
      intro above below
      exact absurd below (not_lt.mpr above)
  | succ count ih =>
      have ordered := pairwise_dropWhile sorted candidate
      have kept := mem_dropWhile_lt_iff sorted (le_refl candidate)
      rw [firstGap]
      cases split : taken.dropWhile (· < candidate) with
      | nil =>
          rw [split] at kept
          exact isLeast_gaps_of_notMem (fun member => List.not_mem_nil (kept.mpr member)) count
      | cons value later =>
          rw [split] at kept ordered
          dsimp only
          by_cases same : value = candidate
          · subst same
            rw [if_pos rfl, gaps_of_taken sorted split]
            exact ih (List.pairwise_cons.mp ordered).2 (Order.succ value)
          · rw [if_neg same]
            apply isLeast_gaps_of_notMem
            intro member
            rcases List.mem_cons.mp (kept.mpr member) with first | inLater
            · exact same first.symm
            · have below := (List.pairwise_cons.mp ordered).1 candidate inLater
              exact same (le_antisymm below (le_head_dropWhile split))

end Walk

theorem gaps_int (taken : List ℤ) {low high : ℤ} :
    gaps taken (high + 1 - low).toNat low =
      { value | low ≤ value ∧ value ≤ high ∧ value ∉ taken } := by
  ext value
  simp only [gaps, Set.mem_ofPred_eq, Order.succ_iterate]
  constructor
  · intro both
    obtain ⟨above, below, free⟩ := both
    exact ⟨above, by omega, free⟩
  · intro both
    obtain ⟨above, below, free⟩ := both
    exact ⟨above, by omega, free⟩

end Sambervise.Scan
