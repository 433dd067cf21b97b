import Mathlib.Data.Set.Basic

namespace Sambervise.Merge

universe u

variable {α : Type u}

/-! Two editors of one set: one started from `base` and ended with `mine`, while the
set itself became `theirs`. -/

/-- What the set is to be: theirs, without what one removed and with what one added. -/
def threeWay (base mine theirs : Set α) : Set α := theirs \ (base \ mine) ∪ mine \ base

theorem mem_threeWay {base mine theirs : Set α} {element : α} :
    element ∈ threeWay base mine theirs ↔
      element ∈ theirs ∧ (element ∈ base → element ∈ mine) ∨
        element ∈ mine ∧ element ∉ base := by
  simp only [threeWay, Set.mem_union, Set.mem_sdiff, not_and_not_right]

/-- To overwrite the set is to merge into it exactly where nobody else has removed what one
kept, or added what one has neither seen nor added. -/
theorem eq_threeWay_iff {base mine theirs : Set α} :
    mine = threeWay base mine theirs ↔ base ∩ mine ⊆ theirs ∧ theirs ⊆ base ∪ mine := by
  constructor
  · intro same
    constructor
    · intro element kept
      have merged := same ▸ kept.2
      rcases mem_threeWay.mp merged with present | added
      · exact present.1
      · exact absurd kept.1 added.2
    · intro element present
      by_cases listed : element ∈ base
      · exact .inl listed
      · refine .inr ?_
        rw [same]
        exact mem_threeWay.mpr (.inl ⟨present, fun inBase => absurd inBase listed⟩)
  · intro both
    obtain ⟨kept, seen⟩ := both
    ext element
    rw [mem_threeWay]
    constructor
    · intro member
      by_cases listed : element ∈ base
      · exact .inl ⟨kept ⟨listed, member⟩, fun _ => member⟩
      · exact .inr ⟨member, listed⟩
    · intro merged
      rcases merged with present | added
      · rcases seen present.1 with listed | member
        · exact present.2 listed
        · exact member
      · exact added.1

end Sambervise.Merge
