import Mathlib.Data.List.Nodup
import Mathlib.Data.List.Perm.Basic

namespace Sambervise.Transition

universe u v

/-! Requests in flight. The one at a place completes, and leaves the others. -/

variable {α : Type u} {β : Type v} {requests : List α} {place : Nat} {request : α}

theorem completed_perm (found : requests[place]? = some request) :
    requests.Perm (request :: requests.eraseIdx place) := by
  obtain ⟨inRange, rfl⟩ := List.getElem?_eq_some_iff.mp found
  exact (List.getElem_cons_eraseIdx_perm inRange).symm

theorem eq_or_mem_completed (found : requests[place]? = some request) {other : α}
    (member : other ∈ requests) : other = request ∨ other ∈ requests.eraseIdx place :=
  List.mem_cons.mp ((completed_perm found).subset member)

/-- Where requests are told apart by a key, there is none left with the key of this one. -/
theorem mem_map_completed_iff {key : α → β} (distinct : (requests.map key).Nodup)
    (found : requests[place]? = some request) {label : β} :
    label ∈ (requests.eraseIdx place).map key ↔
      label ≠ key request ∧ label ∈ requests.map key := by
  have perm := (completed_perm found).map key
  rw [List.map_cons] at perm
  have alone := (List.nodup_cons.mp (perm.nodup_iff.mp distinct)).1
  constructor
  · intro member
    refine ⟨?_, perm.symm.subset (List.mem_cons_of_mem _ member)⟩
    rintro rfl
    exact alone member
  · rintro ⟨different, member⟩
    exact List.mem_of_ne_of_mem different (perm.subset member)

theorem mem_completed_iff (distinct : requests.Nodup)
    (found : requests[place]? = some request) {other : α} :
    other ∈ requests.eraseIdx place ↔ other ≠ request ∧ other ∈ requests := by
  rw [← List.map_id requests] at distinct
  have known := @mem_map_completed_iff α α requests place request id distinct found other
  rwa [List.map_id, List.map_id] at known

end Sambervise.Transition
