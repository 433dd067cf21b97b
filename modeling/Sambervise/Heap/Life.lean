import Sambervise.Transition.InFlight

namespace Sambervise.Heap

open Transition

/-! Blocks of memory that are used while they are alive and freed once. What is done with a
freed one has no result. -/

inductive Life where
  | alive
  | freed
  deriving DecidableEq, Repr

namespace Life

def use : Life → Option Unit
  | .alive => some ()
  | .freed => none

def free : Life → Option Life
  | .alive => some .freed
  | .freed => none

def useAll : List Life → Option Unit
  | [] => some ()
  | life :: rest => do
      life.use
      useAll rest

def freeAll : List Life → Option (List Life)
  | [] => some []
  | life :: rest => do
      let life ← life.free
      return life :: (← freeAll rest)

theorem useAll_alive {lives : List Life} (alive : ∀ life ∈ lives, life = .alive) :
    useAll lives = some () := by
  induction lives with
  | nil => rfl
  | cons life rest ih =>
      obtain ⟨rfl, later⟩ := List.forall_mem_cons.mp alive
      exact ih later

theorem freeAll_alive {lives : List Life} (alive : ∀ life ∈ lives, life = .alive) :
    freeAll lives = some (lives.map fun _ => .freed) := by
  induction lives with
  | nil => rfl
  | cons life rest ih =>
      obtain ⟨rfl, later⟩ := List.forall_mem_cons.mp alive
      simp [freeAll, free, ih later]

end Life

/-! Objects with a block each, and requests that come back to the object at a place -/

section Awaited

variable {α : Type*} (life : α → Life) {objects : List α} {requests : List Nat}
  {index : Nat} {object changed : α}

/-- No request comes back to a freed block. -/
def Awaited (objects : List α) (requests : List Nat) : Prop :=
  ∀ index ∈ requests, ∀ object, objects[index]? = some object → life object = .alive

theorem getElem?_set_of_found (found : objects[index]? = some object) (other : Nat) :
    (objects.set index changed)[other]? =
      if index = other then some changed else objects[other]? := by
  obtain ⟨inRange, _⟩ := List.getElem?_eq_some_iff.mp found
  rw [List.getElem?_set, if_pos inRange]

variable {life}

theorem awaited_set_iff (found : objects[index]? = some object)
    (same : index ∈ requests → life changed = life object) :
    Awaited life (objects.set index changed) requests ↔ Awaited life objects requests := by
  constructor
  · intro awaited other member here inList
    have kept := awaited other member
    simp only [getElem?_set_of_found found] at kept
    by_cases equal : index = other
    · subst equal
      rw [if_pos rfl] at kept
      rw [found] at inList
      rw [← Option.some.inj inList, ← same member]
      exact kept changed rfl
    · rw [if_neg equal] at kept
      exact kept here inList
  · intro awaited other member here inList
    rw [getElem?_set_of_found found] at inList
    split at inList
    next equal =>
      subst equal
      rw [← Option.some.inj inList, same member]
      exact awaited _ member object found
    · exact awaited other member here inList

theorem awaited_free_iff (found : objects[index]? = some object) (freed : life changed = .freed) :
    Awaited life (objects.set index changed) requests ↔
      Awaited life objects requests ∧ index ∉ requests := by
  by_cases member : index ∈ requests
  · refine iff_of_false ?_ (fun both => both.2 member)
    intro awaited
    have alive := awaited index member changed
    rw [getElem?_set_of_found found, if_pos rfl] at alive
    rw [alive rfl] at freed
    cases freed
  · rw [awaited_set_iff found (absurd · member)]
    exact (and_iff_left member).symm

theorem awaited_request_iff (found : objects[index]? = some object)
    (alive : life object = .alive) :
    Awaited life objects (requests ++ [index]) ↔ Awaited life objects requests := by
  constructor
  · intro awaited other member
    exact awaited other (List.mem_append_left _ member)
  · intro awaited other member here inList
    rcases List.mem_append.mp member with old | new
    · exact awaited other old here inList
    · rw [List.mem_singleton.mp new, found] at inList
      rw [← Option.some.inj inList]
      exact alive

theorem awaited_concat_iff (inRange : ∀ index ∈ requests, index < objects.length) :
    Awaited life (objects ++ [object]) requests ↔ Awaited life objects requests := by
  have earlier {index : Nat} (member : index ∈ requests) :
      (objects ++ [object])[index]? = objects[index]? :=
    List.getElem?_append_left (inRange index member)
  constructor
  · intro awaited other member here inList
    exact awaited other member here ((earlier member).trans inList)
  · intro awaited other member here inList
    exact awaited other member here ((earlier member).symm.trans inList)

/-- A request that came back to a living block does not matter any more. -/
theorem awaited_complete_iff (distinct : requests.Nodup) {place : Nat}
    (found : requests[place]? = some index) (inList : objects[index]? = some object)
    (alive : life object = .alive) :
    Awaited life (objects.set index changed) (requests.eraseIdx place) ↔
      Awaited life objects requests := by
  have others {other : Nat} := @mem_completed_iff _ _ _ _ distinct found other
  rw [awaited_set_iff inList (fun member => absurd rfl (others.mp member).1)]
  constructor
  · intro awaited other member here inObjects
    by_cases same : other = index
    · rw [same, inList] at inObjects
      rw [← Option.some.inj inObjects]
      exact alive
    · exact awaited other (others.mpr ⟨same, member⟩) here inObjects
  · exact fun awaited other member => awaited other (List.mem_of_mem_eraseIdx member)

end Awaited

end Sambervise.Heap
