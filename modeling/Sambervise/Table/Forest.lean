import Mathlib.Data.List.Nodup
import Mathlib.Logic.Function.Basic

namespace Sambervise.Table

/-! Trees that grow from a root: an item can be given further children at any time, and every
other item is the child of one that was there before it. -/

structure Forest (α : Type*) where
  items : List α
  children : Nat → List Nat
  later : ∀ place, ∀ child ∈ children place, place < child ∧ child < items.length
  once : ∀ place, (children place).Nodup
  parent : ∀ child, 0 < child → child < items.length → ∃ place, child ∈ children place

namespace Forest

variable {α : Type*}

def single (item : α) : Forest α where
  items := [item]
  children _ := []
  later _ _ := nofun
  once _ := List.nodup_nil
  parent := by
    intro child positive inside
    rw [List.length_singleton] at inside
    omega

variable (forest : Forest α)

def childrenAfter (place : Nat) (count : Nat) : Nat → List Nat :=
  Function.update forest.children place
    (forest.children place ++ List.range' forest.items.length count)

theorem mem_childrenAfter {place count other child : Nat} :
    child ∈ forest.childrenAfter place count other ↔
      child ∈ forest.children other ∨ other = place ∧ forest.items.length ≤ child ∧
        child < forest.items.length + count := by
  unfold childrenAfter
  by_cases same : other = place
  · subst same
    rw [Function.update_self, List.mem_append, List.mem_range'_1, and_iff_right rfl]
  · rw [Function.update_of_ne same, or_iff_left (fun both => same both.1)]

/-- The item at the place is given children. -/
def grow (place : Nat) (inside : place < forest.items.length) (new : List α) : Forest α where
  items := forest.items ++ new
  children := forest.childrenAfter place new.length
  later := by
    intro other child member
    rw [List.length_append]
    rcases forest.mem_childrenAfter.mp member with old | ⟨same, least, most⟩
    · obtain ⟨later, bound⟩ := forest.later other child old
      exact ⟨later, by omega⟩
    · exact ⟨by omega, most⟩
  once := by
    intro other
    unfold childrenAfter
    by_cases same : other = place
    · subst same
      rw [Function.update_self, List.nodup_append]
      refine ⟨forest.once other, List.nodup_range', ?_⟩
      intro child old added new equal
      have bound := (forest.later other child old).2
      rw [List.mem_range'_1] at new
      omega
    · rw [Function.update_of_ne same]
      exact forest.once other
  parent := by
    intro child positive bound
    rw [List.length_append] at bound
    by_cases old : child < forest.items.length
    · obtain ⟨other, member⟩ := forest.parent child positive old
      exact ⟨other, forest.mem_childrenAfter.mpr (.inl member)⟩
    · exact ⟨place, forest.mem_childrenAfter.mpr (.inr ⟨rfl, by omega, bound⟩)⟩

/-- The item at the place becomes another one. -/
def replace (place : Nat) (item : α) : Forest α where
  items := forest.items.set place item
  children := forest.children
  later := by
    rw [List.length_set]
    exact forest.later
  once := forest.once
  parent := by
    rw [List.length_set]
    exact forest.parent

/-- The items of the children of a place. -/
def below (place : Nat) : List α := (forest.children place).filterMap (forest.items[·]?)

variable {forest} {place other : Nat} {item : α} {new : List α}

theorem getElem?_grow (inside : place < forest.items.length) (known : other < forest.items.length) :
    (forest.grow place inside new).items[other]? = forest.items[other]? :=
  List.getElem?_append_left known

theorem filterMap_children (inside : place < forest.items.length) :
    (forest.children other).filterMap ((forest.grow place inside new).items[·]?) =
      forest.below other := by
  apply List.filterMap_congr
  intro child member
  exact getElem?_grow inside (forest.later other child member).2

theorem filterMap_range' (old new : List α) :
    (List.range' old.length new.length).filterMap ((old ++ new)[·]?) = new := by
  induction new generalizing old with
  | nil => rfl
  | cons first rest ih =>
      have head : (old ++ first :: rest)[old.length]? = some first := by simp
      have tail := ih (old ++ [first])
      rw [List.length_append, List.append_assoc] at tail
      rw [List.length_cons, List.range'_succ, List.filterMap_cons_some head]
      exact congrArg _ tail

theorem below_grow_self (inside : place < forest.items.length) :
    (forest.grow place inside new).below place = forest.below place ++ new := by
  have children : (forest.grow place inside new).children place =
      forest.children place ++ List.range' forest.items.length new.length :=
    Function.update_self _ _ _
  rw [below, children, List.filterMap_append, filterMap_children]
  exact congrArg _ (filterMap_range' forest.items new)

theorem below_grow_of_ne (inside : place < forest.items.length) (elsewhere : other ≠ place) :
    (forest.grow place inside new).below other = forest.below other := by
  have children : (forest.grow place inside new).children other = forest.children other :=
    Function.update_of_ne elsewhere _ _
  rw [below, children]
  exact filterMap_children inside

theorem below_of_length_le (outside : forest.items.length ≤ place) : forest.below place = [] := by
  have nothing : forest.children place = [] := by
    apply List.eq_nil_iff_forall_not_mem.mpr
    intro child member
    have bounds := forest.later place child member
    omega
  rw [below, nothing]
  rfl

theorem getElem?_replace {old : α} (found : forest.items[place]? = some old) :
    (forest.replace place item).items[other]? =
      if place = other then some item else forest.items[other]? := by
  obtain ⟨inside, _⟩ := List.getElem?_eq_some_iff.mp found
  exact (List.getElem?_set).trans (by rw [if_pos inside])

/-- The root is nobody's child. -/
theorem below_replace_root : (forest.replace 0 item).below other = forest.below other := by
  apply List.filterMap_congr
  intro child member
  have positive := (forest.later other child member).1
  exact List.getElem?_set_ne (by omega)

@[simp] theorem below_single : (single item).below other = [] := rfl

/-! Items that are told apart by a key -/

section Keys

variable {κ : Type*} {key : α → κ} {parentOf : κ → κ} {depth : κ → Nat}

/-- An item below another one is the child of that one only. -/
structure Ranked (forest : Forest α) (key : α → κ) (parentOf : κ → κ) (depth : κ → Nat) :
    Prop where
  parent : ∀ (place : Nat) (item : α), forest.items[place]? = some item →
    ∀ child ∈ forest.below place, parentOf (key child) = key item
  deeper : ∀ (place : Nat) (item : α), forest.items[place]? = some item →
    ∀ child ∈ forest.below place, depth (key item) < depth (key child)
  distinct : ∀ place, ((forest.below place).map key).Nodup

/-- Every item but the root is below one that was there before it. -/
theorem exists_parent {child : Nat} {item : α} (positive : 0 < child)
    (found : forest.items[child]? = some item) :
    ∃ place above, child ∈ forest.children place ∧ place < child ∧
      forest.items[place]? = some above ∧ item ∈ forest.below place := by
  obtain ⟨bound, _⟩ := List.getElem?_eq_some_iff.mp found
  obtain ⟨place, member⟩ := forest.parent child positive bound
  have earlier := (forest.later place child member).1
  have inside : place < forest.items.length := by omega
  exact ⟨place, forest.items[place], member, earlier, List.getElem?_eq_getElem inside,
    List.mem_filterMap.mpr ⟨child, member, found⟩⟩

theorem root_above (ranked : forest.Ranked key parentOf depth) {root : α}
    (rooted : forest.items[0]? = some root) {child : Nat} {item : α} (positive : 0 < child)
    (found : forest.items[child]? = some item) : depth (key root) < depth (key item) := by
  induction child using Nat.strongRecOn generalizing item with
  | ind child ih =>
      obtain ⟨place, above, _, earlier, known, member⟩ := exists_parent positive found
      have deeper := ranked.deeper place above known item member
      by_cases top : place = 0
      · rw [top, rooted] at known
        cases known
        exact deeper
      · exact Nat.lt_trans (ih place earlier (by omega) known) deeper

theorem place_eq_of_key_eq {places : List Nat} {items : List α}
    (distinct : ((places.filterMap (items[·]?)).map key).Nodup) {first second : Nat}
    {firstItem secondItem : α} (firstIn : first ∈ places) (secondIn : second ∈ places)
    (firstFound : items[first]? = some firstItem) (secondFound : items[second]? = some secondItem)
    (same : key firstItem = key secondItem) : first = second := by
  induction places with
  | nil => cases firstIn
  | cons place rest ih =>
      have later {other : Nat} {item : α} (member : other ∈ rest)
          (found : items[other]? = some item) :
          key item ∈ (rest.filterMap (items[·]?)).map key :=
        List.mem_map_of_mem (List.mem_filterMap.mpr ⟨other, member, found⟩)
      rcases List.mem_cons.mp firstIn with rfl | firstLater
      · rw [List.filterMap_cons_some firstFound, List.map_cons, List.nodup_cons] at distinct
        rcases List.mem_cons.mp secondIn with rfl | secondLater
        · rfl
        · exact absurd (same ▸ later secondLater secondFound) distinct.1
      · rcases List.mem_cons.mp secondIn with rfl | secondLater
        · rw [List.filterMap_cons_some secondFound, List.map_cons, List.nodup_cons] at distinct
          exact absurd (same ▸ later firstLater firstFound) distinct.1
        · refine ih ?_ firstLater secondLater
          refine distinct.sublist (List.Sublist.map key (List.Sublist.filterMap _ ?_))
          exact List.sublist_cons_self place rest

/-- No key is in the tree twice. -/
theorem eq_of_key_eq (ranked : forest.Ranked key parentOf depth) {first second : Nat}
    {firstItem secondItem : α} (firstFound : forest.items[first]? = some firstItem)
    (secondFound : forest.items[second]? = some secondItem)
    (same : key firstItem = key secondItem) : first = second := by
  induction first using Nat.strongRecOn generalizing second firstItem secondItem with
  | ind first ih =>
      by_cases firstRoot : first = 0
      · by_cases secondRoot : second = 0
        · rw [firstRoot, secondRoot]
        · rw [firstRoot] at firstFound
          have above := root_above ranked firstFound (by omega) secondFound
          rw [same] at above
          omega
      · by_cases secondRoot : second = 0
        · rw [secondRoot] at secondFound
          have above := root_above ranked secondFound (by omega) firstFound
          rw [same] at above
          omega
        · obtain ⟨place, above, firstIn, earlier, known, member⟩ :=
            exists_parent (by omega) firstFound
          obtain ⟨other, otherAbove, secondIn, _, otherKnown, otherMember⟩ :=
            exists_parent (by omega) secondFound
          have parents : key above = key otherAbove := by
            rw [← ranked.parent place above known _ member, same,
              ranked.parent other otherAbove otherKnown _ otherMember]
          have equal := ih place earlier known otherKnown parents
          subst equal
          exact place_eq_of_key_eq (ranked.distinct place) firstIn secondIn firstFound secondFound
            same

end Keys

end Forest

end Sambervise.Table
