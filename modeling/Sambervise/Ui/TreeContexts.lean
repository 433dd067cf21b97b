import Sambervise.Transition.InFlight
import Sambervise.Ui.LdapTree

namespace Sambervise.Ui

open Text Backend Table Transition

/-! The nodes that reads of the tree come back to -/

namespace LdapTree

variable (search : ConnId → LdapSearch) (collate : CString → CString → Int)

def Past (tree : LdapTree) : Prop := ∀ read ∈ tree.childReads, read.generation ≤ tree.generation

/-- No read in flight is for a node of an earlier tree. -/
def Current (tree : LdapTree) : Prop :=
  ∀ read ∈ tree.childReads, read.generation = tree.generation

/-- The tree is not replaced while children are read, and no root of an earlier tree is given
its attributes. -/
def Careful (self : LdapTree) : Event → Prop
  | .load _ base => base ≠ [] → self.childReads = []
  | .rootAttrsDone index session =>
      ∀ read, self.rootReads[index]? = some read →
        ∀ attrs, (attrsThread (search read.conn) read.dn session).1 = .ok attrs →
          read.generation = self.generation
  | _ => True

def Completes : Event → Prop
  | .childrenDone _ _ => True
  | _ => False

variable {search collate} {self next : LdapTree}

section Reads

variable {index : Nat} {read : TreeRead}

/-- A completion goes through exactly for a node of the tree that is there. -/
theorem onChildrenLoaded_eq_some_iff
    (result : Except GError (List Backend.SbvLdapNode)) :
    (∃ next, self.onChildrenLoaded read result = some next) ↔
      read.generation = self.generation := by
  cases result with
  | error error => simp [onChildrenLoaded]
  | ok nodes => simp [onChildrenLoaded]

theorem frame_onChildrenLoaded {result : Except GError (List Backend.SbvLdapNode)}
    (outcome : self.onChildrenLoaded read result = some next) :
    read.generation = self.generation ∧ next.generation = self.generation ∧
      next.childReads = self.childReads := by
  have current := (onChildrenLoaded_eq_some_iff result).mp ⟨next, outcome⟩
  refine ⟨current, ?_⟩
  cases result with
  | error error =>
      rw [onChildrenLoaded, if_pos current] at outcome
      cases outcome
      exact ⟨rfl, rfl⟩
  | ok nodes =>
      rw [onChildrenLoaded, if_pos current] at outcome
      cases outcome
      exact ⟨rfl, rfl⟩

theorem frame_onRootAttrsLoaded {result : Except GError AttrTable}
    (outcome : self.onRootAttrsLoaded read result = some next) :
    next.generation = self.generation ∧ next.childReads = self.childReads ∧
      ∀ attrs, result = .ok attrs → read.generation = self.generation := by
  cases result with
  | error error =>
      cases outcome
      exact ⟨rfl, rfl, nofun⟩
  | ok attrs =>
      simp only [onRootAttrsLoaded] at outcome
      split at outcome
      next current =>
        cases outcome
        exact ⟨rfl, rfl, fun _ _ => current⟩
      · cases outcome

theorem exists_onRootAttrsLoaded {result : Except GError AttrTable}
    (careful : ∀ attrs, result = .ok attrs → read.generation = self.generation) :
    ∃ next, self.onRootAttrsLoaded read result = some next := by
  cases result with
  | error error => exact ⟨self, rfl⟩
  | ok attrs => exact ⟨_, if_pos (careful attrs rfl)⟩

end Reads

/-! What becomes of the reads in flight -/

/-- While the tree stays. -/
inductive Moves (self next : LdapTree) : Prop where
  | kept (generation : next.generation = self.generation)
      (reads : next.childReads = self.childReads)
  | asked (read : TreeRead) (current : read.generation = self.generation)
      (generation : next.generation = self.generation)
      (reads : next.childReads = self.childReads ++ [read])
  | answered {index : Nat} {read : TreeRead} (found : self.childReads[index]? = some read)
      (current : read.generation = self.generation)
      (generation : next.generation = self.generation)
      (reads : next.childReads = self.childReads.eraseIdx index)

theorem Moves.past (moves : self.Moves next) (past : self.Past) : next.Past := by
  intro other member
  cases moves with
  | kept generation reads =>
      rw [reads] at member
      exact (past other member).trans_eq generation.symm
  | asked read current generation reads =>
      rw [reads] at member
      rcases List.mem_append.mp member with earlier | last
      · exact (past other earlier).trans_eq generation.symm
      · rw [List.mem_singleton.mp last, current, generation]
  | answered found current generation reads =>
      rw [reads] at member
      exact (past other (List.mem_of_mem_eraseIdx member)).trans_eq generation.symm

theorem Moves.current_iff (moves : self.Moves next) : next.Current ↔ self.Current := by
  cases moves with
  | kept generation reads => rw [Current, Current, generation, reads]
  | asked read current generation reads =>
      rw [Current, Current, generation, reads]
      simp [or_imp, forall_and, current]
  | @answered index read found current generation reads =>
      rw [Current, Current, generation, reads]
      constructor
      · intro others other member
        rcases eq_or_mem_completed found member with rfl | waits
        · exact current
        · exact others other waits
      · exact fun all other member => all other (List.mem_of_mem_eraseIdx member)

theorem moves_createChildModel (node : Nat) : self.Moves (self.createChildModel node) := by
  unfold createChildModel
  split
  · split
    · exact .kept rfl rfl
    · split
      · exact .kept rfl rfl
      · exact .asked _ rfl rfl rfl
  · exact .kept rfl rfl

theorem moves_handle {event : Event} (outcome : handle search collate self event = some next) :
    (∃ conn base, event = .load conn base ∧ next = self.load conn base) ∨ self.Moves next := by
  cases event with
  | load conn base =>
      cases outcome
      exact .inl ⟨conn, base, rfl, rfl⟩
  | childModel node =>
      cases outcome
      refine .inr ?_
      split
      · exact moves_createChildModel node
      · exact .kept rfl rfl
  | childrenDone index session =>
      refine .inr ?_
      simp only [handle] at outcome
      split at outcome
      · cases outcome
        exact .kept rfl rfl
      next read found =>
        obtain ⟨current, generation, reads⟩ := frame_onChildrenLoaded outcome
        exact .answered found current generation reads
  | rootAttrsDone index session =>
      refine .inr ?_
      simp only [handle] at outcome
      split at outcome
      · cases outcome
        exact .kept rfl rfl
      · obtain ⟨generation, reads, _⟩ := frame_onRootAttrsLoaded outcome
        exact .kept generation reads

theorem past_load (past : self.Past) (conn : ConnId) (base : CString) :
    (self.load conn base).Past := by
  unfold load
  split
  · exact past
  · exact fun read member => Nat.le_succ_of_le (past read member)

theorem current_load_iff (past : self.Past) (current : self.Current) (conn : ConnId)
    (base : CString) :
    (base ≠ [] → self.childReads = []) ↔ (self.load conn base).Current := by
  unfold load
  split
  next nothing =>
    exact iff_of_true (fun something => absurd nothing something) current
  next something =>
    rw [forall_prop_of_true something]
    constructor
    · intro nothing read member
      rw [show self.childReads = [] from nothing] at member
      cases member
    · intro all
      apply List.eq_nil_iff_forall_not_mem.mpr
      intro read member
      have new : read.generation = self.generation + 1 := all read member
      have old := past read member
      omega

theorem current_of_load (past : self.Past) {conn : ConnId} {base : CString}
    (current : (self.load conn base).Current) : self.Current := by
  unfold load at current
  split at current
  · exact current
  · intro read member
    have new : read.generation = self.generation + 1 := current read member
    have old := past read member
    omega

/-! Careful steps -/

section Careful

variable {event : Event}

theorem exists_handle (current : self.Current) (careful : Careful search self event) :
    ∃ next, handle search collate self event = some next := by
  cases event with
  | load | childModel => exact ⟨_, rfl⟩
  | childrenDone index session =>
      simp only [handle]
      split
      · exact ⟨_, rfl⟩
      next read found =>
        have same := current read (List.mem_of_getElem? found)
        exact (onChildrenLoaded_eq_some_iff _).mpr same
  | rootAttrsDone index session =>
      simp only [handle]
      split
      · exact ⟨_, rfl⟩
      next read found =>
        exact exists_onRootAttrsLoaded (careful read found)

theorem current_handle (past : self.Past) (current : self.Current)
    (careful : Careful search self event)
    (outcome : handle search collate self event = some next) : next.Current := by
  rcases moves_handle outcome with ⟨conn, base, rfl, rfl⟩ | moves
  · exact (current_load_iff past current conn base).mp careful
  · exact moves.current_iff.mpr current

theorem careful_of_handle (past : self.Past) (current : self.Current)
    (outcome : handle search collate self event = some next) (after : next.Current) :
    Careful search self event := by
  cases event with
  | load conn base =>
      cases outcome
      exact (current_load_iff past current conn base).mpr after
  | rootAttrsDone index session =>
      intro read found
      simp only [handle, found] at outcome
      exact (frame_onRootAttrsLoaded outcome).2.2
  | childModel | childrenDone => trivial

end Careful

theorem foreseen : Foreseen (handle search collate) Past Current (Careful search) Completes
    (fun tree => tree.childReads.length) where
  keeps := by
    intro tree event next past outcome
    rcases moves_handle outcome with ⟨conn, base, rfl, rfl⟩ | moves
    · exact past_load past conn base
    · exact moves.past past
  exact_step := by
    intro tree event past current
    constructor
    · intro careful
      obtain ⟨next, outcome⟩ := exists_handle current careful
      exact ⟨next, outcome, current_handle past current careful outcome⟩
    · rintro ⟨next, outcome, after⟩
      exact careful_of_handle past current outcome after
  persists := by
    intro tree event next past outcome current
    rcases moves_handle outcome with ⟨conn, base, rfl, rfl⟩ | moves
    · exact current_of_load past current
    · exact moves.current_iff.mp current
  completes := by
    intro tree event complete
    cases event with
    | childrenDone index session => trivial
    | load | childModel | rootAttrsDone => cases complete
  settled := by
    intro tree past nothing read member
    rw [List.length_eq_zero_iff.mp nothing] at member
    cases member
  progress := by
    intro tree past something
    refine ⟨.childrenDone 0 (.opened id fun _ => none), trivial, fun next outcome => ?_⟩
    have inside : 0 < tree.childReads.length := by omega
    simp only [handle, List.getElem?_eq_getElem inside] at outcome
    obtain ⟨_, _, reads⟩ := frame_onChildrenLoaded outcome
    rw [reads, List.length_eraseIdx_of_lt inside]
    omega

/-- A connection is made while the first level is read. -/
example :
    let empty : ConnId → LdapSearch := fun _ _ => (Ldap.ldapSuccess, [])
    run (step empty fun _ _ => 0) (some {})
      [ .load 0 (cstr "DC=lan"), .childModel 0, .load 1 (cstr "DC=lan"),
        .childrenDone 0 (.opened id fun _ => none) ] = none := rfl

end LdapTree

end Sambervise.Ui
