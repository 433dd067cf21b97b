import Sambervise.Backend.Groups
import Sambervise.Transition.Run
import Sambervise.Ui.ListPanel

namespace Sambervise.Ui

open Text Model Backend Backend.Groups Transition

/-! The members of the selected group, each with a button that removes it -/

/-- A row with the context its button was given. -/
structure MemberRow where
  ctx : Nat
  memberDn : CString
  deriving DecidableEq, Repr

structure RemoveRequest where
  ctx : Nat
  conn : ConnId
  data : MemberData
  deriving DecidableEq, Repr

structure MembersPanel where
  conn : Option ConnId := none
  selectedGroup : Option SbvGroup := none
  shown : Bool := false
  rows : List MemberRow := []
  nextCtx : Nat := 0
  freed : List Nat := []
  memberError : Option GError := none
  removes : List RemoveRequest := []
  /-- A context was used after it was freed. -/
  crashed : Bool := false
  deriving DecidableEq, Repr

namespace MembersPanel

/-- While the panel loads no row can be seen. -/
def load (self : MembersPanel) (conn : ConnId) : MembersPanel :=
  { self with conn := some conn, shown := false }

def populateMembers (self : MembersPanel) (group : SbvGroup) : MembersPanel :=
  let members := group.members.getD []
  { self with
    rows := members.mapIdx fun index memberDn => { ctx := self.nextCtx + index, memberDn }
    nextCtx := self.nextCtx + members.length }

def onRowSelected (self : MembersPanel) : Option SbvGroup → MembersPanel
  | none => { self with shown := false }
  | some group =>
      { self.populateMembers group with
        selectedGroup := some group
        memberError := none
        shown := true }

def removal (self : MembersPanel) (row : MemberRow) : Option RemoveRequest :=
  match self.conn, self.selectedGroup with
  | some conn, some group =>
      some { ctx := row.ctx, conn, data := sbvGroupsRemoveMember group row.memberDn }
  | _, _ => none

def onRemoveClicked (self : MembersPanel) (row : MemberRow) : MembersPanel :=
  if row.ctx ∈ self.freed then { self with crashed := true }
  else
    match self.removal row with
    | none => self
    | some request =>
        { self with memberError := none, removes := self.removes ++ [request] }

def onRemoveDone (self : MembersPanel) (request : RemoveRequest)
    (result : Except GError Unit) : MembersPanel :=
  if request.ctx ∈ self.freed then { self with crashed := true }
  else
    let self := { self with freed := request.ctx :: self.freed }
    match result with
    | .error error => { self with memberError := some error }
    | .ok () => self.load request.conn

inductive Event where
  | load (conn : ConnId)
  | rowSelected (group : Option SbvGroup)
  | removeClicked (index : Nat)
  /-- The removal at this place among those in flight completes. -/
  | removeDone (index : Nat) (result : Except GError Unit)

def handle (self : MembersPanel) : Event → MembersPanel
  | .load conn => self.load conn
  | .rowSelected group => self.onRowSelected group
  | .removeClicked index =>
      match self.rows[index]? with
      | none => self
      | some row => if self.shown then self.onRemoveClicked row else self
  | .removeDone index result =>
      match self.removes[index]? with
      | none => self
      | some request =>
          onRemoveDone { self with removes := self.removes.eraseIdx index } request result

def step (self : MembersPanel) (event : Event) : MembersPanel :=
  if self.crashed then self else self.handle event

/-! Removals in flight -/

/-- From one button, or the same removal over the same connection. -/
def Repeats (earlier later : RemoveRequest) : Prop :=
  earlier.ctx = later.ctx ∨ earlier.conn = later.conn ∧ earlier.data = later.data

instance (earlier later : RemoveRequest) : Decidable (Repeats earlier later) :=
  inferInstanceAs (Decidable (_ ∨ _))

def SingleFlight (self : MembersPanel) : Prop :=
  self.removes.Pairwise fun earlier later => ¬ Repeats earlier later

instance (self : MembersPanel) : Decidable self.SingleFlight :=
  inferInstanceAs (Decidable (List.Pairwise _ _))

/-- A removal is asked for while none that it repeats is in flight. -/
def AsksOnce (self : MembersPanel) : Event → Prop
  | .removeClicked index =>
      self.crashed = false → self.shown = true → ∀ row ∈ self.rows[index]?,
        row.ctx ∉ self.freed → ∀ request ∈ self.removal row, ∀ earlier ∈ self.removes,
          ¬ Repeats earlier request
  | _ => True

variable {self : MembersPanel}

theorem removes_onRemoveDone (request : RemoveRequest) (result : Except GError Unit) :
    (self.onRemoveDone request result).removes = self.removes := by
  unfold onRemoveDone
  split
  · rfl
  · cases result with
    | error error => rfl
    | ok done => rfl

theorem onRemoveClicked_iff (flight : self.SingleFlight) (row : MemberRow) :
    (row.ctx ∉ self.freed → ∀ request ∈ self.removal row, ∀ earlier ∈ self.removes,
        ¬ Repeats earlier request) ↔ (self.onRemoveClicked row).SingleFlight := by
  unfold onRemoveClicked
  split
  next freed =>
    exact iff_of_true (fun alive => absurd freed alive) flight
  next alive =>
    split
    next nothing =>
      exact iff_of_true (by simp [nothing]) flight
    next request asked =>
      simp only [alive, not_false_eq_true, true_imp_iff, asked, Option.mem_some_iff, forall_eq',
        SingleFlight, List.pairwise_append, List.pairwise_singleton, List.mem_singleton,
        forall_eq, true_and]
      exact (and_iff_right flight).symm

theorem asksOnce_iff_handle (alive : self.crashed = false) (flight : self.SingleFlight)
    (event : Event) : self.AsksOnce event ↔ (self.handle event).SingleFlight := by
  cases event with
  | load conn => exact iff_of_true trivial flight
  | rowSelected group =>
      refine iff_of_true trivial ?_
      cases group with
      | none => exact flight
      | some group => exact flight
  | removeClicked index =>
      simp only [AsksOnce, alive, true_imp_iff, handle]
      cases self.rows[index]? with
      | none => exact iff_of_true (by simp) flight
      | some row =>
          simp only [Option.mem_some_iff, forall_eq']
          cases shown : self.shown with
          | false => exact iff_of_true nofun flight
          | true =>
              rw [if_pos rfl, forall_prop_of_true rfl]
              exact onRemoveClicked_iff flight row
  | removeDone index result =>
      refine iff_of_true trivial ?_
      simp only [handle]
      split
      · exact flight
      · rw [SingleFlight, removes_onRemoveDone]
        exact flight.sublist (List.eraseIdx_sublist _ _)

theorem asksOnce_iff_step (self : MembersPanel) (event : Event) (flight : self.SingleFlight) :
    self.AsksOnce event ↔ (self.step event).SingleFlight := by
  unfold step
  split
  next dead =>
    refine iff_of_true ?_ flight
    cases event with
    | load | rowSelected | removeDone => trivial
    | removeClicked index =>
        intro alive
        rw [dead] at alive
        cases alive
  next alive =>
    rw [Bool.not_eq_true] at alive
    exact asksOnce_iff_handle alive flight event

end MembersPanel

end Sambervise.Ui
