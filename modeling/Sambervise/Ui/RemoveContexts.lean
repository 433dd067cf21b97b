import Sambervise.Transition.InFlight
import Sambervise.Ui.GroupMembers

namespace Sambervise.Ui

open Text Model Backend Transition

namespace MembersPanel

/-! The contexts of the removal buttons. A button hands its context to every removal it
starts, and every completion frees the context it was handed. -/

/-- Every removal in flight has a context of its own that is not freed. -/
structure Owned (state : MembersPanel) : Prop where
  running : state.crashed = false
  alive : ∀ request ∈ state.removes, request.ctx ∉ state.freed
  distinct : (state.removes.map RemoveRequest.ctx).Nodup

/-- No removal started by the button of the row is in flight or has completed. -/
def ClicksOnce (self : MembersPanel) : Event → Prop
  | .removeClicked index =>
      self.shown = true → ∀ row ∈ self.rows[index]?, row.ctx ∉ self.freed ∧
        ((self.removal row).isSome = true → row.ctx ∉ self.removes.map RemoveRequest.ctx)
  | _ => True

def isCompletion : Event → Bool
  | .removeDone _ _ => true
  | _ => false

variable {self : MembersPanel}

theorem owned_congr {other : MembersPanel} (crashed : other.crashed = self.crashed)
    (removes : other.removes = self.removes) (freed : other.freed = self.freed) :
    other.Owned ↔ self.Owned := by
  constructor
  · intro owned
    exact ⟨crashed ▸ owned.running, removes ▸ freed ▸ owned.alive, removes ▸ owned.distinct⟩
  · intro owned
    refine ⟨crashed.trans owned.running, ?_, ?_⟩
    · rw [removes, freed]
      exact owned.alive
    · rw [removes]
      exact owned.distinct

theorem ctx_of_removal {row : MemberRow} {request : RemoveRequest}
    (asked : self.removal row = some request) : request.ctx = row.ctx := by
  unfold removal at asked
  split at asked
  · cases asked
    rfl
  · cases asked

/-- One more removal in flight. -/
theorem owned_append_iff {request : RemoveRequest} {error : Option GError} :
    Owned { self with memberError := error, removes := self.removes ++ [request] } ↔
      Owned self ∧ request.ctx ∉ self.freed ∧
        request.ctx ∉ self.removes.map RemoveRequest.ctx := by
  constructor
  · intro owned
    have distinct := owned.distinct
    rw [List.map_append, List.nodup_append] at distinct
    refine ⟨?_, owned.alive request (List.mem_append_right _ List.mem_cons_self), ?_⟩
    · exact
        { running := owned.running
          alive := fun earlier member => owned.alive earlier (List.mem_append_left _ member)
          distinct := distinct.1 }
    · exact fun member => distinct.2.2 _ member _ List.mem_cons_self rfl
  · intro both
    obtain ⟨owned, alive, fresh⟩ := both
    refine { running := owned.running, alive := ?_, distinct := ?_ }
    · intro earlier member
      rcases List.mem_append.mp member with kept | new
      · exact owned.alive earlier kept
      · rw [List.mem_singleton.mp new]
        exact alive
    · rw [List.map_append, List.map_singleton, ← List.concat_eq_append]
      exact List.Nodup.concat fresh owned.distinct

theorem clicksOnce_iff_onRemoveClicked (owned : self.Owned) (row : MemberRow) :
    (row.ctx ∉ self.freed ∧ ((self.removal row).isSome = true →
        row.ctx ∉ self.removes.map RemoveRequest.ctx)) ↔ (self.onRemoveClicked row).Owned := by
  unfold onRemoveClicked
  split
  next freed =>
    exact iff_of_false (fun both => both.1 freed) (fun crashed => nomatch crashed.running)
  next alive =>
    cases asked : self.removal row with
    | none => exact iff_of_true ⟨alive, nofun⟩ owned
    | some request =>
        rw [owned_append_iff, ctx_of_removal asked]
        simp only [Option.isSome_some, forall_const]
        exact (and_iff_right owned).symm

theorem owned_of_onRemoveClicked {row : MemberRow} (owned : (self.onRemoveClicked row).Owned) :
    self.Owned := by
  unfold onRemoveClicked at owned
  split at owned
  · cases owned.running
  · split at owned
    · exact owned
    · exact (owned_append_iff.mp owned).1

/-- A completion leaves the removals in flight as much at risk as they were. -/
theorem owned_onRemoveDone_iff {request : RemoveRequest} {rest : List RemoveRequest}
    (inFlight : self.removes.Perm (request :: rest)) (result : Except GError Unit) :
    Owned (onRemoveDone { self with removes := rest } request result) ↔ self.Owned := by
  by_cases freed : request.ctx ∈ self.freed
  · rw [onRemoveDone, if_pos freed]
    refine iff_of_false (fun crashed => nomatch crashed.running) ?_
    intro owned
    exact owned.alive request (inFlight.mem_iff.mpr List.mem_cons_self) freed
  · have kept : Owned (onRemoveDone { self with removes := rest } request result) ↔
        Owned { self with removes := rest, freed := request.ctx :: self.freed } := by
      rw [onRemoveDone, if_neg freed]
      cases result with
      | error error => exact owned_congr rfl rfl rfl
      | ok done => exact owned_congr rfl rfl rfl
    rw [kept]
    have distinct := (inFlight.map RemoveRequest.ctx).nodup_iff
    rw [List.map_cons, List.nodup_cons] at distinct
    constructor
    · intro owned
      refine
        { running := owned.running, alive := ?_, distinct := distinct.mpr ⟨?_, owned.distinct⟩ }
      · intro earlier member
        rcases List.mem_cons.mp (inFlight.mem_iff.mp member) with rfl | later
        · exact freed
        · exact fun gone => owned.alive earlier later (List.mem_cons_of_mem _ gone)
      · intro member
        obtain ⟨later, inRest, same⟩ := List.mem_map.mp member
        exact owned.alive later inRest (List.mem_cons.mpr (.inl same))
    · intro owned
      obtain ⟨alone, distinctRest⟩ := distinct.mp owned.distinct
      refine { running := owned.running, alive := ?_, distinct := distinctRest }
      intro later inRest gone
      rcases List.mem_cons.mp gone with same | gone
      · exact alone (same ▸ List.mem_map_of_mem inRest)
      · exact owned.alive later (inFlight.mem_iff.mpr (List.mem_cons_of_mem _ inRest)) gone

theorem owned_removeDone_iff (running : self.crashed = false) (index : Nat)
    (result : Except GError Unit) :
    (self.step (.removeDone index result)).Owned ↔ self.Owned := by
  rw [step, if_neg (by simp [running]), handle]
  split
  · exact Iff.rfl
  next request found =>
    exact owned_onRemoveDone_iff (completed_perm found) result

theorem clicksOnce_iff_owned (owned : self.Owned) (event : Event) :
    self.ClicksOnce event ↔ (self.step event).Owned := by
  have running : ¬ self.crashed = true := by simp [owned.running]
  cases event with
  | load conn =>
      rw [step, if_neg running]
      exact iff_of_true trivial ⟨owned.running, owned.alive, owned.distinct⟩
  | rowSelected group =>
      rw [step, if_neg running]
      cases group with
      | none => exact iff_of_true trivial ⟨owned.running, owned.alive, owned.distinct⟩
      | some group => exact iff_of_true trivial ⟨owned.running, owned.alive, owned.distinct⟩
  | removeDone index result =>
      exact iff_of_true trivial ((owned_removeDone_iff owned.running index result).mpr owned)
  | removeClicked index =>
      rw [ClicksOnce, step, if_neg running, handle]
      cases self.rows[index]? with
      | none => exact iff_of_true (fun _ _ missing => absurd missing (Option.not_mem_none _)) owned
      | some row =>
          simp only [Option.mem_some_iff, forall_eq']
          split
          next shown =>
            rw [forall_prop_of_true shown]
            exact clicksOnce_iff_onRemoveClicked owned row
          next hidden =>
            exact iff_of_true (fun shown => absurd shown hidden) owned

/-- What is wrong stays wrong. -/
theorem owned_of_step (event : Event) (owned : (self.step event).Owned) : self.Owned := by
  have running : self.crashed = false := by
    by_contra crashed
    rw [Bool.not_eq_false] at crashed
    rw [step, if_pos crashed] at owned
    exact absurd owned.running (by simp [crashed])
  cases event with
  | load conn =>
      rw [step, if_neg (by simp [running])] at owned
      exact ⟨running, owned.alive, owned.distinct⟩
  | rowSelected group =>
      rw [step, if_neg (by simp [running])] at owned
      cases group with
      | none => exact ⟨running, owned.alive, owned.distinct⟩
      | some group => exact ⟨running, owned.alive, owned.distinct⟩
  | removeDone index result => exact (owned_removeDone_iff running index result).mp owned
  | removeClicked index =>
      rw [step, if_neg (by simp [running]), handle] at owned
      split at owned
      · exact owned
      · split at owned
        · exact owned_of_onRemoveClicked owned
        · exact owned

end MembersPanel

end Sambervise.Ui
