import Sambervise.Transition.Run
import Sambervise.Ui.ComputersPanel
import Sambervise.Ui.UsersPanel

namespace Sambervise.Ui

open Text Model Backend Transition

/-! What an account panel deletes has the name that was typed, whatever the panel comes to
show while the confirmation is open. -/

/-- The setters of the panel leave the name that a reload finds an object by. -/
structure AccountKind.KeepsKey (kind : AccountKind) : Prop where
  setEnabled : ∀ obj value, kind.listable.key (kind.setEnabled obj value) = kind.listable.key obj
  adopt : ∀ form obj, kind.listable.key (kind.adopt form obj) = kind.listable.key obj

theorem keepsKey_users (calendar : Users.GDateTimeUtc) : (usersKind calendar).KeepsKey where
  setEnabled _ _ := rfl
  adopt _ _ := rfl

theorem keepsKey_computers : computersKind.KeepsKey where
  setEnabled _ _ := rfl
  adopt _ _ := rfl

namespace AccountPanel

variable {kind : AccountKind} {self : AccountPanel kind}

def Typed (sent : DispatchedWrite kind) : Prop :=
  match sent.write with
  | .delete dn ctx =>
      dn = sent.target.dn ∧ ctx.typed ≠ [] ∧ orEmpty sent.target.key = ctx.typed ∧
        orEmpty ctx.openedFor.key = ctx.typed
  | _ => True

/-- An object is selected by its DN only while the list cannot be seen, so before a
confirmation is opened and not while it is. -/
structure NamedInvariant (panel : AccountPanel kind) : Prop where
  modal : panel.confirm = none ∨ panel.createDialog = none
  pending : panel.outerStack = .split → panel.pendingSelectDn = none
  named : ∀ ctx, panel.confirm = some ctx →
    panel.pendingSelectDn = none ∧ ctx.expectedSam ≠ [] ∧
      orEmpty ctx.openedFor.key = ctx.expectedSam ∧
        ∀ object, panel.selected = some object → orEmpty object.key = ctx.expectedSam
  typed : ∀ sent ∈ panel.dispatched, Typed sent

theorem named_congr {after : AccountPanel kind} (invariant : self.NamedInvariant)
    (pending : after.outerStack = .split → after.pendingSelectDn = none)
    (remains : self.pendingSelectDn = none → after.pendingSelectDn = none)
    (confirm : after.confirm = self.confirm) (create : after.createDialog = self.createDialog)
    (named : self.pendingSelectDn = none → ∀ object, after.selected = some object →
      ∃ before, self.selected = some before ∧ orEmpty before.key = orEmpty object.key)
    (typed : ∀ sent ∈ after.dispatched, Typed sent) : after.NamedInvariant where
  modal := by
    rw [confirm, create]
    exact invariant.modal
  pending := pending
  named := by
    intro ctx shown
    obtain ⟨nothing, something, opened, same⟩ := invariant.named ctx (confirm ▸ shown)
    refine ⟨remains nothing, something, opened, fun object selected => ?_⟩
    obtain ⟨before, chosen, key⟩ := named nothing object selected
    exact key ▸ same before chosen
  typed := typed

theorem typed_dispatch (typed : ∀ sent ∈ self.dispatched, Typed sent)
    {sent : DispatchedWrite kind} (holds : Typed sent) :
    ∀ other ∈ self.dispatched ++ [sent], Typed other := by
  intro other member
  rcases List.mem_append.mp member with earlier | last
  · exact typed other earlier
  · rw [List.mem_singleton.mp last]
    exact holds

/-! Reloads and completions -/

theorem key_of_reselected {source : ConnId} {objects : List kind.Obj}
    {row : Listed kind.Obj} (nothing : self.pendingSelectDn = none)
    (found : self.reselected source objects = some row) :
    ∃ before, self.selected = some before ∧ orEmpty before.key = orEmpty row.key := by
  have chosen := List.find?_some found
  simp only [ListPanel.reselects, nothing] at chosen
  split at chosen
  next key same =>
    obtain ⟨before, selected, sam⟩ := Option.bind_eq_some_iff.mp same
    refine ⟨before, selected, ?_⟩
    rw [sam]
    exact (of_decide_eq_true chosen).symm
  · cases chosen

theorem named_onLoaded (invariant : self.NamedInvariant) (source : ConnId)
    (result : Except GError (List kind.Obj)) : (self.onLoaded source result).NamedInvariant := by
  have frame := self.onLoaded_frame source result
  have typed : ∀ sent ∈ (self.onLoaded source result).dispatched, Typed sent := by
    rw [frame.2.2.1]
    exact invariant.typed
  cases result with
  | error error =>
      refine named_congr invariant nofun (fun nothing => nothing) rfl rfl ?_ typed
      exact fun _ object selected => ⟨object, selected, rfl⟩
  | ok objects =>
      have cleared : (self.onLoaded source (.ok objects)).pendingSelectDn = none := by
        simp only [onLoaded]
        split
        · rfl
        · rfl
      have create : (self.onLoaded source (.ok objects)).createDialog = self.createDialog := by
        simp only [onLoaded]
        split
        · rfl
        · rfl
      refine named_congr invariant (fun _ => cleared) (fun _ => cleared) frame.2.1 create ?_ typed
      intro nothing object selected
      simp only [onLoaded] at selected
      split at selected
      next row found =>
        cases selected
        exact key_of_reselected nothing found
      · exact ⟨object, selected, rfl⟩

@[simp] theorem mutate_pendingSelectDn (list : ListPanel kind.Obj)
    (setter : kind.Obj → kind.Obj) :
    (list.mutate setter).pendingSelectDn = list.pendingSelectDn := by
  unfold ListPanel.mutate
  split
  · rfl
  · rfl

theorem key_mutate {setter : kind.Obj → kind.Obj}
    (keeps : ∀ obj, kind.listable.key (setter obj) = kind.listable.key obj)
    {object : Listed kind.Obj} (selected : (self.mutate setter).selected = some object) :
    ∃ before, self.selected = some before ∧ orEmpty before.key = orEmpty object.key := by
  rw [ListPanel.mutate_selected, Option.map_eq_some_iff] at selected
  obtain ⟨before, chosen, rfl⟩ := selected
  exact ⟨before, chosen, congrArg orEmpty (keeps before.obj).symm⟩

theorem named_panelLoad (invariant : self.NamedInvariant) (conn : ConnId) :
    (self.panelLoad conn).NamedInvariant where
  modal := invariant.modal
  pending := nofun
  named := invariant.named
  typed := invariant.typed

theorem named_mutate (invariant : self.NamedInvariant) {setter : kind.Obj → kind.Obj}
    (keeps : ∀ obj, kind.listable.key (setter obj) = kind.listable.key obj) :
    (self.mutateSelected setter).NamedInvariant := by
  refine named_congr invariant ?_ ?_ rfl rfl ?_ invariant.typed
  · intro split
    rw [mutateSelected, ListPanel.mutate_outerStack] at split
    exact (mutate_pendingSelectDn _ _).trans (invariant.pending split)
  · exact fun nothing => (mutate_pendingSelectDn _ _).trans nothing
  · exact fun _ object selected => key_mutate keeps selected

theorem named_onUpdateAttrsDone (keeps : kind.KeepsKey) (invariant : self.NamedInvariant)
    (conn : ConnId) (ctx : SaveCtx kind) (result : Except GError Unit) :
    (self.onUpdateAttrsDone conn ctx result).NamedInvariant := by
  cases result with
  | error error => exact ⟨invariant.modal, invariant.pending, invariant.named, invariant.typed⟩
  | ok done =>
      have adopted := named_mutate invariant (keeps.adopt self.form)
      simp only [onUpdateAttrsDone]
      split
      · split
        · exact ⟨adopted.modal, adopted.pending, adopted.named, adopted.typed⟩
        · exact ⟨adopted.modal, adopted.pending, adopted.named, typed_dispatch adopted.typed trivial⟩
      · refine named_panelLoad ?_ conn
        exact ⟨adopted.modal, adopted.pending, adopted.named, adopted.typed⟩

theorem named_deselect (invariant : self.NamedInvariant) :
    NamedInvariant { self with deleteBtn := true, selected := none } := by
  refine named_congr invariant invariant.pending (fun nothing => nothing) rfl rfl ?_ invariant.typed
  intro _ object selected
  cases selected

theorem named_onDone (keeps : kind.KeepsKey) (invariant : self.NamedInvariant)
    (sent : DispatchedWrite kind) (result : Except GError Unit) :
    (self.onDone sent result).NamedInvariant := by
  unfold onDone
  split
  · exact named_onUpdateAttrsDone keeps invariant _ _ result
  next data ctx write =>
    cases result with
    | error error => exact ⟨invariant.modal, invariant.pending, invariant.named, invariant.typed⟩
    | ok done =>
        refine named_panelLoad (named_mutate ?_ fun obj => keeps.setEnabled obj _) _
        exact ⟨invariant.modal, invariant.pending, invariant.named, invariant.typed⟩
  · cases result with
    | error error => exact ⟨invariant.modal, invariant.pending, invariant.named, invariant.typed⟩
    | ok done => exact named_panelLoad (named_deselect invariant) sent.conn
  next write same =>
    cases result with
    | error error => exact ⟨invariant.modal, invariant.pending, invariant.named, invariant.typed⟩
    | ok done =>
        have written : NamedInvariant
            { self with form := kind.writeDone write (.ok ()) self.form } :=
          ⟨invariant.modal, invariant.pending, invariant.named, invariant.typed⟩
        exact named_panelLoad written sent.conn

/-! The confirmation -/

theorem reachable_iff :
    self.reachable = true ↔ self.confirm = none ∧ self.createDialog = none := by
  rw [reachable, Bool.and_eq_true, Option.isNone_iff_eq_none, Option.isNone_iff_eq_none]

theorem split_of_detailReachable (reachable : self.detailReachable = true) :
    self.outerStack = .split ∧ self.confirm = none ∧ self.createDialog = none := by
  rw [detailReachable, Bool.and_eq_true, ListPanel.shown, Bool.and_eq_true,
    decide_eq_true_eq] at reachable
  exact ⟨reachable.1.1, reachable_iff.mp reachable.2⟩

theorem named_showDeleteConfirm (invariant : self.NamedInvariant)
    (reachable : self.detailReachable = true) : self.showDeleteConfirm.NamedInvariant := by
  unfold showDeleteConfirm
  split
  · exact invariant
  next object selected =>
    split
    · exact invariant
    next sam something =>
      obtain ⟨split, modal⟩ := split_of_detailReachable reachable
      refine ⟨.inr modal.2, invariant.pending, fun ctx opened => ?_, invariant.typed⟩
      cases opened
      refine ⟨invariant.pending split, something, rfl, fun other same => ?_⟩
      rw [show self.selected = some other from same] at selected
      cases selected
      rfl

theorem named_onConfirmDeleteClicked (invariant : self.NamedInvariant)
    {ctx : ConfirmDelCtx kind} (shown : self.confirm = some ctx)
    (same : ctx.typed = ctx.expectedSam) : (self.onConfirmDeleteClicked ctx).NamedInvariant := by
  unfold onConfirmDeleteClicked
  split
  next conn object connected selected =>
    obtain ⟨_, something, opened, named⟩ := invariant.named ctx shown
    refine ⟨.inl rfl, invariant.pending, nofun, typed_dispatch invariant.typed ?_⟩
    rw [← same] at something opened named
    exact ⟨rfl, something, named object selected, opened⟩
  · exact ⟨.inl rfl, invariant.pending, nofun, invariant.typed⟩

theorem named_handle (keeps : kind.KeepsKey) (invariant : self.NamedInvariant)
    (event : Event kind) : (self.handle event).NamedInvariant := by
  cases event with
  | load conn => exact named_panelLoad invariant conn
  | listed index result =>
      simp only [handle]
      split
      · exact invariant
      · apply named_onLoaded
        exact ⟨invariant.modal, invariant.pending, invariant.named, invariant.typed⟩
  | done index result =>
      simp only [handle]
      split
      · exact invariant
      · apply named_onDone keeps
        exact ⟨invariant.modal, invariant.pending, invariant.named, invariant.typed⟩
  | rowSelected row =>
      cases row with
      | none =>
          simp only [handle]
          split
          · exact ⟨invariant.modal, invariant.pending, invariant.named, invariant.typed⟩
          · exact invariant
      | some index =>
          simp only [handle]
          split
          · exact invariant
          · split
            next object inRows reachable =>
              refine ⟨invariant.modal, invariant.pending, fun ctx shown => ?_, invariant.typed⟩
              have closed := (reachable_iff.mp (Bool.and_eq_true_iff.mp reachable).2).1
              rw [show self.confirm = some ctx from shown] at closed
              cases closed
            · exact invariant
  | edited edit =>
      simp only [handle]
      split
      · exact ⟨invariant.modal, invariant.pending, invariant.named, invariant.typed⟩
      · exact invariant
  | saveClicked =>
      simp only [handle, onSaveClicked]
      split
      · split
        · exact ⟨invariant.modal, invariant.pending, invariant.named, typed_dispatch invariant.typed trivial⟩
        · exact invariant
      · exact invariant
  | buttonClicked button =>
      simp only [handle, onButtonClicked]
      split
      · split
        · split
          · exact ⟨invariant.modal, invariant.pending, invariant.named, invariant.typed⟩
          · exact ⟨invariant.modal, invariant.pending, invariant.named, typed_dispatch invariant.typed trivial⟩
        · exact invariant
      · exact invariant
  | addClicked =>
      simp only [handle, onAddBtnClicked]
      split
      next clickable =>
        have modal := reachable_iff.mp (Bool.and_eq_true_iff.mp clickable).2
        split
        · exact invariant
        · exact ⟨.inl modal.1, invariant.pending, invariant.named, invariant.typed⟩
      · exact invariant
  | createClosed => exact ⟨.inr rfl, invariant.pending, invariant.named, invariant.typed⟩
  | created newDn =>
      simp only [handle]
      split
      · exact invariant
      next conn dialog =>
        have closed : self.confirm = none := invariant.modal.resolve_right (by simp [dialog])
        refine ⟨.inl closed, fun split => ?_, fun ctx shown => ?_, invariant.typed⟩
        · cases split
        · rw [show self.confirm = some ctx from shown] at closed
          cases closed
  | deleteClicked =>
      simp only [handle, Bool.and_eq_true]
      split
      next clickable =>
        exact named_showDeleteConfirm invariant clickable.1
      · exact invariant
  | confirmTyped text =>
      refine ⟨invariant.modal.imp_left ?_, invariant.pending, fun ctx shown => ?_, invariant.typed⟩
      · exact fun closed => Option.map_eq_none_iff.mpr closed
      obtain ⟨before, opened, rfl⟩ := Option.map_eq_some_iff.mp shown
      exact invariant.named before opened
  | confirmClicked =>
      simp only [handle]
      split
      · exact invariant
      next ctx shown =>
        split
        next same =>
          exact named_onConfirmDeleteClicked invariant shown same
        · exact invariant
  | confirmClosed =>
      refine ⟨.inl rfl, invariant.pending, fun ctx shown => ?_, invariant.typed⟩
      cases shown

theorem named_step (keeps : kind.KeepsKey) (self : AccountPanel kind) (event : Event kind)
    (invariant : self.NamedInvariant) : (self.step event).NamedInvariant := by
  unfold step
  split
  · exact invariant
  · exact named_handle keeps invariant event

theorem named_opened (form : kind.Form) : (opened form).NamedInvariant where
  modal := .inl rfl
  pending := fun _ => rfl
  named := nofun
  typed := by simp [opened]

theorem typed_throughout (keeps : kind.KeepsKey) (form : kind.Form)
    (events : List (Event kind)) :
    Throughout step (fun panel => ∀ sent ∈ panel.dispatched, Typed sent) (opened form) events := by
  have throughout := throughout_of_step NamedInvariant (named_step keeps) events
    (named_opened form)
  exact throughout.mono fun _ invariant => invariant.typed

end AccountPanel

open AccountPanel

/-- Neither panel ever deletes an object under another name than the one typed, in any
run. -/
theorem accounts_deleted_by_name (calendar : Users.GDateTimeUtc) (usersForm : Users.Form)
    (users : List (AccountPanel.Event (usersKind calendar))) (computersForm : Computers.Form)
    (computers : List (AccountPanel.Event computersKind)) :
    Throughout (@step (usersKind calendar)) (fun panel => ∀ sent ∈ panel.dispatched, Typed sent)
        (opened usersForm) users ∧
      Throughout (@step computersKind) (fun panel => ∀ sent ∈ panel.dispatched, Typed sent)
        (opened computersForm) computers :=
  ⟨typed_throughout (keepsKey_users calendar) usersForm users,
    typed_throughout keepsKey_computers computersForm computers⟩

end Sambervise.Ui
