import Sambervise.Heap.Life
import Sambervise.Transition.Partial
import Sambervise.Ui.LdapPanel

namespace Sambervise.Ui

open Text Model Backend Heap Transition

/-! The `AttrRow` blocks of the raw attribute editor. The array that holds them frees an
element that is taken out of it. -/

/-- `rows` are the blocks of the rows of `panel`, at the same places. -/
structure AttrRowBlocks where
  panel : SbvLdapPanel
  rows : List Life := []

namespace AttrRowBlocks

def updateSaveSensitive (self : AttrRowBlocks) : Option AttrRowBlocks := do
  Life.useAll self.rows
  return self

/-- The old blocks go with `g_ptr_array_set_size`, and every row of `panel` has a new one. -/
def rebuildAttrRows (self : AttrRowBlocks) (panel : SbvLdapPanel) : Option AttrRowBlocks := do
  let _ ← Life.freeAll self.rows
  updateSaveSensitive { panel, rows := List.replicate panel.attrRows.length .alive }

def onNewAttrClicked (self : AttrRowBlocks) (panel : SbvLdapPanel) : Option AttrRowBlocks :=
  updateSaveSensitive { panel, rows := self.rows ++ [.alive] }

def onAttrRemoveClicked (self : AttrRowBlocks) (panel : SbvLdapPanel) (index : Nat) :
    Option AttrRowBlocks :=
  match self.rows[index]?, self.panel.attrRows[index]? with
  | some block, some row => do
      block.use
      if row.isNew then
        -- Freed by the array, from which it is removed, and then by the handler.
        let block ← block.free
        let _ ← block.free
        updateSaveSensitive { panel, rows := self.rows.eraseIdx index }
      else updateSaveSensitive { self with panel }
  | _, _ => updateSaveSensitive { self with panel }

def onEdited (self : AttrRowBlocks) (panel : SbvLdapPanel) : RowEdit → Option AttrRowBlocks
  | .removeClicked index => self.onAttrRemoveClicked panel index
  | .newAttrClicked => self.onNewAttrClicked panel
  | .valueChanged _ _ | .nameChanged _ _ => updateSaveSensitive { self with panel }

def handle (self : AttrRowBlocks) (event : SbvLdapPanel.Event) : Option AttrRowBlocks :=
  let panel := self.panel.step event
  match event with
  | .selectionChanged none => some { self with panel }
  | .selectionChanged (some _) => self.rebuildAttrRows panel
  | .edited edit =>
      if self.panel.detailVisible then self.onEdited panel edit else some { self with panel }
  | .saveClicked => updateSaveSensitive { self with panel }
  | .modifyDone _ _ => some { self with panel }
  | .refreshDone index result =>
      match self.panel.refreshes[index]?, result with
      | some _, .ok _ => self.rebuildAttrRows panel
      | _, _ => some { self with panel }

structure Tracked (state : AttrRowBlocks) : Prop where
  length : state.rows.length = state.panel.attrRows.length
  alive : ∀ block ∈ state.rows, block = .alive

/-- Only rows that show a stored attribute are removed. -/
def Careful (self : AttrRowBlocks) : SbvLdapPanel.Event → Prop
  | .edited (.removeClicked index) =>
      self.panel.detailVisible = true →
        ∀ row ∈ self.panel.attrRows[index]?, row.isNew = false
  | _ => True

theorem attrRows_saveClicked (panel : SbvLdapPanel) :
    (panel.step .saveClicked).attrRows = panel.attrRows := by
  simp only [SbvLdapPanel.step, SbvLdapPanel.onSaveClicked]
  repeat' split
  all_goals rfl

theorem attrRows_modifyDone (panel : SbvLdapPanel) (index : Nat) (result : Except GError Unit) :
    (panel.step (.modifyDone index result)).attrRows = panel.attrRows := by
  simp only [SbvLdapPanel.step, SbvLdapPanel.onSaveDone]
  repeat' split
  all_goals rfl

variable {self : AttrRowBlocks}

theorem updateSaveSensitive_tracked (tracked : self.Tracked) :
    self.updateSaveSensitive = some self := by
  simp [updateSaveSensitive, Life.useAll_alive tracked.alive]

theorem tracked_fresh (panel : SbvLdapPanel) :
    Tracked { panel, rows := List.replicate panel.attrRows.length .alive } :=
  { length := List.length_replicate
    alive := fun _ member => List.eq_of_mem_replicate member }

theorem rebuildAttrRows_tracked (tracked : self.Tracked) (panel : SbvLdapPanel) :
    self.rebuildAttrRows panel =
      some { panel, rows := List.replicate panel.attrRows.length .alive } := by
  rw [rebuildAttrRows, Life.freeAll_alive tracked.alive]
  exact updateSaveSensitive_tracked (tracked_fresh panel)

/-- The step goes through and leaves blocks for the rows of `panel`. -/
def Succeeds (result : Option AttrRowBlocks) (panel : SbvLdapPanel) : Prop :=
  ∃ next, result = some next ∧ next.panel = panel ∧ next.Tracked

theorem succeeds_updateSaveSensitive (tracked : self.Tracked) :
    Succeeds self.updateSaveSensitive self.panel :=
  ⟨self, updateSaveSensitive_tracked tracked, rfl, tracked⟩

theorem succeeds_rebuildAttrRows (tracked : self.Tracked) (panel : SbvLdapPanel) :
    Succeeds (self.rebuildAttrRows panel) panel :=
  ⟨_, rebuildAttrRows_tracked tracked panel, rfl, tracked_fresh panel⟩

/-- The rows stay as many where the panel has as many. -/
theorem Tracked.withPanel (tracked : self.Tracked) {panel : SbvLdapPanel}
    (length : panel.attrRows.length = self.panel.attrRows.length) :
    Tracked { self with panel } :=
  { length := tracked.length.trans length.symm
    alive := tracked.alive }

section Edited

variable {index : Nat} {row : AttrRow}

theorem length_modify_rows (edit : AttrRow → AttrRow) :
    (self.panel.attrRows.modify index edit).length = self.panel.attrRows.length :=
  List.length_modify _ _ _

theorem block_of_row (tracked : self.Tracked) (shown : self.panel.attrRows[index]? = some row) :
    self.rows[index]? = some .alive := by
  obtain ⟨inRange, _⟩ := List.getElem?_eq_some_iff.mp shown
  rw [← tracked.length] at inRange
  rw [List.getElem?_eq_getElem inRange]
  exact congrArg some (tracked.alive _ (List.getElem_mem inRange))

theorem onAttrRemoveClicked_none (tracked : self.Tracked)
    (absent : self.panel.attrRows[index]? = none) (panel : SbvLdapPanel) :
    self.onAttrRemoveClicked panel index = updateSaveSensitive { self with panel } := by
  have noBlock : self.rows[index]? = none := by
    rw [List.getElem?_eq_none_iff, tracked.length]
    exact List.getElem?_eq_none_iff.mp absent
  simp only [onAttrRemoveClicked, noBlock]

/-- The block of a new row is freed a second time. -/
theorem onAttrRemoveClicked_new (tracked : self.Tracked)
    (shown : self.panel.attrRows[index]? = some row) (isNew : row.isNew = true)
    (panel : SbvLdapPanel) : self.onAttrRemoveClicked panel index = none := by
  simp [onAttrRemoveClicked, block_of_row tracked shown, shown, isNew, Life.use, Life.free]

theorem onAttrRemoveClicked_old (tracked : self.Tracked)
    (shown : self.panel.attrRows[index]? = some row) (isOld : row.isNew = false)
    (panel : SbvLdapPanel) :
    self.onAttrRemoveClicked panel index = updateSaveSensitive { self with panel } := by
  simp [onAttrRemoveClicked, block_of_row tracked shown, shown, isOld, Life.use]

theorem succeeds_onEdited_iff (tracked : self.Tracked)
    (visible : self.panel.detailVisible = true) (edit : RowEdit) :
    self.Careful (.edited edit) ↔
      Succeeds (self.onEdited (self.panel.step (.edited edit)) edit)
        (self.panel.step (.edited edit)) := by
  have rows : (self.panel.step (.edited edit)).attrRows = editRows self.panel.attrRows edit := by
    rw [SbvLdapPanel.step, if_pos visible]
    rfl
  have same (length : (editRows self.panel.attrRows edit).length = self.panel.attrRows.length) :
      Succeeds (updateSaveSensitive { self with panel := self.panel.step (.edited edit) })
        (self.panel.step (.edited edit)) :=
    succeeds_updateSaveSensitive (tracked.withPanel (by rw [rows, length]))
  cases edit with
  | valueChanged index text => exact iff_of_true trivial (same (length_modify_rows _))
  | nameChanged index text => exact iff_of_true trivial (same (length_modify_rows _))
  | newAttrClicked =>
      refine iff_of_true trivial (succeeds_updateSaveSensitive ?_)
      refine { length := ?_, alive := ?_ }
      · rw [rows, List.length_append, tracked.length, editRows, List.length_append]
        rfl
      · intro block member
        rcases List.mem_append.mp member with earlier | new
        · exact tracked.alive block earlier
        · exact List.mem_singleton.mp new
  | removeClicked index =>
      rw [Careful, onEdited, forall_prop_of_true visible]
      cases shown : self.panel.attrRows[index]? with
      | none =>
          refine iff_of_true (fun _ missing => absurd missing (Option.not_mem_none _)) ?_
          have unchanged : editRows self.panel.attrRows (.removeClicked index) =
              self.panel.attrRows := by
            simp [editRows, removeClicked, shown]
          rw [onAttrRemoveClicked_none tracked shown]
          exact same (by rw [unchanged])
      | some row =>
          simp only [Option.mem_some_iff, forall_eq']
          cases isNew : row.isNew with
          | true =>
              rw [onAttrRemoveClicked_new tracked shown isNew]
              refine iff_of_false Bool.noConfusion fun succeeds => ?_
              obtain ⟨next, failed, _⟩ := succeeds
              cases failed
          | false =>
              rw [onAttrRemoveClicked_old tracked shown isNew]
              refine iff_of_true rfl (same ?_)
              simp [editRows, removeClicked, shown, isNew]

end Edited

/-- A step goes through exactly where it is careful, and does to the panel what the panel's
own step does. -/
theorem careful_iff_succeeds (tracked : self.Tracked) (event : SbvLdapPanel.Event) :
    self.Careful event ↔ Succeeds (self.handle event) (self.panel.step event) := by
  have same {panel : SbvLdapPanel}
      (rows : panel.attrRows.length = self.panel.attrRows.length) :
      Succeeds (some { self with panel }) panel := ⟨_, rfl, rfl, tracked.withPanel rows⟩
  cases event with
  | selectionChanged node =>
      cases node with
      | none => exact iff_of_true trivial (same rfl)
      | some node => exact iff_of_true trivial (succeeds_rebuildAttrRows tracked _)
  | edited edit =>
      simp only [handle]
      split
      next visible =>
        exact succeeds_onEdited_iff tracked visible edit
      next hidden =>
        have rows : self.panel.step (.edited edit) = self.panel := by
          rw [SbvLdapPanel.step, if_neg hidden]
        refine iff_of_true ?_ (same (by rw [rows]))
        cases edit with
        | removeClicked index => exact fun visible => absurd visible hidden
        | valueChanged index text => trivial
        | nameChanged index text => trivial
        | newAttrClicked => trivial
  | saveClicked =>
      refine iff_of_true trivial (succeeds_updateSaveSensitive (tracked.withPanel ?_))
      exact congrArg List.length (attrRows_saveClicked self.panel)
  | modifyDone index result =>
      refine iff_of_true trivial (same ?_)
      exact congrArg List.length (attrRows_modifyDone self.panel index result)
  | refreshDone index result =>
      refine iff_of_true trivial ?_
      simp only [handle]
      cases inFlight : self.panel.refreshes[index]? with
      | none => exact same (by simp [SbvLdapPanel.step, inFlight])
      | some dn =>
          cases result with
          | error error =>
              refine same ?_
              simp [SbvLdapPanel.step, inFlight, SbvLdapPanel.onAttrsRefreshedAfterSave]
          | ok attrs => exact succeeds_rebuildAttrRows tracked _

/-- The removal of a new row is the one step that fails. -/
theorem handle_careless (tracked : self.Tracked) {event : SbvLdapPanel.Event}
    (careless : ¬ self.Careful event) : self.handle event = none := by
  cases event with
  | edited edit =>
      cases edit with
      | removeClicked index =>
          simp only [Careful, Classical.not_imp, not_forall, Bool.not_eq_false] at careless
          obtain ⟨visible, row, shown, isNew⟩ := careless
          rw [handle, if_pos visible]
          exact onAttrRemoveClicked_new tracked shown isNew _
      | valueChanged | nameChanged | newAttrClicked => exact absurd trivial careless
  | selectionChanged | saveClicked | modifyDone | refreshDone => exact absurd trivial careless

def isCompletion : SbvLdapPanel.Event → Bool
  | .modifyDone _ _ | .refreshDone _ _ => true
  | _ => false

theorem foreseen :
    Foreseen handle Tracked (fun _ => True) Careful (fun event => isCompletion event = true)
      (fun _ => 0) where
  keeps := by
    intro state event next tracked outcome
    by_cases careful : state.Careful event
    · obtain ⟨other, same, _, trackedNext⟩ := (careful_iff_succeeds tracked event).mp careful
      rw [outcome] at same
      exact Option.some.inj same ▸ trackedNext
    · rw [handle_careless tracked careful] at outcome
      cases outcome
  exact_step := by
    intro state event tracked _
    constructor
    · intro careful
      obtain ⟨next, outcome, _⟩ := (careful_iff_succeeds tracked event).mp careful
      exact ⟨next, outcome, trivial⟩
    · intro through
      obtain ⟨next, outcome, _⟩ := through
      by_contra careless
      rw [handle_careless tracked careless] at outcome
      cases outcome
  persists _ _ _ := trivial
  completes := by
    intro state event completes
    cases event with
    | modifyDone | refreshDone => trivial
    | selectionChanged | edited | saveClicked => cases completes
  settled _ _ := trivial
  progress _ something := absurd rfl something

end AttrRowBlocks

end Sambervise.Ui
