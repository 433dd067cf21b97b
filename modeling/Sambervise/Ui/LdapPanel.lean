import Sambervise.Ui.LdapEditor

namespace Sambervise.Ui

open Text Model Backend Transition

/-! The LDAP browser panel between two of its loads: selections, edits, saves, and
the completions of what is in flight, in any order. The tree and the search results
are not modelled: any node may be selected at any time. -/

/-- An attribute table and, which the source does not record, the DN of the entry it
was read from. The empty table made for a node without attributes has none. -/
structure ReadTable where
  attrs : AttrTable
  readFrom : Option CString

/-- The attributes of a node are those read from the entry the node is for; the root
has none until its own read completes. -/
structure SbvLdapNode where
  dn : CString
  attrs : Option ReadTable
  read : ∀ table ∈ attrs, table.readFrom = some dn

/-- A modify as it was dispatched, with the table its mods are the diff against. -/
structure Dispatched where
  request : ModifyData
  baseline : Option ReadTable

structure SbvLdapPanel where
  conn : Option Nat
  detailVisible : Bool
  loadedAttrs : Option ReadTable
  loadedDn : Option CString
  attrRows : List AttrRow
  saveBtn : Bool
  saveError : Option GError
  modifies : List ModifyData
  refreshes : List CString
  dispatched : List Dispatched

namespace SbvLdapPanel

def loaded (conn : Nat) : SbvLdapPanel :=
  { conn := some conn
    detailVisible := false
    loadedAttrs := none
    loadedDn := none
    attrRows := []
    saveBtn := false
    saveError := none
    modifies := []
    refreshes := []
    dispatched := [] }

def table (self : SbvLdapPanel) : Option AttrTable := self.loadedAttrs.map ReadTable.attrs

def updateSaveSensitive (self : SbvLdapPanel) : SbvLdapPanel :=
  { self with saveBtn := editorIsDirty self.table self.attrRows }

/-- `clone_attrs` makes an empty table of NULL. -/
def cloneAttrs (attrs : Option ReadTable) : ReadTable :=
  attrs.getD { attrs := ∅, readFrom := none }

def loadNodeIntoEditor (self : SbvLdapPanel) : Option SbvLdapNode → SbvLdapPanel
  | none => { self with detailVisible := false, loadedDn := none, loadedAttrs := none }
  | some node =>
      let attrs := cloneAttrs node.attrs
      updateSaveSensitive
        { self with
          loadedDn := some node.dn
          loadedAttrs := some attrs
          attrRows := rebuildAttrRows (some attrs.attrs)
          saveError := none
          detailVisible := true }

def onSaveClicked (self : SbvLdapPanel) : SbvLdapPanel :=
  match self.conn, self.loadedDn with
  | some _, some dn =>
      let self := { self with saveError := none }
      let mods := saveMods self.table self.attrRows
      if mods = [] then self
      else
        { self with
          saveBtn := false
          modifies := self.modifies ++ [{ dn, mods }]
          dispatched :=
            self.dispatched ++ [{ request := { dn, mods }, baseline := self.loadedAttrs }] }
  | _, _ => self

def onSaveDone (self : SbvLdapPanel) (result : Except GError Unit) : SbvLdapPanel :=
  let self := { self with saveBtn := true }
  match result with
  | .error error => { self with saveError := some error }
  | .ok () =>
      match self.loadedDn with
      | some dn => { self with refreshes := self.refreshes ++ [dn] }
      | none => self

def onAttrsRefreshedAfterSave (self : SbvLdapPanel) (dn : CString)
    (result : Except GError AttrTable) : SbvLdapPanel :=
  match result with
  | .error _ => self
  | .ok attrs =>
      updateSaveSensitive
        { self with
          loadedAttrs := some { attrs, readFrom := some dn }
          attrRows := rebuildAttrRows (some attrs) }

inductive Event where
  | selectionChanged (node : Option SbvLdapNode)
  | edited (edit : RowEdit)
  | saveClicked
  /-- The modify at this place among those in flight completes. -/
  | modifyDone (index : Nat) (result : Except GError Unit)
  /-- The same for a refresh. -/
  | refreshDone (index : Nat) (result : Except GError AttrTable)

/-- What is not shown, or not sensitive, cannot be edited or clicked. -/
def step (self : SbvLdapPanel) : Event → SbvLdapPanel
  | .selectionChanged node => self.loadNodeIntoEditor node
  | .edited edit =>
      if self.detailVisible then
        updateSaveSensitive { self with attrRows := editRows self.attrRows edit }
      else self
  | .saveClicked =>
      if self.detailVisible && self.saveBtn then self.onSaveClicked else self
  | .modifyDone index result =>
      match self.modifies[index]? with
      | none => self
      | some _ =>
          onSaveDone { self with modifies := self.modifies.eraseIdx index } result
  | .refreshDone index result =>
      match self.refreshes[index]? with
      | none => self
      | some dn =>
          onAttrsRefreshedAfterSave
            { self with refreshes := self.refreshes.eraseIdx index } dn result

/-! The baseline of the editor -/

/-- `loaded_attrs` was read from the entry that `loaded_dn` names. -/
def Baseline (self : SbvLdapPanel) : Prop :=
  self.loadedAttrs.map ReadTable.readFrom = self.loadedDn.map some

/-- The mods of a request are a diff against a table of the entry it goes to. -/
def Dispatched.Sound (sent : Dispatched) : Prop :=
  sent.baseline.map ReadTable.readFrom = some (some sent.request.dn)

def BaselineSound (self : SbvLdapPanel) : Prop :=
  self.Baseline ∧ ∀ sent ∈ self.dispatched, Dispatched.Sound sent

/-- A selected node has its attributes, and a refresh completes while the entry it
read is the one that is loaded. -/
def ReadsLoaded (self : SbvLdapPanel) : Event → Prop
  | .selectionChanged (some node) => node.attrs.isSome = true
  | .refreshDone index (.ok _) =>
      ∀ dn, self.refreshes[index]? = some dn → self.loadedDn = some dn
  | _ => True

theorem updateSaveSensitive_baselineSound (self : SbvLdapPanel) :
    self.updateSaveSensitive.BaselineSound ↔ self.BaselineSound := Iff.rfl

theorem baselineSound_loadNode (self : SbvLdapPanel) (sound : self.BaselineSound)
    (node : SbvLdapNode) :
    (self.loadNodeIntoEditor (some node)).BaselineSound ↔ node.attrs.isSome = true := by
  have reads := node.read
  rw [loadNodeIntoEditor, updateSaveSensitive_baselineSound]
  simp only [BaselineSound, Baseline, Option.map_some, Option.some.injEq]
  cases attrs : node.attrs with
  | none => simp [cloneAttrs]
  | some table =>
      rw [attrs] at reads
      simpa [cloneAttrs, reads table rfl] using sound.2

theorem baselineSound_onSaveClicked (self : SbvLdapPanel) (sound : self.BaselineSound) :
    self.onSaveClicked.BaselineSound := by
  unfold onSaveClicked
  split
  next dn _ loadedDn =>
    dsimp only
    split
    · exact sound
    · refine ⟨sound.1, ?_⟩
      intro sent member
      rcases List.mem_append.mp member with earlier | latest
      · exact sound.2 sent earlier
      · rw [List.mem_singleton.mp latest]
        have baseline := sound.1
        rw [Baseline, loadedDn] at baseline
        exact baseline
  · exact sound

theorem baselineSound_onSaveDone (self : SbvLdapPanel) (result : Except GError Unit)
    (sound : self.BaselineSound) : (self.onSaveDone result).BaselineSound := by
  unfold onSaveDone
  split
  · exact sound
  · dsimp only
    split
    · exact sound
    · exact sound

theorem baselineSound_refreshed (self : SbvLdapPanel) (sound : self.BaselineSound)
    (dn : CString) (attrs : AttrTable) :
    (self.onAttrsRefreshedAfterSave dn (.ok attrs)).BaselineSound ↔
      self.loadedDn = some dn := by
  rw [onAttrsRefreshedAfterSave, updateSaveSensitive_baselineSound]
  simp only [BaselineSound, Baseline, Option.map_some]
  constructor
  · intro both
    obtain ⟨same, _⟩ := both
    cases loadedDn : self.loadedDn with
    | none => simp [loadedDn] at same
    | some other =>
        simp only [loadedDn, Option.map_some, Option.some.injEq] at same
        rw [same]
  · intro loadedDn
    exact ⟨by rw [loadedDn]; rfl, sound.2⟩

theorem readsLoaded_iff_step (self : SbvLdapPanel) (event : Event)
    (sound : self.BaselineSound) :
    self.ReadsLoaded event ↔ (self.step event).BaselineSound := by
  cases event with
  | selectionChanged node =>
      cases node with
      | none =>
          simp only [ReadsLoaded, true_iff]
          exact ⟨rfl, sound.2⟩
      | some node => exact (baselineSound_loadNode self sound node).symm
  | edited edit =>
      simp only [ReadsLoaded, true_iff, step]
      split
      · exact sound
      · exact sound
  | saveClicked =>
      simp only [ReadsLoaded, true_iff, step]
      split
      · exact baselineSound_onSaveClicked self sound
      · exact sound
  | modifyDone index result =>
      simp only [ReadsLoaded, true_iff, step]
      split
      · exact sound
      · exact baselineSound_onSaveDone _ result sound
  | refreshDone index result =>
      cases result with
      | error error =>
          simp only [ReadsLoaded, true_iff, step]
          split
          · exact sound
          · exact sound
      | ok attrs =>
          simp only [ReadsLoaded, step]
          cases inFlight : self.refreshes[index]? with
          | none => simpa using sound
          | some dn =>
              have exact_ := baselineSound_refreshed
                { self with refreshes := self.refreshes.eraseIdx index } sound dn attrs
              simpa using exact_.symm

/-- The baseline is right in every state of a run, and so is the diff of every
modify it dispatches, exactly where every selected node had its attributes and every
refresh completed while its own entry was still loaded. -/
theorem baseline_throughout_iff (conn : Nat) (events : List Event) :
    Along step ReadsLoaded (loaded conn) events ↔
      Throughout step BaselineSound (loaded conn) events :=
  along_iff_throughout BaselineSound readsLoaded_iff_step
    ⟨rfl, fun sent member => absurd member (by simp [loaded])⟩

/-- Selecting another entry before the refresh that follows a save completes puts the
saved entry's table under the other entry's DN, and the next Save there is a diff
against it. -/
theorem refresh_overtaken_by_selection :
    let nodeOf (dn mail : String) : SbvLdapNode :=
      { dn := cstr dn
        attrs := some
          { attrs := collectAttrs [(cstr "mail", [cstr mail])], readFrom := some (cstr dn) }
        read := by simp }
    let final := run step (loaded 0)
      [ .selectionChanged (nodeOf "CN=x" "x@d"),
        .edited (.valueChanged 0 (cstr "z@d")),
        .saveClicked,
        .modifyDone 0 (.ok ()),
        .selectionChanged (nodeOf "CN=y" "y@d"),
        .refreshDone 0 (.ok (collectAttrs [(cstr "mail", [cstr "z@d"])])),
        .edited (.valueChanged 0 (cstr "y@d")),
        .saveClicked ]
    final.loadedDn = some (cstr "CN=y") ∧
      final.loadedAttrs.map ReadTable.readFrom = some (some (cstr "CN=x")) ∧
      final.dispatched.map (fun sent => sent.request.dn) = [cstr "CN=x", cstr "CN=y"] ∧
      final.dispatched.map (fun sent => sent.baseline.bind ReadTable.readFrom) =
        [some (cstr "CN=x"), some (cstr "CN=x")] := by
  decide

end SbvLdapPanel

end Sambervise.Ui
