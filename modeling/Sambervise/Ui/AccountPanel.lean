import Sambervise.Backend.Workers
import Sambervise.Ui.ListPanel

namespace Sambervise.Ui

open Text Model Backend

/-! The users and the computers panel: one machine, and what each of the two adds to
it. Everything that can happen in any order is an event: what the admin does, and the
completions of the listings and writes in flight. -/

inductive Notice where
  | error (error : GError)
  | text (text : CString)
  deriving DecidableEq, Repr

/-- What a panel adds: its objects, its form, and the buttons only it has, each with
the write it dispatches. -/
structure AccountKind where
  Obj : Type
  Form : Type
  Edit : Type
  Button : Type
  Attrs : Type
  Write : Type
  listable : Listable Obj
  enabled : Obj → Bool
  setEnabled : Obj → Bool → Obj
  loadDetail : Obj → Form → Form
  edit : Option Obj → Form → Edit → Form
  enabledCheck : Form → Bool
  syncRules : Form → Form
  updateAttrs : Obj → Form → Attrs
  adopt : Form → Obj → Obj
  click : Obj → Form → Button → Form × Option Write
  writeDone : Write → Except GError Unit → Form → Form
  dn_setEnabled : ∀ obj value, listable.dn (setEnabled obj value) = listable.dn obj
  dn_adopt : ∀ form obj, listable.dn (adopt form obj) = listable.dn obj

attribute [instance] AccountKind.listable

/-- The context of a save. The object it was started on is not in the source. -/
structure SaveCtx (kind : AccountKind) where
  needEnabledChange : Bool
  newEnabled : Bool
  startedOn : Listed kind.Obj

/-- The context of a delete confirmation, again with the object it was opened for. -/
structure ConfirmDelCtx (kind : AccountKind) where
  expectedSam : CString
  typed : CString
  openedFor : Listed kind.Obj

/-- A write as it is dispatched; a delete with the confirmation it came from. -/
inductive AccountWrite (kind : AccountKind) where
  | updateAttrs (data : kind.Attrs) (ctx : SaveCtx kind)
  | setEnabled (data : SetEnabledData) (ctx : SaveCtx kind)
  | delete (dn : Option CString) (ctx : ConfirmDelCtx kind)
  | other (write : kind.Write)

structure DispatchedWrite (kind : AccountKind) where
  conn : ConnId
  target : Listed kind.Obj
  write : AccountWrite kind

structure AccountPanel (kind : AccountKind) extends ListPanel kind.Obj where
  form : kind.Form
  saveBtn : Bool := true
  deleteBtn : Bool := true
  saveError : Option GError := none
  deleteError : Option GError := none
  confirm : Option (ConfirmDelCtx kind) := none
  createDialog : Option ConnId := none
  inFlight : List (DispatchedWrite kind) := []
  dispatched : List (DispatchedWrite kind) := []
  crashed : Bool := false

namespace AccountPanel

variable {kind : AccountKind}

def opened (form : kind.Form) : AccountPanel kind := { form }

/-- The handlers that `sbv_*_panel_load` is called from. -/
def panelLoad (self : AccountPanel kind) (conn : ConnId) : AccountPanel kind :=
  { self with toListPanel := self.load conn }

def mutateSelected (self : AccountPanel kind) (setter : kind.Obj → kind.Obj) :
    AccountPanel kind :=
  { self with toListPanel := self.mutate setter }

def dispatch (self : AccountPanel kind) (conn : ConnId) (target : Listed kind.Obj)
    (write : AccountWrite kind) : AccountPanel kind :=
  { self with
    inFlight := self.inFlight ++ [{ conn, target, write }]
    dispatched := self.dispatched ++ [{ conn, target, write }] }

def loadIntoDetail (self : AccountPanel kind) (row : Listed kind.Obj) : AccountPanel kind :=
  { self with
    toListPanel := self.select row
    form := kind.loadDetail row.obj self.form
    saveError := none
    deleteError := none }

def onRowSelected (self : AccountPanel kind) : Option (Listed kind.Obj) → AccountPanel kind
  | none => { self with detailVisible := false }
  | some row => self.loadIntoDetail row

/-! Saving -/

def onSaveClicked (self : AccountPanel kind) : AccountPanel kind :=
  match self.selected, self.conn with
  | some object, some conn =>
      let form := kind.syncRules self.form
      let newEnabled := kind.enabledCheck form
      dispatch { self with saveError := none, saveBtn := false, form } conn object
        (.updateAttrs (kind.updateAttrs object.obj form)
          { needEnabledChange := newEnabled != kind.enabled object.obj
            newEnabled
            startedOn := object })
  | _, _ => self

def onSetEnabledAfterSave (self : AccountPanel kind) (conn : ConnId) (ctx : SaveCtx kind) :
    Except GError Unit → AccountPanel kind
  | .error error => { self with saveBtn := true, saveError := some error }
  | .ok () =>
      (mutateSelected { self with saveBtn := true }
        (kind.setEnabled · ctx.newEnabled)).panelLoad conn

/-- The enable change is requested for the object selected by then; where nothing is
selected its DN is read through a NULL pointer. -/
def onUpdateAttrsDone (self : AccountPanel kind) (conn : ConnId) (ctx : SaveCtx kind) :
    Except GError Unit → AccountPanel kind
  | .error error => { self with saveBtn := true, saveError := some error }
  | .ok () =>
      let self := self.mutateSelected (kind.adopt self.form)
      if ctx.needEnabledChange then
        match self.selected with
        | none => { self with crashed := true }
        | some object =>
            self.dispatch conn object
              (.setEnabled { dn := object.dn, enabled := ctx.newEnabled } ctx)
      else panelLoad { self with saveBtn := true } conn

/-! Creating and deleting -/

def onAddBtnClicked (self : AccountPanel kind) : AccountPanel kind :=
  match self.conn with
  | none => self
  | some conn => { self with createDialog := some conn }

def onCreated (self : AccountPanel kind) (conn : ConnId) (newDn : CString) :
    AccountPanel kind :=
  panelLoad { self with pendingSelectDn := some newDn, createDialog := none } conn

def showDeleteConfirm (self : AccountPanel kind) : AccountPanel kind :=
  match self.selected with
  | none => self
  | some object =>
      match orEmpty object.key with
      | [] => self
      | sam =>
          { self with
            confirm := some { expectedSam := sam, typed := [], openedFor := object } }

def onConfirmDeleteClicked (self : AccountPanel kind) (ctx : ConfirmDelCtx kind) :
    AccountPanel kind :=
  match self.conn, self.selected with
  | some conn, some object =>
      dispatch { self with confirm := none, deleteError := none, deleteBtn := false }
        conn object (.delete object.dn ctx)
  | _, _ => { self with confirm := none }

def onDeleteDone (self : AccountPanel kind) (conn : ConnId) :
    Except GError Unit → AccountPanel kind
  | .error error => { self with deleteBtn := true, deleteError := some error }
  | .ok () => panelLoad { self with deleteBtn := true, selected := none } conn

/-! The other buttons, and the listings -/

def onButtonClicked (self : AccountPanel kind) (button : kind.Button) : AccountPanel kind :=
  match self.selected, self.conn with
  | some object, some conn =>
      match kind.click object.obj self.form button with
      | (form, none) => { self with form }
      | (form, some write) => dispatch { self with form } conn object (.other write)
  | _, _ => self

def onWriteDone (self : AccountPanel kind) (conn : ConnId) (write : kind.Write)
    (result : Except GError Unit) : AccountPanel kind :=
  let self := { self with form := kind.writeDone write result self.form }
  match result with
  | .error _ => self
  | .ok () => self.panelLoad conn

def onLoaded (self : AccountPanel kind) (source : ConnId) :
    Except GError (List kind.Obj) → AccountPanel kind
  | .error _ => { self with outerStack := .empty }
  | .ok objects =>
      let refilled := { self with toListPanel := self.refill source objects }
      match self.reselected source objects with
      | some row => refilled.loadIntoDetail row
      | none => refilled

inductive Event (kind : AccountKind) where
  | load (conn : ConnId)
  /-- The listing at this place among those in flight completes. -/
  | listed (index : Nat) (result : Except GError (List kind.Obj))
  /-- The same for a write. -/
  | done (index : Nat) (result : Except GError Unit)
  | rowSelected (row : Option Nat)
  | edited (edit : kind.Edit)
  | saveClicked
  | buttonClicked (button : kind.Button)
  | addClicked
  | createClosed
  | created (newDn : CString)
  | deleteClicked
  | confirmTyped (text : CString)
  | confirmClicked
  | confirmClosed

/-- Both dialogs are modal. -/
def reachable (self : AccountPanel kind) : Bool :=
  self.confirm.isNone && self.createDialog.isNone

/-- The detail pane can be seen and no dialog is in front of it. -/
def detailReachable (self : AccountPanel kind) : Bool := self.shown && self.reachable

def onDone (self : AccountPanel kind) (sent : DispatchedWrite kind)
    (result : Except GError Unit) : AccountPanel kind :=
  match sent.write with
  | .updateAttrs _ ctx => self.onUpdateAttrsDone sent.conn ctx result
  | .setEnabled _ ctx => self.onSetEnabledAfterSave sent.conn ctx result
  | .delete _ _ => self.onDeleteDone sent.conn result
  | .other write => self.onWriteDone sent.conn write result

/-- What cannot be seen or reached, or is not sensitive, does nothing. -/
def handle (self : AccountPanel kind) : Event kind → AccountPanel kind
  | .load conn => self.panelLoad conn
  | .listed index result =>
      match self.listings[index]? with
      | none => self
      | some source =>
          onLoaded { self with listings := self.listings.eraseIdx index } source result
  | .done index result =>
      match self.inFlight[index]? with
      | none => self
      | some sent =>
          onDone { self with inFlight := self.inFlight.eraseIdx index } sent result
  | .rowSelected none =>
      if self.outerStack = .split && self.reachable then self.onRowSelected none else self
  | .rowSelected (some row) =>
      match self.rows[row]? with
      | none => self
      | some row =>
          if self.outerStack = .split && self.reachable then self.onRowSelected (some row)
          else self
  | .edited edit =>
      if self.detailReachable then
        { self with form := kind.edit (self.selected.map Listed.obj) self.form edit }
      else self
  | .saveClicked =>
      if self.detailReachable && self.saveBtn then self.onSaveClicked else self
  | .buttonClicked button =>
      if self.detailReachable then self.onButtonClicked button else self
  | .addClicked =>
      if self.outerStack = .split && self.reachable then self.onAddBtnClicked else self
  | .createClosed => { self with createDialog := none }
  | .created newDn =>
      match self.createDialog with
      | none => self
      | some conn => self.onCreated conn newDn
  | .deleteClicked =>
      if self.detailReachable && self.deleteBtn then self.showDeleteConfirm else self
  | .confirmTyped text =>
      { self with confirm := self.confirm.map ({ · with typed := text }) }
  | .confirmClicked =>
      match self.confirm with
      | none => self
      | some ctx =>
          if ctx.typed = ctx.expectedSam then self.onConfirmDeleteClicked ctx else self
  | .confirmClosed => { self with confirm := none }

def step (self : AccountPanel kind) (event : Event kind) : AccountPanel kind :=
  if self.crashed then self else self.handle event

/-! What an event does -/

def reloadsOver (self : AccountPanel kind) : Event kind → Option ConnId
  | .load conn => some conn
  | .created _ => self.createDialog
  | .done index (.ok ()) =>
      self.inFlight[index]?.bind fun sent =>
        match sent.write with
        | .updateAttrs _ ctx => if ctx.needEnabledChange then none else some sent.conn
        | _ => some sent.conn
  | _ => none

/-- Either nothing there reacts to the event, or one handler runs, in a state in which
it can. -/
inductive Handles (self : AccountPanel kind) : Event kind → AccountPanel kind → Prop
  | idle {event : Event kind} (quiet : self.reloadsOver event = none) :
      Handles self event self
  | load (conn : ConnId) : Handles self (.load conn) (self.panelLoad conn)
  | listed {index : Nat} {source : ConnId} (result : Except GError (List kind.Obj))
      (listing : self.listings[index]? = some source) :
      Handles self (.listed index result)
        (onLoaded { self with listings := self.listings.eraseIdx index } source result)
  | done {index : Nat} {sent : DispatchedWrite kind} (result : Except GError Unit)
      (inFlight : self.inFlight[index]? = some sent) :
      Handles self (.done index result)
        (onDone { self with inFlight := self.inFlight.eraseIdx index } sent result)
  | hide : Handles self (.rowSelected none) { self with detailVisible := false }
  | row {index : Nat} {object : Listed kind.Obj} (split : self.outerStack = .split)
      (reachable : self.reachable = true) (inRows : self.rows[index]? = some object) :
      Handles self (.rowSelected (some index)) (self.loadIntoDetail object)
  | edit (edit : kind.Edit) (form : kind.Form) :
      Handles self (.edited edit) { self with form }
  | save {object : Listed kind.Obj} {conn : ConnId} (form : kind.Form) (data : kind.Attrs)
      (needEnabledChange newEnabled : Bool) (reachable : self.detailReachable = true)
      (selected : self.selected = some object) (connected : self.conn = some conn) :
      Handles self .saveClicked
        (dispatch { self with saveError := none, saveBtn := false, form } conn object
          (.updateAttrs data { needEnabledChange, newEnabled, startedOn := object }))
  | click (button : kind.Button) (form : kind.Form) :
      Handles self (.buttonClicked button) { self with form }
  | button {object : Listed kind.Obj} {conn : ConnId} (button : kind.Button)
      (form : kind.Form) (write : kind.Write) (reachable : self.detailReachable = true)
      (selected : self.selected = some object) (connected : self.conn = some conn) :
      Handles self (.buttonClicked button)
        (dispatch { self with form } conn object (.other write))
  | add (conn : ConnId) : Handles self .addClicked { self with createDialog := some conn }
  | createClosed : Handles self .createClosed { self with createDialog := none }
  | created {conn : ConnId} (newDn : CString) (dialog : self.createDialog = some conn) :
      Handles self (.created newDn) (self.onCreated conn newDn)
  | confirm (ctx : ConfirmDelCtx kind) (reachable : self.detailReachable = true)
      (selected : self.selected = some ctx.openedFor) :
      Handles self .deleteClicked { self with confirm := some ctx }
  | type (text : CString) :
      Handles self (.confirmTyped text)
        { self with confirm := self.confirm.map ({ · with typed := text }) }
  | delete {object : Listed kind.Obj} {conn : ConnId} {ctx : ConfirmDelCtx kind}
      (confirm : self.confirm = some ctx) (selected : self.selected = some object)
      (connected : self.conn = some conn) :
      Handles self .confirmClicked
        (dispatch { self with confirm := none, deleteError := none, deleteBtn := false }
          conn object (.delete object.dn ctx))
  | drop : Handles self .confirmClicked { self with confirm := none }
  | confirmClosed : Handles self .confirmClosed { self with confirm := none }

theorem handles_click (self : AccountPanel kind) (button : kind.Button)
    (reachable : self.detailReachable = true) :
    self.Handles (.buttonClicked button) (self.onButtonClicked button) := by
  unfold onButtonClicked
  split
  next object conn selected connected =>
    split
    · exact .click button _
    · exact .button button _ _ reachable selected connected
  · exact .idle rfl

theorem handles_delete (self : AccountPanel kind) {ctx : ConfirmDelCtx kind}
    (confirm : self.confirm = some ctx) :
    self.Handles .confirmClicked (self.onConfirmDeleteClicked ctx) := by
  unfold onConfirmDeleteClicked
  split
  next conn object connected selected =>
    exact .delete confirm selected connected
  · exact .drop

theorem handles_confirm (self : AccountPanel kind)
    (reachable : self.detailReachable = true) :
    self.Handles .deleteClicked self.showDeleteConfirm := by
  unfold showDeleteConfirm
  split
  · exact .idle rfl
  next object selected =>
    split
    · exact .idle rfl
    · exact .confirm _ reachable selected

theorem handles_handle (self : AccountPanel kind) (event : Event kind) :
    self.Handles event (self.handle event) := by
  cases event with
  | load conn => exact .load conn
  | listed index result =>
      simp only [handle]
      split
      · exact .idle rfl
      next source listing =>
        exact .listed result listing
  | done index result =>
      simp only [handle]
      split
      next nothing =>
        apply Handles.idle
        cases result with
        | error error => rfl
        | ok done => simp [reloadsOver, nothing]
      next sent inFlight =>
        exact .done result inFlight
  | rowSelected row =>
      cases row with
      | none =>
          simp only [handle]
          split
          · exact .hide
          · exact .idle rfl
      | some index =>
          simp only [handle]
          split
          · exact .idle rfl
          next object inRows =>
            split
            next visible =>
              rw [Bool.and_eq_true, decide_eq_true_eq] at visible
              exact .row visible.1 visible.2 inRows
            · exact .idle rfl
  | edited edit =>
      simp only [handle]
      split
      · exact .edit edit _
      · exact .idle rfl
  | saveClicked =>
      simp only [handle, onSaveClicked, Bool.and_eq_true]
      split
      next clickable =>
        split
        next object conn selected connected =>
          exact .save _ _ _ _ clickable.1 selected connected
        · exact .idle rfl
      · exact .idle rfl
  | buttonClicked button =>
      simp only [handle]
      split
      next reachable =>
        exact self.handles_click button reachable
      · exact .idle rfl
  | addClicked =>
      simp only [handle, onAddBtnClicked]
      split
      · split
        · exact .idle rfl
        · exact .add _
      · exact .idle rfl
  | createClosed => exact .createClosed
  | created newDn =>
      simp only [handle]
      split
      next closed =>
        exact .idle closed
      next conn dialog =>
        exact .created newDn dialog
  | deleteClicked =>
      simp only [handle, Bool.and_eq_true]
      split
      next clickable =>
        exact self.handles_confirm clickable.1
      · exact .idle rfl
  | confirmTyped text => exact .type text
  | confirmClicked =>
      simp only [handle]
      split
      · exact .idle rfl
      next ctx confirm =>
        split
        · exact self.handles_delete confirm
        · exact .idle rfl
  | confirmClosed => exact .confirmClosed

/-! What an event leaves of the list, and which connection the panel has after it -/

def Event.leavesList : Event kind → Bool
  | .load _ | .listed _ _ | .done _ _ | .created _ | .rowSelected _ => false
  | _ => true

theorem toListPanel_handle (self : AccountPanel kind) {event : Event kind}
    (leaves : event.leavesList = true) :
    (self.handle event).toListPanel = self.toListPanel := by
  have handles := self.handles_handle event
  generalize self.handle event = after at handles
  cases handles with
  | load | listed | done | hide | row | created => cases leaves
  | idle | edit | save | click | button | add | createClosed | confirm | type | delete
  | drop | confirmClosed => rfl

theorem onLoaded_frame (self : AccountPanel kind) (source : ConnId)
    (result : Except GError (List kind.Obj)) :
    (self.onLoaded source result).conn = self.conn ∧
      (self.onLoaded source result).confirm = self.confirm ∧
      (self.onLoaded source result).dispatched = self.dispatched ∧
      (self.onLoaded source result).inFlight = self.inFlight ∧
      (self.onLoaded source result).crashed = self.crashed := by
  cases result with
  | error error => exact ⟨rfl, rfl, rfl, rfl, rfl⟩
  | ok objects =>
      simp only [onLoaded]
      split
      · exact ⟨rfl, rfl, rfl, rfl, rfl⟩
      · exact ⟨rfl, rfl, rfl, rfl, rfl⟩

theorem conn_onDone (self : AccountPanel kind) {index : Nat} {sent : DispatchedWrite kind}
    (inFlight : self.inFlight[index]? = some sent) (result : Except GError Unit) :
    (onDone { self with inFlight := self.inFlight.eraseIdx index } sent result).conn =
      (self.reloadsOver (.done index result)).or self.conn := by
  cases result with
  | error error =>
      simp only [reloadsOver, Option.none_or, onDone]
      split
      · rfl
      · rfl
      · rfl
      · rfl
  | ok done =>
      simp only [reloadsOver, inFlight, Option.bind_some, onDone]
      split
      next data ctx save =>
        simp only [save, onUpdateAttrsDone]
        cases ctx.needEnabledChange with
        | false => rfl
        | true =>
            simp only [if_true, Option.none_or]
            split
            · exact self.mutate_conn _
            · exact self.mutate_conn _
      next write =>
        rw [write]
        rfl
      next write =>
        rw [write]
        rfl
      next write =>
        rw [write]
        rfl

theorem conn_handle (self : AccountPanel kind) (event : Event kind) :
    (self.handle event).conn = (self.reloadsOver event).or self.conn := by
  have handles := self.handles_handle event
  generalize self.handle event = after at handles
  cases handles with
  | idle quiet => rw [quiet, Option.none_or]
  | listed result listing => exact (onLoaded_frame _ _ result).1
  | done result inFlight => exact self.conn_onDone inFlight result
  | created newDn dialog =>
      rw [reloadsOver, dialog]
      rfl
  | load | hide | row | edit | save | click | button | add | createClosed | confirm | type
  | delete | drop | confirmClosed => rfl

/-! What can be selected, and which confirmation open, after an event -/

/-- The object selected before, up to what setters change, or one of the rows. -/
inductive Selects (self : AccountPanel kind) : Event kind → Listed kind.Obj → Prop
  | kept {event : Event kind} {before object : Listed kind.Obj}
      (selected : self.selected = some before) (dn : object.dn = before.dn)
      (listedOver : object.listedOver = before.listedOver) : Selects self event object
  | row {index : Nat} {object : Listed kind.Obj} (split : self.outerStack = .split)
      (reachable : self.reachable = true) (inRows : self.rows[index]? = some object) :
      Selects self (.rowSelected (some index)) object
  | reselected {index : Nat} {source : ConnId} {objects : List kind.Obj}
      {object : Listed kind.Obj} (listing : self.listings[index]? = some source)
      (found : self.reselected source objects = some object) :
      Selects self (.listed index (.ok objects)) object

theorem selects_self {self : AccountPanel kind} (event : Event kind)
    {object : Listed kind.Obj} (selected : self.selected = some object) :
    self.Selects event object := .kept selected rfl rfl

theorem selected_mutate {self : AccountPanel kind} {setter : kind.Obj → kind.Obj}
    (dn : ∀ obj, kind.listable.dn (setter obj) = kind.listable.dn obj)
    {object : Listed kind.Obj} (selected : (self.mutate setter).selected = some object) :
    ∃ before, self.selected = some before ∧ object.dn = before.dn ∧
      object.listedOver = before.listedOver := by
  rw [ListPanel.mutate_selected, Option.map_eq_some_iff] at selected
  obtain ⟨before, chosen, rfl⟩ := selected
  exact ⟨before, chosen, dn before.obj, rfl⟩

theorem selected_onDone {self : AccountPanel kind} (sent : DispatchedWrite kind)
    (result : Except GError Unit) {object : Listed kind.Obj}
    (selected : (self.onDone sent result).selected = some object) :
    ∃ before, self.selected = some before ∧ object.dn = before.dn ∧
      object.listedOver = before.listedOver := by
  unfold onDone at selected
  cases result with
  | error error =>
      split at selected
      · exact ⟨object, selected, rfl, rfl⟩
      · exact ⟨object, selected, rfl, rfl⟩
      · exact ⟨object, selected, rfl, rfl⟩
      · exact ⟨object, selected, rfl, rfl⟩
  | ok done =>
      split at selected
      · simp only [onUpdateAttrsDone] at selected
        split at selected
        · split at selected
          · exact selected_mutate (kind.dn_adopt self.form) selected
          · exact selected_mutate (kind.dn_adopt self.form) selected
        · exact selected_mutate (kind.dn_adopt self.form) selected
      · exact selected_mutate (fun obj => kind.dn_setEnabled obj _) selected
      · cases selected
      · exact ⟨object, selected, rfl, rfl⟩

theorem selects_handle {self : AccountPanel kind} {event : Event kind}
    {object : Listed kind.Obj} (selected : (self.handle event).selected = some object) :
    self.Selects event object := by
  have handles := self.handles_handle event
  generalize self.handle event = after at handles selected
  cases handles with
  | listed result listing =>
      cases result with
      | error error => exact selects_self _ selected
      | ok objects =>
          simp only [onLoaded] at selected
          split at selected
          next row found =>
            cases selected
            exact .reselected listing found
          · exact selects_self _ selected
  | done result inFlight =>
      obtain ⟨before, chosen, dn, listedOver⟩ := selected_onDone _ result selected
      exact .kept chosen dn listedOver
  | row split reachable inRows =>
      cases selected
      exact .row split reachable inRows
  | idle | load | hide | edit | save | click | button | add | createClosed | created | confirm
  | type | delete | drop | confirmClosed => exact selects_self _ selected

/-- A confirmation open before, with other text in it, or one just opened. -/
inductive Confirms (self : AccountPanel kind) : Event kind → ConfirmDelCtx kind → Prop
  | kept {event : Event kind} {before ctx : ConfirmDelCtx kind}
      (confirm : self.confirm = some before) (openedFor : ctx.openedFor = before.openedFor) :
      Confirms self event ctx
  | opened {ctx : ConfirmDelCtx kind} (reachable : self.detailReachable = true)
      (selected : self.selected = some ctx.openedFor) : Confirms self .deleteClicked ctx

theorem confirm_onDone (self : AccountPanel kind) (sent : DispatchedWrite kind)
    (result : Except GError Unit) : (self.onDone sent result).confirm = self.confirm := by
  unfold onDone
  cases result with
  | error error =>
      split
      · rfl
      · rfl
      · rfl
      · rfl
  | ok done =>
      split
      · simp only [onUpdateAttrsDone]
        split
        · split
          · rfl
          · rfl
        · rfl
      · rfl
      · rfl
      · rfl

theorem confirms_handle {self : AccountPanel kind} {event : Event kind}
    {ctx : ConfirmDelCtx kind} (confirm : (self.handle event).confirm = some ctx) :
    self.Confirms event ctx := by
  have handles := self.handles_handle event
  generalize self.handle event = after at handles confirm
  cases handles with
  | listed result listing =>
      rw [(onLoaded_frame _ _ result).2.1] at confirm
      exact .kept confirm rfl
  | done result inFlight =>
      rw [confirm_onDone] at confirm
      exact .kept confirm rfl
  | confirm opened reachable selected =>
      cases confirm
      exact .opened reachable selected
  | type text =>
      obtain ⟨before, present, rfl⟩ := Option.map_eq_some_iff.mp confirm
      exact .kept present rfl
  | delete | drop | confirmClosed => cases confirm
  | idle | load | hide | row | edit | save | click | button | add | createClosed | created =>
      exact .kept confirm rfl

/-! What one event can dispatch -/

/-- The ways in which an event makes a write: the three kinds of click, and the
completion of a save that changes the enabled flag. -/
inductive Sends (self : AccountPanel kind) : Event kind → DispatchedWrite kind → Prop
  | save {object : Listed kind.Obj} {conn : ConnId} (data : kind.Attrs)
      (needEnabledChange newEnabled : Bool)
      (reachable : self.detailReachable = true) (selected : self.selected = some object)
      (connected : self.conn = some conn) :
      Sends self .saveClicked
        { conn
          target := object
          write := .updateAttrs data { needEnabledChange, newEnabled, startedOn := object } }
  | button {object : Listed kind.Obj} {conn : ConnId} (button : kind.Button)
      (write : kind.Write) (reachable : self.detailReachable = true)
      (selected : self.selected = some object) (connected : self.conn = some conn) :
      Sends self (.buttonClicked button) { conn, target := object, write := .other write }
  | delete {object : Listed kind.Obj} {conn : ConnId} {ctx : ConfirmDelCtx kind}
      (confirm : self.confirm = some ctx) (selected : self.selected = some object)
      (connected : self.conn = some conn) :
      Sends self .confirmClicked
        { conn, target := object, write := .delete object.dn ctx }
  | enable {index : Nat} {saved : DispatchedWrite kind} {data : kind.Attrs}
      {ctx : SaveCtx kind} {object : Listed kind.Obj}
      (inFlight : self.inFlight[index]? = some saved)
      (save : saved.write = .updateAttrs data ctx) (needed : ctx.needEnabledChange = true)
      (selected : self.selected = some object) :
      Sends self (.done index (.ok ()))
        { conn := saved.conn
          target := { object with obj := kind.adopt self.form object.obj }
          write := .setEnabled { dn := object.dn, enabled := ctx.newEnabled } ctx }

/-- After the event the panel has dispatched what it had, or one write more, or it read
the DN of nothing. -/
inductive Dispatches (self : AccountPanel kind) (event : Event kind)
    (after : AccountPanel kind) : Prop
  | nothing (dispatched : after.dispatched = self.dispatched)
      (inFlight : ∀ sent ∈ after.inFlight, sent ∈ self.inFlight)
      (crashed : after.crashed = self.crashed)
  | one (sent : DispatchedWrite kind) (sends : self.Sends event sent)
      (dispatched : after.dispatched = self.dispatched ++ [sent])
      (inFlight : ∀ other ∈ after.inFlight, other ∈ self.inFlight ∨ other = sent)
      (crashed : after.crashed = self.crashed)
  | crash (index : Nat) (saved : DispatchedWrite kind) (data : kind.Attrs)
      (ctx : SaveCtx kind) (done : event = .done index (.ok ()))
      (saving : self.inFlight[index]? = some saved)
      (save : saved.write = .updateAttrs data ctx) (needed : ctx.needEnabledChange = true)
      (selected : self.selected = none) (dispatched : after.dispatched = self.dispatched)
      (inFlight : ∀ sent ∈ after.inFlight, sent ∈ self.inFlight)
      (crashed : after.crashed = true)

section Dispatches

variable {self : AccountPanel kind}

theorem dispatches_onUpdateAttrsDone {index : Nat} {sent : DispatchedWrite kind}
    (inFlight : self.inFlight[index]? = some sent) {data : kind.Attrs} {ctx : SaveCtx kind}
    (save : sent.write = .updateAttrs data ctx) (result : Except GError Unit) :
    self.Dispatches (.done index result)
      (onUpdateAttrsDone { self with inFlight := self.inFlight.eraseIdx index } sent.conn ctx
        result) := by
  have fewer : ∀ other ∈ self.inFlight.eraseIdx index, other ∈ self.inFlight :=
    fun other member => List.mem_of_mem_eraseIdx member
  cases result with
  | error error => exact .nothing rfl fewer rfl
  | ok done =>
      simp only [onUpdateAttrsDone, mutateSelected, ListPanel.mutate_selected]
      split
      next needed =>
        cases selected : self.selected with
        | none =>
            exact .crash index sent data ctx rfl inFlight save needed selected rfl fewer rfl
        | some object =>
            refine .one _ (Sends.enable inFlight save needed selected) ?_ ?_ ?_
            · simp only [dispatch, Option.map_some, Listed.dn, kind.dn_adopt]
            · intro other member
              simp only [dispatch, Option.map_some, List.mem_append, List.mem_singleton,
                Listed.dn, kind.dn_adopt] at member
              exact member.imp_left (fewer other)
            · rfl
      · exact .nothing rfl fewer rfl

theorem dispatches_onDone {index : Nat} {sent : DispatchedWrite kind}
    (inFlight : self.inFlight[index]? = some sent) (result : Except GError Unit) :
    self.Dispatches (.done index result)
      (onDone { self with inFlight := self.inFlight.eraseIdx index } sent result) := by
  have fewer : ∀ other ∈ self.inFlight.eraseIdx index, other ∈ self.inFlight :=
    fun other member => List.mem_of_mem_eraseIdx member
  unfold onDone
  split
  next data ctx save =>
    exact dispatches_onUpdateAttrsDone inFlight save result
  · cases result with
    | error error => exact .nothing rfl fewer rfl
    | ok done => exact .nothing rfl fewer rfl
  · cases result with
    | error error => exact .nothing rfl fewer rfl
    | ok done => exact .nothing rfl fewer rfl
  · cases result with
    | error error => exact .nothing rfl fewer rfl
    | ok done => exact .nothing rfl fewer rfl

end Dispatches

theorem handle_dispatches (self : AccountPanel kind) (event : Event kind) :
    self.Dispatches event (self.handle event) := by
  have handles := self.handles_handle event
  generalize self.handle event = after at handles
  cases handles with
  | listed result listing =>
      obtain ⟨_, _, dispatched, inFlight, crashed⟩ := onLoaded_frame _ _ result
      exact .nothing dispatched (fun _ member => inFlight ▸ member) crashed
  | done result inFlight => exact dispatches_onDone inFlight result
  | save form data _ _ reachable selected connected =>
      refine .one _ (Sends.save _ _ _ reachable selected connected) rfl ?_ rfl
      intro other member
      simpa [dispatch] using member
  | button button form write reachable selected connected =>
      refine .one _ (Sends.button _ _ reachable selected connected) rfl ?_ rfl
      intro other member
      simpa [dispatch] using member
  | delete confirm selected connected =>
      refine .one _ (Sends.delete confirm selected connected) rfl ?_ rfl
      intro other member
      simpa [dispatch] using member
  | idle | load | hide | row | edit | click | add | createClosed | created | confirm | type
  | drop | confirmClosed => exact .nothing rfl (fun _ member => member) rfl

theorem forall_dispatched_handle {self : AccountPanel kind} {event : Event kind}
    {property : DispatchedWrite kind → Prop}
    (before : ∀ sent ∈ self.dispatched, property sent)
    (new : ∀ sent, self.Sends event sent → property sent) :
    ∀ sent ∈ (self.handle event).dispatched, property sent := by
  cases self.handle_dispatches event with
  | nothing dispatched inFlight crashed =>
      rw [dispatched]
      exact before
  | one latest sends dispatched inFlight crashed =>
      rw [dispatched]
      intro sent member
      rcases List.mem_append.mp member with earlier | last
      · exact before sent earlier
      · rw [List.mem_singleton.mp last]
        exact new latest sends
  | crash index saved data ctx done saving save needed selected dispatched inFlight crashed =>
      rw [dispatched]
      exact before

end AccountPanel

end Sambervise.Ui
