import Sambervise.Ui.AddMember
import Sambervise.Ui.DnLabels
import Sambervise.Ui.RfcSave

namespace Sambervise.Ui

open Text Model Backend Backend.Groups Transition

/-! The groups panel as one machine: the list and its reloads, the detail pane, the
dialogs, and the writes in flight. -/

namespace Groups

def groupScopeString (gt : GInt) : String :=
  if gt &&& 0x1 ≠ 0 then "Built-in Local"
  else if gt &&& 0x4 ≠ 0 then "Domain Local"
  else if gt &&& 0x2 ≠ 0 then "Global"
  else if gt &&& 0x8 ≠ 0 then "Universal"
  else "Unknown"

/-- What the detail pane shows of a group and leaves unedited. -/
structure Detail where
  dn : CString
  name : CString
  sam : CString
  desc : CString
  type : String
  scope : String
  memberUid : CString
  memberCount : Nat
  members : List CString
  deriving DecidableEq, Repr

def emDash : CString := [0xE2, 0x80, 0x94]

def detailOfGroup (group : SbvGroup) : Detail :=
  { dn := orEmpty group.dn
    name := group.displayName.getD (orEmpty group.sam)
    sam := orEmpty group.sam
    desc := orEmpty group.description
    type := if group.groupType &&& 0x80000000 ≠ 0 then "Security" else "Distribution"
    scope := groupScopeString group.groupType
    memberUid :=
      match group.memberUid.getD [] with
      | [] => emDash
      | uids => strjoinv (cstr ", ") uids
    memberCount := (group.members.getD []).length
    members := group.members.getD [] }

inductive DialogContent where
  | create (conn : ConnId)
  | confirmDelete (expectedSam typed : CString)
  | gidWarn (builtin : String) (pendingGid : GInt)
  /-- Its windows are told apart by the order they were opened in. -/
  | addMember (window : Nat) (dialog : AddMemberDialog)
  deriving DecidableEq, Repr

/-- A dialog, with the group selected when it was opened, which the source does not
record. -/
structure Dialog where
  openedFor : Option SbvGroup
  content : DialogContent
  deriving DecidableEq, Repr

/-- What was in front of the admin when a write was asked for: the detail pane, or a
dialog. -/
inductive Asked where
  | pane (shown : Option Detail)
  | dialog (dialog : Dialog)
  deriving DecidableEq, Repr

inductive Write where
  | setUnix (d : GroupUnixData)
  | removeMember (d : MemberData)
  | addMember (added : AddDoneCtx)
  | delete (dn : Option CString)
  deriving DecidableEq, Repr

structure DispatchedWrite where
  conn : ConnId
  target : SbvGroup
  asked : Asked
  write : Write
  deriving DecidableEq, Repr

end Groups

open Groups

structure GroupsPanel where
  conn : Option ConnId := none
  outerStack : OuterStack := .loading
  detailVisible : Bool := false
  rows : List SbvGroup := []
  selectedGroup : Option SbvGroup := none
  pendingSelectSam : Option CString := none
  detail : Option Detail := none
  gidText : CString := []
  rfcSaveBtn : Bool := true
  deleteBtn : Bool := true
  rfcError : Option GError := none
  memberError : Option GError := none
  deleteError : Option GError := none
  dialog : Option Dialog := none
  windows : Nat := 0
  listings : List ConnId := []
  loadingUsers : List Nat := []
  inFlight : List Groups.DispatchedWrite := []
  dispatched : List Groups.DispatchedWrite := []
  /-- A group is read through a NULL pointer, or a context after it was freed. -/
  crashed : Bool := false

namespace GroupsPanel

def load (self : GroupsPanel) (conn : ConnId) : GroupsPanel :=
  { self with
    conn := some conn
    outerStack := .loading
    listings := self.listings ++ [conn] }

def dispatch (self : GroupsPanel) (conn : ConnId) (target : SbvGroup) (asked : Asked)
    (write : Groups.Write) : GroupsPanel :=
  let sent : Groups.DispatchedWrite := { conn, target, asked, write }
  { self with inFlight := self.inFlight ++ [sent], dispatched := self.dispatched ++ [sent] }

def openDialog (self : GroupsPanel) (content : DialogContent) : GroupsPanel :=
  { self with dialog := some { openedFor := self.selectedGroup, content } }

def onRowSelected (self : GroupsPanel) : Option SbvGroup → GroupsPanel
  | none => { self with detailVisible := false }
  | some group =>
      { self with
        selectedGroup := some group
        detail := some (detailOfGroup group)
        gidText := Users.numberText group.gidNumber
        rfcError := none
        memberError := none
        deleteError := none
        detailVisible := true }

/-! The list -/

def targetSam (self : GroupsPanel) : Option CString :=
  self.pendingSelectSam.or (self.selectedGroup.bind SbvGroup.sam)

/-- Of several rows of that name the last one. -/
def reselected (self : GroupsPanel) (groups : List SbvGroup) : Option SbvGroup :=
  self.targetSam.bind fun sam => groups.reverse.find? fun group => orEmpty group.sam = sam

def onGroupsLoaded (self : GroupsPanel) : Except GError (List SbvGroup) → GroupsPanel
  | .error _ => { self with outerStack := .empty }
  | .ok groups =>
      onRowSelected
        { self with
          pendingSelectSam := none
          rows := groups
          outerStack := if groups.isEmpty then .empty else .split }
        (self.reselected groups)

/-! The Unix id -/

def doRfcSave (self : GroupsPanel) (asked : Asked) (gid : GInt) : GroupsPanel :=
  match self.selectedGroup, self.conn with
  | some group, some conn =>
      dispatch { self with rfcError := none, rfcSaveBtn := false } conn group asked
        (.setUnix (Groups.doRfcSave group gid))
  | _, _ => { self with crashed := true }

def onRfcSaveClicked (self : GroupsPanel) : GroupsPanel :=
  match self.selectedGroup, self.conn with
  | some group, some _ =>
      match Groups.onRfcSaveClicked group self.gidText with
      | .warned builtin pendingGid => self.openDialog (.gidWarn builtin pendingGid)
      | .sent d => self.doRfcSave (.pane self.detail) d.gidNumber
  | _, _ => self

def onGidWarnResponse (self : GroupsPanel) (dialog : Dialog) (pendingGid : GInt)
    (response : CString) : GroupsPanel :=
  if response = cstr "save" then self.doRfcSave (.dialog dialog) pendingGid else self

def onRfcSaveDone (self : GroupsPanel) (conn : ConnId) : Except GError Unit → GroupsPanel
  | .error error => { self with rfcSaveBtn := true, rfcError := some error }
  | .ok () => load { self with rfcSaveBtn := true, rfcError := none } conn

/-! Members -/

def onRemoveClicked (self : GroupsPanel) (memberDn : CString) : GroupsPanel :=
  match self.selectedGroup, self.conn with
  | some group, some conn =>
      dispatch { self with memberError := none } conn group (.pane self.detail)
        (.removeMember (sbvGroupsRemoveMember group memberDn))
  | _, _ => self

def onRemoveDone (self : GroupsPanel) (conn : ConnId) : Except GError Unit → GroupsPanel
  | .error error => { self with memberError := some error }
  | .ok () => self.load conn

def showAddMemberDialog (self : GroupsPanel) : GroupsPanel :=
  match self.conn with
  | none => self
  | some _ =>
      { self.openDialog (.addMember self.windows {}) with
        windows := self.windows + 1
        loadingUsers := self.loadingUsers ++ [self.windows] }

def onAddBtnClicked (self : GroupsPanel) (opened : Dialog) (window : Nat)
    (dialog : AddMemberDialog) : GroupsPanel :=
  match self.selectedGroup with
  | none => self
  | some group =>
      match dialog.addition window { conn := self.conn, selectedGroup := some group } with
      | none => self
      | some added =>
          dispatch
            { self with
              dialog := some { opened with
                content := .addMember window { dialog with addBtn := false } } }
            added.conn group (.dialog opened) (.addMember added)

/-- The window is destroyed, which frees its context. One that is closed by then is taken to
be left alone, though the pointer to it dangles. -/
def closeWindow (self : GroupsPanel) (window : Nat) : GroupsPanel :=
  match self.dialog with
  | some { content := .addMember other _, .. } =>
      if other = window then { self with dialog := none } else self
  | _ => self

def onAddMemberDone (self : GroupsPanel) (added : AddDoneCtx) :
    Except GError Unit → GroupsPanel
  | .error error => { self with memberError := some error }
  | .ok () => (self.closeWindow added.dialog).load added.conn

/-! Creating and deleting -/

def onAddGroupBtnClicked (self : GroupsPanel) : GroupsPanel :=
  match self.conn with
  | none => self
  | some conn => self.openDialog (.create conn)

def onGroupCreated (self : GroupsPanel) (conn : ConnId) (newDn : CString) : GroupsPanel :=
  load
    { self with
      pendingSelectSam := Ui.onGroupCreated self.pendingSelectSam (some newDn)
      dialog := none }
    conn

def showGroupDeleteConfirm (self : GroupsPanel) : GroupsPanel :=
  match self.selectedGroup with
  | none => self
  | some group =>
      match orEmpty group.sam with
      | [] => self
      | sam => self.openDialog (.confirmDelete sam [])

def onConfirmGroupDeleteClicked (self : GroupsPanel) (opened : Dialog) : GroupsPanel :=
  match self.conn, self.selectedGroup with
  | some conn, some group =>
      dispatch { self with deleteError := none, deleteBtn := false, dialog := none } conn group
        (.dialog opened) (.delete group.dn)
  | _, _ => { self with dialog := none }

def onGroupDeleteDone (self : GroupsPanel) (conn : ConnId) : Except GError Unit → GroupsPanel
  | .error error => { self with deleteBtn := true, deleteError := some error }
  | .ok () => load { self with deleteBtn := true, selectedGroup := none } conn

/-! Everything that can happen in any order -/

inductive Event where
  | load (conn : ConnId)
  /-- The listing at this place among those in flight completes. -/
  | listed (index : Nat) (result : Except GError (List SbvGroup))
  /-- The same for a write, and for the users of an add-member dialog. -/
  | done (index : Nat) (result : Except GError Unit)
  | usersLoaded (index : Nat) (result : Except GError (List SbvUser))
  | rowSelected (row : Option Nat)
  /-- Typed, or suggested. -/
  | gidChanged (text : CString)
  | rfcSaveClicked
  | removeClicked (row : Nat)
  | addMemberClicked
  | addGroupClicked
  | deleteClicked
  | confirmTyped (text : CString)
  | confirmClicked
  | warnAnswered (response : CString)
  | userSelected (row : Option Nat)
  | addClicked
  | created (newDn : CString)
  | dialogClosed

/-- The list can be seen and no dialog, which are all modal, is in front of it. -/
def reachable (self : GroupsPanel) : Bool := self.outerStack = .split && self.dialog.isNone

def detailReachable (self : GroupsPanel) : Bool := self.reachable && self.detailVisible

def onDone (self : GroupsPanel) (sent : Groups.DispatchedWrite)
    (result : Except GError Unit) : GroupsPanel :=
  match sent.write with
  | .setUnix _ => self.onRfcSaveDone sent.conn result
  | .removeMember _ => self.onRemoveDone sent.conn result
  | .addMember added => self.onAddMemberDone added result
  | .delete _ => self.onGroupDeleteDone sent.conn result

def onUsersLoaded (self : GroupsPanel) (window : Nat)
    (result : Except GError (List SbvUser)) : GroupsPanel :=
  match self.dialog with
  | some { openedFor, content := .addMember other dialog } =>
      if other = window then
        match dialog.onUsersLoaded result with
        | none => { self with crashed := true }
        | some dialog =>
            { self with dialog := some { openedFor, content := .addMember other dialog } }
      else { self with crashed := true }
  | _ => { self with crashed := true }

/-- A widget of the open dialog. -/
def onDialog (self : GroupsPanel) (opened : Dialog) : Event → GroupsPanel
  | .confirmTyped text =>
      match opened.content with
      | .confirmDelete expectedSam _ =>
          { self with
            dialog := some { opened with content := .confirmDelete expectedSam text } }
      | _ => self
  | .confirmClicked =>
      match opened.content with
      | .confirmDelete expectedSam typed =>
          if typed = expectedSam then self.onConfirmGroupDeleteClicked opened else self
      | _ => self
  | .warnAnswered response =>
      match opened.content with
      | .gidWarn _ pendingGid =>
          onGidWarnResponse { self with dialog := none } opened pendingGid response
      | _ => self
  | .userSelected row =>
      match opened.content with
      | .addMember window dialog =>
          match dialog.onRowSelected row with
          | none => { self with crashed := true }
          | some dialog =>
              { self with dialog := some { opened with content := .addMember window dialog } }
      | _ => self
  | .addClicked =>
      match opened.content with
      | .addMember window dialog =>
          if dialog.addBtn then self.onAddBtnClicked opened window dialog else self
      | _ => self
  | .created newDn =>
      match opened.content with
      | .create conn => self.onGroupCreated conn newDn
      | _ => self
  | .dialogClosed => { self with dialog := none }
  | _ => self

/-- What cannot be seen or reached, or is not sensitive, does nothing. -/
def handle (self : GroupsPanel) : Event → GroupsPanel
  | .load conn => self.load conn
  | .listed index result =>
      match self.listings[index]? with
      | none => self
      | some _ => onGroupsLoaded { self with listings := self.listings.eraseIdx index } result
  | .done index result =>
      match self.inFlight[index]? with
      | none => self
      | some sent => onDone { self with inFlight := self.inFlight.eraseIdx index } sent result
  | .usersLoaded index result =>
      match self.loadingUsers[index]? with
      | none => self
      | some window =>
          onUsersLoaded { self with loadingUsers := self.loadingUsers.eraseIdx index } window
            result
  | .rowSelected none => if self.reachable then self.onRowSelected none else self
  | .rowSelected (some row) =>
      match self.rows[row]? with
      | none => self
      | some group => if self.reachable then self.onRowSelected (some group) else self
  | .gidChanged text => { self with gidText := text }
  | .rfcSaveClicked =>
      if self.detailReachable && self.rfcSaveBtn then self.onRfcSaveClicked else self
  | .removeClicked row =>
      match (self.detail.elim [] Detail.members)[row]? with
      | none => self
      | some memberDn => if self.detailReachable then self.onRemoveClicked memberDn else self
  | .addMemberClicked => if self.detailReachable then self.showAddMemberDialog else self
  | .addGroupClicked => if self.reachable then self.onAddGroupBtnClicked else self
  | .deleteClicked =>
      if self.detailReachable && self.deleteBtn then self.showGroupDeleteConfirm else self
  | event =>
      match self.dialog with
      | none => self
      | some opened => self.onDialog opened event

def step (self : GroupsPanel) (event : Event) : GroupsPanel :=
  if self.crashed then self else self.handle event

end GroupsPanel

end Sambervise.Ui
