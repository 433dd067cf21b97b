import Sambervise.Backend.CreateList
import Sambervise.Transition.Partial
import Sambervise.Ui.GroupsPanel

namespace Sambervise.Ui

open Text Ldap Model Backend Transition

/-! The dialogs that users, groups, computers and contacts are created with. -/

/-- A change of one of the entries and drop-downs that the four dialogs have. -/
inductive CreateEdit where
  | sam (text : CString)
  | cn (text : CString)
  | given (text : CString)
  | sn (text : CString)
  | dns (text : CString)
  | desc (text : CString)
  | mail (text : CString)
  | tel (text : CString)
  | container (text : CString)
  | scope (index : Fin 3)
  | type (index : Fin 2)
  deriving DecidableEq, Repr

def defaultContainer (relative : String) (base : Option CString) : CString :=
  match base with
  | none => []
  | some base => cstr relative ++ cstr "," ++ base

/-! The full name of a user or a contact -/

structure NameEntries where
  givenEntry : CString := []
  snEntry : CString := []
  cnEntry : CString := []
  syncing : Bool := false
  cnManual : Bool := false
  deriving DecidableEq, Repr

namespace NameEntries

def onCnChanged (ctx : NameEntries) : NameEntries :=
  if ctx.syncing then ctx else { ctx with cnManual := ctx.cnEntry ≠ [] }

def setCn (ctx : NameEntries) (text : CString) : NameEntries :=
  onCnChanged { ctx with cnEntry := text }

def combined (given sn : CString) : CString :=
  given ++ (if given ≠ [] ∧ sn ≠ [] then cstr " " else []) ++ sn

def onNamePartChanged (ctx : NameEntries) : NameEntries :=
  if ctx.cnManual then ctx
  else
    { { ctx with syncing := true }.setCn (combined ctx.givenEntry ctx.snEntry) with
      syncing := false }

def edit (ctx : NameEntries) : CreateEdit → NameEntries
  | .given text => onNamePartChanged { ctx with givenEntry := text }
  | .sn text => onNamePartChanged { ctx with snEntry := text }
  | .cn text => ctx.setCn text
  | _ => ctx

end NameEntries

/-! What the four dialogs have of their own -/

namespace CreateUserDialog

structure Form where
  samEntry : CString := []
  names : NameEntries := {}
  containerEntry : CString := []

def opened (base : Option CString) : Form :=
  { containerEntry := defaultContainer "CN=Users" base }

def Form.edit (ctx : Form) (change : CreateEdit) : Form :=
  match change with
  | .sam text => { ctx with samEntry := text }
  | .container text => { ctx with containerEntry := text }
  | _ => { ctx with names := ctx.names.edit change }

/-- What the button asks for, or the text for the label. -/
def onCreateClicked (ctx : Form) : Except CString Creation :=
  if ctx.samEntry = [] ∨ ctx.names.cnEntry = [] ∨ ctx.containerEntry = [] then
    .error (cstr "Username, full name and container are required.")
  else
    .ok (.user
      { sam := ctx.samEntry
        cn := ctx.names.cnEntry
        givenName := ctx.names.givenEntry
        sn := ctx.names.snEntry
        containerDn := ctx.containerEntry })

end CreateUserDialog

namespace CreateGroupDialog

structure Form where
  samEntry : CString := []
  descEntry : CString := []
  containerEntry : CString := []
  scopeDrop : Fin 3 := 0
  typeDrop : Fin 2 := 0

def scopes : List String := ["Global", "Domain Local", "Universal"]

def types : List String := ["Security", "Distribution"]

def scopeIndexToBit (idx : Nat) : GInt :=
  match idx with
  | 0 => 0x2
  | 1 => 0x4
  | 2 => 0x8
  | _ => 0x2

def opened (base : Option CString) : Form :=
  { containerEntry := defaultContainer "CN=Users" base }

def Form.edit (ctx : Form) (change : CreateEdit) : Form :=
  match change with
  | .sam text => { ctx with samEntry := text }
  | .desc text => { ctx with descEntry := text }
  | .container text => { ctx with containerEntry := text }
  | .scope index => { ctx with scopeDrop := index }
  | .type index => { ctx with typeDrop := index }
  | _ => ctx

def groupType (scopeIdx typeIdx : Nat) : GInt :=
  if typeIdx = 0 then scopeIndexToBit scopeIdx ||| 0x80000000 else scopeIndexToBit scopeIdx

def onCreateClicked (ctx : Form) : Except CString Creation :=
  if ctx.samEntry = [] ∨ ctx.containerEntry = [] then
    .error (cstr "Group name and container are required.")
  else
    .ok (.group
      { sam := ctx.samEntry
        description := ctx.descEntry
        groupType := groupType ctx.scopeDrop ctx.typeDrop
        containerDn := ctx.containerEntry })

end CreateGroupDialog

namespace CreateComputerDialog

structure Form where
  cnEntry : CString := []
  dnsEntry : CString := []
  descEntry : CString := []
  containerEntry : CString := []

def opened (base : Option CString) : Form :=
  { containerEntry := defaultContainer "CN=Computers" base }

def Form.edit (ctx : Form) (change : CreateEdit) : Form :=
  match change with
  | .cn text => { ctx with cnEntry := text }
  | .dns text => { ctx with dnsEntry := text }
  | .desc text => { ctx with descEntry := text }
  | .container text => { ctx with containerEntry := text }
  | _ => ctx

def onCreateClicked (ctx : Form) : Except CString Creation :=
  if ctx.cnEntry = [] ∨ ctx.containerEntry = [] then
    .error (cstr "Computer name and container are required.")
  else
    .ok (.computer
      { cn := ctx.cnEntry
        dnsHostname := ctx.dnsEntry
        description := ctx.descEntry
        containerDn := ctx.containerEntry })

end CreateComputerDialog

namespace CreateContactDialog

structure Form where
  names : NameEntries := {}
  mailEntry : CString := []
  telEntry : CString := []
  containerEntry : CString := []

def opened (base : Option CString) : Form :=
  { containerEntry := defaultContainer "CN=Users" base }

def Form.edit (ctx : Form) (change : CreateEdit) : Form :=
  match change with
  | .mail text => { ctx with mailEntry := text }
  | .tel text => { ctx with telEntry := text }
  | .container text => { ctx with containerEntry := text }
  | _ => { ctx with names := ctx.names.edit change }

def onCreateClicked (ctx : Form) : Except CString Creation :=
  if ctx.names.cnEntry = [] ∨ ctx.containerEntry = [] then
    .error (cstr "Full name and container are required.")
  else
    .ok (.contact
      { cn := ctx.names.cnEntry
        givenName := ctx.names.givenEntry
        sn := ctx.names.snEntry
        mail := ctx.mailEntry
        telephoneNumber := ctx.telEntry
        containerDn := ctx.containerEntry })

end CreateContactDialog

/-! What they have in common -/

inductive CreateKind where
  | user
  | group
  | computer
  | contact
  deriving DecidableEq, Repr

namespace CreateKind

abbrev Form : CreateKind → Type
  | user => CreateUserDialog.Form
  | group => CreateGroupDialog.Form
  | computer => CreateComputerDialog.Form
  | contact => CreateContactDialog.Form

def opened (base : Option CString) : (kind : CreateKind) → kind.Form
  | user => CreateUserDialog.opened base
  | group => CreateGroupDialog.opened base
  | computer => CreateComputerDialog.opened base
  | contact => CreateContactDialog.opened base

def edit (change : CreateEdit) : (kind : CreateKind) → kind.Form → kind.Form
  | user => fun form => form.edit change
  | group => fun form => form.edit change
  | computer => fun form => form.edit change
  | contact => fun form => form.edit change

def request : (kind : CreateKind) → kind.Form → Except CString Creation
  | user => CreateUserDialog.onCreateClicked
  | group => CreateGroupDialog.onCreateClicked
  | computer => CreateComputerDialog.onCreateClicked
  | contact => CreateContactDialog.onCreateClicked

end CreateKind

inductive CreateError where
  | required (text : CString)
  | failed (error : GError)
  deriving DecidableEq, Repr

/-- An open dialog, and the request it waits for. -/
structure CreateCtx (kind : CreateKind) where
  form : kind.Form
  createBtn : Bool := true
  errorLabel : Option CreateError := none
  creating : Option Creation := none
  /-- The window is there, and the data with it. -/
  alive : Bool := true
  /-- The DNs that the callback was given. -/
  handedOn : List CString := []

namespace CreateCtx

variable {kind : CreateKind}

def setBusy (ctx : CreateCtx kind) (busy : Bool) : CreateCtx kind := { ctx with createBtn := !busy }

def onCreateClicked (ctx : CreateCtx kind) : CreateCtx kind :=
  match kind.request ctx.form with
  | .error text => { ctx with errorLabel := some (.required text) }
  | .ok creation =>
      { { ctx with errorLabel := none }.setBusy true with creating := some creation }

def onCreateDone (ctx : CreateCtx kind) (result : Except GError CString) : CreateCtx kind :=
  let ctx := ctx.setBusy false
  match result with
  | .error error => { ctx with errorLabel := some (.failed error) }
  | .ok newDn => { ctx with handedOn := ctx.handedOn ++ [newDn], alive := false }

inductive Event where
  | edit (change : CreateEdit)
  | createClicked
  /-- The cancel button, or the window manager. -/
  | closed
  /-- The worker has done the request over the connection as it is then. -/
  | createDone (session : Session)

/-- A completion for a dialog that is gone has no result. -/
def handle (ctx : CreateCtx kind) (event : Event) : Option (CreateCtx kind) :=
  match event with
  | .edit change =>
      some (if ctx.alive then { ctx with form := kind.edit change ctx.form } else ctx)
  | .createClicked => some (if ctx.alive && ctx.createBtn then ctx.onCreateClicked else ctx)
  | .closed => some { ctx with alive := false }
  | .createDone session =>
      match ctx.creating with
      | none => some ctx
      | some creation =>
          if ctx.alive then
            some ({ ctx with creating := none }.onCreateDone (creation.perform session).1)
          else none

def step : Option (CreateCtx kind) → Event → Option (CreateCtx kind) := attempt handle

def start (kind : CreateKind) (base : Option CString) : CreateCtx kind :=
  { form := kind.opened base }

end CreateCtx

end Sambervise.Ui
