import Sambervise.Backend.Computers
import Sambervise.Ui.AccountPanel

namespace Sambervise.Ui

open Text Model Backend

/-! The computers panel. -/

namespace Computers

structure Form where
  description : CString := []
  dnsHostname : CString := []
  enabledCheck : Bool := false
  workingSpns : List CString := []
  spnNew : CString := []
  spnSaveBtn : Bool := false
  spnSaveError : Option Notice := none

def uninitialized (computer : SbvComputer) : Bool := computer.pwdLastSet = 0

def loadComputerIntoDetail (computer : SbvComputer) (_ : Form) : Form :=
  { description := orEmpty computer.description
    dnsHostname := orEmpty computer.dnsHostname
    enabledCheck := computer.enabled
    workingSpns := computer.spn.getD [] }

/-! The service principal names -/

/-- The working names differ from those of the computer, not counting their order. -/
def spnDirty (computer : SbvComputer) (working : List CString) : Bool :=
  let current := computer.spn.getD []
  current.length != working.length || working.any (!current.contains ·)

def updateSpnDirty (selected : Option SbvComputer) (form : Form) : Form :=
  match selected with
  | none => { form with spnSaveBtn := false }
  | some computer =>
      { form with
        spnSaveBtn := spnDirty computer form.workingSpns && !uninitialized computer }

/-- `service/host`, with something on both sides of the first slash. -/
def spnWellFormed (typed : CString) : Bool :=
  typed.takeWhile (· ≠ 0x2F) ≠ [] && (typed.dropWhile (· ≠ 0x2F)).length > 1

def onSpnAddClicked (selected : Option SbvComputer) (form : Form) : Form :=
  match selected with
  | none => form
  | some computer =>
      if uninitialized computer then form
      else
        let form := { form with spnSaveError := none }
        let typed := form.spnNew
        if typed = [] then form
        else if !spnWellFormed typed then
          { form with
            spnSaveError :=
              some (.text
                (cstr "SPN must be of the form service/host (e.g. HOST/pc.example.com).")) }
        else if form.workingSpns.any (asciiStrdown · = asciiStrdown typed) then
          { form with spnSaveError := some (.text (cstr "That SPN is already in the list.")) }
        else
          updateSpnDirty selected
            { form with workingSpns := form.workingSpns ++ [typed], spnNew := [] }

def onSpnRemoveClicked (selected : Option SbvComputer) (form : Form) (value : CString) :
    Form :=
  updateSpnDirty selected { form with workingSpns := form.workingSpns.erase value }

inductive Edit where
  | description (text : CString)
  | dnsHostname (text : CString)
  | enabled (active : Bool)
  | spnNew (text : CString)
  | spnAdd
  | spnRemove (value : CString)

/-- The names of an account that was never joined cannot be edited. -/
def edit (selected : Option SbvComputer) (form : Form) : Edit → Form
  | .description text => { form with description := text }
  | .dnsHostname text => { form with dnsHostname := text }
  | .enabled active => { form with enabledCheck := active }
  | .spnNew text =>
      if selected.any (!uninitialized ·) then { form with spnNew := text } else form
  | .spnAdd => onSpnAddClicked selected form
  | .spnRemove value =>
      if selected.any (!uninitialized ·) then onSpnRemoveClicked selected form value
      else form

def onSpnSaveClicked (computer : SbvComputer) (form : Form) :
    Form × Option Computers.SetSpnData :=
  if !form.spnSaveBtn || uninitialized computer then (form, none)
  else
    ({ form with spnSaveError := none, spnSaveBtn := false },
      some { dn := computer.dn, spns := form.workingSpns })

/-- Unlike the other writes this one leaves its button as it is when it succeeds. -/
def onSpnSaveDone (form : Form) : Except GError Unit → Form
  | .error error => { form with spnSaveError := some (.error error), spnSaveBtn := true }
  | .ok () => form

/-! Saving attributes -/

def updateAttrs (computer : SbvComputer) (form : Form) : Computers.UpdateAttrsData :=
  { dn := computer.dn
    description := some form.description
    dnsHostname := some form.dnsHostname }

def adopt (form : Form) (computer : SbvComputer) : SbvComputer :=
  { computer with
    description := some form.description
    dnsHostname := some form.dnsHostname }

end Computers

/-- The computers panel; rows are found again by sAMAccountName here too. -/
def computersKind : AccountKind where
  Obj := SbvComputer
  Form := Computers.Form
  Edit := Computers.Edit
  Button := Unit
  Attrs := Computers.UpdateAttrsData
  Write := Computers.SetSpnData
  listable := { dn := SbvComputer.dn, key := SbvComputer.sam }
  enabled := SbvComputer.enabled
  setEnabled computer enabled := { computer with enabled }
  loadDetail := Computers.loadComputerIntoDetail
  edit := Computers.edit
  enabledCheck := Computers.Form.enabledCheck
  syncRules := id
  updateAttrs := Computers.updateAttrs
  adopt := Computers.adopt
  click computer form _ := Computers.onSpnSaveClicked computer form
  writeDone _ result form := Computers.onSpnSaveDone form result
  dn_setEnabled _ _ := rfl
  dn_adopt _ _ := rfl

abbrev ComputersPanel := AccountPanel computersKind

end Sambervise.Ui
