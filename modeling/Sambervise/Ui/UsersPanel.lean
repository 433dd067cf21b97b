import Sambervise.Backend.Users
import Sambervise.Ui.AccountPanel

namespace Sambervise.Ui

open Text Model Backend

/-! The users panel. -/

namespace Users

/-- What GLib's calendar does for the panel, in UTC and unix seconds: the time of a
day's midnight, and a time written as YYYY-MM-DD. -/
structure GDateTimeUtc where
  newUtc : GInt → GInt → GInt → Option GInt64
  formatDay : GInt64 → Option CString

def noCalendar : GDateTimeUtc :=
  { newUtc := fun _ _ _ => none, formatDay := fun _ => none }

def winEpochOffset : GInt64 := 11644473600
def winTicksPerSec : GInt64 := 10000000

/-- `%d` of `sscanf`: the number and what is left, unless there is no digit. -/
def scanInt (text : CString) : Option (GInt × CString) :=
  let unspaced := text.dropWhile skipsSpace
  let signed := unspaced.head? = some 0x2D ∨ unspaced.head? = some 0x2B
  let rest := if signed then unspaced.tail else unspaced
  match rest.takeWhile asciiIsDigit with
  | [] => none
  | _ => some ((strtoll unspaced).setWidth 32, rest.dropWhile asciiIsDigit)

def scanDash : CString → Option CString
  | 0x2D :: rest => some rest
  | _ => none

def scanDay (text : CString) : Option (GInt × GInt × GInt) := do
  let (y, afterYear) ← scanInt text
  let (m, afterMonth) ← scanInt (← scanDash afterYear)
  let (d, _) ← scanInt (← scanDash afterMonth)
  return (y, m, d)

def dateEntryToFiletime (calendar : GDateTimeUtc) (text : CString) : GInt64 :=
  match scanDay text with
  | none => maxInt64
  | some (y, m, d) =>
      match calendar.newUtc y m d with
      | none => maxInt64
      | some unixTs => (unixTs + winEpochOffset) * winTicksPerSec

/-! The form -/

inductive Entry where
  | cn
  | display
  | given
  | sn
  | email
  | newPw
  | confirmPw
  | expiresDate
  | rfcUid
  | rfcGid
  | rfcShell
  | rfcHome
  | rfcGecos
  deriving DecidableEq, Repr

inductive Check where
  | syncPartsFromFull
  | syncFullFromParts
  | enabled
  | forceChange
  | neverExpires
  | acctNeverExpires
  deriving DecidableEq, Repr

structure Form where
  text : Entry → CString := fun _ => []
  active : Check → Bool := fun _ => false
  setPwBtn : Bool := true
  savePolicyBtn : Bool := true
  rfcSaveBtn : Bool := true
  pwError : Option Notice := none
  policyError : Option Notice := none
  rfcError : Option Notice := none

namespace Form

def setText (form : Form) (entry : Entry) (text : CString) : Form :=
  { form with text := Function.update form.text entry text }

def setActive (form : Form) (check : Check) (active : Bool) : Form :=
  { form with active := Function.update form.active check active }

end Form

inductive Edit where
  | typed (entry : Entry) (text : CString)
  | toggled (check : Check) (active : Bool)

/-- The date can be typed where the account does expire. -/
def edit (form : Form) : Edit → Form
  | .typed .expiresDate text =>
      if form.active .acctNeverExpires then form else form.setText .expiresDate text
  | .typed entry text => form.setText entry text
  | .toggled check active => form.setActive check active

def numberText (number : GInt) : CString :=
  if 0 ≤ number.toInt then formatInt number.toInt else []

def loadUserIntoDetail (calendar : GDateTimeUtc) (user : SbvUser) (form : Form) : Form :=
  let expires := user.accountExpires
  let acctNever := expires = maxInt64 ∨ expires = 0
  let day := calendar.formatDay (expires.sdiv winTicksPerSec - winEpochOffset)
  { form with
    text := fun
      | .cn => orEmpty user.cn
      | .display => orEmpty user.displayName
      | .given => orEmpty user.givenName
      | .sn => orEmpty user.sn
      | .email => orEmpty user.email
      | .newPw | .confirmPw => []
      | .expiresDate =>
          if acctNever then [] else day.getD (form.text .expiresDate)
      | .rfcUid => numberText user.uidNumber
      | .rfcGid => numberText user.gidNumber
      | .rfcShell => orEmpty user.loginShell
      | .rfcHome => orEmpty user.unixHomeDir
      | .rfcGecos => orEmpty user.gecos
    active := fun
      | .enabled => user.enabled
      | .forceChange => user.pwdLastSet = 0
      | .neverExpires => user.uac &&& 0x10000 ≠ 0
      | .acctNeverExpires => acctNever
      | check => form.active check
    pwError := none
    policyError := none
    rfcError := none }

/-! Saving attributes -/

def syncRules (form : Form) : Form :=
  let cn := form.text .cn
  let given := form.text .given
  let sn := form.text .sn
  if form.active .syncFullFromParts ∧ (given ≠ [] ∨ sn ≠ []) then
    let full := given ++ cstr " " ++ sn
    (form.setText .cn full).setText .display full
  else if form.active .syncPartsFromFull ∧ cn ≠ [] then
    (form.setText .given (cn.takeWhile (· ≠ 0x20))).setText .sn
      (cn.dropWhile (· ≠ 0x20)).tail
  else form

def updateAttrs (user : SbvUser) (form : Form) : Users.UpdateAttrsData :=
  Users.sbvUsersUpdateAttrs user (form.text .cn) (form.text .display) (form.text .given)
    (form.text .sn) (form.text .email)

def adopt (form : Form) (user : SbvUser) : SbvUser :=
  { user with
    cn := some (form.text .cn)
    displayName := some (form.text .display)
    givenName := some (form.text .given)
    sn := some (form.text .sn)
    email := some (form.text .email) }

/-! The other buttons -/

inductive Button where
  | setPw
  | savePolicy
  | rfcSave
  deriving DecidableEq, Repr

inductive Write where
  | resetPw (d : Users.ResetPwData)
  | setPasswordFlags (d : Users.SetPwFlagsData)
  | setUnixAttrs (d : Users.UnixAttrsData)
  deriving DecidableEq, Repr

def onSetPwClicked (user : SbvUser) (form : Form) : Form × Option Write :=
  let form := { form with pwError := none }
  let pw := form.text .newPw
  if pw = [] then
    ({ form with pwError := some (.text (cstr "Enter a new password.")) }, none)
  else if pw ≠ form.text .confirmPw then
    ({ form with pwError := some (.text (cstr "Passwords do not match.")) }, none)
  else
    ({ form with setPwBtn := false },
      some (.resetPw (Users.sbvUsersResetPassword user pw)))

def onSavePolicyClicked (calendar : GDateTimeUtc) (user : SbvUser) (form : Form) :
    Form × Option Write :=
  let form := { form with policyError := none }
  let ds := form.text .expiresDate
  let accountExpires :=
    if form.active .acctNeverExpires then maxInt64 else dateEntryToFiletime calendar ds
  if !form.active .acctNeverExpires && accountExpires = maxInt64 && ds ≠ [] then
    ({ form with
        policyError := some (.text (cstr "Invalid date. Use YYYY-MM-DD."))
        savePolicyBtn := true },
      none)
  else
    ({ form with savePolicyBtn := false },
      some (.setPasswordFlags
        (Users.sbvUsersSetPasswordFlags user (form.active .forceChange)
          (form.active .neverExpires) accountExpires)))

/-- `*s ? (gint) strtol (s, NULL, 10) : -1` -/
def numberOfText (text : CString) : GInt :=
  if text = [] then -1 else (strtoll text).setWidth 32

def onRfcSaveClicked (user : SbvUser) (form : Form) : Form × Option Write :=
  ({ form with rfcError := none, rfcSaveBtn := false },
    some (.setUnixAttrs
      (Users.sbvUsersSetUnixAttrs user (numberOfText (form.text .rfcUid))
        (numberOfText (form.text .rfcGid)) (form.text .rfcShell) (form.text .rfcHome)
        (form.text .rfcGecos))))

def click (calendar : GDateTimeUtc) (user : SbvUser) (form : Form) :
    Button → Form × Option Write
  | .setPw => if form.setPwBtn then onSetPwClicked user form else (form, none)
  | .savePolicy =>
      if form.savePolicyBtn then onSavePolicyClicked calendar user form else (form, none)
  | .rfcSave => if form.rfcSaveBtn then onRfcSaveClicked user form else (form, none)

def onResetPwDone (form : Form) : Except GError Unit → Form
  | .error error => { form with setPwBtn := true, pwError := some (.error error) }
  | .ok () => (({ form with setPwBtn := true }.setText .newPw []).setText .confirmPw [])

def onSavePolicyDone (form : Form) : Except GError Unit → Form
  | .error error => { form with savePolicyBtn := true, policyError := some (.error error) }
  | .ok () => { form with savePolicyBtn := true }

def onRfcSaveDone (form : Form) : Except GError Unit → Form
  | .error error => { form with rfcSaveBtn := true, rfcError := some (.error error) }
  | .ok () => { form with rfcSaveBtn := true, rfcError := none }

def writeDone (write : Write) (result : Except GError Unit) (form : Form) : Form :=
  match write with
  | .resetPw _ => onResetPwDone form result
  | .setPasswordFlags _ => onSavePolicyDone form result
  | .setUnixAttrs _ => onRfcSaveDone form result

end Users

/-- The users panel; rows are found again by sAMAccountName. -/
def usersKind (calendar : Users.GDateTimeUtc) : AccountKind where
  Obj := SbvUser
  Form := Users.Form
  Edit := Users.Edit
  Button := Users.Button
  Attrs := Users.UpdateAttrsData
  Write := Users.Write
  listable := { dn := SbvUser.dn, key := SbvUser.sam }
  enabled := SbvUser.enabled
  setEnabled user enabled := { user with enabled }
  loadDetail := Users.loadUserIntoDetail calendar
  edit _ := Users.edit
  enabledCheck form := form.active .enabled
  syncRules := Users.syncRules
  updateAttrs := Users.updateAttrs
  adopt := Users.adopt
  click := Users.click calendar
  writeDone := Users.writeDone
  dn_setEnabled _ _ := rfl
  dn_adopt _ _ := rfl

abbrev UsersPanel (calendar : Users.GDateTimeUtc) := AccountPanel (usersKind calendar)

end Sambervise.Ui
