import Sambervise.Backend.Workers

namespace Sambervise.Backend.Users

open Text Ldap Model

def uacNormalAccount : GInt64 := 0x0200
def uacDontExpirePasswd : GInt64 := 0x10000

/-! Listing -/

def userOfEntry (attrs : Attributes) : SbvUser :=
  let user : SbvUser :=
    { dn := firstValue attrs "distinguishedName"
      sam := firstValue attrs "sAMAccountName"
      cn := firstValue attrs "cn"
      displayName := firstValue attrs "displayName"
      givenName := firstValue attrs "givenName"
      sn := firstValue attrs "sn"
      email := firstValue attrs "mail"
      description := firstValue attrs "description"
      uidNumber := firstGInt attrs "uidNumber"
      gidNumber := firstGInt attrs "gidNumber"
      loginShell := firstValue attrs "loginShell"
      unixHomeDir := firstValue attrs "unixHomeDirectory"
      gecos := firstValue attrs "gecos" }
  let user :=
    match firstValue attrs "userAccountControl" with
    | some value =>
        let uac := strtoll value
        { user with uac, enabled := uac &&& uacAccountDisable = 0 }
    | none => user
  let user :=
    match firstValue attrs "pwdLastSet" with
    | some value => { user with pwdLastSet := strtoll value }
    | none => user
  match firstValue attrs "accountExpires" with
  | some value =>
      let expires := strtoll value
      { user with accountExpires := if expires = 0 then maxInt64 else expires }
  | none => user

theorem userOfEntry_eq (attrs : Attributes) :
    userOfEntry attrs =
      { dn := firstValue attrs "distinguishedName"
        sam := firstValue attrs "sAMAccountName"
        cn := firstValue attrs "cn"
        displayName := firstValue attrs "displayName"
        givenName := firstValue attrs "givenName"
        sn := firstValue attrs "sn"
        email := firstValue attrs "mail"
        description := firstValue attrs "description"
        enabled :=
          ((firstValue attrs "userAccountControl").map
            fun value => decide (strtoll value &&& uacAccountDisable = 0)).getD true
        uac := ((firstValue attrs "userAccountControl").map strtoll).getD 0
        pwdLastSet := ((firstValue attrs "pwdLastSet").map strtoll).getD 0
        accountExpires :=
          ((firstValue attrs "accountExpires").map fun value =>
            if strtoll value = 0 then maxInt64 else strtoll value).getD maxInt64
        uidNumber := firstGInt attrs "uidNumber"
        gidNumber := firstGInt attrs "gidNumber"
        loginShell := firstValue attrs "loginShell"
        unixHomeDir := firstValue attrs "unixHomeDirectory"
        gecos := firstValue attrs "gecos" } := by
  unfold userOfEntry
  cases firstValue attrs "userAccountControl" with
  | none | some uac =>
      cases firstValue attrs "pwdLastSet" with
      | none | some pwdLastSet =>
          cases firstValue attrs "accountExpires" with
          | none | some expires => rfl

/-! Enable and disable -/

def setEnabledThread (d : SetEnabledData) : LdapM (Except GError Unit) :=
  setEnabledFrom uacNormalAccount d

def sbvUsersSetEnabled (user : SbvUser) (enabled : Bool) : SetEnabledData :=
  { dn := user.dn, enabled }

/-! Password -/

structure ResetPwData where
  dn : Option CString
  newPassword : CString
  deriving DecidableEq, Repr

/-- `convert` stands for `g_convert` from UTF-8 to UTF-16LE. -/
def resetPwThread (convert : CString → Except GError (List UInt8)) (d : ResetPwData) :
    LdapM (Except GError Unit) :=
  whenConnected do
    match convert (cstr "\"" ++ d.newPassword ++ cstr "\"") with
    | .error error =>
        releaseLdap
        return .error error
    | .ok utf16 =>
        let rc ← modifyExt (orEmpty d.dn) [replaceMod "unicodePwd" [utf16]]
        releaseLdap
        return if rc = ldapSuccess then .ok ()
          else .error
            { ldapError "Password reset failed: " rc with
              hint := cstr "\n(Hint: requires LDAPS or STARTTLS)" }

theorem resetPwThread_eq (convert : CString → Except GError (List UInt8)) (d : ResetPwData) :
    resetPwThread convert d =
      underLock (do
        match convert (cstr "\"" ++ d.newPassword ++ cstr "\"") with
        | .error error => return .error error
        | .ok utf16 =>
            let rc ← modifyExt (orEmpty d.dn) [replaceMod "unicodePwd" [utf16]]
            return if rc = ldapSuccess then .ok ()
              else .error
                { ldapError "Password reset failed: " rc with
                  hint := cstr "\n(Hint: requires LDAPS or STARTTLS)" }) := by
  rw [resetPwThread, underLock]
  cases convert (cstr "\"" ++ d.newPassword ++ cstr "\"") with
  | error failure => rfl
  | ok utf16 => rfl

def sbvUsersResetPassword (user : SbvUser) (newPassword : CString) : ResetPwData :=
  { dn := user.dn, newPassword }

/-! Update attributes -/

structure UpdateAttrsData where
  dn : Option CString
  cn : Option CString
  displayName : Option CString
  givenName : Option CString
  sn : Option CString
  email : Option CString
  deriving DecidableEq, Repr

def UpdateAttrsData.mods (d : UpdateAttrsData) : List LdapMod :=
  addMod "displayName" d.displayName ++ addMod "givenName" d.givenName ++
    addMod "sn" d.sn ++ addMod "mail" d.email

def updateAttrsThread (d : UpdateAttrsData) : LdapM (Except GError Unit) :=
  renameThenModify (orEmpty d.dn) (orEmpty d.cn) d.mods

def sbvUsersUpdateAttrs (user : SbvUser) (cn displayName givenName sn email : CString) :
    UpdateAttrsData :=
  { dn := user.dn
    cn := some cn
    displayName := some displayName
    givenName := some givenName
    sn := some sn
    email := some email }

/-! Password flags -/

structure SetPwFlagsData where
  dn : Option CString
  currentUac : GInt64
  forceChange : Bool
  neverExpires : Bool
  accountExpires : GInt64
  deriving DecidableEq, Repr

def uacWithNeverExpires (neverExpires : Bool) (uac : GInt64) : GInt64 :=
  if neverExpires then uac ||| uacDontExpirePasswd else uac &&& ~~~uacDontExpirePasswd

def SetPwFlagsData.mods (d : SetPwFlagsData) : List LdapMod :=
  [ replaceMod "userAccountControl"
      [formatInt64 (uacWithNeverExpires d.neverExpires d.currentUac)],
    replaceMod "pwdLastSet" [cstr (if d.forceChange then "0" else "-1")],
    replaceMod "accountExpires" [formatInt64 d.accountExpires] ]

def setPwFlagsThread (d : SetPwFlagsData) : LdapM (Except GError Unit) :=
  modifyEntry "Policy update failed: " (orEmpty d.dn) d.mods

def sbvUsersSetPasswordFlags (user : SbvUser) (forceChange neverExpires : Bool)
    (accountExpires : GInt64) : SetPwFlagsData :=
  { dn := user.dn, currentUac := user.uac, forceChange, neverExpires, accountExpires }

section SetPwFlags

variable {d : SetPwFlagsData} {session : Session} {dn : DistinguishedName} {entry : Entry}

theorem setPwFlagsThread_apply (connected : session.ld = true) :
    setPwFlagsThread d session =
      let (rc, after) := modifyExt (orEmpty d.dn) d.mods
        { session with acquired := session.acquired + 1 }
      (checked "Policy update failed: " rc, { after with released := after.released + 1 }) := by
  rw [setPwFlagsThread, modifyEntry_eq, underLock_apply, if_pos connected]
  rfl

theorem setPwFlagsThread_carriedOut (serves : session.serves 1 = true)
    (found : session.directory.find session.rule (orEmpty d.dn) = .ok (dn, entry)) :
    (setPwFlagsThread d session).1 = .ok () ∧
      session.Becomes
        (Function.update session.directory dn
          (some { entry with attrs := Directory.replaceAll entry.attrs d.mods }))
        (setPwFlagsThread d session).2 := by
  obtain ⟨connected, written⟩ := Session.serves_one_iff.mp serves
  rw [setPwFlagsThread_apply connected,
    modifyExt_replaces (by exact written) (by simp [SetPwFlagsData.mods, replaceMod])
      (by exact found)]
  exact ⟨rfl, rfl, rfl, rfl⟩

theorem setPwFlagsThread_refused (refused : session.serves 1 = false) :
    (setPwFlagsThread d session).1 ≠ .ok () ∧
      session.Becomes session.directory (setPwFlagsThread d session).2 := by
  cases connected : session.ld with
  | false =>
      rw [setPwFlagsThread, modifyEntry_eq]
      exact underLock_disconnected connected ()
  | true =>
      have written : (Session.outcome
          { session with acquired := session.acquired + 1 }).carriedOut = false := by
        simpa [Session.serves, Session.outcome, allCarriedOut, connected] using refused
      obtain ⟨rc, failure, reply⟩ := modifyExt_refused (orEmpty d.dn) d.mods written
      rw [setPwFlagsThread_apply connected, reply]
      exact ⟨by simp [checked, failure], rfl, rfl, rfl⟩

end SetPwFlags

/-! RFC 2307 attributes -/

structure UnixAttrsData where
  dn : Option CString
  uidNumber : GInt
  gidNumber : GInt
  loginShell : Option CString
  unixHomeDir : Option CString
  gecos : Option CString
  deriving DecidableEq, Repr

def numberMod (type : String) (value : GInt) : LdapMod :=
  replaceMod type (if 0 ≤ value.toInt then [formatInt value.toInt] else [])

def strMod (type : String) (value : Option CString) : LdapMod :=
  replaceMod type (if orEmpty value = [] then [] else [orEmpty value])

def UnixAttrsData.mods (d : UnixAttrsData) : List LdapMod :=
  [ numberMod "uidNumber" d.uidNumber, numberMod "gidNumber" d.gidNumber,
    strMod "loginShell" d.loginShell, strMod "unixHomeDirectory" d.unixHomeDir,
    strMod "gecos" d.gecos ]

def setUnixAttrsThread (d : UnixAttrsData) : LdapM (Except GError Unit) :=
  setUnixFrom (orEmpty d.dn) d.mods

def sbvUsersSetUnixAttrs (user : SbvUser) (uidNumber gidNumber : GInt)
    (loginShell unixHomeDir gecos : CString) : UnixAttrsData :=
  { dn := user.dn
    uidNumber
    gidNumber
    loginShell := some loginShell
    unixHomeDir := some unixHomeDir
    gecos := some gecos }

/-! Create and delete -/

/-- A required string is NULL or empty alike; so is an optional one. -/
structure CreateUserData where
  sam : CString
  cn : CString
  givenName : CString := []
  sn : CString := []
  containerDn : CString
  deriving DecidableEq, Repr

def CreateUserData.mods (d : CreateUserData) : List LdapMod :=
  [ plainMod "objectClass"
      [cstr "top", cstr "person", cstr "organizationalPerson", cstr "user"],
    plainMod "cn" [d.cn], plainMod "sAMAccountName" [d.sam],
    plainMod "userAccountControl"
      [formatInt64 (uacNormalAccount ||| uacAccountDisable)] ] ++
    optionalMod "givenName" d.givenName ++ optionalMod "sn" d.sn

def createUserThread (d : CreateUserData) : LdapM (Except GError CString) :=
  addEntry (cnDn d.cn d.containerDn) d.mods

def sbvUsersCreate (d : CreateUserData) : LdapM (Except GError CString) :=
  if d.sam = [] ∨ d.cn = [] ∨ d.containerDn = [] then
    return .error
      { code := .ldap
        text := cstr "Username, full name and container are required" }
  else createUserThread d

def deleteUserThread (dn : Option CString) : LdapM (Except GError Unit) :=
  deleteEntry dn

def sbvUsersDelete (user : SbvUser) : Option CString := user.dn

end Sambervise.Backend.Users
