import Sambervise.Backend.Workers

namespace Sambervise.Backend

open Text Ldap Model

/-! libldap's state of the process -/

inductive CertPolicy where
  | never
  | allow
  | attempt
  | demand
  | hard
  deriving DecidableEq, Repr

/-- Whether a server that shows a certificate that does not verify is refused. -/
def CertPolicy.verifies : CertPolicy → Bool
  | .never | .allow => false
  | .attempt | .demand | .hard => true

@[simp] theorem CertPolicy.verifies_never : CertPolicy.never.verifies = false := rfl

structure LdapHandle where
  id : Nat
  uri : CString
  requireCert : CertPolicy
  deriving DecidableEq, Repr

structure Libldap where
  /-- `LDAP_OPT_X_TLS_REQUIRE_CERT` of the library, which new handles inherit. -/
  requireCert : CertPolicy
  nextHandle : Nat
  unbound : List Nat
  deriving DecidableEq, Repr

def Libldap.ldapInitialize (library : Libldap) (uri : CString) : LdapHandle × Libldap :=
  ({ id := library.nextHandle, uri, requireCert := library.requireCert },
    { library with nextHandle := library.nextHandle + 1 })

def Libldap.unbind (library : Libldap) (handle : LdapHandle) : Libldap :=
  { library with unbound := library.unbound ++ [handle.id] }

/-- The two `ldap_set_option` calls made for a profile that skips the check: the
first has no handle. -/
def Libldap.skipCert (library : Libldap) (handle : LdapHandle) : LdapHandle × Libldap :=
  ({ handle with requireCert := .never }, { library with requireCert := .never })

/-- How both workers open a handle: `ldap_initialize`, and the options for a
profile that skips the check. -/
def Libldap.openHandle (library : Libldap) (uri : CString) (skipCert : Bool) :
    LdapHandle × Libldap :=
  let (ld, library) := library.ldapInitialize uri
  if skipCert then library.skipCert ld else (ld, library)

@[simp] theorem Libldap.openHandle_policy (library : Libldap) (uri : CString)
    (skipCert : Bool) :
    (library.openHandle uri skipCert).1.requireCert =
      if skipCert then .never else library.requireCert := by
  cases skipCert with
  | true => rfl
  | false => rfl

@[simp] theorem Libldap.openHandle_requireCert (library : Libldap) (uri : CString)
    (skipCert : Bool) :
    (library.openHandle uri skipCert).2.requireCert =
      if skipCert then .never else library.requireCert := by
  cases skipCert with
  | true => rfl
  | false => rfl

@[simp] theorem Libldap.unbind_requireCert (library : Libldap) (handle : LdapHandle) :
    (library.unbind handle).requireCert = library.requireCert := rfl

structure SbvConnection where
  ld : Option LdapHandle := none
  host : Option CString := none
  baseDn : Option CString := none
  port : GInt := 0
  connected : Bool := false
  profile : Option SbvProfile := none
  deriving DecidableEq, Repr

structure ConnectData where
  profile : SbvProfile
  password : Option CString
  deriving DecidableEq, Repr

def serverUri (useLdaps : Bool) (host : Option CString) (port : GInt) : CString :=
  cstr (if useLdaps then "ldaps://" else "ldap://") ++ shownString host ++
    cstr ":" ++ formatInt port.toInt

/-- The result codes of the three steps that can fail. -/
structure ConnectReplies where
  initializeRc : ResultCode := ldapSuccess
  startTlsRc : ResultCode := ldapSuccess
  bindRc : ResultCode := ldapSuccess
  deriving DecidableEq, Repr

def bindError (profile : SbvProfile) (rc : ResultCode) : GError :=
  match profile.authType with
  | .kerberos =>
      { code := .auth
        text := cstr "GSSAPI bind failed: "
        reason := some rc
        hint := cstr "\n(Hint: run 'kinit user@REALM' first)" }
  | .simple =>
      { code := .auth, text := cstr "Authentication failed: ", reason := some rc }

def connectThread (replies : ConnectReplies) (data : ConnectData)
    (library : Libldap) (self : SbvConnection) :
    Except GError Unit × Libldap × SbvConnection :=
  let profile := data.profile
  if replies.initializeRc ≠ ldapSuccess then
    (.error
      { code := .connection
        text := cstr "ldap_initialize: "
        reason := some replies.initializeRc }, library, self)
  else
    let (ld, library) :=
      library.openHandle (serverUri profile.useLdaps profile.host profile.port)
        profile.skipCert
    if profile.useTls ∧ replies.startTlsRc ≠ ldapSuccess then
      (.error
        { code := .tls, text := cstr "STARTTLS failed: ", reason := some replies.startTlsRc },
        library.unbind ld, self)
    else if replies.bindRc ≠ ldapSuccess then
      (.error (bindError profile replies.bindRc), library.unbind ld, self)
    else
      let library :=
        match self.ld with
        | some previous => library.unbind previous
        | none => library
      (.ok (), library,
        { ld := some ld
          host := profile.host
          baseDn := profile.baseDn
          port := profile.port
          connected := true
          profile := some profile })

def ConnectReplies.bound (replies : ConnectReplies) (profile : SbvProfile) : Bool :=
  replies.initializeRc = ldapSuccess &&
    (!profile.useTls || replies.startTlsRc = ldapSuccess) && replies.bindRc = ldapSuccess

theorem ConnectReplies.bound_iff {replies : ConnectReplies} {profile : SbvProfile} :
    replies.bound profile = true ↔
      ¬ replies.initializeRc ≠ ldapSuccess ∧
        ¬ (profile.useTls = true ∧ replies.startTlsRc ≠ ldapSuccess) ∧
          ¬ replies.bindRc ≠ ldapSuccess := by
  cases secured : profile.useTls with
  | true => simp [bound, secured, and_assoc]
  | false => simp [bound, secured]

theorem connectThread_bound (replies : ConnectReplies) (data : ConnectData)
    (library : Libldap) (self : SbvConnection) :
    (connectThread replies data library self).1 = .ok () ↔
      replies.bound data.profile = true := by
  rw [ConnectReplies.bound_iff]
  unfold connectThread
  dsimp only
  split
  next refused => exact iff_of_false (by simp) (fun bound => bound.1 refused)
  next opened =>
    split
    next refused => exact iff_of_false (by simp) (fun bound => bound.2.1 refused)
    next secured =>
      split
      next refused => exact iff_of_false (by simp) (fun bound => bound.2.2 refused)
      next bound => exact iff_of_true rfl ⟨opened, secured, bound⟩

/-! Who am I? -/

/-- `reply` is what `ldap_whoami_s` gives. -/
def whoamiThread (reply : ResultCode × Option (List UInt8)) :
    LdapM (Except GError CString) :=
  whenConnected do
    let _ ← send .whoami
    releaseLdap
    return if reply.1 = ldapSuccess then .ok (orEmpty (reply.2.map untilNul))
      else .error (ldapError "Who am I? failed: " reply.1)

theorem whoamiThread_eq (reply : ResultCode × Option (List UInt8)) :
    whoamiThread reply =
      underLock (do
        let _ ← send .whoami
        return if reply.1 = ldapSuccess then .ok (orEmpty (reply.2.map untilNul))
          else .error (ldapError "Who am I? failed: " reply.1)) := rfl

end Sambervise.Backend
