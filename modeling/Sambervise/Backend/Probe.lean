import Sambervise.Backend.Connection
import Sambervise.Transition.Run

namespace Sambervise.Backend

open Text Ldap Model Transition

structure ProbeData where
  host : Option CString
  port : GInt
  useLdaps : Bool
  useStarttls : Bool
  skipCert : Bool
  bindProfile : Option SbvProfile := none
  bindPassword : Option CString := none
  deriving DecidableEq, Repr

structure ProbeReplies where
  initializeRc : ResultCode := ldapSuccess
  startTlsRc : ResultCode := ldapSuccess
  searchRc : ResultCode := ldapSuccess
  bindRc : ResultCode := ldapSuccess
  rootdse : Option (List (CString × List CString)) := none
  deriving DecidableEq, Repr

structure SbvProbeResult where
  rootdse : List (CString × List CString)
  bindError : Option GError
  deriving DecidableEq, Repr

/-- `do_bind`: the error text of a failed bind, with this worker's own hint. -/
def doBind (profile : SbvProfile) (rc : ResultCode) : Option GError :=
  if rc = ldapSuccess then none
  else
    match profile.authType with
    | .kerberos =>
        some
          { code := .auth
            text := cstr "GSSAPI bind failed: "
            reason := some rc
            hint := cstr " (hint: run kinit first)" }
    | .simple =>
        some { code := .auth, text := cstr "Authentication failed: ", reason := some rc }

def probeThread (replies : ProbeReplies) (data : ProbeData) (library : Libldap) :
    Except GError SbvProbeResult × Libldap :=
  if replies.initializeRc ≠ ldapSuccess then
    (.error
      { code := .connection
        text := cstr "ldap_initialize: "
        reason := some replies.initializeRc }, library)
  else
    let (ld, library) :=
      library.openHandle (serverUri data.useLdaps data.host data.port) data.skipCert
    if data.useStarttls ∧ replies.startTlsRc ≠ ldapSuccess then
      (.error
        { code := .tls
          text := cstr "STARTTLS failed: "
          reason := some replies.startTlsRc }, library.unbind ld)
    else if replies.searchRc ≠ ldapSuccess then
      (.error (ldapError "RootDSE read failed: " replies.searchRc), library.unbind ld)
    else
      (.ok
        { rootdse := replies.rootdse.getD []
          bindError := data.bindProfile.bind (doBind · replies.bindRc) },
        library.unbind ld)

/-! Histories of connects and probes in one process -/

inductive ConnectionOp where
  | connect (self : SbvConnection) (data : ConnectData) (replies : ConnectReplies)
  | probe (data : ProbeData) (replies : ProbeReplies)
  deriving DecidableEq, Repr

def ConnectionOp.perform (library : Libldap) : ConnectionOp → Libldap
  | .connect self data replies => (connectThread replies data library self).2.1
  | .probe data replies => (probeThread replies data library).2

/-- The operation gets as far as switching the check off for its own server. -/
def ConnectionOp.skipsCert : ConnectionOp → Bool
  | .connect _ data replies =>
      data.profile.skipCert && replies.initializeRc == ldapSuccess
  | .probe data replies => data.skipCert && replies.initializeRc == ldapSuccess

/-- How the server's certificate is treated on the connection that a connect
over `self` makes when all its steps succeed. -/
def connectionPolicy (library : Libldap) (self : SbvConnection) (data : ConnectData) :
    Option CertPolicy :=
  (connectThread {} data library self).2.2.ld.map LdapHandle.requireCert

theorem connectThread_requireCert (replies : ConnectReplies) (data : ConnectData)
    (library : Libldap) (self : SbvConnection) :
    (connectThread replies data library self).2.1.requireCert =
      if data.profile.skipCert && replies.initializeRc == ldapSuccess then .never
      else library.requireCert := by
  unfold connectThread
  by_cases started : replies.initializeRc = ldapSuccess
  · simp only [started, ne_eq, not_true_eq_false, if_false, beq_self_eq_true,
      Bool.and_true]
    split
    · simp
    · split
      · simp
      · cases self.ld with
        | none => simp
        | some previous => simp
  · simp [started]

theorem probeThread_requireCert (replies : ProbeReplies) (data : ProbeData)
    (library : Libldap) :
    (probeThread replies data library).2.requireCert =
      if data.skipCert && replies.initializeRc == ldapSuccess then .never
      else library.requireCert := by
  unfold probeThread
  by_cases started : replies.initializeRc = ldapSuccess
  · simp only [started, ne_eq, not_true_eq_false, if_false, beq_self_eq_true,
      Bool.and_true]
    split
    · simp
    · split
      · simp
      · simp
  · simp [started]

theorem perform_requireCert (library : Libldap) (op : ConnectionOp) :
    (op.perform library).requireCert =
      if op.skipsCert then .never else library.requireCert := by
  cases op with
  | connect self data replies => exact connectThread_requireCert replies data library self
  | probe data replies => exact probeThread_requireCert replies data library

theorem run_requireCert (library : Libldap) (history : List ConnectionOp) :
    (run ConnectionOp.perform library history).requireCert =
      if history.any ConnectionOp.skipsCert then .never else library.requireCert := by
  induction history generalizing library with
  | nil => rfl
  | cons op rest ih =>
      rw [run_cons, ih, perform_requireCert, List.any_cons]
      cases op.skipsCert with
      | true => simp
      | false => simp

theorem connectionPolicy_eq (library : Libldap) (self : SbvConnection)
    (data : ConnectData) :
    connectionPolicy library self data =
      some (if data.profile.skipCert then .never else library.requireCert) := by
  simp [connectionPolicy, connectThread]

/-- After two histories a connect with the same profile checks the certificate
alike exactly where its own profile skips the check, the library never made it, or
both histories or neither have had an operation that skipped it. -/
theorem verification_independent_iff (library : Libldap)
    (first second : List ConnectionOp) (firstSelf secondSelf : SbvConnection)
    (data : ConnectData) :
    (connectionPolicy (run ConnectionOp.perform library first) firstSelf data).map
          CertPolicy.verifies =
        (connectionPolicy (run ConnectionOp.perform library second) secondSelf data).map
          CertPolicy.verifies ↔
      data.profile.skipCert = true ∨ library.requireCert.verifies = false ∨
        first.any ConnectionOp.skipsCert = second.any ConnectionOp.skipsCert := by
  simp only [connectionPolicy_eq, run_requireCert, Option.map_some, Option.some.injEq]
  cases data.profile.skipCert with
  | true => simp
  | false =>
      cases first.any ConnectionOp.skipsCert with
      | true =>
          cases second.any ConnectionOp.skipsCert with
          | true => simp
          | false =>
              cases checks : library.requireCert.verifies with
              | true => simp [checks]
              | false => simp [checks]
      | false =>
          cases second.any ConnectionOp.skipsCert with
          | true => simp
          | false => simp

/-- One earlier connect with a profile that skips the check is enough to lose it
for a profile that does not. -/
theorem verification_depends_on_history :
    let lab : ConnectData := { profile := { skipCert := true }, password := none }
    let office : ConnectData := { profile := {}, password := none }
    let library : Libldap := { requireCert := .demand, nextHandle := 0, unbound := [] }
    (connectionPolicy (run ConnectionOp.perform library []) {} office).map
        CertPolicy.verifies = some true ∧
      (connectionPolicy (run ConnectionOp.perform library [.connect {} lab {}]) {}
        office).map CertPolicy.verifies = some false := by
  decide

end Sambervise.Backend
