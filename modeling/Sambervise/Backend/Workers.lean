import Sambervise.Ldap.Session
import Sambervise.Model.Objects

namespace Sambervise.Backend

open Text Ldap Model

/-! The lock every worker holds while it talks to the server. -/

def notConnected : GError :=
  { code := .connection, text := cstr "Not connected" }

def ldapError (text : String) (rc : ResultCode) : GError :=
  { code := .ldap, text := cstr text, reason := some rc }

/-- How the workers begin: they take the lock, and release it at once where there is no
handle. -/
def whenConnected {α : Type} (rest : LdapM (Except GError α)) : LdapM (Except GError α) := do
  if ← acquireLdap then rest
  else
    releaseLdap
    return .error notConnected

section Releasing

variable {α β : Type}

def releasing (critical : LdapM (Except GError α)) : LdapM (Except GError α) := do
  let result ← critical
  releaseLdap
  return result

theorem releasing_bind (first : LdapM β) (next : β → LdapM (Except GError α)) :
    releasing (first >>= next) = first >>= fun value => releasing (next value) := rfl

theorem releasing_ite {condition : Prop} [Decidable condition]
    (yes no : LdapM (Except GError α)) :
    releasing (if condition then yes else no) =
      if condition then releasing yes else releasing no := by
  split
  · rfl
  · rfl

/-- What the workers come to, which release the lock at each of their exits. -/
def underLock (critical : LdapM (Except GError α)) : LdapM (Except GError α) :=
  whenConnected (releasing critical)

end Releasing

theorem underLock_apply {α : Type} (critical : LdapM (Except GError α))
    (session : Session) :
    underLock critical session =
      if session.ld then
        let (result, after) := critical { session with acquired := session.acquired + 1 }
        (result, { after with released := after.released + 1 })
      else
        (.error notConnected,
          { session with
            acquired := session.acquired + 1
            released := session.released + 1 }) := by
  cases connected : session.ld with
  | true => simp [underLock, whenConnected, acquireLdap, bind, StateT.bind, connected]; rfl
  | false => simp [underLock, whenConnected, acquireLdap, bind, StateT.bind, connected]; rfl

theorem underLock_disconnected {α : Type} {critical : LdapM (Except GError α)}
    {session : Session} (disconnected : session.ld = false) (value : α) :
    (underLock critical session).1 ≠ .ok value ∧
      session.Becomes session.directory (underLock critical session).2 := by
  rw [underLock_apply, if_neg (by simp [disconnected])]
  exact ⟨by simp, rfl, rfl, rfl⟩

/-- A search of everything below the base DN. -/
def subtreeRequest (filter : CString) (attrs : List String) (baseDn : Option CString) :
    SearchRequest :=
  { base := baseDn
    scope := .subtree
    filter
    attrs := attrs.map cstr }

def checked (text : String) (rc : ResultCode) : Except GError Unit :=
  if rc = ldapSuccess then .ok () else .error (ldapError text rc)

/-! Reading and writing attributes -/

/-- `bv[0]->bv_val` where the attribute has a value. -/
def firstValue (attrs : Attributes) (type : String) : Option CString :=
  (attrs.values (cstr type)).head?.map untilNul

/-- The value of a numeric attribute as `(gint) strtol` makes it. -/
def firstGInt (attrs : Attributes) (type : String) : GInt :=
  ((firstValue attrs type).map fun value => (strtoll value).setWidth 32).getD (-1)

/-- All the values of an attribute, where the entry has it. -/
def allValues (attrs : Attributes) (type : String) : Option (List CString) :=
  match attrs.values (cstr type) with
  | [] => none
  | values => some (values.map untilNul)

def replaceMod (type : String) (values : List CString) : LdapMod :=
  { op := .replace, type := cstr type, values }

/-- `ADD_MOD`: NULL leaves the attribute alone and the empty string clears it. -/
def addMod (type : String) (value : Option CString) : List LdapMod :=
  match value with
  | none => []
  | some value => [replaceMod type (if value = [] then [] else [value])]

def modifyUpdated (dn : CString) (mods : List LdapMod) : LdapM (Except GError Unit) := do
  if mods = [] then return .ok ()
  else checked "Attribute update failed: " <$> modifyExt dn mods

/-- The workers that make one modification. -/
def modifyEntry (text : String) (dn : CString) (mods : List LdapMod) :
    LdapM (Except GError Unit) :=
  whenConnected do
    let rc ← modifyExt dn mods
    releaseLdap
    return checked text rc

theorem modifyEntry_eq (text : String) (dn : CString) (mods : List LdapMod) :
    modifyEntry text dn mods = underLock (checked text <$> modifyExt dn mods) := rfl

/-! userAccountControl -/

def uacAccountDisable : GInt64 := 0x0002

/-- The value read, or the worker's own where the answer has none. -/
def uacRead (fallback : GInt64) (entry : Option Attributes) : GInt64 :=
  match entry.bind (firstValue · "userAccountControl") with
  | some value => strtoll value
  | none => fallback

def uacWithEnabled (enabled : Bool) (uac : GInt64) : GInt64 :=
  if enabled then uac &&& ~~~uacAccountDisable else uac ||| uacAccountDisable

theorem uacWithEnabled_disable (enabled : Bool) (uac : GInt64) :
    decide (uacWithEnabled enabled uac &&& uacAccountDisable = 0) = enabled := by
  cases enabled with
  | true =>
      rw [decide_eq_true_eq]
      ext i inside
      simp [uacWithEnabled]
  | false =>
      rw [decide_eq_false_iff_not]
      intro cleared
      have bit := congrArg (fun word : GInt64 => word[1]) cleared
      simp [uacWithEnabled, uacAccountDisable] at bit

structure SetEnabledData where
  dn : Option CString
  enabled : Bool
  deriving DecidableEq, Repr

/-- `set_enabled_thread` of users and computers, which differ in the value they
start from when the server returns none. -/
def setEnabledFrom (fallback : GInt64) (d : SetEnabledData) : LdapM (Except GError Unit) :=
  whenConnected do
    let (rc, entry) ← searchBase (orEmpty d.dn)
    if rc ≠ ldapSuccess then
      releaseLdap
      return .error (ldapError "Read failed: " rc)
    else
      let uac := uacWithEnabled d.enabled (uacRead fallback entry)
      let rc ← modifyExt (orEmpty d.dn) [replaceMod "userAccountControl" [formatInt64 uac]]
      releaseLdap
      return checked "Modify failed: " rc

theorem setEnabledFrom_eq (fallback : GInt64) (d : SetEnabledData) :
    setEnabledFrom fallback d =
      underLock (do
        let (rc, entry) ← searchBase (orEmpty d.dn)
        if rc ≠ ldapSuccess then
          return .error (ldapError "Read failed: " rc)
        else
          let uac := uacWithEnabled d.enabled (uacRead fallback entry)
          checked "Modify failed: " <$>
            modifyExt (orEmpty d.dn)
              [replaceMod "userAccountControl" [formatInt64 uac]]) := by
  rw [underLock, releasing_bind]
  simp only [releasing_ite]
  rfl

def enabledBase (fallback : GInt64) (session : Session) (entry : Entry) : GInt64 :=
  uacRead fallback (session.outcome.visible (some entry.attrs))

section SetEnabled

variable {fallback : GInt64} {d : SetEnabledData} {session : Session}
  {dn : DistinguishedName} {entry : Entry}

theorem setEnabledFrom_apply (connected : session.ld = true) :
    setEnabledFrom fallback d session =
      let read := searchBase (orEmpty d.dn)
        { session with acquired := session.acquired + 1 }
      if read.1.1 = ldapSuccess then
        let uac := uacWithEnabled d.enabled (uacRead fallback read.1.2)
        let modified := modifyExt (orEmpty d.dn)
          [replaceMod "userAccountControl" [formatInt64 uac]] read.2
        (checked "Modify failed: " modified.1,
          { modified.2 with released := modified.2.released + 1 })
      else
        (.error (ldapError "Read failed: " read.1.1),
          { read.2 with released := read.2.released + 1 }) := by
  rw [setEnabledFrom_eq, underLock_apply, if_pos connected]
  simp only [bind, StateT.bind]
  cases reply : searchBase (orEmpty d.dn)
      { session with acquired := session.acquired + 1 } with
  | mk answer read =>
      by_cases success : answer.1 = ldapSuccess
      · simp [success]
        rfl
      · simp [success]
        rfl

theorem setEnabledFrom_carriedOut (serves : session.serves 2 = true)
    (found : session.directory.find session.rule (orEmpty d.dn) = .ok (dn, entry)) :
    (setEnabledFrom fallback d session).1 = .ok () ∧
      session.Becomes
        (Function.update session.directory dn
          (some
            { entry with
              attrs := entry.attrs.set (cstr "userAccountControl")
                [formatInt64
                  (uacWithEnabled d.enabled (enabledBase fallback session entry))] }))
        (setEnabledFrom fallback d session).2 := by
  obtain ⟨connected, read, written⟩ := Session.serves_two_iff.mp serves
  rw [setEnabledFrom_apply connected, searchBase_carriedOut (by exact read) (by exact found)]
  dsimp only
  rw [if_pos rfl,
    modifyExt_replaces (by exact written) (by simp [replaceMod]) (by exact found)]
  exact ⟨rfl, rfl, rfl, rfl⟩

theorem setEnabledFrom_refused (refused : session.serves 2 = false)
    (found : session.directory.find session.rule (orEmpty d.dn) = .ok (dn, entry)) :
    (setEnabledFrom fallback d session).1 ≠ .ok () ∧
      session.Becomes session.directory (setEnabledFrom fallback d session).2 := by
  cases connected : session.ld with
  | false =>
      rw [setEnabledFrom_eq]
      exact underLock_disconnected connected ()
  | true =>
      rw [setEnabledFrom_apply connected]
      cases read : session.outcome.carriedOut with
      | false =>
          obtain ⟨rc, failure, reply⟩ := @send_refused (.search (orEmpty d.dn))
            { session with acquired := session.acquired + 1 } read
          rw [searchBase, reply]
          dsimp only
          rw [if_neg failure]
          exact ⟨by simp, rfl, rfl, rfl⟩
      | true =>
          have written : (session.outcomes.tail.headD .served).carriedOut = false := by
            rw [Session.serves, connected, allCarriedOut,
              show (session.outcomes.headD .served).carriedOut = true from read] at refused
            simpa [allCarriedOut] using refused
          rw [searchBase_carriedOut (by exact read) (by exact found)]
          dsimp only
          rw [if_pos rfl]
          generalize [replaceMod "userAccountControl" _] = mods
          obtain ⟨rc, failure, reply⟩ := modifyExt_refused (orEmpty d.dn) mods
            (show (Session.asked { session with acquired := session.acquired + 1 }
              (.search (orEmpty d.dn))).outcome.carriedOut = false from written)
          rw [reply]
          exact ⟨by simp [checked, failure], rfl, rfl, rfl⟩

theorem setEnabledFrom_missing {rule : MatchingRule} {directory : Directory}
    (on : session.On rule directory) {rc : ResultCode}
    (missing : directory.find rule (orEmpty d.dn) = .error rc) :
    ∃ error, (setEnabledFrom fallback d session).1 = .error error := by
  rw [setEnabledFrom_apply on.connected]
  have reply := (on.acquire (session.acquired + 1)).searchBase_error missing
  dsimp only
  rw [if_neg (reply ▸ Directory.find_error missing)]
  exact ⟨_, rfl⟩

end SetEnabled

/-! RFC 2307 attributes -/

/-- The write of the Unix ids of users and of groups. Unlike the other workers these two
keep the lock when there is no handle. -/
def setUnixFrom (dn : CString) (mods : List LdapMod) : LdapM (Except GError Unit) := do
  if ← acquireLdap then
    let rc ← modifyExt dn mods
    releaseLdap
    return checked "Failed to set Unix attributes: " rc
  else
    return .error notConnected

theorem setUnixFrom_apply {session : Session} (connected : session.ld = true) (dn : CString)
    (mods : List LdapMod) :
    setUnixFrom dn mods session =
      let modified := modifyExt dn mods { session with acquired := session.acquired + 1 }
      (checked "Failed to set Unix attributes: " modified.1,
        { modified.2 with released := modified.2.released + 1 }) := by
  simp [setUnixFrom, acquireLdap, releaseLdap, bind, StateT.bind, connected]
  rfl

theorem setUnixFrom_disconnected {session : Session} (disconnected : session.ld = false)
    (dn : CString) (mods : List LdapMod) :
    setUnixFrom dn mods session =
      (.error notConnected, { session with acquired := session.acquired + 1 }) := by
  simp [setUnixFrom, acquireLdap, bind, StateT.bind, disconnected]
  rfl

theorem sent_setUnixFrom {session : Session} (connected : session.ld = true) (dn : CString)
    (mods : List LdapMod) :
    (setUnixFrom dn mods session).2.sent = session.sent ++ [.modify dn mods] := by
  rw [setUnixFrom_apply connected, modifyExt_apply]
  exact sent_send (.modify dn mods) _

/-! Names -/

/-- `CN=%s` and `CN=%s,%s` -/
def cnRdn (cn : CString) : CString := cstr "CN=" ++ cn

def cnDn (cn parent : CString) : CString := cnRdn cn ++ cstr "," ++ parent

/-- What follows the first comma of a DN, whether or not it is escaped. -/
def afterFirstComma (dn : CString) : CString := (dn.dropWhile (· != comma)).tail

/-- The update of an entry whose `cn` is its name: the rename comes first, and the
other attributes are modified under the DN the entry is taken to have then. -/
def renameThenModify (dn cn : CString) (mods : List LdapMod) : LdapM (Except GError Unit) :=
  whenConnected do
    if cn = [] then releasing (modifyUpdated dn mods)
    else
      let rc ← renameSync dn (cnRdn cn)
      if rc ≠ ldapSuccess then
        releaseLdap
        return .error (ldapError "Rename failed: " rc)
      else releasing (modifyUpdated (cnDn cn (afterFirstComma dn)) mods)

theorem renameThenModify_eq (dn cn : CString) (mods : List LdapMod) :
    renameThenModify dn cn mods =
      underLock (do
        if cn = [] then modifyUpdated dn mods
        else
          let rc ← renameSync dn (cnRdn cn)
          if rc ≠ ldapSuccess then return .error (ldapError "Rename failed: " rc)
          else modifyUpdated (cnDn cn (afterFirstComma dn)) mods) := by
  rw [underLock, releasing_ite, releasing_bind]
  simp only [releasing_ite]
  rfl

theorem cnDn_eq (cn parent : CString) :
    cnDn cn parent = cstr "CN" ++ equals :: cn ++ comma :: parent := by
  rw [cnDn, cnRdn, List.append_assoc]
  rfl

/-- Such a name begins with the common name. -/
theorem type_of_cnDn {cn parent : CString} {assertion : AttributeTypeAndValue}
    {rest : DistinguishedName} (parsed : parseDn (cnDn cn parent) = some ([assertion] :: rest)) :
    assertion.type = cstr "CN" := by
  rw [cnDn_eq, List.append_assoc] at parsed
  exact type_of_parseDn (by decide) parsed

section RenameThenModify

variable {session : Session} {dn cn : CString} {mods : List LdapMod}

theorem modifyUpdated_apply (something : mods ≠ []) :
    modifyUpdated dn mods session =
      (checked "Attribute update failed: " (modifyExt dn mods session).1,
        (modifyExt dn mods session).2) := by
  rw [modifyUpdated, if_neg something]
  rfl

theorem renameThenModify_apply (connected : session.ld = true) (named : cn ≠ []) :
    renameThenModify dn cn mods session =
      let renamed := renameSync dn (cnRdn cn)
        { session with acquired := session.acquired + 1 }
      if renamed.1 = ldapSuccess then
        let modified := modifyUpdated (cnDn cn (afterFirstComma dn)) mods renamed.2
        (modified.1, { modified.2 with released := modified.2.released + 1 })
      else
        (.error (ldapError "Rename failed: " renamed.1),
          { renamed.2 with released := renamed.2.released + 1 }) := by
  rw [renameThenModify_eq, underLock_apply, if_pos connected]
  simp only [bind, StateT.bind, if_neg named]
  cases reply : renameSync dn (cnRdn cn) { session with acquired := session.acquired + 1 } with
  | mk rc moved =>
      by_cases success : rc = ldapSuccess
      · simp [success]
        rfl
      · simp [success]
        rfl

def renamedThenModified (rule : MatchingRule) (directory : Directory) (dn cn : CString)
    (mods : List LdapMod) : Except ResultCode Directory := do
  let moved ← directory.rename rule dn (cnRdn cn)
  moved.modify rule (cnDn cn (afterFirstComma dn)) mods

section On

variable {rule : MatchingRule} {directory : Directory} (on : session.On rule directory)
  (named : cn ≠ []) (something : mods ≠ [])
include on named something

theorem renameThenModify_ok {after : Directory}
    (done : renamedThenModified rule directory dn cn mods = .ok after) :
    (renameThenModify dn cn mods session).1 = .ok () ∧
      (renameThenModify dn cn mods session).2.On rule after := by
  rw [renameThenModify_apply on.connected named]
  unfold renamedThenModified at done
  cases renamed : directory.rename rule dn (cnRdn cn) with
  | error rc =>
      rw [renamed] at done
      cases done
  | ok moved =>
      rw [renamed] at done
      obtain ⟨success, onMoved⟩ := (on.acquire (session.acquired + 1)).renameSync_ok renamed
      obtain ⟨written, onAfter⟩ := onMoved.modifyExt_ok done
      dsimp only
      rw [if_pos success, modifyUpdated_apply something, written]
      exact ⟨rfl, onAfter.release _⟩

theorem renameThenModify_error (replaces : ∀ mod ∈ mods, mod.op = .replace) {rc : ResultCode}
    (failed : renamedThenModified rule directory dn cn mods = .error rc) :
    ∃ error, (renameThenModify dn cn mods session).1 = .error error := by
  rw [renameThenModify_apply on.connected named]
  unfold renamedThenModified at failed
  have onAcquired := on.acquire (session.acquired + 1)
  cases renamed : directory.rename rule dn (cnRdn cn) with
  | error rc =>
      have reply := onAcquired.renameSync_error renamed
      dsimp only
      rw [if_neg (reply ▸ Directory.rename_error renamed)]
      exact ⟨_, rfl⟩
  | ok moved =>
      rw [renamed] at failed
      obtain ⟨success, onMoved⟩ := onAcquired.renameSync_ok renamed
      have reply := onMoved.modifyExt_error failed
      dsimp only
      rw [if_pos success, modifyUpdated_apply something, checked,
        if_neg (reply ▸ Directory.modify_error replaces failed)]
      exact ⟨_, rfl⟩

end On

end RenameThenModify

/-! Adding and deleting -/

def plainMod (type : String) (values : List CString) : LdapMod :=
  { op := .add, type := cstr type, values }

def optionalMod (type : String) (value : CString) : List LdapMod :=
  if value = [] then [] else [plainMod type [value]]

/-- The end the four create workers share: one `ldap_add_ext_s`, and the DN. -/
def addEntry (dn : CString) (mods : List LdapMod) : LdapM (Except GError CString) :=
  whenConnected do
    let rc ← addExt dn mods
    releaseLdap
    return if rc = ldapSuccess then .ok dn else .error (ldapError "Create failed: " rc)

theorem addEntry_eq (dn : CString) (mods : List LdapMod) :
    addEntry dn mods =
      underLock (do
        let rc ← addExt dn mods
        return if rc = ldapSuccess then .ok dn
          else .error (ldapError "Create failed: " rc)) := rfl

theorem sent_addEntry {session : Session} (connected : session.ld = true)
    (dn : CString) (mods : List LdapMod) :
    (addEntry dn mods session).2.sent = session.sent ++ [.add dn mods] := by
  rw [addEntry_eq, underLock_apply, if_pos connected]
  exact sent_send (.add dn mods) _

def deleteEntry (dn : Option CString) : LdapM (Except GError Unit) :=
  whenConnected do
    let rc ← deleteExt (orEmpty dn)
    releaseLdap
    return checked "Delete failed: " rc

theorem deleteEntry_eq (dn : Option CString) :
    deleteEntry dn = underLock (checked "Delete failed: " <$> deleteExt (orEmpty dn)) := rfl

end Sambervise.Backend
