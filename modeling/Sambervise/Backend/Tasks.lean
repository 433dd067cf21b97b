import Sambervise.Backend.LockBalance
import Sambervise.Ldap.Service

namespace Sambervise.Backend

open Text Ldap Model Transition

/-! What each worker asks the server for: at most two requests, the second only after
the first has succeeded. -/

def once (request : Request) : Task := .ask request fun _ => .done

/-- The flags that are written back are those of the entry that was read. -/
def enableTask (fallback : GInt64) (d : SetEnabledData) : Task :=
  .ask (.search (orEmpty d.dn)) fun entry =>
    once
      (.modify (orEmpty d.dn)
        [replaceMod "userAccountControl"
          [formatInt64 (uacWithEnabled d.enabled (uacRead fallback entry))]])

def updateTask (dn : CString) (mods : List LdapMod) : Task :=
  if mods = [] then .done else once (.modify dn mods)

def renameTask (dn cn : CString) (mods : List LdapMod) : Task :=
  if cn = [] then updateTask dn mods
  else
    .ask (.rename dn (cnRdn cn)) fun _ => updateTask (cnDn cn (afterFirstComma dn)) mods

namespace Worker

/-- The one search that a worker makes which lists, checks or browses. -/
def query (baseDn : Option CString) : Worker → Option SearchRequest
  | usersList _ => some (Users.listRequest baseDn)
  | groupsList _ => some (Groups.listRequest baseDn)
  | computersList _ => some (Computers.listRequest baseDn)
  | contactsList _ => some (Contacts.listRequest baseDn)
  | collisionsCheck _ d => some (d.request baseDn)
  | collisionsNextFree _ d => some (d.request baseDn)
  | browseChildren _ _ parentDn => some (childrenRequest parentDn)
  | browseAttrs _ dn => some (attrsRequest dn)
  | browseSearch _ _ d => some d.request
  | _ => none

def task (baseDn : Option CString) : Worker → Task
  | usersSetEnabled d => enableTask Users.uacNormalAccount d
  | computersSetEnabled d => enableTask 0 d
  | usersResetPassword convert d =>
      match convert (cstr "\"" ++ d.newPassword ++ cstr "\"") with
      | .error _ => .giveUp
      | .ok utf16 => once (.modify (orEmpty d.dn) [replaceMod "unicodePwd" [utf16]])
  | usersUpdateAttrs d => renameTask (orEmpty d.dn) (orEmpty d.cn) d.mods
  | contactsUpdate d => renameTask (orEmpty d.dn) (orEmpty d.cn) d.mods
  | usersSetPasswordFlags d => once (.modify (orEmpty d.dn) d.mods)
  | usersSetUnixAttrs d => once (.modify (orEmpty d.dn) d.mods)
  | groupsSetUnixAttrs d => once (.modify (orEmpty d.dn) d.mods)
  | groupsModifyMember d =>
      once
        (.modify (orEmpty d.groupDn)
          [{ op := d.ldapOp, type := cstr "member", values := [d.memberDn] }])
  | computersUpdateAttrs d => updateTask (orEmpty d.dn) d.mods
  | computersSetSpn d =>
      once (.modify (orEmpty d.dn) [replaceMod "servicePrincipalName" d.spns])
  | usersCreate d => once (.add (cnDn d.cn d.containerDn) d.mods)
  | groupsCreate d => once (.add (cnDn d.sam d.containerDn) d.mods)
  | computersCreate d => once (.add (cnDn d.cn d.containerDn) d.mods)
  | contactsCreate d => once (.add (cnDn d.cn d.containerDn) d.mods)
  | usersDelete dn | groupsDelete dn | computersDelete dn | contactsDelete dn =>
      once (.delete (orEmpty dn))
  | browseModify d => updateTask d.dn d.ldapMods
  | idmapHintsQuery _ => once (.search (ypServersDn baseDn))
  | whoami _ => once .whoami
  | worker => (worker.query baseDn).elim .done fun request => once (.query request)

/-- Without a handle nothing is asked for. -/
def script (worker : Worker) (session : Session) : Task :=
  if session.ld then worker.task session.baseDn else .giveUp

/-- The workers that change the directory. -/
def Writes : Worker → Prop
  | usersSetEnabled _ | usersResetPassword _ _ | usersUpdateAttrs _
  | usersSetPasswordFlags _ | usersSetUnixAttrs _ | usersCreate _ | usersDelete _
  | groupsModifyMember _ | groupsSetUnixAttrs _ | groupsCreate _ | groupsDelete _
  | computersSetEnabled _ | computersUpdateAttrs _ | computersSetSpn _
  | computersCreate _ | computersDelete _ | contactsCreate _ | contactsUpdate _
  | contactsDelete _ | browseModify _ => True
  | _ => False

/-- Whether the worker returns without an error. -/
def reports (worker : Worker) (session : Session) : Bool :=
  match worker with
  | usersList search => (Users.listThread search session).1.isOk
  | usersSetEnabled d => (Users.setEnabledThread d session).1.isOk
  | usersResetPassword convert d => (Users.resetPwThread convert d session).1.isOk
  | usersUpdateAttrs d => (Users.updateAttrsThread d session).1.isOk
  | usersSetPasswordFlags d => (Users.setPwFlagsThread d session).1.isOk
  | usersSetUnixAttrs d => (Users.setUnixAttrsThread d session).1.isOk
  | usersCreate d => (Users.createUserThread d session).1.isOk
  | usersDelete dn => (Users.deleteUserThread dn session).1.isOk
  | groupsList search => (Groups.listThread search session).1.isOk
  | groupsModifyMember d => (Groups.modifyMemberThread d session).1.isOk
  | groupsSetUnixAttrs d => (Groups.setGroupUnixThread d session).1.isOk
  | groupsCreate d => (Groups.createGroupThread d session).1.isOk
  | groupsDelete dn => (Groups.deleteGroupThread dn session).1.isOk
  | computersList search => (Computers.listThread search session).1.isOk
  | computersSetEnabled d => (Computers.setEnabledThread d session).1.isOk
  | computersUpdateAttrs d => (Computers.updateAttrsThread d session).1.isOk
  | computersSetSpn d => (Computers.setSpnThread d session).1.isOk
  | computersCreate d => (Computers.createComputerThread d session).1.isOk
  | computersDelete dn => (Computers.deleteComputerThread dn session).1.isOk
  | contactsList search => (Contacts.listThread search session).1.isOk
  | contactsCreate d => (Contacts.createThread d session).1.isOk
  | contactsUpdate d => (Contacts.updateThread d session).1.isOk
  | contactsDelete dn => (Contacts.deleteThread dn session).1.isOk
  | collisionsCheck search d => (Collisions.checkThread search d session).1.isOk
  | collisionsNextFree search d => (Collisions.nextFreeThread search d session).1.isOk
  | idmapHintsQuery base => (queryThread base session).1.isOk
  | browseChildren search collate parentDn =>
      (childrenThread search collate parentDn session).1.isOk
  | browseAttrs search dn => (attrsThread search dn session).1.isOk
  | browseSearch search collate d => (searchThread search collate d session).1.isOk
  | browseModify d => (modifyThread d session).1.isOk
  | whoami reply => (whoamiThread reply session).1.isOk

end Worker

/-! Critical sections that are such a script -/

/-- The section leaves what the task leaves, and succeeds exactly where it completes. -/
structure Enacts {α : Type} (task : Task) (critical : LdapM (Except GError α)) : Prop where
  leaves : ∀ session, (critical session).2 = task.follow Session.serve session
  reports : ∀ session, (critical session).1.isOk = task.completes Session.serve session

namespace Enacts

variable {α : Type}

theorem ok (value : α) : Enacts .done (pure (.ok value) : LdapM (Except GError α)) :=
  ⟨fun _ => rfl, fun _ => rfl⟩

theorem error (error : GError) :
    Enacts .giveUp (pure (.error error) : LdapM (Except GError α)) :=
  ⟨fun _ => rfl, fun _ => rfl⟩

theorem send {request : Request} {next : Option Attributes → Task}
    (rest : ResultCode × Option Attributes → LdapM (Except GError α))
    (succeeded : ∀ attrs, Enacts (next attrs) (rest (ldapSuccess, attrs)))
    (failed : ∀ rc attrs, rc ≠ ldapSuccess →
      ∃ error, rest (rc, attrs) = pure (.error error)) :
    Enacts (.ask request next) (Ldap.send request >>= rest) := by
  have split (session : Session) :
      (((Ldap.send request >>= rest) session).2 =
          (Script.ask request next).follow Session.serve session) ∧
        ((Ldap.send request >>= rest) session).1.isOk =
          (Script.ask request next).completes Session.serve session := by
    rw [Script.follow, Script.completes, Session.serve]
    change (rest (Ldap.send request session).1 (Ldap.send request session).2).2 = _ ∧
      (rest (Ldap.send request session).1 (Ldap.send request session).2).1.isOk = _
    obtain ⟨⟨rc, attrs⟩, after⟩ := Ldap.send request session
    by_cases success : rc = ldapSuccess
    · subst success
      exact ⟨(succeeded attrs).leaves after, (succeeded attrs).reports after⟩
    · obtain ⟨error, same⟩ := failed rc attrs success
      dsimp only
      rw [same, if_neg success]
      exact ⟨rfl, rfl⟩
  exact ⟨fun session => (split session).1, fun session => (split session).2⟩

/-- A last request, whose result code is the result. -/
theorem once (text : String) (request : Request) :
    Enacts (Backend.once request) (checked text <$> Prod.fst <$> Ldap.send request) := by
  refine Enacts.send
    (fun reply => (pure (checked text reply.1) : LdapM (Except GError Unit))) ?_ ?_
  · intro attrs
    exact ok ()
  · intro rc attrs failure
    exact ⟨ldapError text rc, by rw [checked, if_neg failure]⟩

theorem update (dn : CString) (mods : List LdapMod) :
    Enacts (updateTask dn mods) (modifyUpdated dn mods) := by
  unfold updateTask modifyUpdated
  split
  · exact ok ()
  · exact once _ _

theorem rename (dn cn : CString) (mods : List LdapMod) :
    Enacts (renameTask dn cn mods)
      (if cn = [] then modifyUpdated dn mods
      else do
        let rc ← renameSync dn (cnRdn cn)
        if rc ≠ ldapSuccess then return .error (ldapError "Rename failed: " rc)
        else modifyUpdated (cnDn cn (afterFirstComma dn)) mods) := by
  unfold renameTask
  split
  · exact update dn mods
  · refine Enacts.send (fun reply =>
      if reply.1 ≠ ldapSuccess then
        (return .error (ldapError "Rename failed: " reply.1) : LdapM (Except GError Unit))
      else modifyUpdated (cnDn cn (afterFirstComma dn)) mods) ?_ ?_
    · intro attrs
      rw [if_neg (by simp)]
      exact update _ mods
    · intro rc attrs failure
      exact ⟨_, if_pos failure⟩

theorem enable (fallback : GInt64) (d : SetEnabledData) :
    Enacts (enableTask fallback d)
      (do
        let (rc, entry) ← searchBase (orEmpty d.dn)
        if rc ≠ ldapSuccess then
          return .error (ldapError "Read failed: " rc)
        else
          let uac := uacWithEnabled d.enabled (uacRead fallback entry)
          checked "Modify failed: " <$>
            modifyExt (orEmpty d.dn)
              [replaceMod "userAccountControl" [formatInt64 uac]]) := by
  refine Enacts.send _ ?_ ?_
  · intro entry
    exact once _ _
  · intro rc entry failure
    exact ⟨_, if_pos failure⟩

/-- A failed conversion of the password is reported before anything is sent. -/
theorem resetPassword (dn : CString) (converted : Except GError (List UInt8)) :
    Enacts
      (match converted with
      | .error _ => .giveUp
      | .ok utf16 => Backend.once (.modify dn [replaceMod "unicodePwd" [utf16]]))
      (match converted with
      | .error error => return .error error
      | .ok utf16 => do
          let rc ← modifyExt dn [replaceMod "unicodePwd" [utf16]]
          return if rc = ldapSuccess then (.ok () : Except GError Unit)
            else .error
              { ldapError "Password reset failed: " rc with
                hint := cstr "\n(Hint: requires LDAPS or STARTTLS)" }) := by
  cases converted with
  | error failure => exact error failure
  | ok utf16 =>
      refine Enacts.send (fun reply =>
        (return if reply.1 = ldapSuccess then .ok ()
          else .error
            { ldapError "Password reset failed: " reply.1 with
              hint := cstr "\n(Hint: requires LDAPS or STARTTLS)" } :
          LdapM (Except GError Unit))) ?_ ?_
      · intro attrs
        exact ok ()
      · intro rc attrs failure
        exact ⟨_, congrArg pure (if_neg failure)⟩

theorem add (dn : CString) (mods : List LdapMod) :
    Enacts (Backend.once (.add dn mods))
      (do
        let rc ← addExt dn mods
        return if rc = ldapSuccess then .ok dn
          else .error (ldapError "Create failed: " rc)) := by
  refine Enacts.send (fun reply =>
    (return if reply.1 = ldapSuccess then .ok dn
      else .error (ldapError "Create failed: " reply.1) :
      LdapM (Except GError CString))) ?_ ?_
  · intro attrs
    exact ok dn
  · intro rc attrs failure
    exact ⟨_, congrArg pure (if_neg failure)⟩

theorem browseModify (d : ModifyData) :
    Enacts (updateTask d.dn d.ldapMods)
      (if d.mods = [] then (return .ok () : LdapM (Except GError Unit))
      else checked "Modify failed: " <$> modifyExt d.dn d.ldapMods) := by
  by_cases none : d.mods = []
  · rw [if_pos none, ModifyData.ldapMods, none]
    exact ok ()
  · rw [if_neg none, updateTask, if_neg (by simpa [ModifyData.ldapMods] using none)]
    exact once _ _

end Enacts

theorem follow_once (request : Request) (session : Session) :
    (once request).follow Session.serve session = (send request session).2 := by
  rw [once, Script.follow, Session.serve]
  split
  next same =>
    exact (Prod.ext_iff.mp same).2.symm
  next same =>
    exact (Prod.ext_iff.mp same).2.symm

theorem completes_once {request : Request} :
    (once request).completes Session.serve session = true ↔
      (send request session).1.1 = ldapSuccess := by
  rw [once, Script.completes]
  by_cases success : (send request session).1.1 = ldapSuccess
  · rw [Session.serve_succeeded success]
    exact iff_of_true rfl success
  · rw [Session.serve_failed success]
    exact iff_of_false Bool.false_ne_true success

section UnderLock

variable {α : Type} {task : Task} {critical : LdapM (Except GError α)}

/-- The section is entered with the lock counted once more, which nothing depends on. -/
theorem unlocked_underLock (session : Session)
    (leaves : ∀ acquired,
      (critical { session with acquired }).2 =
        task.follow Session.serve { session with acquired }) :
    (underLock critical session).2.unlocked =
      ((if session.ld then task else .giveUp).follow Session.serve session).unlocked := by
  rw [underLock_apply]
  split
  · have followed := congrArg Session.unlocked (leaves (session.acquired + 1))
    rw [follow_lock] at followed
    exact followed
  · rfl

theorem isOk_underLock (enacts : Enacts task critical) (session : Session) :
    (underLock critical session).1.isOk =
      (if session.ld then task else .giveUp).completes Session.serve session := by
  rw [underLock_apply]
  split
  · have reports := enacts.reports { session with acquired := session.acquired + 1 }
    rw [completes_lock] at reports
    exact reports
  · rfl

theorem follows_underLock (enacts : Enacts task critical) (session : Session) :
    (underLock critical session).2.unlocked =
        ((if session.ld then task else .giveUp).follow Session.serve session).unlocked ∧
      (True → (underLock critical session).1.isOk =
        (if session.ld then task else .giveUp).completes Session.serve session) :=
  ⟨unlocked_underLock session fun _ => enacts.leaves _,
    fun _ => isOk_underLock enacts session⟩

end UnderLock

/-! Workers that only read -/

/-- The answer to the one request is read, and the session is left as the request leaves
it. -/
theorem unlocked_reading {α : Type} {critical : LdapM (Except GError α)} {session : Session}
    {request : Request}
    (reads : ∀ acquired,
      (critical { session with acquired }).2 = (send request { session with acquired }).2) :
    (underLock critical session).2.unlocked =
      ((if session.ld then once request else .giveUp).follow Session.serve session).unlocked :=
  unlocked_underLock session fun acquired => (reads acquired).trans (follow_once _ _).symm

theorem unlocked_searchExt {α : Type} (search : LdapSearch) (text : String)
    (accepted : ResultCode → Bool) (request : Option CString → SearchRequest)
    (read : List SearchEntry → α) (session : Session) :
    (searchExt search text accepted request read session).2.unlocked =
      ((if session.ld then once (.query (request session.baseDn)) else .giveUp).follow
        Session.serve session).unlocked := by
  rw [searchExt_eq]
  exact unlocked_reading fun _ => rfl

theorem unlocked_searchFiltered {α : Type} (search : Search) (text : String) (filter : Filter)
    (attrs : List String) (read : List Attributes → α) (session : Session) :
    (Collisions.searchFiltered search text filter attrs read session).2.unlocked =
      ((if session.ld then
        once (.query (subtreeRequest filter.string attrs session.baseDn)) else .giveUp).follow
          Session.serve session).unlocked := by
  rw [Collisions.searchFiltered_eq]
  exact unlocked_reading fun _ => rfl

/-! The workers whose exits are written out -/

section Exits

variable (session : Session)

theorem follows_setEnabledFrom (fallback : GInt64) (d : SetEnabledData) :
    (setEnabledFrom fallback d session).2.unlocked =
        ((if session.ld then enableTask fallback d else .giveUp).follow
          Session.serve session).unlocked ∧
      (True → (setEnabledFrom fallback d session).1.isOk =
        (if session.ld then enableTask fallback d else .giveUp).completes
          Session.serve session) := by
  rw [setEnabledFrom_eq]
  exact follows_underLock (.enable fallback d) session

theorem follows_renameThenModify (dn cn : CString) (mods : List LdapMod) :
    (renameThenModify dn cn mods session).2.unlocked =
        ((if session.ld then renameTask dn cn mods else .giveUp).follow
          Session.serve session).unlocked ∧
      (True → (renameThenModify dn cn mods session).1.isOk =
        (if session.ld then renameTask dn cn mods else .giveUp).completes
          Session.serve session) := by
  rw [renameThenModify_eq]
  exact follows_underLock (.rename dn cn mods) session

end Exits

theorem follows_setUnixFrom (dn : CString) (mods : List LdapMod) (session : Session) :
    (setUnixFrom dn mods session).2.unlocked =
        ((if session.ld then once (.modify dn mods) else .giveUp).follow
          Session.serve session).unlocked ∧
      (True → (setUnixFrom dn mods session).1.isOk =
        (if session.ld then once (.modify dn mods) else .giveUp).completes
          Session.serve session) := by
  cases connected : session.ld with
  | false =>
      rw [setUnixFrom_disconnected connected]
      exact ⟨rfl, fun _ => rfl⟩
  | true =>
      have enacts := Enacts.once "Failed to set Unix attributes: " (.modify dn mods)
      have same := setUnixFrom_apply connected dn mods
      have leaves := congrArg Session.unlocked
        (enacts.leaves { session with acquired := session.acquired + 1 })
      have reports := enacts.reports { session with acquired := session.acquired + 1 }
      rw [follow_lock] at leaves
      rw [completes_lock] at reports
      rw [same]
      exact ⟨leaves, fun _ => reports⟩

/-- Every worker leaves behind what its requests do, up to the first of them that fails,
and one that changes the directory reports success exactly where none failed. -/
theorem Worker.follows_script (worker : Worker) (session : Session) :
    (worker.leaves session).unlocked =
        ((worker.script session).follow Session.serve session).unlocked ∧
      (worker.Writes →
        worker.reports session = (worker.script session).completes Session.serve session) := by
  cases worker with
  | usersList search | groupsList search | computersList search | contactsList search
  | browseChildren search collate parentDn | browseAttrs search dn
  | browseSearch search collate d =>
      exact ⟨unlocked_searchExt _ _ _ _ _ session, False.elim⟩
  | collisionsCheck search d | collisionsNextFree search d =>
      exact ⟨unlocked_searchFiltered _ _ _ _ _ session, False.elim⟩
  | whoami reply =>
      rw [leaves, whoamiThread_eq]
      exact ⟨unlocked_reading fun _ => rfl, False.elim⟩
  | idmapHintsQuery base =>
      rw [leaves, queryThread_eq]
      exact ⟨unlocked_reading fun _ => rfl, False.elim⟩
  | usersSetEnabled d => exact follows_setEnabledFrom session _ d
  | computersSetEnabled d => exact follows_setEnabledFrom session _ d
  | usersResetPassword convert d =>
      rw [leaves, reports, Users.resetPwThread_eq]
      exact follows_underLock (.resetPassword (orEmpty d.dn) _) session
  | usersUpdateAttrs d => exact follows_renameThenModify session _ _ d.mods
  | contactsUpdate d => exact follows_renameThenModify session _ _ d.mods
  | usersSetPasswordFlags d => exact follows_underLock (.once _ _) session
  | groupsModifyMember d => exact follows_underLock (.once _ _) session
  | computersSetSpn d => exact follows_underLock (.once _ _) session
  | usersSetUnixAttrs d => exact follows_setUnixFrom _ _ session
  | groupsSetUnixAttrs d => exact follows_setUnixFrom _ _ session
  | computersUpdateAttrs d => exact follows_underLock (.update _ _) session
  | browseModify d =>
      rw [leaves, reports, modifyThread_eq]
      exact follows_underLock (.browseModify d) session
  | usersCreate d => exact follows_underLock (.add _ d.mods) session
  | groupsCreate d => exact follows_underLock (.add _ d.mods) session
  | computersCreate d => exact follows_underLock (.add _ d.mods) session
  | contactsCreate d => exact follows_underLock (.add _ d.mods) session
  | usersDelete dn | groupsDelete dn | computersDelete dn | contactsDelete dn =>
      exact follows_underLock (.once _ _) session

end Sambervise.Backend
