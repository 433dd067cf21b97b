import Sambervise.Backend.Collisions
import Sambervise.Backend.Connection
import Sambervise.Backend.IdmapHints
import Sambervise.Backend.Listing
import Sambervise.Transition.Run

namespace Sambervise.Backend

open Text Ldap Model Transition

/-! Every task that takes the lock of a connection, with what it was started with and
what its environment answers. -/

inductive Worker where
  | usersList (search : LdapSearch)
  | usersSetEnabled (d : SetEnabledData)
  | usersResetPassword (convert : CString → Except GError (List UInt8))
      (d : Users.ResetPwData)
  | usersUpdateAttrs (d : Users.UpdateAttrsData)
  | usersSetPasswordFlags (d : Users.SetPwFlagsData)
  | usersSetUnixAttrs (d : Users.UnixAttrsData)
  | usersCreate (d : Users.CreateUserData)
  | usersDelete (dn : Option CString)
  | groupsList (search : LdapSearch)
  | groupsModifyMember (d : Groups.MemberData)
  | groupsSetUnixAttrs (d : Groups.GroupUnixData)
  | groupsCreate (d : Groups.CreateGroupData)
  | groupsDelete (dn : Option CString)
  | computersList (search : LdapSearch)
  | computersSetEnabled (d : SetEnabledData)
  | computersUpdateAttrs (d : Computers.UpdateAttrsData)
  | computersSetSpn (d : Computers.SetSpnData)
  | computersCreate (d : Computers.CreateComputerData)
  | computersDelete (dn : Option CString)
  | contactsList (search : LdapSearch)
  | contactsCreate (d : Contacts.CreateData)
  | contactsUpdate (d : Contacts.UpdateData)
  | contactsDelete (dn : Option CString)
  | collisionsCheck (search : Search) (d : Collisions.CheckData)
  | collisionsNextFree (search : Search) (d : Collisions.NextFreeData)
  | idmapHintsQuery (base : SbvIdmapHints)
  | browseChildren (search : LdapSearch) (collate : CString → CString → Int)
      (parentDn : CString)
  | browseAttrs (search : LdapSearch) (dn : CString)
  | browseSearch (search : LdapSearch) (collate : CString → CString → Int)
      (d : SearchData)
  | browseModify (d : ModifyData)
  | whoami (reply : ResultCode × Option (List UInt8))

namespace Worker

def leaves (worker : Worker) (session : Session) : Session :=
  match worker with
  | usersList search => (Users.listThread search session).2
  | usersSetEnabled d => (Users.setEnabledThread d session).2
  | usersResetPassword convert d => (Users.resetPwThread convert d session).2
  | usersUpdateAttrs d => (Users.updateAttrsThread d session).2
  | usersSetPasswordFlags d => (Users.setPwFlagsThread d session).2
  | usersSetUnixAttrs d => (Users.setUnixAttrsThread d session).2
  | usersCreate d => (Users.createUserThread d session).2
  | usersDelete dn => (Users.deleteUserThread dn session).2
  | groupsList search => (Groups.listThread search session).2
  | groupsModifyMember d => (Groups.modifyMemberThread d session).2
  | groupsSetUnixAttrs d => (Groups.setGroupUnixThread d session).2
  | groupsCreate d => (Groups.createGroupThread d session).2
  | groupsDelete dn => (Groups.deleteGroupThread dn session).2
  | computersList search => (Computers.listThread search session).2
  | computersSetEnabled d => (Computers.setEnabledThread d session).2
  | computersUpdateAttrs d => (Computers.updateAttrsThread d session).2
  | computersSetSpn d => (Computers.setSpnThread d session).2
  | computersCreate d => (Computers.createComputerThread d session).2
  | computersDelete dn => (Computers.deleteComputerThread dn session).2
  | contactsList search => (Contacts.listThread search session).2
  | contactsCreate d => (Contacts.createThread d session).2
  | contactsUpdate d => (Contacts.updateThread d session).2
  | contactsDelete dn => (Contacts.deleteThread dn session).2
  | collisionsCheck search d => (Collisions.checkThread search d session).2
  | collisionsNextFree search d => (Collisions.nextFreeThread search d session).2
  | idmapHintsQuery base => (queryThread base session).2
  | browseChildren search collate parentDn =>
      (childrenThread search collate parentDn session).2
  | browseAttrs search dn => (attrsThread search dn session).2
  | browseSearch search collate d => (searchThread search collate d session).2
  | browseModify d => (modifyThread d session).2
  | whoami reply => (whoamiThread reply session).2

/-- `set_unix_attrs_thread` and `set_group_unix_thread` -/
def SetsUnix : Worker → Prop
  | usersSetUnixAttrs _ | groupsSetUnixAttrs _ => True
  | _ => False

end Worker

/-! Taking the lock as often as giving it back -/

/-- Between the two sessions the lock was released as many times as it was acquired. -/
def Balanced (before after : Session) : Prop :=
  after.acquired + before.released = before.acquired + after.released

/-- What a worker does while it holds the lock. -/
def LeavesLock {α : Type} (critical : LdapM α) : Prop :=
  ∀ session, (critical session).2.acquired = session.acquired ∧
    (critical session).2.released = session.released

namespace LeavesLock

variable {α β : Type}

theorem pure (value : α) : LeavesLock (Pure.pure value : LdapM α) := fun _ => ⟨rfl, rfl⟩

theorem bind {first : LdapM α} {next : α → LdapM β} (leaves : LeavesLock first)
    (then_ : ∀ value, LeavesLock (next value)) : LeavesLock (first >>= next) := by
  intro session
  obtain ⟨acquired, released⟩ := leaves session
  obtain ⟨acquired', released'⟩ := then_ (first session).1 (first session).2
  exact ⟨acquired'.trans acquired, released'.trans released⟩

theorem map {first : LdapM α} (leaves : LeavesLock first) (make : α → β) :
    LeavesLock (make <$> first) := leaves

theorem ite {condition : Prop} [Decidable condition] {yes no : LdapM α}
    (left : LeavesLock yes) (right : LeavesLock no) :
    LeavesLock (if condition then yes else no) := by
  split
  · exact left
  · exact right

theorem get : LeavesLock (MonadState.get : LdapM Session) := fun _ => ⟨rfl, rfl⟩

theorem send (request : Request) : LeavesLock (send request) := by
  intro session
  unfold Ldap.send
  split
  · exact ⟨rfl, rfl⟩
  · split
    · exact ⟨rfl, rfl⟩
    · exact ⟨rfl, rfl⟩

theorem modifyExt (dn : CString) (mods : List LdapMod) : LeavesLock (modifyExt dn mods) :=
  (send _).map _

theorem modifyUpdated (dn : CString) (mods : List LdapMod) :
    LeavesLock (modifyUpdated dn mods) :=
  ite (pure _) ((modifyExt dn mods).map _)

end LeavesLock

theorem underLock_balanced {α : Type} {critical : LdapM (Except GError α)}
    (leaves : LeavesLock critical) (session : Session) :
    Balanced session (underLock critical session).2 := by
  rw [underLock_apply]
  split
  · obtain ⟨acquired, released⟩ := leaves { session with acquired := session.acquired + 1 }
    change (critical { session with acquired := session.acquired + 1 }).2.acquired +
        session.released =
      session.acquired +
        ((critical { session with acquired := session.acquired + 1 }).2.released + 1)
    rw [acquired, released]
    exact Nat.add_right_comm _ _ _
  · exact Nat.add_right_comm _ _ _

theorem searchExt_balanced {α : Type} (search : LdapSearch) (text : String)
    (accepted : ResultCode → Bool) (request : Option CString → SearchRequest)
    (read : List SearchEntry → α) (session : Session) :
    Balanced session (searchExt search text accepted request read session).2 := by
  rw [searchExt_eq]
  exact underLock_balanced (fun entered => LeavesLock.send _ entered) session

theorem searchFiltered_balanced {α : Type} (search : Search) (text : String) (filter : Filter)
    (attrs : List String) (read : List Attributes → α) (session : Session) :
    Balanced session (Collisions.searchFiltered search text filter attrs read session).2 := by
  rw [Collisions.searchFiltered_eq]
  exact underLock_balanced (fun entered => LeavesLock.send _ entered) session

theorem setEnabledFrom_balanced (fallback : GInt64) (d : SetEnabledData)
    (session : Session) : Balanced session (setEnabledFrom fallback d session).2 := by
  rw [setEnabledFrom_eq]
  exact underLock_balanced
    ((LeavesLock.send _).bind fun _ =>
      .ite (.pure _) ((LeavesLock.modifyExt _ _).map _)) session

theorem renameThenModify_balanced (dn cn : CString) (mods : List LdapMod)
    (session : Session) : Balanced session (renameThenModify dn cn mods session).2 := by
  rw [renameThenModify_eq]
  exact underLock_balanced
    (.ite (.modifyUpdated dn mods)
      (((LeavesLock.send _).map _).bind fun _ => .ite (.pure _) (.modifyUpdated _ mods))) session

theorem addEntry_balanced (dn : CString) (mods : List LdapMod) (session : Session) :
    Balanced session (addEntry dn mods session).2 := by
  rw [addEntry_eq]
  exact underLock_balanced (((LeavesLock.send _).map _).bind fun _ => .pure _) session

theorem deleteEntry_balanced (dn : Option CString) (session : Session) :
    Balanced session (deleteEntry dn session).2 := by
  rw [deleteEntry_eq]
  exact underLock_balanced (((LeavesLock.send _).map _).map _) session

theorem modifyEntry_balanced (text : String) (dn : CString) (mods : List LdapMod)
    (session : Session) : Balanced session (modifyEntry text dn mods session).2 := by
  rw [modifyEntry_eq]
  exact underLock_balanced ((LeavesLock.modifyExt _ _).map _) session

theorem setUnixFrom_balanced (dn : CString) (mods : List LdapMod) (session : Session) :
    Balanced session (setUnixFrom dn mods session).2 ↔ session.ld = true := by
  cases connected : session.ld with
  | true =>
      obtain ⟨acquired, released⟩ :=
        LeavesLock.modifyExt dn mods { session with acquired := session.acquired + 1 }
      rw [setUnixFrom_apply connected, Balanced]
      dsimp only at acquired released ⊢
      rw [acquired, released]
      exact iff_of_true (by omega) rfl
  | false =>
      rw [setUnixFrom_disconnected connected, Balanced]
      dsimp only
      exact iff_of_false (by omega) (by simp)

/-! The operations on one connection -/

/-- What a connection that is made stands for: the server, and how it deals with the
coming requests. -/
structure Server where
  rule : MatchingRule
  directory : Directory
  nextGuid : Nat
  outcomes : List Outcome

inductive Operation where
  | connect (replies : ConnectReplies) (data : ConnectData) (server : Server)
  | disconnect
  | work (worker : Worker)

namespace Operation

/-- The lock is taken for the new handle only once there is one. -/
def connected (data : ConnectData) (server : Server) (session : Session) : Session :=
  { session with
    ld := true
    acquired := session.acquired + 1
    released := session.released + 1
    baseDn := data.profile.baseDn
    rule := server.rule
    directory := server.directory
    nextGuid := server.nextGuid
    outcomes := server.outcomes }

def disconnected (session : Session) : Session :=
  { session with
    ld := false
    acquired := session.acquired + 1
    released := session.released + 1 }

def leaves (operation : Operation) (session : Session) : Session :=
  match operation with
  | connect replies data server =>
      if replies.bound data.profile then connected data server session else session
  | disconnect => disconnected session
  | work worker => worker.leaves session

def SetsUnix : Operation → Prop
  | work worker => worker.SetsUnix
  | _ => False

end Operation

def Unlocked (session : Session) : Prop := session.acquired = session.released

/-- While the lock is held nobody else gets past `g_mutex_lock`. -/
def operate (session : Session) (operation : Operation) : Session :=
  if session.acquired = session.released then operation.leaves session else session

def KeepsUnlocked (session : Session) (operation : Operation) : Prop :=
  operation.SetsUnix → session.ld = true

theorem Worker.leaves_balanced (worker : Worker) (session : Session) :
    Balanced session (worker.leaves session) ↔ (worker.SetsUnix → session.ld = true) := by
  cases worker with
  | usersSetUnixAttrs d =>
      exact (setUnixFrom_balanced (orEmpty d.dn) d.mods session).trans true_imp_iff.symm
  | groupsSetUnixAttrs d =>
      exact (setUnixFrom_balanced (orEmpty d.dn) d.mods session).trans true_imp_iff.symm
  | usersList search | groupsList search | computersList search | contactsList search
  | browseChildren search collate parentDn | browseAttrs search dn
  | browseSearch search collate d =>
      exact iff_of_true (searchExt_balanced _ _ _ _ _ _) False.elim
  | usersSetEnabled d | computersSetEnabled d =>
      exact iff_of_true (setEnabledFrom_balanced _ _ _) False.elim
  | usersUpdateAttrs d | contactsUpdate d =>
      exact iff_of_true (renameThenModify_balanced _ _ _ _) False.elim
  | usersCreate d | groupsCreate d | computersCreate d | contactsCreate d =>
      exact iff_of_true (addEntry_balanced _ _ _) False.elim
  | usersDelete dn | groupsDelete dn | computersDelete dn | contactsDelete dn =>
      exact iff_of_true (deleteEntry_balanced _ _) False.elim
  | usersSetPasswordFlags d | groupsModifyMember d | computersSetSpn d =>
      exact iff_of_true (modifyEntry_balanced _ _ _ _) False.elim
  | computersUpdateAttrs d =>
      exact iff_of_true (underLock_balanced (.modifyUpdated _ _) _) False.elim
  | browseModify d =>
      refine iff_of_true ?_ False.elim
      rw [leaves, modifyThread_eq]
      exact underLock_balanced (.ite (.pure _) ((LeavesLock.modifyExt _ _).map _)) _
  | usersResetPassword convert d =>
      refine iff_of_true ?_ False.elim
      rw [leaves, Users.resetPwThread_eq]
      refine underLock_balanced ?_ _
      split
      · exact .pure _
      · exact (LeavesLock.modifyExt _ _).bind fun _ => .pure _
  | idmapHintsQuery base =>
      refine iff_of_true ?_ False.elim
      rw [leaves, queryThread_eq]
      exact underLock_balanced
        (LeavesLock.get.bind fun _ => (LeavesLock.send _).bind fun _ => .pure _) _
  | collisionsCheck search d | collisionsNextFree search d =>
      exact iff_of_true (searchFiltered_balanced _ _ _ _ _ _) False.elim
  | whoami reply =>
      refine iff_of_true ?_ False.elim
      rw [leaves, whoamiThread_eq]
      exact underLock_balanced ((LeavesLock.send _).bind fun _ => .pure _) _

theorem Operation.leaves_unlocked {session : Session} (unlocked : Unlocked session)
    (operation : Operation) :
    KeepsUnlocked session operation ↔ Unlocked (operation.leaves session) := by
  cases operation with
  | connect replies data server =>
      refine iff_of_true False.elim ?_
      change Unlocked
        (if replies.bound data.profile then connected data server session else session)
      split
      · exact congrArg (· + 1) unlocked
      · exact unlocked
  | disconnect => exact iff_of_true False.elim (congrArg (· + 1) unlocked)
  | work worker =>
      have same : Balanced session (worker.leaves session) ↔
          Unlocked (worker.leaves session) := by
        rw [Balanced, Unlocked, unlocked, add_comm]
        exact Nat.add_left_cancel_iff
      exact (worker.leaves_balanced session).symm.trans same

theorem unlocked_throughout_iff {session : Session} (unlocked : Unlocked session)
    (operations : List Operation) :
    Along operate KeepsUnlocked session operations ↔
      Throughout operate Unlocked session operations := by
  refine along_iff_throughout Unlocked ?_ unlocked
  intro state operation free
  rw [operate, if_pos (show state.acquired = state.released from free)]
  exact operation.leaves_unlocked free

/-- Every worker gives the lock back as often as it takes it, and no sequence of
operations leaves it held, exactly as far as the workers that write Unix ids find a
handle. -/
theorem lockBalance_iff (session : Session) :
    (∀ worker : Worker,
      Balanced session (worker.leaves session) ↔
        (worker.SetsUnix → session.ld = true)) ∧
      (Unlocked session → ∀ operations : List Operation,
        (Throughout operate Unlocked session operations ↔
          Along operate KeepsUnlocked session operations)) :=
  ⟨fun worker => worker.leaves_balanced session,
    fun unlocked operations => (unlocked_throughout_iff unlocked operations).symm⟩

/-- The Unix ids of a group are saved over a connection that was just closed. -/
theorem lock_kept :
    ¬ ((∀ (worker : Worker) (session : Session), Balanced session (worker.leaves session)) ∧
      ∀ (session : Session), Unlocked session → ∀ operations : List Operation,
        Throughout operate Unlocked session operations) := by
  intro claim
  let opened : Session := Session.opened id (fun _ => none)
  let save : Groups.GroupUnixData := { dn := some (cstr "CN=staff"), gidNumber := 10000 }
  have kept : Unlocked
      (run operate opened [.disconnect, .work (.groupsSetUnixAttrs save)]) :=
    (claim.2 opened rfl _).last
  have held : (2 : Nat) ≠ 1 := Nat.succ_ne_self 1
  exact held kept

end Sambervise.Backend
