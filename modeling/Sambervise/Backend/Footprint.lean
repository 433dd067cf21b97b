import Sambervise.Backend.Tasks

namespace Sambervise.Backend

open Text Ldap Model Transition

/-! What the server is asked for over any run of tasks. -/

namespace Worker

/-- The names a worker uses: the one it was started with, and after a rename the one it
takes the entry to have. -/
def names (baseDn : Option CString) : Worker → List CString
  | usersSetEnabled d | computersSetEnabled d => [orEmpty d.dn]
  | usersResetPassword _ d => [orEmpty d.dn]
  | usersUpdateAttrs d =>
      [orEmpty d.dn, cnDn (orEmpty d.cn) (afterFirstComma (orEmpty d.dn))]
  | contactsUpdate d =>
      [orEmpty d.dn, cnDn (orEmpty d.cn) (afterFirstComma (orEmpty d.dn))]
  | usersSetPasswordFlags d => [orEmpty d.dn]
  | usersSetUnixAttrs d => [orEmpty d.dn]
  | groupsSetUnixAttrs d => [orEmpty d.dn]
  | groupsModifyMember d => [orEmpty d.groupDn]
  | computersUpdateAttrs d => [orEmpty d.dn]
  | computersSetSpn d => [orEmpty d.dn]
  | usersCreate d => [cnDn d.cn d.containerDn]
  | groupsCreate d => [cnDn d.sam d.containerDn]
  | computersCreate d => [cnDn d.cn d.containerDn]
  | contactsCreate d => [cnDn d.cn d.containerDn]
  | usersDelete dn | groupsDelete dn | computersDelete dn | contactsDelete dn =>
      [orEmpty dn]
  | browseModify d => [d.dn]
  | idmapHintsQuery _ => [ypServersDn baseDn]
  | _ => []

/-- The attributes a worker writes. -/
def types : Worker → List CString
  | usersSetEnabled _ | computersSetEnabled _ => [cstr "userAccountControl"]
  | usersResetPassword _ _ => [cstr "unicodePwd"]
  | usersUpdateAttrs _ => [cstr "displayName", cstr "givenName", cstr "sn", cstr "mail"]
  | contactsUpdate _ =>
      [cstr "displayName", cstr "givenName", cstr "sn", cstr "description", cstr "mail",
        cstr "telephoneNumber", cstr "mobile", cstr "facsimileTelephoneNumber",
        cstr "physicalDeliveryOfficeName", cstr "streetAddress", cstr "l", cstr "st",
        cstr "postalCode", cstr "co", cstr "proxyAddresses"]
  | usersSetPasswordFlags _ =>
      [cstr "userAccountControl", cstr "pwdLastSet", cstr "accountExpires"]
  | usersSetUnixAttrs _ =>
      [cstr "uidNumber", cstr "gidNumber", cstr "loginShell", cstr "unixHomeDirectory",
        cstr "gecos"]
  | groupsSetUnixAttrs _ => [cstr "gidNumber"]
  | groupsModifyMember _ => [cstr "member"]
  | computersUpdateAttrs _ => [cstr "description", cstr "dNSHostName"]
  | computersSetSpn _ => [cstr "servicePrincipalName"]
  | usersCreate _ =>
      [cstr "objectClass", cstr "cn", cstr "sAMAccountName", cstr "userAccountControl",
        cstr "givenName", cstr "sn"]
  | groupsCreate _ =>
      [cstr "objectClass", cstr "sAMAccountName", cstr "groupType", cstr "description"]
  | computersCreate _ =>
      [cstr "objectClass", cstr "cn", cstr "sAMAccountName", cstr "userAccountControl",
        cstr "dNSHostName", cstr "description"]
  | contactsCreate _ =>
      [cstr "objectClass", cstr "cn", cstr "givenName", cstr "sn", cstr "mail",
        cstr "telephoneNumber"]
  | browseModify d => d.mods.map SbvLdapMod.attr
  | _ => []

/-- The common name that a worker gives the entry it updates. -/
def newName : Worker → CString
  | usersUpdateAttrs d => orEmpty d.cn
  | contactsUpdate d => orEmpty d.cn
  | _ => []

/-- The name of that entry before. -/
def updatedDn : Worker → CString
  | usersUpdateAttrs d => orEmpty d.dn
  | contactsUpdate d => orEmpty d.dn
  | _ => []

def Creates : Worker → Prop
  | usersCreate _ | groupsCreate _ | computersCreate _ | contactsCreate _ => True
  | _ => False

def Deletes : Worker → Prop
  | usersDelete _ | groupsDelete _ | computersDelete _ | contactsDelete _ => True
  | _ => False

def AsksWhoami : Worker → Prop
  | whoami _ => True
  | _ => False

/-- The requests a worker may make. -/
def Asks (baseDn : Option CString) (worker : Worker) : Request → Prop
  | .search dn => dn ∈ worker.names baseDn
  | .query request => worker.query baseDn = some request
  | .whoami => worker.AsksWhoami
  | .modify dn mods =>
      worker.Writes ∧ dn ∈ worker.names baseDn ∧ ∀ mod ∈ mods, mod.type ∈ worker.types
  | .rename dn newRdn =>
      worker.newName ≠ [] ∧ dn ∈ worker.names baseDn ∧ newRdn = cnRdn worker.newName
  | .add dn mods =>
      worker.Creates ∧ dn ∈ worker.names baseDn ∧ ∀ mod ∈ mods, mod.type ∈ worker.types
  | .delete dn => worker.Deletes ∧ dn ∈ worker.names baseDn

end Worker

/-! The attributes in a list of modifications -/

def TypesIn (mods : List LdapMod) (types : List CString) : Prop :=
  ∀ mod ∈ mods, mod.type ∈ types

namespace TypesIn

variable {first second : List LdapMod} {types others : List CString}

theorem append (here : TypesIn first types) (there : TypesIn second others) :
    TypesIn (first ++ second) (types ++ others) := by
  intro mod member
  rcases List.mem_append.mp member with before | after
  · exact List.mem_append_left _ (here mod before)
  · exact List.mem_append_right _ (there mod after)

theorem mapped (mods : List LdapMod) : TypesIn mods (mods.map LdapMod.type) :=
  fun _ member => List.mem_map_of_mem member

theorem addMod (type : String) (value : Option CString) :
    TypesIn (addMod type value) [cstr type] := by
  intro mod member
  unfold Backend.addMod at member
  split at member
  · cases member
  · rw [List.mem_singleton.mp member]
    exact List.mem_cons_self

theorem optionalMod (type : String) (value : CString) :
    TypesIn (optionalMod type value) [cstr type] := by
  intro mod member
  unfold Backend.optionalMod at member
  split at member
  · cases member
  · rw [List.mem_singleton.mp member]
    exact List.mem_cons_self

theorem userUpdate (d : Users.UpdateAttrsData) :
    TypesIn d.mods (Worker.usersUpdateAttrs d).types :=
  (((addMod _ _).append (addMod _ _)).append (addMod _ _)).append (addMod _ _)

theorem computerUpdate (d : Computers.UpdateAttrsData) :
    TypesIn d.mods (Worker.computersUpdateAttrs d).types :=
  (addMod _ _).append (addMod _ _)

theorem contactUpdate (d : Contacts.UpdateData) :
    TypesIn d.mods (Worker.contactsUpdate d).types := by
  refine ((((((((((((((addMod _ _).append (addMod _ _)).append (addMod _ _)).append
    (addMod _ _)).append (addMod _ _)).append (addMod _ _)).append (addMod _ _)).append
    (addMod _ _)).append (addMod _ _)).append (addMod _ _)).append (addMod _ _)).append
    (addMod _ _)).append (addMod _ _)).append (addMod _ _)).append ?_
  split
  · exact fun _ member => absurd member List.not_mem_nil
  · exact mapped [replaceMod "proxyAddresses" _]

theorem userCreate (d : Users.CreateUserData) : TypesIn d.mods (Worker.usersCreate d).types :=
  ((mapped [_, _, _, _]).append (optionalMod _ _)).append (optionalMod _ _)

theorem groupCreate (d : Groups.CreateGroupData) :
    TypesIn d.mods (Worker.groupsCreate d).types :=
  (mapped [_, _, _]).append (optionalMod _ _)

theorem computerCreate (d : Computers.CreateComputerData) :
    TypesIn d.mods (Worker.computersCreate d).types :=
  ((mapped [_, _, _, _]).append (optionalMod _ _)).append (optionalMod _ _)

theorem contactCreate (d : Contacts.CreateData) :
    TypesIn d.mods (Worker.contactsCreate d).types :=
  ((((mapped [_, _]).append (optionalMod _ _)).append (optionalMod _ _)).append
    (optionalMod _ _)).append (optionalMod _ _)

theorem browseModify (d : ModifyData) : TypesIn d.ldapMods (Worker.browseModify d).types := by
  intro mod member
  obtain ⟨edited, inside, rfl⟩ := List.mem_map.mp member
  exact List.mem_map_of_mem inside

end TypesIn

/-! The scripts are short, and ask for nothing else -/

theorem within_once (request : Request) : (once request).Within 2 := fun _ => trivial

theorem within_updateTask (dn : CString) (mods : List LdapMod) {count : Nat} :
    (updateTask dn mods).Within (count + 1) := by
  unfold updateTask
  split
  · trivial
  · exact fun _ => trivial

theorem within_renameTask (dn cn : CString) (mods : List LdapMod) :
    (renameTask dn cn mods).Within 2 := by
  unfold renameTask
  split
  · exact within_updateTask dn mods
  · exact fun _ => within_updateTask _ mods

theorem Worker.within_script (worker : Worker) (session : Session) :
    (worker.script session).Within 2 := by
  unfold Worker.script
  split
  · cases worker with
    | usersResetPassword convert d =>
        rw [Worker.task]
        split
        · trivial
        · exact within_once _
    | usersUpdateAttrs d | contactsUpdate d => exact within_renameTask _ _ _
    | computersUpdateAttrs d | browseModify d => exact within_updateTask _ _
    | usersSetEnabled d | computersSetEnabled d => exact fun _ _ => trivial
    | usersSetPasswordFlags d | usersSetUnixAttrs d | groupsSetUnixAttrs d
    | groupsModifyMember d | computersSetSpn d | usersCreate d | groupsCreate d
    | computersCreate d | contactsCreate d | usersDelete d | groupsDelete d
    | computersDelete d | contactsDelete d | idmapHintsQuery d
    | usersList search | groupsList search | computersList search | contactsList search
    | collisionsCheck search d | collisionsNextFree search d
    | browseChildren search collate parentDn | browseAttrs search dn
    | browseSearch search collate d | whoami reply =>
        exact within_once _
  · trivial

section All

variable {allowed : Request → Prop}

theorem all_once {request : Request} (holds : allowed request) : (once request).All allowed :=
  ⟨holds, fun _ => trivial⟩

theorem all_updateTask {dn : CString} {mods : List LdapMod} (holds : allowed (.modify dn mods)) :
    (updateTask dn mods).All allowed := by
  unfold updateTask
  split
  · trivial
  · exact all_once holds

theorem all_renameTask {dn cn : CString} {mods : List LdapMod}
    (renames : cn ≠ [] → allowed (.rename dn (cnRdn cn)))
    (before : allowed (.modify dn mods))
    (after : allowed (.modify (cnDn cn (afterFirstComma dn)) mods)) :
    (renameTask dn cn mods).All allowed := by
  unfold renameTask
  by_cases named : cn = []
  · rw [if_pos named]
    exact all_updateTask before
  · rw [if_neg named]
    exact ⟨renames named, fun _ => all_updateTask after⟩

end All

theorem Worker.all_script (worker : Worker) (session : Session) :
    (worker.script session).All (worker.Asks session.baseDn) := by
  unfold Worker.script
  split
  · cases worker with
    | usersSetEnabled d | computersSetEnabled d =>
        refine ⟨List.mem_cons_self, fun entry => all_once ?_⟩
        exact ⟨trivial, List.mem_cons_self, TypesIn.mapped [_]⟩
    | usersResetPassword convert d =>
        rw [Worker.task]
        split
        · trivial
        · exact all_once ⟨trivial, List.mem_cons_self, TypesIn.mapped [_]⟩
    | usersUpdateAttrs d =>
        exact all_renameTask (fun named => ⟨named, List.mem_cons_self, rfl⟩)
          ⟨trivial, List.mem_cons_self, TypesIn.userUpdate d⟩
          ⟨trivial, List.mem_cons_of_mem _ List.mem_cons_self, TypesIn.userUpdate d⟩
    | contactsUpdate d =>
        exact all_renameTask (fun named => ⟨named, List.mem_cons_self, rfl⟩)
          ⟨trivial, List.mem_cons_self, TypesIn.contactUpdate d⟩
          ⟨trivial, List.mem_cons_of_mem _ List.mem_cons_self, TypesIn.contactUpdate d⟩
    | usersSetPasswordFlags d =>
        exact all_once ⟨trivial, List.mem_cons_self, TypesIn.mapped d.mods⟩
    | usersSetUnixAttrs d =>
        exact all_once ⟨trivial, List.mem_cons_self, TypesIn.mapped d.mods⟩
    | groupsSetUnixAttrs d =>
        exact all_once ⟨trivial, List.mem_cons_self, TypesIn.mapped d.mods⟩
    | groupsModifyMember d | computersSetSpn d =>
        exact all_once ⟨trivial, List.mem_cons_self, TypesIn.mapped [_]⟩
    | computersUpdateAttrs d =>
        exact all_updateTask ⟨trivial, List.mem_cons_self, TypesIn.computerUpdate d⟩
    | browseModify d =>
        exact all_updateTask ⟨trivial, List.mem_cons_self, TypesIn.browseModify d⟩
    | usersCreate d => exact all_once ⟨trivial, List.mem_cons_self, TypesIn.userCreate d⟩
    | groupsCreate d => exact all_once ⟨trivial, List.mem_cons_self, TypesIn.groupCreate d⟩
    | computersCreate d => exact all_once ⟨trivial, List.mem_cons_self, TypesIn.computerCreate d⟩
    | contactsCreate d => exact all_once ⟨trivial, List.mem_cons_self, TypesIn.contactCreate d⟩
    | usersDelete dn | groupsDelete dn | computersDelete dn | contactsDelete dn =>
        exact all_once ⟨trivial, List.mem_cons_self⟩
    | idmapHintsQuery base => exact all_once List.mem_cons_self
    | usersList search | groupsList search | computersList search | contactsList search
    | collisionsCheck search d | collisionsNextFree search d
    | browseChildren search collate parentDn | browseAttrs search dn
    | browseSearch search collate d => exact all_once rfl
    | whoami reply => exact all_once trivial
  · trivial

/-! Runs of tasks -/

def Worker.step (session : Session) (worker : Worker) : Session := worker.leaves session

def attend (session : Session) (worker : Worker) : Session :=
  Script.attend Session.serve Worker.script session worker

theorem unlocked_run {session other : Session} (same : session.unlocked = other.unlocked)
    (workers : List Worker) :
    (run Worker.step session workers).unlocked = (run attend other workers).unlocked := by
  induction workers generalizing session other with
  | nil => exact same
  | cons worker rest ih =>
      apply ih
      have script : worker.script session = worker.script other := by
        have ld := Session.eq_of_unlocked same Session.ld fun _ => rfl
        have baseDn := Session.eq_of_unlocked same Session.baseDn fun _ => rfl
        rw [Worker.script, Worker.script, ld, baseDn]
      have free (state : Session) :
          ((worker.script other).follow Session.serve state).unlocked =
            (worker.script other).follow Session.serve state.unlocked :=
        (follow_lock (worker.script other) state 0 0).symm
      rw [Worker.step, (worker.follows_script session).1, script, free, same, ← free]
      rfl

theorem connection_attend (session : Session) (worker : Worker) :
    (attend session worker).ld = session.ld ∧
      (attend session worker).baseDn = session.baseDn := by
  rw [attend, Script.attend, Script.follow_eq_run]
  exact run_of_step
    (fun state : Session => state.ld = session.ld ∧ state.baseDn = session.baseDn)
    (fun state request holds =>
      ⟨(send_connection request state).1.trans holds.1,
        (send_connection request state).2.trans holds.2⟩) _ ⟨rfl, rfl⟩

/-- What each task of a run asks for. -/
def batches (session : Session) (workers : List Worker) : List (List Request) :=
  Script.batches Session.serve Worker.script session workers

theorem run_attend (session : Session) (workers : List Worker) :
    run attend session workers =
      run Session.step session (batches session workers).flatten :=
  Script.run_attend Session.serve Worker.script session workers

/-- Whatever tasks run one after another, and however the server deals with their
requests: each makes at most two, all under the name it was started with or that of the
entry it has renamed, writes its own attributes only, and no task but those that are for it
adds, deletes or renames an entry. A task that lists, checks or browses makes the one search
it is for. -/
theorem requests_of_tasks (session : Session) (workers : List Worker) :
    ∃ requests : List (List Request),
      (run Worker.step session workers).sent = session.sent ++ requests.flatten ∧
        List.Forall₂
          (fun worker batch =>
            batch.length ≤ 2 ∧
              ∀ request ∈ batch, worker.Asks session.baseDn request)
          workers requests := by
  refine ⟨batches session workers, ?_, ?_⟩
  · rw [Session.eq_of_unlocked (unlocked_run (Eq.refl session.unlocked) workers) Session.sent
      fun _ => rfl, run_attend, Session.sent_run]
  · exact Script.forall₂_batches Session.serve Worker.script
      (fun state => state.baseDn = session.baseDn)
      (fun worker state holds => (connection_attend state worker).2.trans holds)
      (fun worker state holds => holds ▸ worker.all_script state)
      (fun worker state => worker.within_script state) rfl workers

end Sambervise.Backend
