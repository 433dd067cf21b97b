import Sambervise.Backend.Footprint
import Sambervise.Ldap.Identity

namespace Sambervise.Backend

open Text Ldap Model Transition

/-! What a task that reports an error has done before. -/

theorem directory_read {request : Request} {session : Session}
    (reads : ∀ attrs directory, session.answer request = .ok (attrs, directory) →
      directory = session.directory) :
    (send request session).2.directory = session.directory := by
  rcases session.directory_step request with same | ⟨attrs, directory, answer, same⟩
  · exact same
  · exact same.trans (reads attrs directory answer)

theorem directory_search (dn : CString) (session : Session) :
    (send (.search dn) session).2.directory = session.directory := by
  refine directory_read fun attrs directory answer => ?_
  obtain ⟨found, _, whole⟩ := map_eq_ok answer
  cases whole
  rfl

theorem directory_query (request : SearchRequest) (session : Session) :
    (send (.query request) session).2.directory = session.directory :=
  directory_read fun _ _ answer => by cases answer; rfl

theorem directory_whoami (session : Session) :
    (send .whoami session).2.directory = session.directory :=
  directory_read fun _ _ answer => by cases answer; rfl

section Incomplete

variable {session : Session}

theorem directory_once {request : Request}
    (failed : (once request).completes Session.serve session = false) :
    ((once request).follow Session.serve session).directory = session.directory := by
  rw [follow_once]
  rw [once, Script.completes] at failed
  by_cases success : (send request session).1.1 = ldapSuccess
  · rw [Session.serve_succeeded success] at failed
    cases failed
  · exact directory_send_failed success

theorem directory_updateTask {dn : CString} {mods : List LdapMod}
    (failed : (updateTask dn mods).completes Session.serve session = false) :
    ((updateTask dn mods).follow Session.serve session).directory = session.directory := by
  unfold updateTask at failed ⊢
  by_cases nothing : mods = []
  · rw [if_pos nothing] at failed
    cases failed
  · rw [if_neg nothing] at failed ⊢
    exact directory_once failed

theorem directory_enableTask {fallback : GInt64} {d : SetEnabledData}
    (failed : (enableTask fallback d).completes Session.serve session = false) :
    ((enableTask fallback d).follow Session.serve session).directory = session.directory := by
  have read := directory_search (orEmpty d.dn) session
  rw [enableTask, Script.completes] at failed
  rw [enableTask, Script.follow]
  by_cases success : (send (.search (orEmpty d.dn)) session).1.1 = ldapSuccess
  · rw [Session.serve_succeeded success] at failed ⊢
    exact (directory_once failed).trans read
  · rw [Session.serve_failed success]
    exact read

theorem directory_renameTask {dn cn : CString} {mods : List LdapMod}
    (failed : (renameTask dn cn mods).completes Session.serve session = false) :
    ((renameTask dn cn mods).follow Session.serve session).directory = session.directory ∨
      cn ≠ [] ∧ session.directory.rename session.rule dn (cnRdn cn) =
        .ok ((renameTask dn cn mods).follow Session.serve session).directory := by
  unfold renameTask at failed ⊢
  by_cases named : cn = []
  · rw [if_pos named] at failed ⊢
    exact .inl (directory_updateTask failed)
  · rw [if_neg named] at failed ⊢
    rw [Script.completes] at failed
    rw [Script.follow]
    by_cases success : (send (.rename dn (cnRdn cn)) session).1.1 = ldapSuccess
    · rw [Session.serve_succeeded success] at failed ⊢
      -- what the rename has changed is still so after the other request has failed
      have kept := directory_updateTask failed
      rcases session.directory_step (.rename dn (cnRdn cn)) with same | ⟨_, after, answer, same⟩
      · exact .inl (kept.trans same)
      · obtain ⟨renamed, done, whole⟩ := map_eq_ok answer
        cases whole
        refine .inr ⟨named, done.trans (congrArg Except.ok ?_)⟩
        exact (kept.trans same).symm
    · rw [Session.serve_failed success]
      exact .inl (directory_send_failed success)

end Incomplete

theorem directory_reader (worker : Worker) (reads : ¬ worker.Writes) (session : Session) :
    ((worker.script session).follow Session.serve session).directory = session.directory := by
  unfold Worker.script
  split
  · cases worker with
    | idmapHintsQuery base =>
        change ((once _).follow _ session).directory = _
        rw [follow_once]
        exact directory_search _ session
    | usersList search | groupsList search | computersList search | contactsList search
    | collisionsCheck search d | collisionsNextFree search d
    | browseChildren search collate parentDn | browseAttrs search dn
    | browseSearch search collate d =>
        change ((once _).follow _ session).directory = _
        rw [follow_once]
        exact directory_query _ session
    | whoami reply =>
        change ((once _).follow _ session).directory = _
        rw [follow_once]
        exact directory_whoami session
    | usersSetEnabled d | usersUpdateAttrs d | usersSetPasswordFlags d | usersSetUnixAttrs d
    | usersCreate d | usersDelete d | groupsModifyMember d | groupsSetUnixAttrs d
    | groupsCreate d | groupsDelete d | computersSetEnabled d | computersUpdateAttrs d
    | computersSetSpn d | computersCreate d | computersDelete d | contactsCreate d
    | contactsUpdate d | contactsDelete d | browseModify d =>
        exact absurd trivial reads
    | usersResetPassword convert d => exact absurd trivial reads
  · rfl

/-- The task has left the directory as it found it, or as the rename it begins with does. -/
def Worker.RolledBack (worker : Worker) (session after : Session) : Prop :=
  after.directory = session.directory ∨
    worker.newName ≠ [] ∧
      session.directory.rename session.rule worker.updatedDn (cnRdn worker.newName) =
        .ok after.directory

theorem Worker.rolledBack_of_failed {worker : Worker} {session : Session}
    (failed : (worker.script session).completes Session.serve session = false) :
    worker.RolledBack session ((worker.script session).follow Session.serve session) := by
  unfold Worker.script at failed ⊢
  by_cases connected : session.ld = true
  · rw [if_pos connected] at failed ⊢
    cases worker with
    | usersUpdateAttrs d | contactsUpdate d =>
        rcases directory_renameTask failed with same | ⟨named, renamed⟩
        · exact .inl same
        · exact .inr ⟨named, renamed⟩
    | usersSetEnabled d | computersSetEnabled d => exact .inl (directory_enableTask failed)
    | computersUpdateAttrs d | browseModify d => exact .inl (directory_updateTask failed)
    | usersResetPassword convert d =>
        refine .inl ?_
        unfold Worker.task at failed ⊢
        dsimp only at failed ⊢
        generalize convert (cstr "\"" ++ d.newPassword ++ cstr "\"") = converted at failed ⊢
        cases converted with
        | error failure => rfl
        | ok utf16 => exact directory_once failed
    | usersSetPasswordFlags d | usersSetUnixAttrs d | groupsSetUnixAttrs d
    | groupsModifyMember d | computersSetSpn d | usersCreate d | groupsCreate d
    | computersCreate d | contactsCreate d | usersDelete d | groupsDelete d
    | computersDelete d | contactsDelete d | idmapHintsQuery d
    | usersList search | groupsList search | computersList search | contactsList search
    | collisionsCheck search d | collisionsNextFree search d
    | browseChildren search collate parentDn | browseAttrs search dn
    | browseSearch search collate d | whoami reply =>
        exact .inl (directory_once failed)
  · rw [if_neg connected]
    exact .inl rfl

theorem Worker.rolledBack_of_reported {worker : Worker} {session : Session}
    (writes : worker.Writes) (failed : worker.reports session = false) :
    worker.RolledBack session (worker.leaves session) := by
  obtain ⟨leaves, reports⟩ := worker.follows_script session
  have directory := Session.eq_of_unlocked leaves Session.directory fun _ => rfl
  rw [reports writes] at failed
  have rolledBack := worker.rolledBack_of_failed failed
  rwa [Worker.RolledBack, ← directory] at rolledBack

/-- A task that only reads changes nothing. One that writes reports success exactly where
the server has carried out all that the task asks it for; where it reports an error, the
directory is as before, or as the rename alone has left it. -/
theorem failed_task (worker : Worker) (session : Session) :
    (¬ worker.Writes → (worker.leaves session).directory = session.directory) ∧
      (worker.Writes →
        (worker.reports session = true ↔
          (worker.script session).completes Session.serve session = true) ∧
        (worker.reports session = false →
          worker.RolledBack session (worker.leaves session))) := by
  obtain ⟨leaves, reports⟩ := worker.follows_script session
  have directory := Session.eq_of_unlocked leaves Session.directory fun _ => rfl
  constructor
  · intro reads
    exact directory.trans (directory_reader worker reads session)
  · intro writes
    refine ⟨?_, Worker.rolledBack_of_reported writes⟩
    rw [reports writes]

end Sambervise.Backend
