import Sambervise.Backend.Computers
import Sambervise.Backend.Contacts
import Sambervise.Backend.Groups
import Sambervise.Backend.Users

namespace Sambervise.Backend

open Text Ldap Model

/-! The four create operations and the names their entries get -/

inductive Creation where
  | user (d : Users.CreateUserData)
  | group (d : Groups.CreateGroupData)
  | computer (d : Computers.CreateComputerData)
  | contact (d : Contacts.CreateData)
  deriving DecidableEq, Repr

namespace Creation

def perform : Creation → LdapM (Except GError CString)
  | .user d => Users.sbvUsersCreate d
  | .group d => Groups.sbvGroupsCreate d
  | .computer d => Computers.sbvComputersCreate d
  | .contact d => Contacts.sbvContactsCreate d

/-- The common name asked for; a group has none but its sAMAccountName. -/
def name : Creation → CString
  | .user d => d.cn
  | .group d => d.sam
  | .computer d => d.cn
  | .contact d => d.cn

def containerDn : Creation → CString
  | .user d => d.containerDn
  | .group d => d.containerDn
  | .computer d => d.containerDn
  | .contact d => d.containerDn

def accepted : Creation → Bool
  | .user d => d.sam ≠ [] ∧ d.cn ≠ [] ∧ d.containerDn ≠ []
  | .group d => d.sam ≠ [] ∧ d.containerDn ≠ []
  | .computer d => d.cn ≠ [] ∧ d.containerDn ≠ []
  | .contact d => d.cn ≠ [] ∧ d.containerDn ≠ []

def mods : Creation → List LdapMod
  | .user d => d.mods
  | .group d => d.mods
  | .computer d => d.mods
  | .contact d => d.mods

theorem perform_accepted {creation : Creation} (accepted : creation.accepted = true) :
    creation.perform = addEntry (cnDn creation.name creation.containerDn) creation.mods := by
  cases creation with
  | user d =>
      simp only [Creation.accepted, decide_eq_true_eq] at accepted
      simp [perform, Users.sbvUsersCreate, accepted, Users.createUserThread, name,
        containerDn, mods]
  | group d =>
      simp only [Creation.accepted, decide_eq_true_eq] at accepted
      simp [perform, Groups.sbvGroupsCreate, accepted, Groups.createGroupThread, name,
        containerDn, mods]
  | computer d =>
      simp only [Creation.accepted, decide_eq_true_eq] at accepted
      simp [perform, Computers.sbvComputersCreate, accepted,
        Computers.createComputerThread, name, containerDn, mods]
  | contact d =>
      simp only [Creation.accepted, decide_eq_true_eq] at accepted
      simp [perform, Contacts.sbvContactsCreate, accepted, Contacts.createThread, name,
        containerDn, mods]

theorem containerDn_ne_nil {creation : Creation} (accepted : creation.accepted = true) :
    creation.containerDn ≠ [] := by
  cases creation with
  | user d => simp_all [Creation.accepted, containerDn]
  | group d => simp_all [Creation.accepted, containerDn]
  | computer d => simp_all [Creation.accepted, containerDn]
  | contact d => simp_all [Creation.accepted, containerDn]

/-- The entry a create operation asks the server for is named `CN=name` right under
the given container exactly where the name needs no RFC 4514 escape. -/
theorem created_dn_iff (creation : Creation) (session : Session)
    (parent : DistinguishedName) (accepted : creation.accepted = true)
    (connected : session.ld = true)
    (valid : parseDn creation.containerDn = some parent) :
    (∃ dn mods,
      (creation.perform session).2.sent = session.sent ++ [.add dn mods] ∧
        parseDn dn =
          some ([{ type := cstr "CN", value := .string creation.name }] :: parent)) ↔
      needsNoEscaping creation.name = true := by
  have sent := sent_addEntry connected (cnDn creation.name creation.containerDn)
    creation.mods
  rw [perform_accepted accepted, sent]
  have parsed := parseDn_child_iff (show isKeystring (cstr "CN") = true by decide)
    (containerDn_ne_nil accepted) valid creation.name
  rw [← cnDn_eq] at parsed
  constructor
  · intro both
    obtain ⟨dn, mods, same, child⟩ := both
    simp only [List.append_cancel_left_eq, List.cons.injEq, Request.add.injEq,
      and_true] at same
    rw [← same.1] at child
    exact parsed.mp child
  · intro plain
    exact ⟨_, _, rfl, parsed.mpr plain⟩

theorem created_dn_iff_staff :
    (∃ dn mods,
      (perform (.contact { cn := cstr "John Smith", containerDn := cstr "OU=Staff" })
            (Session.opened id fun _ => none)).2.sent = [] ++ [.add dn mods] ∧
        parseDn dn =
          some [[{ type := cstr "CN", value := .string (cstr "John Smith") }],
            [{ type := cstr "OU", value := .string (cstr "Staff") }]]) ↔
      needsNoEscaping (cstr "John Smith") = true :=
  created_dn_iff (.contact { cn := cstr "John Smith", containerDn := cstr "OU=Staff" })
    (Session.opened id fun _ => none)
    [[{ type := cstr "OU", value := .string (cstr "Staff") }]]
    (by decide) rfl (by decide)

/-- A comma in the name moves the new entry to another container. -/
theorem created_dn_comma :
    let creation : Creation :=
      .contact { cn := cstr "x,OU=Other", containerDn := cstr "OU=Staff" }
    creation.accepted = true ∧
      (creation.perform (Session.opened id fun _ => none)).2.sent =
        [.add (cstr "CN=x,OU=Other,OU=Staff") creation.mods] ∧
      parseDn creation.containerDn =
        some [[{ type := cstr "OU", value := .string (cstr "Staff") }]] ∧
      parseDn (cstr "CN=x,OU=Other,OU=Staff") ≠
        some [[{ type := cstr "CN", value := .string creation.name }],
          [{ type := cstr "OU", value := .string (cstr "Staff") }]] :=
  ⟨by decide, rfl, by decide, by decide⟩

end Creation

end Sambervise.Backend
