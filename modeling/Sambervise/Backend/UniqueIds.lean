import Sambervise.Backend.Collisions
import Sambervise.Backend.FailedTasks
import Sambervise.Backend.Identities
import Sambervise.Table.Distinct

namespace Sambervise.Backend

open Text Ldap Model Transition Collisions Table

/-! The Unix ids of users and of groups while several people save them -/

section Ids

variable (kind : IdKind)

/-- The entry is one of those whose ids of this kind must differ. -/
def Concerns (attrs : Attributes) : Prop :=
  (attrs.values (cstr "objectClass")).any
    (fun name => asciiStrdown name = asciiStrdown (cstr kind.objectClass)) = true

instance (attrs : Attributes) : Decidable (Concerns kind attrs) :=
  inferInstanceAs (Decidable (_ = true))

def numberOf (attrs : Attributes) : Option Int :=
  (attrs.values (cstr kind.attrName)).head?.map readInt

def idOf (attrs : Attributes) : Option Int :=
  if Concerns kind attrs then numberOf kind attrs else none

end Ids

/-! What a search shows -/

structure Pictures (spell : DistinguishedName → CString) (name : DistinguishedName)
    (entry : Entry) (object : PosixObject) : Prop where
  dn : object.dn = spell name
  classes : object.classes = entry.attrs.values (cstr "objectClass")
  number : ∀ kind, object.number kind = numberOf kind entry.attrs

theorem Pictures.holds_iff {spell : DistinguishedName → CString} {name : DistinguishedName}
    {entry : Entry} {object : PosixObject} (pictures : Pictures spell name entry object)
    (kind : IdKind) (id : Int) :
    Holds kind id object ↔ idOf kind entry.attrs = some id := by
  have concerns : object.hasClass kind.objectClass = true ↔ Concerns kind entry.attrs := by
    rw [PosixObject.hasClass, pictures.classes]
    exact Iff.rfl
  rw [Holds, concerns, pictures.number, idOf]
  split
  next concerned =>
    exact and_iff_right concerned
  next other =>
    exact iff_of_false (fun both => other both.1) (Option.some_ne_none id).symm

section Search

variable {spell : DistinguishedName → CString} {view : Session → List PosixObject}
  {kind : IdKind} {session : Session}

/-- The collision check on this number has no hit but the entry it is asked for. -/
def CheckPasses (view : Session → List PosixObject) (kind : IdKind) (number : GInt)
    (dn : Option CString) (session : Session) : Prop :=
  (checkThread (Tree.search fun _ => view session)
    (sbvCollisionsCheck kind (number.signExtend 64) dn) session).1 = .ok []

/-- The number is what the scan for a free id of some range gives. -/
def Suggested (view : Session → List PosixObject) (kind : IdKind) (number : GInt)
    (session : Session) : Prop :=
  ∃ low high, (nextFreeThread (Tree.search fun _ => view session)
    (sbvCollisionsNextFree kind low high) session).1 = .ok (some (number.signExtend 64))

end Search

/-! Requests that are none of the ids' business -/

/-- The request changes the class of no entry and the number of none that is concerned, and
adds none with a number or named by one. -/
structure KeepsIds (kind : IdKind) (session : Session) (request : Request) : Prop where
  classes : ∀ guid, ¬ request.Touches session guid (cstr "objectClass")
  numbers : ∀ guid attrs, session.directory.Holds guid attrs → Concerns kind attrs →
    ¬ request.Touches session guid (cstr kind.attrName)
  added : ∀ dn mods, request = .add dn mods →
    ∀ mod ∈ mods, asciiStrdown mod.type ≠ asciiStrdown (cstr kind.attrName)
  named : ∀ dn mods assertion parent, request = .add dn mods →
    parseDn dn = some ([assertion] :: parent) →
      asciiStrdown assertion.type ≠ asciiStrdown (cstr kind.attrName)

section Requests

variable {kind : IdKind} {before after : Session} {request : Request}

end Requests

/-! The tasks -/

namespace Worker

/-- What a task saves as an id of this kind, and under which name. -/
def idSave (kind : IdKind) : Worker → Option (Option CString × GInt)
  | usersSetUnixAttrs d => if kind = .uid then some (d.dn, d.uidNumber) else none
  | groupsSetUnixAttrs d => if kind = .gid then some (d.dn, d.gidNumber) else none
  | _ => none

/-- A task that renames nothing, and whose attributes are other ones; new entries come
with a class of their own. -/
structure Indifferent (kind : IdKind) (worker : Worker) : Prop where
  unnamed : worker.newName = []
  numbers : ∀ type ∈ worker.types, asciiStrdown type ≠ asciiStrdown (cstr kind.attrName)
  classes : worker.Creates ∨
    ∀ type ∈ worker.types, asciiStrdown type ≠ asciiStrdown (cstr "objectClass")

theorem all_adds {worker : Worker} (creates : worker.Creates) (session : Session) :
    (worker.script session).All fun request => ∃ dn mods, request = .add dn mods := by
  unfold script
  split
  · cases worker with
    | usersCreate d | groupsCreate d | computersCreate d | contactsCreate d =>
        exact all_once ⟨_, _, rfl⟩
    | _ => exact creates.elim
  · trivial

theorem names_of_creates {worker : Worker} (creates : worker.Creates)
    (baseDn : Option CString) : ∃ cn parent, worker.names baseDn = [cnDn cn parent] := by
  cases worker with
  | usersCreate d | groupsCreate d | computersCreate d | contactsCreate d => exact ⟨_, _, rfl⟩
  | _ => exact creates.elim

theorem Indifferent.keeps {kind : IdKind} {worker : Worker}
    (indifferent : worker.Indifferent kind) {session : Session} {request : Request}
    (member : request ∈ (worker.script session).asked Session.serve session)
    (state : Session) : KeepsIds kind state request := by
  have asks := (worker.all_script session).of_mem_asked Session.serve member
  cases request with
  | search dn | query request | whoami | delete dn =>
      exact ⟨fun _ touched => touched, fun _ _ _ _ touched => touched, nofun, nofun⟩
  | rename dn newRdn => exact absurd indifferent.unnamed asks.1
  | add dn mods =>
      refine ⟨fun _ touched => touched, fun _ _ _ _ touched => touched, ?_, ?_⟩
      · intro other others same mod inMods
        obtain ⟨rfl, rfl⟩ := Request.add.inj same
        exact indifferent.numbers mod.type (asks.2.2 mod inMods)
      · intro other others assertion parent same parsed
        obtain ⟨rfl, rfl⟩ := Request.add.inj same
        obtain ⟨cn, container, names⟩ := names_of_creates asks.1 session.baseDn
        obtain rfl : dn = cnDn cn container := List.mem_singleton.mp (names ▸ asks.2.1)
        rw [type_of_cnDn parsed]
        cases kind with
        | uid => decide
        | gid => decide
  | modify dn mods =>
      refine ⟨?_, ?_, nofun, nofun⟩
      · intro guid touched
        obtain ⟨name, entry, found, _, mod, inMods, same⟩ := touched
        rcases indifferent.classes with creates | classes
        · obtain ⟨_, _, added⟩ := (all_adds creates session).of_mem_asked Session.serve member
          cases added
        · exact classes mod.type (asks.2.2 mod inMods) same
      · intro guid attrs held concerned touched
        obtain ⟨name, entry, found, _, mod, inMods, same⟩ := touched
        exact indifferent.numbers mod.type (asks.2.2 mod inMods) same

end Worker

/-! A save of an id -/

section Save

variable {kind : IdKind} {session : Session} {worker : Worker} {dn : Option CString}
  {number : GInt}

end Save

/-! Many turns -/

namespace Turn

/-- The collision check, put to the server at the moment of the save, has no hit for a
number that is saved. -/
def Checked (view : Session → List PosixObject) (kind : IdKind) (session : Session) :
    Turn → Prop
  | task worker => ∀ save ∈ worker.idSave kind, 0 ≤ save.2.toInt →
      worker.reports session = true → CheckPasses view kind save.2 save.1 session
  | foreign _ => True

/-- A number that is saved is one that was suggested at that moment. -/
def Suggests (view : Session → List PosixObject) (kind : IdKind) (session : Session) :
    Turn → Prop
  | task worker => ∀ save ∈ worker.idSave kind, 0 ≤ save.2.toInt →
      Suggested view kind save.2 session
  | foreign _ => True

variable {spell : DistinguishedName → CString} {view : Session → List PosixObject}
  {kind : IdKind} {session : Session}

end Turn

def teamDn : DistinguishedName := [[{ type := cstr "cn", value := .string (cstr "team") }]]

/-- There are no other entries. -/
def OnlyStaffTeam (directory : Directory) : Prop :=
  ∀ name, name ≠ staffDn → name ≠ teamDn → directory name = none

theorem OnlyStaffTeam.update {directory : Directory} (only : OnlyStaffTeam directory)
    {name : DistinguishedName} (one : name = staffDn ∨ name = teamDn) (entry : Option Entry) :
    OnlyStaffTeam (Function.update directory name entry) := by
  intro other notStaff notTeam
  have elsewhere : other ≠ name := by
    rcases one with rfl | rfl
    · exact notStaff
    · exact notTeam
  rw [Function.update_of_ne elsewhere, only other notStaff notTeam]

end Sambervise.Backend
