import Sambervise.Backend.CreateList
import Sambervise.Backend.EnableFlags
import Sambervise.Backend.FailedTasks
import Sambervise.Backend.Listing
import Sambervise.Backend.Membership
import Sambervise.Backend.TriState

namespace Sambervise.Backend

open Text Ldap Model Transition

/-! What the lists show of an entry while the panels save to it. -/

/-- What a list makes of one entry. -/
inductive Listed where
  | user (user : SbvUser)
  | group (group : SbvGroup)
  | computer (computer : SbvComputer)
  | contact (contact : SbvContact)
  deriving DecidableEq, Repr

inductive ListKind where
  | users
  | groups
  | computers
  | contacts
  deriving DecidableEq, Repr

namespace ListKind

def ofEntry (attrs : Attributes) : ListKind → Listed
  | users => .user (Users.userOfEntry attrs)
  | groups => .group (Groups.groupOfEntry attrs)
  | computers => .computer (Computers.computerOfEntry attrs)
  | contacts => .contact (Contacts.contactOfEntry attrs)

def listAttrs : ListKind → List String
  | users => Users.listAttrs
  | groups => Groups.listAttrs
  | computers => Computers.listAttrs
  | contacts => Contacts.contactAttrs

/-- The attribute is one that the list asks for. -/
def Reads (kind : ListKind) (type : CString) : Prop :=
  ∃ attr ∈ kind.listAttrs, type = cstr attr

end ListKind

/-! The fields of an object after a save -/

/-- A text field: NULL leaves it alone, and the empty string clears it. -/
def fieldAfter (current : Option CString) : Option CString → Option CString
  | none => current
  | some text => readBack text

/-- A number: all the negative ones mean that there is none. -/
def numberAfter (number : GInt) : GInt := if 0 ≤ number.toInt then number else -1

def listAfter (values : List CString) : Option (List CString) :=
  if values = [] then none else some (values.map untilNul)

def Users.UpdateAttrsData.edit (d : UpdateAttrsData) (user : SbvUser) : SbvUser :=
  { user with
    displayName := fieldAfter user.displayName d.displayName
    givenName := fieldAfter user.givenName d.givenName
    sn := fieldAfter user.sn d.sn
    email := fieldAfter user.email d.email }

/-- The flags are those the object had when the save was started. -/
def Users.SetPwFlagsData.edit (d : SetPwFlagsData) (user : SbvUser) : SbvUser :=
  { user with
    enabled := d.currentUac &&& uacAccountDisable = 0
    uac := uacWithNeverExpires d.neverExpires d.currentUac
    pwdLastSet := if d.forceChange then 0 else -1
    accountExpires := if d.accountExpires = 0 then maxInt64 else d.accountExpires }

def Users.UnixAttrsData.edit (d : UnixAttrsData) (user : SbvUser) : SbvUser :=
  { user with
    uidNumber := numberAfter d.uidNumber
    gidNumber := numberAfter d.gidNumber
    loginShell := readBack (orEmpty d.loginShell)
    unixHomeDir := readBack (orEmpty d.unixHomeDir)
    gecos := readBack (orEmpty d.gecos) }

def Groups.GroupUnixData.edit (d : GroupUnixData) (group : SbvGroup) : SbvGroup :=
  { group with gidNumber := numberAfter d.gidNumber }

def Computers.UpdateAttrsData.edit (d : UpdateAttrsData) (computer : SbvComputer) :
    SbvComputer :=
  { computer with
    description := fieldAfter computer.description d.description
    dnsHostname := fieldAfter computer.dnsHostname d.dnsHostname }

def Computers.SetSpnData.edit (d : SetSpnData) (computer : SbvComputer) : SbvComputer :=
  { computer with spn := listAfter d.spns }

def Contacts.UpdateData.edit (d : UpdateData) (contact : SbvContact) : SbvContact :=
  { contact with
    displayName := fieldAfter contact.displayName d.displayName
    givenName := fieldAfter contact.givenName d.givenName
    sn := fieldAfter contact.sn d.sn
    description := fieldAfter contact.description d.description
    mail := fieldAfter contact.mail d.mail
    telephoneNumber := fieldAfter contact.telephoneNumber d.telephoneNumber
    mobile := fieldAfter contact.mobile d.mobile
    fax := fieldAfter contact.fax d.fax
    office := fieldAfter contact.office d.office
    streetAddress := fieldAfter contact.streetAddress d.streetAddress
    locality := fieldAfter contact.locality d.locality
    state := fieldAfter contact.state d.state
    postalCode := fieldAfter contact.postalCode d.postalCode
    country := fieldAfter contact.country d.country
    proxyAddresses := (d.proxyAddresses.map listAfter).getD contact.proxyAddresses }

/-- What a save that succeeds makes of the object in the list. -/
inductive Worker.Edits : Worker → Listed → Listed → Prop
  | userAttrs (d : Users.UpdateAttrsData) (user : SbvUser) :
      Edits (usersUpdateAttrs d) (.user user) (.user (d.edit user))
  | userPolicy (d : Users.SetPwFlagsData) (user : SbvUser) :
      Edits (usersSetPasswordFlags d) (.user user) (.user (d.edit user))
  | userUnix (d : Users.UnixAttrsData) (user : SbvUser) :
      Edits (usersSetUnixAttrs d) (.user user) (.user (d.edit user))
  | userEnabled (d : SetEnabledData) (user : SbvUser) (flags : GInt64)
      (start : flags = user.uac ∨ flags = Users.uacNormalAccount) :
      Edits (usersSetEnabled d) (.user user)
        (.user { user with enabled := d.enabled, uac := uacWithEnabled d.enabled flags })
  | groupUnix (d : Groups.GroupUnixData) (group : SbvGroup) :
      Edits (groupsSetUnixAttrs d) (.group group) (.group (d.edit group))
  | memberAdded (d : Groups.MemberData) (group : SbvGroup) (adds : d.ldapOp = .add) :
      Edits (groupsModifyMember d) (.group group)
        (.group
          { group with members := some (group.members.getD [] ++ [untilNul d.memberDn]) })
  | memberRemoved (d : Groups.MemberData) (group : SbvGroup) (values : List CString)
      (removes : d.ldapOp = .delete) (members : group.members = listAfter values)
      (present : d.memberDn ∈ values) :
      Edits (groupsModifyMember d) (.group group)
        (.group { group with members := listAfter (values.filter (· ≠ d.memberDn)) })
  | computerAttrs (d : Computers.UpdateAttrsData) (computer : SbvComputer) :
      Edits (computersUpdateAttrs d) (.computer computer) (.computer (d.edit computer))
  | computerSpn (d : Computers.SetSpnData) (computer : SbvComputer) :
      Edits (computersSetSpn d) (.computer computer) (.computer (d.edit computer))
  | computerEnabled (d : SetEnabledData) (computer : SbvComputer) (flags : GInt64)
      (start : flags = computer.uac ∨ flags = 0) :
      Edits (computersSetEnabled d) (.computer computer)
        (.computer
          { computer with enabled := d.enabled, uac := uacWithEnabled d.enabled flags })
  | contactAttrs (d : Contacts.UpdateData) (contact : SbvContact) :
      Edits (contactsUpdate d) (.contact contact) (.contact (d.edit contact))

section Replaced

/-! What is read of a value that was written -/

variable {attrs : Attributes} {type : String}

end Replaced

/-! The saves, one by one -/

section Saves

variable (attrs : Attributes)

end Saves

/-! A save that reports success -/

namespace Worker

/-- The workers that save what a panel shows, and leave the entry its name. -/
def Saves (kind : ListKind) : Worker → Prop
  | usersUpdateAttrs d => kind = .users ∧ orEmpty d.cn = []
  | usersSetPasswordFlags _ | usersSetUnixAttrs _ | usersSetEnabled _ => kind = .users
  | groupsSetUnixAttrs _ => kind = .groups
  | groupsModifyMember d => kind = .groups ∧ d.ldapOp ≠ .replace
  | computersUpdateAttrs _ | computersSetSpn _ | computersSetEnabled _ => kind = .computers
  | contactsUpdate d => kind = .contacts ∧ orEmpty d.cn = []
  | _ => False

theorem Saves.writes {kind : ListKind} {worker : Worker} (saves : worker.Saves kind) :
    worker.Writes := by
  cases worker with
  | usersUpdateAttrs d | usersSetPasswordFlags d | usersSetUnixAttrs d | usersSetEnabled d
  | groupsSetUnixAttrs d | groupsModifyMember d | computersUpdateAttrs d | computersSetSpn d
  | computersSetEnabled d | contactsUpdate d => trivial
  | _ => exact saves.elim

theorem Saves.unnamed {kind : ListKind} {worker : Worker} (saves : worker.Saves kind) :
    worker.newName = [] := by
  cases worker with
  | usersUpdateAttrs d | contactsUpdate d => exact saves.2
  | _ => rfl

/-- The name a task is started with. -/
def startName (worker : Worker) : CString := (worker.names none).headD []

/-- The directory after a save: it had nothing to write, or has edited the object of the
entry that it is addressed to. -/
inductive Saved (kind : ListKind) (session : Session) (worker : Worker) : Directory → Prop
  | nothing (edits : ∀ attrs, worker.Edits (kind.ofEntry attrs) (kind.ofEntry attrs)) :
      Saved kind session worker session.directory
  | written {name : DistinguishedName} {entry : Entry} {attrs : Attributes}
      (found : session.directory.find session.rule worker.startName = .ok (name, entry))
      (edits : worker.Edits (kind.ofEntry entry.attrs) (kind.ofEntry attrs)) :
      Saved kind session worker
        (Function.update session.directory name (some { entry with attrs }))

section Saved

variable {kind : ListKind} {session : Session} {worker : Worker} {mods : List LdapMod}

end Saved

end Worker

/-! What the list shows after many turns -/

/-- The turn is a save of the entry with this objectGUID, and reports success. -/
def Turn.Saved (kind : ListKind) (guid : Nat) (session : Session) : Turn → Prop
  | task worker =>
      worker.Saves kind ∧ worker.reports session = true ∧
        Names guid session worker.startName = true
  | foreign _ => False

/-- The turn writes nothing of the entry that the list reads, or is a save. -/
def Turn.Orderly (kind : ListKind) (guid : Nat) (session : Session) (turn : Turn) : Prop :=
  turn.Spares guid kind.Reads session ∨ ∃ worker, turn = .task worker ∧ worker.Saves kind

section Turns

variable {kind : ListKind} {guid : Nat} {session : Session} {before after : Attributes}

end Turns

end Sambervise.Backend
