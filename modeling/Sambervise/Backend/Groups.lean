import Sambervise.Backend.Workers

namespace Sambervise.Backend.Groups

open Text Ldap Model

/-! Listing -/

/-- The last sub-authority of a SID, whose bytes are in little-endian order. -/
def ridOfSid (raw : List UInt8) : Option GInt64 :=
  let subCount := (raw.getD 1 0).toNat
  if 8 ≤ raw.length ∧ 0 < subCount ∧ 8 + subCount * 4 ≤ raw.length then
    let last := (raw.drop (8 + (subCount - 1) * 4)).take 4
    some (BitVec.ofNat 64 (last.foldr (fun byte rest => byte.toNat + 256 * rest) 0))
  else none

def groupOfEntry (attrs : Attributes) : SbvGroup :=
  { dn := firstValue attrs "distinguishedName"
    sam := firstValue attrs "sAMAccountName"
    displayName := firstValue attrs "cn"
    description := firstValue attrs "description"
    groupType := ((firstValue attrs "groupType").map
      fun value => (strtoll value).setWidth 32).getD 0
    members := allValues attrs "member"
    gidNumber := firstGInt attrs "gidNumber"
    rid := ((attrs.values (cstr "objectSid")).head?.bind ridOfSid).getD (-1)
    memberUid := allValues attrs "memberUid" }

/-! Members -/

structure MemberData where
  groupDn : Option CString
  memberDn : CString
  ldapOp : ModOp
  deriving DecidableEq, Repr

def modifyMemberThread (d : MemberData) : LdapM (Except GError Unit) :=
  modifyEntry "Modify failed: " (orEmpty d.groupDn)
    [{ op := d.ldapOp, type := cstr "member", values := [d.memberDn] }]

def sbvGroupsAddMember (group : SbvGroup) (memberDn : CString) : MemberData :=
  { groupDn := group.dn, memberDn, ldapOp := .add }

def sbvGroupsRemoveMember (group : SbvGroup) (memberDn : CString) : MemberData :=
  { groupDn := group.dn, memberDn, ldapOp := .delete }

/-! RFC 2307 attributes -/

structure GroupUnixData where
  dn : Option CString
  gidNumber : GInt
  deriving DecidableEq, Repr

def GroupUnixData.mods (d : GroupUnixData) : List LdapMod :=
  [replaceMod "gidNumber"
    (if 0 ≤ d.gidNumber.toInt then [formatInt d.gidNumber.toInt] else [])]

def setGroupUnixThread (d : GroupUnixData) : LdapM (Except GError Unit) :=
  setUnixFrom (orEmpty d.dn) d.mods

def sbvGroupsSetUnixAttrs (group : SbvGroup) (gidNumber : GInt) : GroupUnixData :=
  { dn := group.dn, gidNumber }

/-! Create and delete -/

structure CreateGroupData where
  sam : CString
  description : CString := []
  groupType : GInt
  containerDn : CString
  deriving DecidableEq, Repr

def CreateGroupData.mods (d : CreateGroupData) : List LdapMod :=
  [ plainMod "objectClass" [cstr "top", cstr "group"],
    plainMod "sAMAccountName" [d.sam],
    plainMod "groupType" [formatInt d.groupType.toInt] ] ++
    optionalMod "description" d.description

def createGroupThread (d : CreateGroupData) : LdapM (Except GError CString) :=
  addEntry (cnDn d.sam d.containerDn) d.mods

def sbvGroupsCreate (d : CreateGroupData) : LdapM (Except GError CString) :=
  if d.sam = [] ∨ d.containerDn = [] then
    return .error { code := .ldap, text := cstr "Group name and container are required" }
  else createGroupThread d

def deleteGroupThread (dn : Option CString) : LdapM (Except GError Unit) :=
  deleteEntry dn

end Sambervise.Backend.Groups
