import Sambervise.Backend.Computers
import Sambervise.Backend.Contacts
import Sambervise.Backend.Groups
import Sambervise.Backend.LdapBrowse
import Sambervise.Backend.Users

namespace Sambervise.Backend

open Text Ldap Model

/-! The lists of the four panels: what each asks for, and what it makes of an entry. -/

namespace Users

def listAttrs : List String :=
  ["distinguishedName", "sAMAccountName", "cn", "displayName", "givenName", "sn", "mail",
    "description", "userAccountControl", "pwdLastSet", "accountExpires", "uidNumber",
    "gidNumber", "loginShell", "unixHomeDirectory", "gecos"]

def listRequest : Option CString → SearchRequest :=
  subtreeRequest (cstr "(&(objectClass=user)(!(objectClass=computer)))") listAttrs

def listThread (search : LdapSearch) : LdapM (Except GError (List (SbvUser × AttrTable))) :=
  listFrom search listRequest userOfEntry

end Users

namespace Groups

def listAttrs : List String :=
  ["distinguishedName", "sAMAccountName", "cn", "description", "groupType", "member",
    "gidNumber", "memberUid", "objectSid"]

def listRequest : Option CString → SearchRequest :=
  subtreeRequest (cstr "(objectClass=group)") listAttrs

def listThread (search : LdapSearch) :
    LdapM (Except GError (List (SbvGroup × AttrTable))) :=
  listFrom search listRequest groupOfEntry

end Groups

namespace Computers

def listAttrs : List String :=
  ["distinguishedName", "sAMAccountName", "cn", "description", "dNSHostName",
    "operatingSystem", "operatingSystemVersion", "operatingSystemServicePack",
    "userAccountControl", "pwdLastSet", "servicePrincipalName"]

def listRequest : Option CString → SearchRequest :=
  subtreeRequest (cstr "(objectClass=computer)") listAttrs

def listThread (search : LdapSearch) :
    LdapM (Except GError (List (SbvComputer × AttrTable))) :=
  listFrom search listRequest computerOfEntry

end Computers

namespace Contacts

def contactAttrs : List String :=
  ["distinguishedName", "cn", "displayName", "givenName", "sn", "description", "mail",
    "proxyAddresses", "telephoneNumber", "mobile", "facsimileTelephoneNumber",
    "physicalDeliveryOfficeName", "streetAddress", "l", "st", "postalCode", "co"]

def listRequest : Option CString → SearchRequest :=
  subtreeRequest (cstr "(&(objectClass=contact)(!(objectClass=user)))") contactAttrs

def listThread (search : LdapSearch) :
    LdapM (Except GError (List (SbvContact × AttrTable))) :=
  listFrom search listRequest contactOfEntry

end Contacts

end Sambervise.Backend
