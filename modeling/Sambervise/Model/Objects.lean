import Sambervise.Text.Decimal

namespace Sambervise.Model

open Text

/-! The program's own objects. A string that may be NULL is an `Option`. -/

abbrev GInt := BitVec 32

inductive SbvAuthType where
  | kerberos
  | simple
  deriving DecidableEq, Repr

structure SbvProfile where
  name : Option CString := none
  host : Option CString := none
  port : GInt := 389
  baseDn : Option CString := none
  authType : SbvAuthType := .kerberos
  bindDn : Option CString := none
  useTls : Bool := false
  useLdaps : Bool := false
  skipCert : Bool := false
  uidMin : GInt64 := -1
  uidMax : GInt64 := -1
  gidMin : GInt64 := -1
  gidMax : GInt64 := -1
  deriving DecidableEq, Repr

structure SbvUser where
  dn : Option CString := none
  sam : Option CString := none
  cn : Option CString := none
  displayName : Option CString := none
  givenName : Option CString := none
  sn : Option CString := none
  email : Option CString := none
  description : Option CString := none
  enabled : Bool := true
  uac : GInt64 := 0
  pwdLastSet : GInt64 := 0
  accountExpires : GInt64 := maxInt64
  uidNumber : GInt := -1
  gidNumber : GInt := -1
  loginShell : Option CString := none
  unixHomeDir : Option CString := none
  gecos : Option CString := none
  deriving DecidableEq, Repr

structure SbvComputer where
  dn : Option CString := none
  sam : Option CString := none
  cn : Option CString := none
  description : Option CString := none
  dnsHostname : Option CString := none
  os : Option CString := none
  osVersion : Option CString := none
  osServicePack : Option CString := none
  enabled : Bool := true
  uac : GInt64 := 0
  pwdLastSet : GInt64 := 0
  spn : Option (List CString) := none
  deriving DecidableEq, Repr

structure SbvGroup where
  dn : Option CString := none
  sam : Option CString := none
  displayName : Option CString := none
  description : Option CString := none
  groupType : GInt := 0
  members : Option (List CString) := none
  gidNumber : GInt := -1
  /-- The last part of the SID. -/
  rid : GInt64 := -1
  memberUid : Option (List CString) := none
  deriving DecidableEq, Repr

structure SbvContact where
  dn : Option CString := none
  cn : Option CString := none
  displayName : Option CString := none
  givenName : Option CString := none
  sn : Option CString := none
  description : Option CString := none
  mail : Option CString := none
  proxyAddresses : Option (List CString) := none
  telephoneNumber : Option CString := none
  mobile : Option CString := none
  fax : Option CString := none
  office : Option CString := none
  streetAddress : Option CString := none
  locality : Option CString := none
  state : Option CString := none
  postalCode : Option CString := none
  country : Option CString := none
  deriving DecidableEq, Repr

inductive SbvErrorCode where
  | connection
  | auth
  | tls
  | ldap
  deriving DecidableEq, Repr

/-- An error as its format string builds it: a text, libldap's own text for a
result code, and what stands after that. -/
structure GError where
  code : SbvErrorCode
  text : CString
  reason : Option Int := none
  hint : CString := []
  deriving DecidableEq, Repr

/-- `printf` shows a NULL string so. -/
def shownString (string : Option CString) : CString := string.getD (cstr "(null)")

/-- `getter (user) ? getter (user) : ""` -/
def orEmpty (string : Option CString) : CString := string.getD []

end Sambervise.Model
