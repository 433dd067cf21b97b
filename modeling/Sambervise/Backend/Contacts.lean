import Sambervise.Backend.Workers

namespace Sambervise.Backend.Contacts

open Text Ldap Model

def contactOfEntry (attrs : Attributes) : SbvContact :=
  { dn := firstValue attrs "distinguishedName"
    cn := firstValue attrs "cn"
    displayName := firstValue attrs "displayName"
    givenName := firstValue attrs "givenName"
    sn := firstValue attrs "sn"
    description := firstValue attrs "description"
    mail := firstValue attrs "mail"
    proxyAddresses := allValues attrs "proxyAddresses"
    telephoneNumber := firstValue attrs "telephoneNumber"
    mobile := firstValue attrs "mobile"
    fax := firstValue attrs "facsimileTelephoneNumber"
    office := firstValue attrs "physicalDeliveryOfficeName"
    streetAddress := firstValue attrs "streetAddress"
    locality := firstValue attrs "l"
    state := firstValue attrs "st"
    postalCode := firstValue attrs "postalCode"
    country := firstValue attrs "co" }

structure CreateData where
  cn : CString
  givenName : CString := []
  sn : CString := []
  mail : CString := []
  telephoneNumber : CString := []
  containerDn : CString
  deriving DecidableEq, Repr

def CreateData.mods (d : CreateData) : List LdapMod :=
  [ plainMod "objectClass"
      [cstr "top", cstr "person", cstr "organizationalPerson", cstr "contact"],
    plainMod "cn" [d.cn] ] ++
    optionalMod "givenName" d.givenName ++ optionalMod "sn" d.sn ++
    optionalMod "mail" d.mail ++ optionalMod "telephoneNumber" d.telephoneNumber

def createThread (d : CreateData) : LdapM (Except GError CString) :=
  addEntry (cnDn d.cn d.containerDn) d.mods

def sbvContactsCreate (d : CreateData) : LdapM (Except GError CString) :=
  if d.cn = [] ∨ d.containerDn = [] then
    return .error { code := .ldap, text := cstr "Name and container are required" }
  else createThread d

structure UpdateData where
  dn : Option CString
  cn : Option CString
  displayName : Option CString
  givenName : Option CString
  sn : Option CString
  description : Option CString
  mail : Option CString
  telephoneNumber : Option CString
  mobile : Option CString
  fax : Option CString
  office : Option CString
  streetAddress : Option CString
  locality : Option CString
  state : Option CString
  postalCode : Option CString
  country : Option CString
  /-- NULL leaves the attribute alone. -/
  proxyAddresses : Option (List CString)
  deriving DecidableEq, Repr

def UpdateData.mods (d : UpdateData) : List LdapMod :=
  addMod "displayName" d.displayName ++ addMod "givenName" d.givenName ++
    addMod "sn" d.sn ++ addMod "description" d.description ++
    addMod "mail" d.mail ++ addMod "telephoneNumber" d.telephoneNumber ++
    addMod "mobile" d.mobile ++ addMod "facsimileTelephoneNumber" d.fax ++
    addMod "physicalDeliveryOfficeName" d.office ++
    addMod "streetAddress" d.streetAddress ++ addMod "l" d.locality ++
    addMod "st" d.state ++ addMod "postalCode" d.postalCode ++
    addMod "co" d.country ++
    (match d.proxyAddresses with
      | none => []
      | some values => [replaceMod "proxyAddresses" values])

def updateThread (d : UpdateData) : LdapM (Except GError Unit) :=
  renameThenModify (orEmpty d.dn) (orEmpty d.cn) d.mods

def deleteThread (dn : Option CString) : LdapM (Except GError Unit) :=
  deleteEntry dn

end Sambervise.Backend.Contacts
