import Sambervise.Backend.Workers

namespace Sambervise.Backend.Computers

open Text Ldap Model

def uacWorkstationTrustAcct : GInt64 := 0x1000

def computerOfEntry (attrs : Attributes) : SbvComputer :=
  let computer : SbvComputer :=
    { dn := firstValue attrs "distinguishedName"
      sam := firstValue attrs "sAMAccountName"
      cn := firstValue attrs "cn"
      description := firstValue attrs "description"
      dnsHostname := firstValue attrs "dNSHostName"
      os := firstValue attrs "operatingSystem"
      osVersion := firstValue attrs "operatingSystemVersion"
      osServicePack := firstValue attrs "operatingSystemServicePack"
      spn :=
        match attrs.values (cstr "servicePrincipalName") with
        | [] => none
        | values => some (values.map untilNul) }
  let computer :=
    match firstValue attrs "userAccountControl" with
    | some value =>
        let uac := strtoll value
        { computer with uac, enabled := uac &&& uacAccountDisable = 0 }
    | none => computer
  match firstValue attrs "pwdLastSet" with
  | some value => { computer with pwdLastSet := strtoll value }
  | none => computer

theorem computerOfEntry_eq (attrs : Attributes) :
    computerOfEntry attrs =
      { dn := firstValue attrs "distinguishedName"
        sam := firstValue attrs "sAMAccountName"
        cn := firstValue attrs "cn"
        description := firstValue attrs "description"
        dnsHostname := firstValue attrs "dNSHostName"
        os := firstValue attrs "operatingSystem"
        osVersion := firstValue attrs "operatingSystemVersion"
        osServicePack := firstValue attrs "operatingSystemServicePack"
        enabled :=
          ((firstValue attrs "userAccountControl").map
            fun value => decide (strtoll value &&& uacAccountDisable = 0)).getD true
        uac := ((firstValue attrs "userAccountControl").map strtoll).getD 0
        pwdLastSet := ((firstValue attrs "pwdLastSet").map strtoll).getD 0
        spn := allValues attrs "servicePrincipalName" } := by
  unfold computerOfEntry
  cases firstValue attrs "userAccountControl" with
  | none | some uac =>
      cases firstValue attrs "pwdLastSet" with
      | none | some pwdLastSet => rfl

def setEnabledThread (d : SetEnabledData) : LdapM (Except GError Unit) :=
  setEnabledFrom 0 d

structure UpdateAttrsData where
  dn : Option CString
  description : Option CString
  dnsHostname : Option CString
  deriving DecidableEq, Repr

def UpdateAttrsData.mods (d : UpdateAttrsData) : List LdapMod :=
  addMod "description" d.description ++ addMod "dNSHostName" d.dnsHostname

def updateAttrsThread (d : UpdateAttrsData) : LdapM (Except GError Unit) :=
  whenConnected (releasing (modifyUpdated (orEmpty d.dn) d.mods))

/-- NULL and the empty vector both remove the attribute. -/
structure SetSpnData where
  dn : Option CString
  spns : List CString
  deriving DecidableEq, Repr

def setSpnThread (d : SetSpnData) : LdapM (Except GError Unit) :=
  modifyEntry "SPN update failed: " (orEmpty d.dn) [replaceMod "servicePrincipalName" d.spns]

structure CreateComputerData where
  cn : CString
  dnsHostname : CString := []
  description : CString := []
  containerDn : CString
  deriving DecidableEq, Repr

def CreateComputerData.mods (d : CreateComputerData) : List LdapMod :=
  [ plainMod "objectClass"
      [cstr "top", cstr "person", cstr "organizationalPerson", cstr "user",
        cstr "computer"],
    plainMod "cn" [d.cn], plainMod "sAMAccountName" [d.cn ++ cstr "$"],
    plainMod "userAccountControl"
      [formatInt64 (uacWorkstationTrustAcct ||| uacAccountDisable)] ] ++
    optionalMod "dNSHostName" d.dnsHostname ++ optionalMod "description" d.description

def createComputerThread (d : CreateComputerData) : LdapM (Except GError CString) :=
  addEntry (cnDn d.cn d.containerDn) d.mods

def sbvComputersCreate (d : CreateComputerData) : LdapM (Except GError CString) :=
  if d.cn = [] ∨ d.containerDn = [] then
    return .error
      { code := .ldap, text := cstr "Computer name and container are required" }
  else createComputerThread d

def deleteComputerThread (dn : Option CString) : LdapM (Except GError Unit) :=
  deleteEntry dn

end Sambervise.Backend.Computers
