import Mathlib.Logic.Function.Basic
import Sambervise.Ldap.Dn

namespace Sambervise.Ldap

open Text

/-! A directory server as the program meets it: entries under their names, and
the operations on one entry. Names are compared under the server's matching rule
for values; attribute types are compared without regard to case. -/

abbrev MatchingRule := CString → CString

def AttributeValue.normalize (rule : MatchingRule) : AttributeValue → AttributeValue
  | .string value => .string (rule value)
  | .ber encoding => .ber encoding

def RelativeDn.normalize (rule : MatchingRule) (rdn : RelativeDn) : RelativeDn :=
  rdn.map fun assertion =>
    { type := asciiStrdown assertion.type
      value := assertion.value.normalize rule }

def DistinguishedName.normalize (rule : MatchingRule) (dn : DistinguishedName) :
    DistinguishedName :=
  dn.map (RelativeDn.normalize rule)

/-- The normal form under which the server files the entry a string names. -/
def denotes (rule : MatchingRule) (string : CString) : Option DistinguishedName :=
  (parseDn string).map (DistinguishedName.normalize rule)

/-- The attributes of an entry by their types in lower case; an attribute the
entry does not have has no values. -/
abbrev Attributes := CString → List (List UInt8)

def Attributes.values (attrs : Attributes) (type : CString) : List (List UInt8) :=
  attrs (asciiStrdown type)

def Attributes.set (attrs : Attributes) (type : CString) (values : List (List UInt8)) :
    Attributes :=
  Function.update attrs (asciiStrdown type) values

@[simp] theorem Attributes.values_set_self (attrs : Attributes) (type : CString)
    (values : List (List UInt8)) : (attrs.set type values).values type = values := by
  simp [Attributes.values, Attributes.set]

theorem Attributes.values_set_of_ne (attrs : Attributes) {type other : CString}
    (different : asciiStrdown other ≠ asciiStrdown type) (values : List (List UInt8)) :
    (attrs.set type values).values other = attrs.values other := by
  simp [Attributes.values, Attributes.set, Function.update_of_ne different]

/-- The values of a type are these, as a set. -/
def Attributes.HoldsValues (attrs : Attributes) (type : CString)
    (values : List (List UInt8)) : Prop :=
  ∀ value, value ∈ attrs.values type ↔ value ∈ values

theorem Attributes.HoldsValues.nil_iff {attrs : Attributes} {type : CString}
    {values : List (List UInt8)} (holds : attrs.HoldsValues type values) :
    attrs.values type = [] ↔ values = [] := by
  rw [List.eq_nil_iff_forall_not_mem, List.eq_nil_iff_forall_not_mem]
  exact forall_congr' fun value => not_congr (holds value)

structure Entry where
  objectGuid : Nat
  attrs : Attributes

abbrev Directory := DistinguishedName → Option Entry

abbrev ResultCode := Int

def ldapSuccess : ResultCode := 0
def ldapSizelimitExceeded : ResultCode := 4
def ldapNoSuchAttribute : ResultCode := 16
def ldapTypeOrValueExists : ResultCode := 20
def ldapNoSuchObject : ResultCode := 32
def ldapInvalidDnSyntax : ResultCode := 34
def ldapNamingViolation : ResultCode := 64
def ldapAlreadyExists : ResultCode := 68

inductive ModOp where
  | add
  | replace
  | delete
  deriving DecidableEq, Repr

/-- An `LDAPMod`; no values stand for a NULL value vector. -/
structure LdapMod where
  op : ModOp
  type : CString
  values : List (List UInt8)
  deriving DecidableEq, Repr

def applyMod (attrs : Attributes) (mod : LdapMod) : Except ResultCode Attributes :=
  let present := attrs.values mod.type
  match mod.op with
  | .replace => .ok (attrs.set mod.type mod.values)
  | .add =>
      if mod.values.any (present.contains ·) then .error ldapTypeOrValueExists
      else .ok (attrs.set mod.type (present ++ mod.values))
  | .delete =>
      if present = [] ∨ mod.values.any (!present.contains ·) then
        .error ldapNoSuchAttribute
      else if mod.values = [] then .ok (attrs.set mod.type [])
      else .ok (attrs.set mod.type (present.filter (!mod.values.contains ·)))

/-- The modifications of one request apply in order, all or none. -/
def applyMods (attrs : Attributes) (mods : List LdapMod) : Except ResultCode Attributes :=
  mods.foldlM applyMod attrs

namespace Directory

variable (rule : MatchingRule) (directory : Directory)

def lookup (string : CString) : Option Entry :=
  (denotes rule string).bind directory

/-- The entry a request names, or the code the server refuses it with. -/
def find (string : CString) : Except ResultCode (DistinguishedName × Entry) :=
  match denotes rule string with
  | none => .error ldapInvalidDnSyntax
  | some dn =>
      match directory dn with
      | none => .error ldapNoSuchObject
      | some entry => .ok (dn, entry)

def modify (string : CString) (mods : List LdapMod) : Except ResultCode Directory := do
  let (dn, entry) ← directory.find rule string
  let attrs ← applyMods entry.attrs mods
  return Function.update directory dn (some { entry with attrs })

/-- What the server sees to in a new entry: it has the value of its name, and the name. -/
def namedAttrs (rule : MatchingRule) (string : CString) (assertion : AttributeTypeAndValue)
    (attrs : Attributes) : Attributes :=
  let value := assertion.value.bytes
  let present := attrs.values assertion.type
  let attrs :=
    if (present.map rule).contains (rule value) then attrs
    else attrs.set assertion.type (present ++ [value])
  attrs.set (cstr "distinguishedName") [string]

/-- As in Active Directory, a name of several values is refused. -/
def add (string : CString) (guid : Nat) (mods : List LdapMod) :
    Except ResultCode Directory :=
  match parseDn string with
  | none => .error ldapInvalidDnSyntax
  | some ([assertion] :: parent) =>
      let dn := DistinguishedName.normalize rule ([assertion] :: parent)
      match directory dn with
      | some _ => .error ldapAlreadyExists
      | none => do
          let attrs ← applyMods (fun _ => []) mods
          return Function.update directory dn
            (some { objectGuid := guid, attrs := namedAttrs rule string assertion attrs })
  | some _ => .error ldapNamingViolation

def delete (string : CString) : Except ResultCode Directory := do
  let (dn, _) ← directory.find rule string
  return Function.update directory dn none

/-- Naming attributes hold one value, that of the name. -/
def renameAttrs (old new : RelativeDn) (attrs : Attributes) : Attributes :=
  let cleared := old.foldl (fun attrs assertion => attrs.set assertion.type []) attrs
  new.foldl
    (fun attrs assertion =>
      attrs.set assertion.type
        [match assertion.value with
          | .string value => value
          | .ber encoding => encoding])
    cleared

/-- `ldap_rename_s` without a new superior and with the old name deleted: the
entry keeps its parent, and what is below it moves along. Values that are names of these
entries are left as they were. -/
def rename (string newRdn : CString) : Except ResultCode Directory := do
  let (dn, entry) ← directory.find rule string
  match parseDn newRdn, dn with
  | some [rdn], oldRdn :: parent =>
      let target := rdn.normalize rule :: parent
      if target ≠ dn ∧ (directory target).isSome then .error ldapAlreadyExists
      else
        let moved : Directory := fun name =>
          if target <:+ name then
            directory (name.take (name.length - target.length) ++ dn)
          else if dn <:+ name then none
          else directory name
        return Function.update moved target
          (some { entry with attrs := renameAttrs oldRdn rdn entry.attrs })
  | _, _ => .error ldapInvalidDnSyntax

/-! The attributes of a new entry -/

section NamedAttrs

variable {type : CString} (rule : MatchingRule) (string : CString)
  (assertion : AttributeTypeAndValue) (attrs : Attributes)
  (noName : asciiStrdown type ≠ asciiStrdown (cstr "distinguishedName"))
include noName

theorem values_namedAttrs (other : asciiStrdown type ≠ asciiStrdown assertion.type) :
    (namedAttrs rule string assertion attrs).values type = attrs.values type := by
  simp only [namedAttrs]
  rw [Attributes.values_set_of_ne _ noName]
  split
  · rfl
  · exact attrs.values_set_of_ne other _

/-- The value of the name comes after those that were asked for. -/
theorem head?_namedAttrs (asked : attrs.values type ≠ []) :
    ((namedAttrs rule string assertion attrs).values type).head? =
      (attrs.values type).head? := by
  by_cases named : asciiStrdown type = asciiStrdown assertion.type
  · have same (attrs : Attributes) : attrs.values type = attrs.values assertion.type := by
      rw [Attributes.values, Attributes.values, named]
    simp only [namedAttrs]
    rw [Attributes.values_set_of_ne _ noName]
    split
    · rfl
    · rw [same] at asked
      rw [same, same, Attributes.values_set_self]
      exact List.head?_append_of_ne_nil _ asked
  · rw [values_namedAttrs rule string assertion attrs noName named]

end NamedAttrs

/-! Replacing attributes of one entry -/

variable {rule directory}

def replaceAll (attrs : Attributes) (mods : List LdapMod) : Attributes :=
  mods.foldl (fun attrs mod => attrs.set mod.type mod.values) attrs

theorem applyMods_of_replace {mods : List LdapMod}
    (replaces : ∀ mod ∈ mods, mod.op = .replace) (attrs : Attributes) :
    applyMods attrs mods = .ok (replaceAll attrs mods) := by
  induction mods generalizing attrs with
  | nil => rfl
  | cons mod rest ih =>
      have first := replaces mod List.mem_cons_self
      have later := ih fun mod member => replaces mod (List.mem_cons_of_mem _ member)
      have applied : applyMod attrs mod = .ok (attrs.set mod.type mod.values) := by
        simp [applyMod, first]
      rw [applyMods, List.foldlM_cons, applied]
      exact later _

theorem find_ok_iff {string : CString} {dn : DistinguishedName} {entry : Entry} :
    directory.find rule string = .ok (dn, entry) ↔
      denotes rule string = some dn ∧ directory dn = some entry := by
  unfold find
  constructor
  · intro found
    split at found
    · cases found
    next other named =>
      split at found
      · cases found
      next held =>
        cases found
        exact ⟨named, held⟩
  · intro both
    obtain ⟨named, held⟩ := both
    simp [named, held]

theorem modify_of_find {string : CString} {dn : DistinguishedName} {entry : Entry}
    (found : directory.find rule string = .ok (dn, entry)) {mods : List LdapMod}
    (replaces : ∀ mod ∈ mods, mod.op = .replace) :
    directory.modify rule string mods =
      .ok (Function.update directory dn
        (some { entry with attrs := replaceAll entry.attrs mods })) := by
  simp [modify, found, applyMods_of_replace replaces, bind, Except.bind, pure, Except.pure]

theorem find_error {string : CString} {rc : ResultCode}
    (failed : directory.find rule string = .error rc) : rc ≠ ldapSuccess := by
  unfold find at failed
  split at failed
  · cases failed
    decide
  · split at failed
    · cases failed
      decide
    · cases failed

theorem modify_of_missing {string : CString} {rc : ResultCode}
    (missing : directory.find rule string = .error rc) (mods : List LdapMod) :
    directory.modify rule string mods = .error rc := by
  simp [modify, missing, bind, Except.bind]

theorem modify_error {string : CString} {mods : List LdapMod} {rc : ResultCode}
    (replaces : ∀ mod ∈ mods, mod.op = .replace)
    (failed : directory.modify rule string mods = .error rc) : rc ≠ ldapSuccess := by
  cases found : directory.find rule string with
  | error other =>
      rw [modify_of_missing found] at failed
      cases failed
      exact find_error found
  | ok held =>
      rw [modify_of_find found replaces] at failed
      cases failed

theorem rename_error {string newRdn : CString} {rc : ResultCode}
    (failed : directory.rename rule string newRdn = .error rc) : rc ≠ ldapSuccess := by
  cases found : directory.find rule string with
  | error other =>
      simp only [rename, found, bind, Except.bind, Except.error.injEq] at failed
      rw [← failed]
      exact find_error found
  | ok held =>
      simp only [rename, found, bind, Except.bind] at failed
      split at failed
      · split at failed
        · cases failed
          decide
        · cases failed
      · cases failed
        decide

theorem find_update {string : CString} {dn : DistinguishedName} {entry : Entry}
    (named : denotes rule string = some dn) :
    find rule (Function.update directory dn (some entry)) string = .ok (dn, entry) :=
  find_ok_iff.mpr ⟨named, Function.update_self dn (some entry) directory⟩

/-- The directory of one entry. -/
theorem find_single {string : CString} {dn : DistinguishedName} (entry : Entry)
    (named : denotes rule string = some dn) :
    find rule (fun name => if name = dn then some entry else none) string =
      .ok (dn, entry) :=
  find_ok_iff.mpr ⟨named, if_pos rfl⟩

end Directory

end Sambervise.Ldap
