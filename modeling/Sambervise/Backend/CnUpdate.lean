import Sambervise.Backend.Workers
import Sambervise.Ldap.Rename

namespace Sambervise.Backend

open Text Ldap Model

/-! The update of an entry that is named by its `cn`: where the entry is after the
rename, and which entry the modification that follows it reaches. -/

def cnType : CString := cstr "cn"

def renamedTo (rule : MatchingRule) (cn : CString) (parent : DistinguishedName) :
    DistinguishedName :=
  RelativeDn.normalize rule [{ type := cstr "CN", value := .string cn }] :: parent

def effectiveDn (dn cn : CString) : CString := cnDn cn (afterFirstComma dn)

theorem keystring_cn : isKeystring (cstr "CN") = true := by decide

section Names

variable {rule : MatchingRule} {dn cn : CString} {old : RelativeDn}
  {parent : DistinguishedName}

theorem parseDn_of_denotes (named : denotes rule dn = some (old :: parent)) :
    ∃ rdn above, parseDn dn = some (rdn :: above) ∧ RelativeDn.normalize rule rdn = old ∧
      DistinguishedName.normalize rule above = parent := by
  simp only [denotes, Option.map_eq_some_iff] at named
  obtain ⟨names, parsed, normal⟩ := named
  cases names with
  | nil => cases normal
  | cons rdn above =>
      obtain ⟨first, rest⟩ := List.cons.inj normal
      exact ⟨rdn, above, parsed, first, rest⟩

theorem ne_nil_of_denotes (named : denotes rule dn = some (old :: parent)) : dn ≠ [] := by
  intro equal
  subst equal
  cases named

theorem denotes_effectiveDn (plain : needsNoEscaping cn = true)
    (separates : FirstCommaSeparates dn) (named : denotes rule dn = some (old :: parent)) :
    denotes rule (effectiveDn dn cn) = some (renamedTo rule cn parent) := by
  obtain ⟨rdn, above, parsed, _, rfl⟩ := parseDn_of_denotes named
  have sibling := parseDn_sibling keystring_cn plain separates parsed
  rw [denotes, effectiveDn, cnDn_eq, afterFirstComma, sibling]
  rfl

theorem length_denotes_effectiveDn (plain : needsNoEscaping cn = true)
    (misled : ¬ FirstCommaSeparates dn) (named : denotes rule dn = some (old :: parent))
    {other : DistinguishedName} (elsewhere : denotes rule (effectiveDn dn cn) = some other) :
    other.length = parent.length + 2 := by
  obtain ⟨rdn, above, parsed, _, rfl⟩ := parseDn_of_denotes named
  simp only [denotes, effectiveDn, cnDn_eq, afterFirstComma, Option.map_eq_some_iff]
    at elsewhere
  obtain ⟨others, sibling, rfl⟩ := elsewhere
  have longer := length_parseDn_sibling keystring_cn plain misled
    (ne_nil_of_denotes named) parsed sibling
  simpa [DistinguishedName.normalize] using longer

end Names

def replaced (entry : Entry) (mods : List LdapMod) : Entry :=
  { entry with attrs := Directory.replaceAll entry.attrs mods }

@[simp] theorem objectGuid_replaced (entry : Entry) (mods : List LdapMod) :
    (replaced entry mods).objectGuid = entry.objectGuid := rfl

theorem replaced_cons (entry : Entry) (mod : LdapMod) (rest : List LdapMod) :
    replaced entry (mod :: rest) =
      replaced { entry with attrs := entry.attrs.set mod.type mod.values } rest := rfl

theorem values_replaced_of_ne {mods : List LdapMod} {type : CString}
    (others : ∀ mod ∈ mods, asciiStrdown type ≠ asciiStrdown mod.type) (entry : Entry) :
    (replaced entry mods).attrs.values type = entry.attrs.values type := by
  induction mods generalizing entry with
  | nil => rfl
  | cons mod rest ih =>
      rw [replaced_cons, ih fun other member => others other (List.mem_cons_of_mem _ member)]
      exact entry.attrs.values_set_of_ne (others mod List.mem_cons_self) mod.values

theorem values_replaced_of_mem {mods : List LdapMod}
    (distinct : (mods.map fun mod => asciiStrdown mod.type).Nodup) {mod : LdapMod}
    (member : mod ∈ mods) (entry : Entry) :
    (replaced entry mods).attrs.values mod.type = mod.values := by
  induction mods generalizing entry with
  | nil => cases member
  | cons first rest ih =>
      rw [List.map_cons, List.nodup_cons] at distinct
      rw [replaced_cons]
      rcases List.mem_cons.mp member with rfl | later
      · rw [values_replaced_of_ne]
        · exact entry.attrs.values_set_self mod.type mod.values
        · intro other inRest same
          exact distinct.1 (List.mem_map.mpr ⟨other, inRest, same.symm⟩)
      · exact ih distinct.2 later _

/-- The entry is at its new name and only there. -/
structure Renames (name target : DistinguishedName) (entry : Entry) (after : Directory) :
    Prop where
  moved : after target = some entry
  vacated : target ≠ name → after name = none
  unique : after.UniqueGuids

section Renames

variable {directory : Directory} {name target : DistinguishedName} {before entry : Entry}

theorem renames_renamed (unique : directory.UniqueGuids) (held : directory name = some before)
    (same : entry.objectGuid = before.objectGuid) (siblings : target.length = name.length) :
    Renames name target entry (directory.renamed name target entry) where
  moved := Directory.renamed_target
  vacated := Directory.renamed_old siblings
  unique := unique.renamed held same

theorem Renames.update (renames : Renames name target entry directory)
    {other : DistinguishedName} {held : Entry} (found : directory other = some held)
    (mods : List LdapMod) :
    Renames name target (if other = target then replaced entry mods else entry)
      (Function.update directory other (some (replaced held mods))) where
  moved := by
    by_cases here : other = target
    · subst here
      rw [renames.moved] at found
      cases found
      rw [if_pos rfl, Function.update_self]
    · rw [if_neg here, Function.update_of_ne (Ne.symm here), renames.moved]
  vacated different := by
    have gone := renames.vacated different
    have elsewhere : name ≠ other := by
      intro equal
      subst equal
      rw [gone] at found
      cases found
    rw [Function.update_of_ne elsewhere, gone]
  unique := renames.unique.update found rfl

/-- Under its old name the entry is found only where that is its new name too. -/
theorem Renames.find_old {rule : MatchingRule} {dn : CString}
    (renames : Renames name target entry directory) (named : denotes rule dn = some name) :
    target = name ∧ directory.find rule dn = .ok (name, entry) ∨
      target ≠ name ∧ ∃ rc, directory.find rule dn = .error rc := by
  by_cases kept : target = name
  · subst kept
    exact .inl ⟨rfl, Directory.find_ok_iff.mpr ⟨named, renames.moved⟩⟩
  · refine .inr ⟨kept, ldapNoSuchObject, ?_⟩
    simp only [Directory.find, named, renames.vacated kept]

end Renames

section RenamedThenModified

variable {rule : MatchingRule} {directory after : Directory} {dn cn : CString}
  {old : AttributeValue} {parent : DistinguishedName} {entry : Entry} {mods : List LdapMod}

def namedByCn (old : AttributeValue) (parent : DistinguishedName) : DistinguishedName :=
  [{ type := cnType, value := old }] :: parent

def renamedEntry (old : AttributeValue) (rdn : RelativeDn) (entry : Entry) : Entry :=
  { entry with
    attrs := Directory.renameAttrs [{ type := cnType, value := old }] rdn entry.attrs }

theorem values_renamedEntry_escaped (escapes : needsNoEscaping cn = false)
    {rdn : RelativeDn} (parsed : parseDn (cnRdn cn) = some [rdn]) :
    (renamedEntry old rdn entry).attrs.values cnType ≠ [cn] := by
  rw [renamedEntry, Directory.renameAttrs_eq]
  rcases Attributes.values_name rdn (entry.attrs.set cnType []) cnType with cleared | named
  · rw [cleared, Attributes.values_set_self]
    simp
  · obtain ⟨assertion, member, value⟩ := named
    have decoded := decodeRdn_of_parseDn parsed
    rw [show cnRdn cn = cstr "CN" ++ equals :: cn from rfl,
      lex_stem_append keystring_cn] at decoded
    rw [value]
    intro same
    exact bytes_ne_of_decodeRdn keystring_cn escapes decoded member (List.cons.inj same).1

def withCn (cn : CString) (entry : Entry) : Entry :=
  { entry with attrs := entry.attrs.set cnType [cn] }

theorem values_withCn_self (cn : CString) (entry : Entry) :
    (withCn cn entry).attrs.values cnType = [cn] :=
  entry.attrs.values_set_self cnType [cn]

theorem values_withCn_of_ne {type : CString} (other : asciiStrdown type ≠ asciiStrdown cnType)
    (cn : CString) (entry : Entry) :
    (withCn cn entry).attrs.values type = entry.attrs.values type :=
  entry.attrs.values_set_of_ne other [cn]

theorem renamedEntry_plain (old : AttributeValue) (cn : CString) (entry : Entry) :
    renamedEntry old [{ type := cstr "CN", value := .string cn }] entry = withCn cn entry := by
  have lower : asciiStrdown (cstr "CN") = asciiStrdown cnType := by decide
  simp only [renamedEntry, withCn, Directory.renameAttrs, List.foldl_cons, List.foldl_nil,
    Attributes.set, lower, Function.update_idem]

/-- Another entry than the renamed one has the name put together for that one. -/
def TakenElsewhere (rule : MatchingRule) (directory : Directory)
    (name : DistinguishedName) (dn cn : CString) : Prop :=
  ∃ other, denotes rule (effectiveDn dn cn) = some other ∧
    (directory.moved name (renamedTo rule cn name.tail) other).isSome = true

variable (found : directory.find rule dn = .ok (namedByCn old parent, entry))
  (replaces : ∀ mod ∈ mods, mod.op = .replace)
include found replaces

/-- Where the update comes through, the entry was renamed to what the server read, and
the entry it found at the effective DN was modified. -/
theorem renames_of_ok (unique : directory.UniqueGuids)
    (done : renamedThenModified rule directory dn cn mods = .ok after) :
    ∃ rdn other,
      parseDn (cnRdn cn) = some [rdn] ∧ denotes rule (effectiveDn dn cn) = some other ∧
        (directory.renamed (namedByCn old parent) (rdn.normalize rule :: parent)
          (renamedEntry old rdn entry) other).isSome = true ∧
        Renames (namedByCn old parent) (rdn.normalize rule :: parent)
          (if other = rdn.normalize rule :: parent then
            replaced (renamedEntry old rdn entry) mods
          else renamedEntry old rdn entry)
          after := by
  unfold renamedThenModified at done
  cases renamed : directory.rename rule dn (cnRdn cn) with
  | error rc =>
      rw [renamed] at done
      cases done
  | ok moved =>
      rw [renamed] at done
      obtain ⟨rdn, parsed, rfl⟩ := Directory.rename_ok found renamed
      have renames : Renames (namedByCn old parent) (rdn.normalize rule :: parent)
          (renamedEntry old rdn entry) _ :=
        renames_renamed unique (Directory.find_ok_iff.mp found).2 rfl rfl
      cases reached : Directory.find rule (directory.renamed (namedByCn old parent)
          (rdn.normalize rule :: parent) (renamedEntry old rdn entry))
          (effectiveDn dn cn) with
      | error rc =>
          cases (Directory.modify_of_missing reached mods).symm.trans done
      | ok here =>
          obtain ⟨other, held⟩ := here
          obtain ⟨named, holds⟩ := Directory.find_ok_iff.mp reached
          have modified := Directory.modify_of_find reached replaces
          refine ⟨rdn, other, parsed, named, by rw [holds]; rfl, ?_⟩
          cases modified.symm.trans done
          exact renames.update holds mods

/-- The first comma of the old DN decides whether the modification reaches the entry. -/
theorem renames_of_plain (unique : directory.UniqueGuids)
    (plain : needsNoEscaping cn = true)
    (done : renamedThenModified rule directory dn cn mods = .ok after) :
    ∃ renewed,
      Renames (namedByCn old parent) (renamedTo rule cn parent) renewed after ∧
        (FirstCommaSeparates dn ∧ renewed = replaced (withCn cn entry) mods ∨
          ¬ FirstCommaSeparates dn ∧
            TakenElsewhere rule directory (namedByCn old parent) dn cn ∧
              renewed = withCn cn entry) := by
  have named := (Directory.find_ok_iff.mp found).1
  obtain ⟨rdn, other, parsed, elsewhere, present, renames⟩ :=
    renames_of_ok found replaces unique done
  cases (parseDn_relative keystring_cn plain).symm.trans parsed
  rw [renamedEntry_plain] at renames present
  change (directory.renamed _ (renamedTo rule cn parent) _ other).isSome = true at present
  refine ⟨_, renames, ?_⟩
  by_cases separates : FirstCommaSeparates dn
  · have same : other = renamedTo rule cn parent := by
      rw [denotes_effectiveDn plain separates named] at elsewhere
      exact (Option.some.inj elsewhere).symm
    exact .inl ⟨separates, if_pos same⟩
  · have longer := length_denotes_effectiveDn plain separates named elsewhere
    have different : other ≠ renamedTo rule cn parent := by
      intro equal
      subst equal
      simp [renamedTo] at longer
    refine .inr ⟨separates, ⟨other, elsewhere, ?_⟩, if_neg different⟩
    rwa [Directory.renamed_of_ne different] at present

theorem ok_of_plain (plain : needsNoEscaping cn = true)
    (free : renamedTo rule cn parent = namedByCn old parent ∨
      directory (renamedTo rule cn parent) = none)
    (reaches : FirstCommaSeparates dn ∨
      TakenElsewhere rule directory (namedByCn old parent) dn cn) :
    ∃ after, renamedThenModified rule directory dn cn mods = .ok after := by
  have named := (Directory.find_ok_iff.mp found).1
  have renamed := Directory.rename_of_find found (parseDn_relative keystring_cn plain) free
  obtain ⟨other, held, reached⟩ : ∃ other held,
      Directory.find rule (directory.renamed (namedByCn old parent) (renamedTo rule cn parent)
        (renamedEntry old [{ type := cstr "CN", value := .string cn }] entry))
        (effectiveDn dn cn) = .ok (other, held) := by
    by_cases separates : FirstCommaSeparates dn
    · exact ⟨_, _, Directory.find_ok_iff.mpr
        ⟨denotes_effectiveDn plain separates named, Directory.renamed_target⟩⟩
    · obtain ⟨other, elsewhere, present⟩ := reaches.resolve_left separates
      obtain ⟨held, present⟩ := Option.isSome_iff_exists.mp present
      have longer := length_denotes_effectiveDn plain separates named elsewhere
      have different : other ≠ renamedTo rule cn parent := by
        intro equal
        subst equal
        simp [renamedTo] at longer
      refine ⟨other, held, Directory.find_ok_iff.mpr ⟨elsewhere, ?_⟩⟩
      rwa [Directory.renamed_of_ne different]
  have through : renamedThenModified rule directory dn cn mods =
      Directory.modify rule (directory.renamed (namedByCn old parent)
        (renamedTo rule cn parent)
        (renamedEntry old [{ type := cstr "CN", value := .string cn }] entry))
        (effectiveDn dn cn) mods := by
    rw [renamedThenModified, show cnRdn cn = cstr "CN" ++ equals :: cn from rfl, renamed]
    rfl
  exact ⟨_, through.trans (Directory.modify_of_find reached replaces)⟩

end RenamedThenModified

end Sambervise.Backend
