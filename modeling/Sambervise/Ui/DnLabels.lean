import Sambervise.Backend.LdapBrowse
import Sambervise.Ldap.Leftmost

namespace Sambervise.Ui

open Text Ldap Backend

/-! The names the panels show for DNs -/

/-- `g_ascii_strncasecmp (dn, "CN=", 3) == 0` -/
def startsWithCn (dn : CString) : Bool := asciiStrdown (dn.take 3) = cstr "cn="

def dnToFriendly (dn : Option CString) : Option CString :=
  dn.map fun dn =>
    if startsWithCn dn then (dn.drop 3).takeWhile (· != comma) else dn

/-- The `pending_select_sam` that the reload after the creation of a group finds. -/
def onGroupCreated (pendingSelectSam newDn : Option CString) : Option CString :=
  match newDn with
  | none => pendingSelectSam
  | some newDn =>
      if startsWithCn newDn then some ((newDn.drop 3).takeWhile (· != comma))
      else pendingSelectSam

/-- A DN is shown under the value of its leftmost attribute, in the browser and, where
that is a common name, in the lists and as the group to select. -/
structure NamesShown (dn : CString) (leftmost : AttributeTypeAndValue) : Prop where
  label : extractLabel dn = leftmost.value.bytes
  friendly : asciiStrdown leftmost.type = cstr "cn" →
    dnToFriendly (some dn) = some leftmost.value.bytes
  created : asciiStrdown leftmost.type = cstr "cn" → ∀ pendingSelectSam,
    onGroupCreated pendingSelectSam (some dn) = some leftmost.value.bytes

section Leftmost

variable {dn : CString} {assertion : AttributeTypeAndValue} {text : CString}
  {value more back : List Token} (leftmost : Leftmost dn assertion text value more back)
include leftmost

theorem extractLabel_eq : extractLabel dn = text.takeWhile (· != comma) := by
  have typed : ∀ char ∈ assertion.type, (char != equals) = true := by
    intro char member
    simpa using fun same : char = equals => leftmost.untyped (same ▸ member)
  have found : dn.dropWhile (· != equals) = equals :: text := by
    rw [leftmost.string_eq, List.dropWhile_append_of_pos typed]
    simp
  rw [extractLabel, found]

theorem startsWithCn_of_type (isCn : asciiStrdown assertion.type = cstr "cn") :
    startsWithCn dn = true ∧ dn.drop 3 = text := by
  have two : assertion.type.length = 2 := by
    have lengths := congrArg List.length isCn
    rwa [asciiStrdown, List.length_map] at lengths
  have three : (assertion.type ++ [equals]).length = 3 := by
    rw [List.length_append, two]
    rfl
  have split : dn = (assertion.type ++ [equals]) ++ text := by
    rw [leftmost.string_eq]
    simp
  refine ⟨?_, by rw [split, ← three, List.drop_left]⟩
  rw [startsWithCn, split, ← three, List.take_left, decide_eq_true_eq, asciiStrdown,
    List.map_append, show assertion.type.map asciiToLower = cstr "cn" from isCn]
  rfl

end Leftmost

/-- A DN is shown under its leftmost value, unescaped, exactly where that is written
plainly and is the only one of its part. -/
theorem namesShown_iff {dn : CString} {leftmost : AttributeTypeAndValue}
    {others : RelativeDn} {above : DistinguishedName}
    (parsed : parseDn dn = some ((leftmost :: others) :: above)) :
    NamesShown dn leftmost ↔ WrittenPlainly dn := by
  obtain ⟨text, value, more, back, split⟩ := leftmost_of_parseDn parsed
  rw [← split.takeWhile_eq_iff]
  constructor
  · intro shown
    rw [← extractLabel_eq split]
    exact shown.label
  · intro same
    refine ⟨?_, fun isCn => ?_, fun isCn pendingSelectSam => ?_⟩
    · rw [extractLabel_eq split, same]
    · obtain ⟨starts, rest⟩ := startsWithCn_of_type split isCn
      rw [dnToFriendly, Option.map_some, if_pos starts, rest, same]
    · obtain ⟨starts, rest⟩ := startsWithCn_of_type split isCn
      simp only [onGroupCreated]
      rw [if_pos starts, rest, same]

theorem namesShown_iff_users :
    NamesShown (cstr "CN=Users,DC=lab") { type := cstr "CN", value := .string (cstr "Users") } ↔
      WrittenPlainly (cstr "CN=Users,DC=lab") :=
  namesShown_iff (show parseDn (cstr "CN=Users,DC=lab") =
    some ([{ type := cstr "CN", value := .string (cstr "Users") }] ::
      [[{ type := cstr "DC", value := .string (cstr "lab") }]]) by decide)

/-- An escaped comma ends the name that is shown. -/
theorem shown_up_to_escape :
    let dn := cstr "CN=Smith\\, John,OU=Lab"
    let john : AttributeTypeAndValue :=
      { type := cstr "CN", value := .string (cstr "Smith, John") }
    parseDn dn = some
        [[john], [{ type := cstr "OU", value := .string (cstr "Lab") }]] ∧
      extractLabel dn = cstr "Smith\\" ∧ dnToFriendly (some dn) = some (cstr "Smith\\") ∧
      onGroupCreated none (some dn) = some (cstr "Smith\\") ∧ ¬ NamesShown dn john := by
  intro dn john
  refine ⟨by decide, by decide, by decide, by decide, fun shown => ?_⟩
  exact absurd shown.label (by decide)

end Sambervise.Ui
