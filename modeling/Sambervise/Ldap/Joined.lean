import Sambervise.Ldap.Rename

namespace Sambervise.Ldap

open Text

/-! Names that are joined of single-valued parts, without escapes. -/

theorem joined_ne_nil (type : CString) {names : List CString} (nonempty : names ≠ []) :
    strjoinv [comma] (names.map fun name => type ++ equals :: name) ≠ [] := by
  cases names with
  | nil => exact absurd rfl nonempty
  | cons name rest =>
      cases rest with
      | nil => simp [strjoinv]
      | cons second rest => simp [strjoinv, List.intercalate_cons_cons]

section Joined

variable {type : CString} (keystring : isKeystring type = true)

include keystring

theorem parseDn_single_iff {name : CString} :
    parseDn (type ++ equals :: name) = some [[{ type, value := .string name }]] ↔
      needsNoEscaping name = true := by
  constructor
  · intro parsed
    have whole := decodeRdn_of_parseDn parsed
    rw [lex_stem_append keystring] at whole
    exact decodeValue_lex_iff.mp (decodeValue_of_decodeRdn keystring whole)
  · exact parseDn_relative keystring

theorem parseDn_cons_iff {name container : CString} {parent : DistinguishedName}
    (nonempty : container ≠ []) :
    parseDn (type ++ equals :: name ++ comma :: container) =
        some ([{ type, value := .string name }] :: parent) ↔
      needsNoEscaping name = true ∧ parseDn container = some parent := by
  constructor
  · intro parsed
    have plain := plain_of_child keystring parsed
    have closed := closed_of_notMem (separators_notMem_of_plain plain).1
    rw [parseDn_of_ne_nil (by simp), List.append_assoc, List.cons_append,
      lex_stem_append keystring, lex_append closed, lex_cons (by decide : comma ≠ backslash),
      ← List.append_assoc,
      List.splitOn_append_cons_self_of_not_mem (comma_notMem_plain keystring plain)] at parsed
    obtain ⟨_, _, _, tail, same⟩ := mapM_cons_eq_some.mp parsed
    refine ⟨plain, ?_⟩
    rw [parseDn_of_ne_nil nonempty, tail, (List.cons.inj same).2]
  · intro both
    exact (parseDn_child_iff keystring nonempty both.2 name).mpr both.1

theorem parseDn_joined_iff {names : List CString} (nonempty : names ≠ []) :
    parseDn (strjoinv [comma] (names.map fun name => type ++ equals :: name)) =
        some (names.map fun name => [{ type, value := .string name }]) ↔
      ∀ name ∈ names, needsNoEscaping name = true := by
  induction names with
  | nil => exact absurd rfl nonempty
  | cons name rest ih =>
      cases rest with
      | nil =>
          rw [List.forall_mem_singleton, ← parseDn_single_iff keystring]
          simp [strjoinv]
      | cons second rest =>
          have text := joined_ne_nil type (List.cons_ne_nil second rest)
          rw [List.forall_mem_cons, ← ih (by simp), ← parseDn_cons_iff keystring text]
          rw [List.map_cons, List.map_cons, strjoinv, List.map_cons, List.intercalate_cons_cons]
          simp [strjoinv]

end Joined

end Sambervise.Ldap
