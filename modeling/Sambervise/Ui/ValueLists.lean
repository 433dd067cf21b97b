import Mathlib.Data.Finset.Card
import Sambervise.Text.Trim
import Sambervise.Ui.LdapEditor

namespace Sambervise.Ui

open Text Backend

/-! The value lists of the raw editor: their text, and when two of them are equal. -/

theorem splitValues_tokens (joined : CString) :
    Tokens semicolon joined (splitValues joined) :=
  tokens_iff.mpr (splitValues_eq_fields joined)

theorem plainField_of_mem_splitValues {joined token : CString}
    (member : token ∈ splitValues joined) : PlainField semicolon token := by
  rw [splitValues_eq_fields] at member
  exact plainField_of_mem_fields member

/-- The values of a text are its tokens, and they survive being shown again. -/
theorem splitValues_normal (joined : CString) :
    (∀ token ∈ splitValues joined, token ≠ [] ∧ Bare token ∧ semicolon ∉ token) ∧
      Tokens semicolon joined (splitValues joined) ∧
      splitValues (joinValues (splitValues joined)) = splitValues joined := by
  refine ⟨?_, splitValues_tokens joined, ?_⟩
  · intro token member
    obtain ⟨nonempty, absent, trimmed⟩ := plainField_of_mem_splitValues member
    have bare := bare_strstrip token
    rw [trimmed] at bare
    exact ⟨nonempty, bare, absent⟩
  · rw [splitValues_joinValues]
    exact flatMap_fields_of_plain fun token member => plainField_of_mem_splitValues member

/-! Two vectors compared as sets -/

/-- Of two lists one within the other, the numbers of different members tell whether they
have the same. -/
theorem mem_iff_iff_card {α : Type} [DecidableEq α] {a b : List α} (subset : a ⊆ b) :
    (∀ value, value ∈ a ↔ value ∈ b) ↔ a.toFinset.card = b.toFinset.card := by
  rw [← List.toFinset.ext_iff]
  constructor
  · intro same
    rw [same]
  · intro count
    apply Finset.eq_of_subset_of_card_le
    · intro value member
      exact List.mem_toFinset.mpr (subset (List.mem_toFinset.mp member))
    · exact count.ge

/-- The order of the strings does not matter, as the source says. -/
theorem valuesEqualSet_perm {a b c d : List CString} (left : a.Perm c) (right : b.Perm d) :
    valuesEqualSet a b = valuesEqualSet c d := by
  rw [Bool.eq_iff_iff, valuesEqualSet_iff, valuesEqualSet_iff, left.length_eq,
    right.length_eq, left.subset_congr_left, right.subset_congr_right]

section Compared

variable (a b : List CString)

/-- Repetitions do: they are in the lengths, but not in the numbers of different strings. -/
theorem valuesEqualSet_exact_iff :
    (valuesEqualSet a b = true ↔ ∀ value, value ∈ a ↔ value ∈ b) ↔
      (a ⊆ b → (a.length = b.length ↔ a.toFinset.card = b.toFinset.card)) := by
  rw [valuesEqualSet_iff]
  by_cases subset : a ⊆ b
  · rw [and_iff_left subset, mem_iff_iff_card subset, imp_iff_right subset]
  · have differ : ¬∀ value, value ∈ a ↔ value ∈ b :=
      fun same => subset fun value member => (same value).mp member
    exact iff_of_true (iff_of_false (fun equal => subset equal.2) differ)
      fun within => absurd within subset

/-- A row of a stored attribute is taken for changed by this comparison. -/
theorem rowIsDirty_exact_iff {loadedAttrs : Option AttrTable} {row : AttrRow}
    (stored : row.isNew = false) (unmarked : row.markedDelete = false) :
    let loaded := lookupValues loadedAttrs row.attr
    let typed := splitValues row.valueEntry
    (rowIsDirty loadedAttrs row = true ↔ ¬∀ value, value ∈ loaded ↔ value ∈ typed) ↔
      (loaded ⊆ typed →
        (loaded.length = typed.length ↔ loaded.toFinset.card = typed.toFinset.card)) := by
  intro loaded typed
  have dirty : rowIsDirty loadedAttrs row = !valuesEqualSet loaded typed := by
    simp [rowIsDirty, stored, unmarked, loaded, typed]
  rw [dirty, Bool.not_eq_true', ← Bool.not_eq_true, not_iff_not]
  exact valuesEqualSet_exact_iff loaded typed

/-- The comparison is one of sets, and the same from either side, exactly where two vectors
with the strings of one among those of the other are equally long just when they have
equally many different strings. -/
theorem valuesEqualSet_sets_iff :
    ((valuesEqualSet a b = true ↔ ∀ value, value ∈ a ↔ value ∈ b) ∧
        valuesEqualSet a b = valuesEqualSet b a) ↔
      (a ⊆ b ∨ b ⊆ a →
        (a.length = b.length ↔ a.toFinset.card = b.toFinset.card)) := by
  have mirrored : (valuesEqualSet b a = true ↔ ∀ value, value ∈ a ↔ value ∈ b) ↔
      (b ⊆ a → (a.length = b.length ↔ a.toFinset.card = b.toFinset.card)) := by
    have backward := valuesEqualSet_exact_iff b a
    simp only [@iff_comm (_ ∈ b), @eq_comm _ b.length, @eq_comm _ b.toFinset.card] at backward
    exact backward
  rw [or_imp, ← valuesEqualSet_exact_iff, ← mirrored]
  constructor
  · rintro ⟨forward, symmetric⟩
    exact ⟨forward, symmetric ▸ forward⟩
  · rintro ⟨forward, backward⟩
    exact ⟨forward, Bool.eq_iff_iff.mpr (forward.trans backward.symm)⟩

end Compared

/-- Two binary values of one length are displayed alike; one of them overwritten in the
editor is taken for both, though not the other way round. A text that is only repeated is
taken for a change. -/
theorem placeholder_taken_twice :
    let loaded := [[0xFF, 0x01], [0xFE, 0x02]].map displayValue
    let edited := splitValues (cstr "<binary 2 bytes>; new")
    (valuesEqualSet loaded edited = true ∧ ¬∀ value, value ∈ loaded ↔ value ∈ edited) ∧
      valuesEqualSet edited loaded = false ∧
      valuesEqualSet [cstr "x"] (splitValues (cstr "x; x")) = false ∧
      ∀ value, value ∈ [cstr "x"] ↔ value ∈ splitValues (cstr "x; x") := by
  refine ⟨⟨?_, ?_⟩, ?_, ?_, ?_⟩
  · decide +kernel
  · intro same
    exact absurd ((same (cstr "new")).mpr (by decide +kernel)) (by decide +kernel)
  · decide +kernel
  · decide +kernel
  · intro value
    have split : splitValues (cstr "x; x") = [cstr "x", cstr "x"] := by decide +kernel
    simp [split]

end Sambervise.Ui
