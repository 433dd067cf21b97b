import Sambervise.Ui.EditorPutGet

namespace Sambervise.Ui

open Text Ldap Backend

/-! Edits that leave some of the displayed values as they are, and what the entry holds
of these once they are saved. -/

/-- What the admin's text for an attribute with these values is put together from: values
left as they were displayed, and text typed, which the entry keeps valid. -/
inductive Part (values : List (List UInt8)) where
  | kept (value : List UInt8) (loaded : value ∈ values)
  | typed (text : CString) (valid : utf8Validate text = true)

def Part.text {values : List (List UInt8)} : Part values → CString
  | kept value _ => displayValue value
  | typed text _ => text

/-- The parts of the text of every attribute; that of an attribute the admin left alone is
put together from all its values. -/
abbrev TextEdit (entry : ListedEntry) := ∀ type : CString, List (Part (entry.values type))

def partsText {values : List (List UInt8)} (parts : List (Part values)) : CString :=
  joinValues (parts.map Part.text)

section Edited

variable (entry : ListedEntry) (edit : TextEdit entry)

def editedRow (row : AttrRow) : AttrRow := row.editValue (partsText (edit row.name))

def editedRows : List AttrRow :=
  (rebuildAttrRows (some entry.table)).map (editedRow entry edit)

def savedMods : List SbvLdapMod := saveMods (some entry.table) (editedRows entry edit)

def IsPlaceholder (value : CString) : Prop := ∃ length, value = binaryPlaceholder length

/-- Save succeeds, every value left as displayed is among the attribute's values
afterwards, and nothing that is written is a placeholder. -/
def KeepsDisplayed : Prop :=
  (∃ after, applyMods (attributesOf entry.attributes)
      ((savedMods entry edit).map toLdapMod) = .ok after ∧
    ∀ type ∈ entry.types, ∀ value loaded, Part.kept value loaded ∈ edit type →
      value ∈ after.values type) ∧
    ∀ mod ∈ savedMods entry edit, ∀ value ∈ mod.values, ¬ IsPlaceholder value

end Edited

/-! One row -/

/-- A value that is text without a separator and without a blank at its ends, or typed
text, where no token of it reads as a placeholder does. -/
def Part.Rewritable {values : List (List UInt8)} : Part values → Prop
  | kept value _ =>
      utf8Validate value = true ∧ PlainField semicolon value ∧ ¬ IsPlaceholder value
  | typed text _ => ∀ token ∈ splitValues text, ¬ IsPlaceholder token

/-- The text lists as many values as were displayed, with each of those among them, so
that Save takes the row for unchanged. -/
def Unsent {values : List (List UInt8)} (parts : List (Part values)) : Prop :=
  valuesEqualSet (values.map displayValue) (splitValues (partsText parts)) = true

instance {values : List (List UInt8)} (parts : List (Part values)) :
    Decidable (Unsent parts) :=
  inferInstanceAs (Decidable (_ = _))

def Spared {values : List (List UInt8)} (parts : List (Part values)) : Prop :=
  Unsent parts ∨ ∀ part ∈ parts, part.Rewritable

section Tokens

variable {values : List (List UInt8)}

theorem splitValues_partsText (parts : List (Part values)) :
    splitValues (partsText parts) = parts.flatMap fun part => splitValues part.text := by
  rw [partsText, splitValues_joinValues, List.flatMap_map]
  simp only [splitValues_eq_fields]

theorem Part.text_valid (part : Part values) : utf8Validate part.text = true := by
  cases part with
  | kept value loaded => exact utf8Validate_displayValue value
  | typed text valid => exact valid

theorem utf8Validate_token {text token : CString} (valid : utf8Validate text = true)
    (member : token ∈ splitValues text) : utf8Validate token = true := by
  rw [splitValues_eq_fields] at member
  refine @fields_of_cut semicolon (fun string => utf8Validate string = true) ?_ text valid
    token member
  intro before char after cutAt whole
  have ascii : char < 0x80 := by
    rcases cutAt with space | separator
    · simp only [asciiIsSpace, Bool.or_eq_true, beq_iff_eq] at space
      rcases space with (((rfl | rfl) | rfl) | rfl) | rfl
      all_goals decide
    · rw [separator]
      decide
  obtain ⟨first, second⟩ := utf8Validate_cut ascii whole
  rw [utf8Validate_cons ascii, Bool.and_eq_true] at second
  exact ⟨first, second.2⟩

/-- A value left as displayed is among the tokens exactly where it is plain text. -/
theorem kept_mem_tokens_iff {parts : List (Part values)} {value : List UInt8}
    {loaded : value ∈ values} (member : Part.kept value loaded ∈ parts) :
    value ∈ splitValues (partsText parts) ↔
      utf8Validate value = true ∧ PlainField semicolon value := by
  rw [splitValues_partsText]
  constructor
  · intro listed
    obtain ⟨part, _, token⟩ := List.mem_flatMap.mp listed
    refine ⟨utf8Validate_token part.text_valid token, ?_⟩
    rw [splitValues_eq_fields] at token
    exact plainField_of_mem_fields token
  · intro plain
    refine List.mem_flatMap.mpr ⟨_, member, ?_⟩
    rw [Part.text, displayValue_of_valid plain.1, splitValues_eq_fields,
      fields_of_plainField plain.2]
    exact List.mem_singleton_self value

theorem rewritable_iff (parts : List (Part values)) :
    (∀ part ∈ parts, part.Rewritable) ↔
      (∀ value loaded, Part.kept value loaded ∈ parts →
        value ∈ splitValues (partsText parts)) ∧
        ∀ token ∈ splitValues (partsText parts), ¬ IsPlaceholder token := by
  constructor
  · intro rewritable
    constructor
    · intro value loaded member
      obtain ⟨valid, plain, -⟩ := rewritable _ member
      exact (kept_mem_tokens_iff member).mpr ⟨valid, plain⟩
    · intro token listed
      rw [splitValues_partsText] at listed
      obtain ⟨part, member, inPart⟩ := List.mem_flatMap.mp listed
      cases part with
      | kept value loaded =>
          obtain ⟨valid, plain, other⟩ := rewritable _ member
          rw [Part.text, displayValue_of_valid valid, splitValues_eq_fields,
            fields_of_plainField plain, List.mem_singleton] at inPart
          rw [inPart]
          exact other
      | typed text valid => exact rewritable _ member token inPart
  · rintro ⟨kept, written⟩ part member
    cases part with
    | kept value loaded =>
        have listed := kept value loaded member
        obtain ⟨valid, plain⟩ := (kept_mem_tokens_iff member).mp listed
        exact ⟨valid, plain, written value listed⟩
    | typed text valid =>
        intro token inPart
        refine written token ?_
        rw [splitValues_partsText]
        exact List.mem_flatMap.mpr ⟨_, member, inPart⟩

end Tokens

/-! All the rows -/

section Rows

variable (entry : ListedEntry) (edit : TextEdit entry)

def rowOf (type : CString) : AttrRow :=
  { attr := some type
    attrEntry := []
    valueEntry := partsText (edit type)
    isNew := false
    markedDelete := false
    touched := true }

theorem mem_editedRows {row : AttrRow} :
    row ∈ editedRows entry edit ↔ ∃ type ∈ entry.types, rowOf entry edit type = row := by
  simp only [editedRows, rebuildAttrRows, List.map_map, List.mem_map, List.mem_insertionSort,
    ListedEntry.mem_keys]
  rfl

theorem keys_editedRows : ((editedRows entry edit).map AttrRow.key).Nodup := by
  have keys : (editedRows entry edit).map AttrRow.key =
      (entry.table.keys.insertionSort (· ≤ ·)).map asciiStrdown := by
    simp only [editedRows, rebuildAttrRows, List.map_map]
    rfl
  have sorted : (entry.table.keys.insertionSort (· ≤ ·)).Perm entry.types :=
    (List.perm_ext_iff_of_nodup
      ((List.perm_insertionSort _ _).nodup_iff.mpr entry.table.nodupKeys)
      entry.types_nodup).mpr fun _ => (List.mem_insertionSort _).trans entry.mem_keys
  rw [keys, (sorted.map asciiStrdown).nodup_iff, ListedEntry.types, List.map_map]
  exact entry.distinct

variable {entry} {type : CString} (listed : type ∈ entry.types)
include listed

theorem rowMod_rowOf :
    rowMod (some entry.table) (rowOf entry edit type) =
      if Unsent (edit type) then none
      else
        some
          { op := if splitValues (partsText (edit type)) = [] then .delete else .replace
            attr := type
            values := splitValues (partsText (edit type)) } := by
  have loaded : lookupValues (some entry.table) (some type) =
      (entry.values type).map displayValue := by
    simp [lookupValues, entry.lookup_table listed]
  rw [rowMod_existing rfl rfl]
  change (if valuesEqualSet (lookupValues (some entry.table) (some type)) _ = true
    then _ else _) = _
  rw [loaded]
  rfl

theorem rowResult_rowOf :
    rowResult (some entry.table) (attributesOf entry.attributes) (rowOf entry edit type) =
      if Unsent (edit type) then entry.values type
      else splitValues (partsText (edit type)) := by
  rw [rowResult, rowMod_rowOf edit listed]
  split
  · rfl
  · rfl

theorem spared_iff :
    Spared (edit type) ↔
      (∀ value loaded, Part.kept value loaded ∈ edit type →
        value ∈ rowResult (some entry.table) (attributesOf entry.attributes)
          (rowOf entry edit type)) ∧
        ∀ mod, rowMod (some entry.table) (rowOf entry edit type) = some mod →
          ∀ value ∈ mod.values, ¬ IsPlaceholder value := by
  rw [rowResult_rowOf edit listed, rowMod_rowOf edit listed, Spared]
  by_cases unsent : Unsent (edit type)
  · simp only [unsent, true_or, if_true, true_iff]
    exact ⟨fun _ loaded _ => loaded, nofun⟩
  · simp only [unsent, false_or, if_false, Option.some.injEq, forall_eq']
    exact rewritable_iff (edit type)

end Rows

/-- What an edit leaves as displayed is kept, and no placeholder is written, exactly where
each row goes unsent or has only parts that can be written back. -/
theorem keepsDisplayed_iff (entry : ListedEntry) (edit : TextEdit entry) :
    KeepsDisplayed entry edit ↔ ∀ type ∈ entry.types, Spared (edit type) := by
  have existing : ∀ row ∈ editedRows entry edit, row.isNew = false := by
    intro row member
    obtain ⟨type, _, rfl⟩ := (mem_editedRows entry edit).mp member
    rfl
  obtain ⟨after, applied, result⟩ := @applyMods_saveMods (some entry.table)
    (editedRows entry edit) (keys_editedRows entry edit)
    (fun row member new => by simp [existing row member] at new)
    (attributesOf entry.attributes) (by
      intro row member
      obtain ⟨type, listed, rfl⟩ := (mem_editedRows entry edit).mp member
      exact iff_of_false (entry.values_ne_nil listed) (by simp [rowOf]))
  have held : ∀ type ∈ entry.types, ∀ value, value ∈ after.values type ↔
      value ∈ rowResult (some entry.table) (attributesOf entry.attributes)
        (rowOf entry edit type) := fun type listed =>
    result.written _ ((mem_editedRows entry edit).mpr ⟨type, listed, rfl⟩)
  have sent : ∀ mod, mod ∈ savedMods entry edit ↔ ∃ type ∈ entry.types,
      rowMod (some entry.table) (rowOf entry edit type) = some mod := by
    intro mod
    rw [savedMods, saveMods, List.mem_filterMap]
    simp only [mem_editedRows, exists_exists_and_eq_and]
  constructor
  · rintro ⟨⟨other, same, kept⟩, written⟩ type listed
    rw [savedMods] at same
    obtain rfl : after = other := Except.ok.inj (applied.symm.trans same)
    refine (spared_iff edit listed).mpr ⟨?_, ?_⟩
    · intro value loaded member
      exact (held type listed value).mp (kept type listed value loaded member)
    · intro mod emitted
      exact written mod ((sent mod).mpr ⟨type, listed, emitted⟩)
  · intro spared
    refine ⟨⟨after, applied, ?_⟩, ?_⟩
    · intro type listed value loaded member
      exact (held type listed value).mpr
        (((spared_iff edit listed).mp (spared type listed)).1 value loaded member)
    · intro mod emitted
      obtain ⟨type, listed, fromRow⟩ := (sent mod).mp emitted
      exact ((spared_iff edit listed).mp (spared type listed)).2 mod fromRow

def mixedEntry : ListedEntry :=
  { attributes := [(cstr "info", [[0xFF], cstr "a"])]
    distinct := List.nodup_singleton _
    filled := by decide }

/-- The text is exchanged for another, the other value left as displayed. -/
def mixedEdit : TextEdit mixedEntry := fun type =>
  if same : type = cstr "info" then
    [.kept [0xFF] (same ▸ List.mem_cons_self), .typed (cstr "b") rfl]
  else []

theorem placeholder_written :
    ¬ ∀ (entry : ListedEntry) (edit : TextEdit entry), KeepsDisplayed entry edit := by
  intro claim
  have written :
      { op := .replace
        attr := cstr "info"
        values := [binaryPlaceholder 1, cstr "b"] } ∈ savedMods mixedEntry mixedEdit := by
    decide
  exact (claim mixedEntry mixedEdit).2 _ written (binaryPlaceholder 1) List.mem_cons_self
    ⟨1, rfl⟩

end Sambervise.Ui
