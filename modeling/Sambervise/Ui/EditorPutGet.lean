import Sambervise.Ui.LdapEditor

namespace Sambervise.Ui

open Text Ldap Backend Transition

/-! What the rows of the editor say the entry is to hold, and what the entry holds
once the modifications of Save are applied to it. -/

namespace AttrRow

def name (row : AttrRow) : CString := if row.isNew then row.attrEntry else row.attr.getD []

/-- Types are the same attribute whatever their case. -/
def key (row : AttrRow) : CString := asciiStrdown row.name

def tokens (row : AttrRow) : List CString :=
  if row.markedDelete then [] else splitValues row.valueEntry

end AttrRow

/-- The test that looks one way only is enough where the values are distinct. -/
theorem mem_iff_of_valuesEqualSet {a b : List CString} (distinct : a.Nodup)
    (same : valuesEqualSet a b = true) (value : CString) : value ∈ a ↔ value ∈ b := by
  obtain ⟨length, subset⟩ := valuesEqualSet_iff.mp same
  exact ((distinct.subperm subset).perm_of_length_le length.ge).mem_iff

/-! One row -/

/-- A new row is for an attribute the entry does not have, any other for one it has. -/
def Admits (entry : Attributes) (row : AttrRow) : Prop :=
  entry.values row.name = [] ↔ row.isNew = true

theorem Admits.congr {entry after : Attributes} {row : AttrRow}
    (same : after.values row.name = entry.values row.name) (admits : Admits entry row) :
    Admits after row := by
  rw [Admits, same]
  exact admits

def rowResult (loadedAttrs : Option AttrTable) (entry : Attributes) (row : AttrRow) :
    List CString :=
  ((rowMod loadedAttrs row).map SbvLdapMod.values).getD (entry.values row.name)

section Row

variable {loadedAttrs : Option AttrTable} {entry : Attributes} {row : AttrRow}

theorem rowMod_new (new : row.isNew = true) (named : row.attrEntry ≠ []) :
    rowMod loadedAttrs row =
      if splitValues row.valueEntry = [] then none
      else some { op := .add, attr := row.name, values := splitValues row.valueEntry } := by
  have name : row.name = row.attrEntry := by simp [AttrRow.name, new]
  rw [rowMod, if_pos new, name]
  by_cases text : row.valueEntry = []
  · simp [text, splitValues]
  · rw [if_neg (by simp [named, text])]

theorem rowMod_marked (existing : row.isNew = false) (marked : row.markedDelete = true) :
    rowMod loadedAttrs row = some { op := .delete, attr := row.name, values := [] } := by
  simp [rowMod, AttrRow.name, existing, marked]

theorem rowMod_existing (existing : row.isNew = false) (unmarked : row.markedDelete = false) :
    rowMod loadedAttrs row =
      if valuesEqualSet (lookupValues loadedAttrs row.attr) (splitValues row.valueEntry) then
        none
      else
        some
          { op := if splitValues row.valueEntry = [] then .delete else .replace
            attr := row.name
            values := splitValues row.valueEntry } := by
  have name : row.name = row.attr.getD [] := by simp [AttrRow.name, existing]
  rw [rowMod, if_neg (by simp [existing]), name]
  dsimp only
  rw [if_neg (by simp [unmarked])]
  split
  · rfl
  · split
    next nothing => rw [nothing]
    next something => rfl

theorem applyMod_rowMod (named : row.isNew = true → row.attrEntry ≠ [])
    (admits : Admits entry row) {mod : SbvLdapMod}
    (emitted : rowMod loadedAttrs row = some mod) :
    applyMod entry (toLdapMod mod) = .ok (entry.set row.name mod.values) := by
  cases new : row.isNew with
  | true =>
      have absent : entry.values row.name = [] := admits.mpr new
      rw [rowMod_new new (named new)] at emitted
      split at emitted
      · cases emitted
      · cases emitted
        simp [applyMod, toLdapMod, opToLdap, absent]
  | false =>
      have present : entry.values row.name ≠ [] := fun absent => by
        rw [admits.mp absent] at new
        cases new
      cases marked : row.markedDelete with
      | true =>
          rw [rowMod_marked new marked] at emitted
          cases emitted
          simp [applyMod, toLdapMod, opToLdap, present]
      | false =>
          rw [rowMod_existing new marked] at emitted
          split at emitted
          · cases emitted
          · cases emitted
            by_cases nothing : splitValues row.valueEntry = []
            · simp [applyMod, toLdapMod, opToLdap, present, nothing]
            · simp [applyMod, toLdapMod, opToLdap, nothing]

end Row

/-! All the rows -/

/-- What the modifications of the rows do to an entry: each row's attribute holds what
its row asks for, and an attribute without a row holds what it held. -/
structure RowsApplied (asked : AttrRow → CString → Prop) (entry after : Attributes)
    (rows : List AttrRow) : Prop where
  written : ∀ row ∈ rows, ∀ value, value ∈ after.values row.name ↔ asked row value
  others : ∀ type, (∀ row ∈ rows, row.key ≠ asciiStrdown type) →
    after.values type = entry.values type

theorem applyMods_saveMods {loadedAttrs : Option AttrTable} {rows : List AttrRow}
    (distinct : (rows.map AttrRow.key).Nodup)
    (named : ∀ row ∈ rows, row.isNew = true → row.attrEntry ≠ []) {entry : Attributes}
    (admits : ∀ row ∈ rows, Admits entry row) :
    ∃ after, applyMods entry ((saveMods loadedAttrs rows).map toLdapMod) = .ok after ∧
      RowsApplied (fun row value => value ∈ rowResult loadedAttrs entry row) entry after
        rows := by
  induction rows generalizing entry with
  | nil => exact ⟨entry, rfl, ⟨nofun, fun _ _ => rfl⟩⟩
  | cons row rest ih =>
      obtain ⟨fresh, distinctRest⟩ := List.nodup_cons.mp distinct
      have namedRest := fun other member => named other (List.mem_cons_of_mem row member)
      have first := admits row List.mem_cons_self
      have later := fun other member => admits other (List.mem_cons_of_mem row member)
      have apart : ∀ other ∈ rest, other.key ≠ row.key := fun other member same =>
        fresh (same ▸ List.mem_map_of_mem member)
      cases emitted : rowMod loadedAttrs row with
      | none =>
          obtain ⟨after, applied, rows⟩ := ih distinctRest namedRest later
          refine ⟨after, by rwa [saveMods, List.filterMap_cons_none emitted], ?_, ?_⟩
          · intro other member value
            rcases List.mem_cons.mp member with rfl | inRest
            · rw [rows.others other.name apart, rowResult, emitted]
              rfl
            · exact rows.written other inRest value
          · intro type away
            exact rows.others type fun other member =>
              away other (List.mem_cons_of_mem row member)
      | some mod =>
          have written := applyMod_rowMod (named row List.mem_cons_self) first emitted
          have untouched : ∀ type, row.key ≠ asciiStrdown type →
              (entry.set row.name mod.values).values type = entry.values type :=
            fun type different =>
              Attributes.values_set_of_ne entry (Ne.symm different) mod.values
          have same : ∀ other ∈ rest,
              (entry.set row.name mod.values).values other.name = entry.values other.name :=
            fun other member => untouched other.name (Ne.symm (apart other member))
          obtain ⟨after, applied, rows⟩ := ih distinctRest namedRest fun other member =>
            (later other member).congr (same other member)
          refine ⟨after, ?_, ?_, ?_⟩
          · rw [saveMods, List.filterMap_cons_some emitted, List.map_cons, applyMods,
              List.foldlM_cons, written]
            exact applied
          · intro other member value
            rcases List.mem_cons.mp member with rfl | inRest
            · rw [rows.others other.name apart, Attributes.values_set_self, rowResult, emitted]
              rfl
            · rw [rows.written other inRest value, rowResult, rowResult, same other inRest]
          · intro type away
            rw [rows.others type fun other member =>
              away other (List.mem_cons_of_mem row member)]
            exact untouched type (away row List.mem_cons_self)

/-! The rows an editor can come to have -/

/-- The rows of the loaded attributes all stay, and a new row is removed, not marked. -/
structure EditorOf (attrs : AttrTable) (rows : List AttrRow) : Prop where
  existing : (rows.filter fun row => !row.isNew).map AttrRow.attr =
    (attrs.keys.insertionSort (· ≤ ·)).map some
  unmarked : ∀ row ∈ rows, row.isNew = true → row.markedDelete = false

theorem filter_map_modify {edit : AttrRow → AttrRow}
    (isNew : ∀ row, (edit row).isNew = row.isNew) (attr : ∀ row, (edit row).attr = row.attr)
    (rows : List AttrRow) (index : Nat) :
    ((rows.modify index edit).filter fun row => !row.isNew).map AttrRow.attr =
      (rows.filter fun row => !row.isNew).map AttrRow.attr := by
  induction rows generalizing index with
  | nil => cases index with
    | zero => rfl
    | succ index => rfl
  | cons row rest ih =>
      cases index with
      | zero =>
          rw [List.modify_zero_cons]
          cases new : row.isNew with
          | true => simp [isNew, new]
          | false => simp [isNew, new, attr]
      | succ index =>
          rw [List.modify_succ_cons]
          cases new : row.isNew with
          | true => simp [new, ih]
          | false => simp [new, ih]

theorem editorOf_modify {attrs : AttrTable} {rows : List AttrRow} (editor : EditorOf attrs rows)
    {edit : AttrRow → AttrRow} (isNew : ∀ row, (edit row).isNew = row.isNew)
    (attr : ∀ row, (edit row).attr = row.attr)
    (marked : ∀ row, row.isNew = true → (edit row).markedDelete = row.markedDelete)
    (index : Nat) : EditorOf attrs (rows.modify index edit) := by
  refine ⟨(filter_map_modify isNew attr rows index).trans editor.existing, ?_⟩
  intro row member new
  rcases mem_modify member with kept | ⟨old, inRows, rfl⟩
  · exact editor.unmarked row kept new
  · rw [isNew] at new
    rw [marked old new]
    exact editor.unmarked old inRows new

theorem filter_eraseIdx_new {rows : List AttrRow} {index : Nat} {row : AttrRow}
    (found : rows[index]? = some row) (new : row.isNew = true) :
    (rows.eraseIdx index).filter (fun row => !row.isNew) =
      rows.filter fun row => !row.isNew := by
  induction rows generalizing index with
  | nil => rfl
  | cons head rest ih =>
      cases index with
      | zero =>
          cases found
          simp [new]
      | succ index =>
          rw [List.eraseIdx_cons_succ, List.filter_cons, List.filter_cons, ih found]

theorem set_eq_modify {rows : List AttrRow} {index : Nat} {row : AttrRow}
    (found : rows[index]? = some row) (edit : AttrRow → AttrRow) :
    rows.set index (edit row) = rows.modify index edit := by
  induction rows generalizing index with
  | nil => cases found
  | cons head rest ih =>
      cases index with
      | zero =>
          cases found
          rfl
      | succ index => rw [List.set_cons_succ, List.modify_succ_cons, ih found]

theorem editorOf_rebuild (attrs : AttrTable) :
    EditorOf attrs (rebuildAttrRows (some attrs)) := by
  have none_new : ∀ row ∈ rebuildAttrRows (some attrs), row.isNew = false := by
    intro row member
    obtain ⟨attr, _, rfl⟩ := List.mem_map.mp member
    rfl
  constructor
  · rw [List.filter_eq_self.mpr fun row member => by simp [none_new row member],
      rebuildAttrRows, List.map_map]
    rfl
  · intro row member new
    rw [none_new row member] at new
    cases new

def AttrRow.toggleMark (row : AttrRow) : AttrRow :=
  if row.isNew then row
  else { row with markedDelete := !row.markedDelete, touched := true }

theorem AttrRow.editValue_keeps (text : CString) (row : AttrRow) :
    (AttrRow.editValue text row).isNew = row.isNew ∧ (AttrRow.editValue text row).attr = row.attr ∧
      (AttrRow.editValue text row).markedDelete = row.markedDelete := by
  unfold AttrRow.editValue
  split
  · exact ⟨rfl, rfl, rfl⟩
  · exact ⟨rfl, rfl, rfl⟩

theorem AttrRow.editName_keeps (text : CString) (row : AttrRow) :
    (AttrRow.editName text row).isNew = row.isNew ∧ (AttrRow.editName text row).attr = row.attr ∧
      (AttrRow.editName text row).markedDelete = row.markedDelete := by
  unfold AttrRow.editName
  split
  · exact ⟨rfl, rfl, rfl⟩
  · exact ⟨rfl, rfl, rfl⟩

theorem AttrRow.toggleMark_keeps (row : AttrRow) :
    row.toggleMark.isNew = row.isNew ∧ row.toggleMark.attr = row.attr ∧
      (row.isNew = true → row.toggleMark.markedDelete = row.markedDelete) := by
  unfold AttrRow.toggleMark
  split
  · exact ⟨rfl, rfl, fun _ => rfl⟩
  · next existing => exact ⟨rfl, rfl, fun isNew => absurd isNew existing⟩

theorem editorOf_removeClicked {attrs : AttrTable} {rows : List AttrRow}
    (editor : EditorOf attrs rows) (index : Nat) :
    EditorOf attrs (removeClicked rows index) := by
  cases found : rows[index]? with
  | none =>
      have same : removeClicked rows index = rows := by simp [removeClicked, found]
      rw [same]
      exact editor
  | some row =>
      cases new : row.isNew with
      | true =>
          have gone : removeClicked rows index = rows.eraseIdx index := by
            simp [removeClicked, found, new]
          rw [gone]
          refine ⟨?_, fun other member => editor.unmarked other
            (List.mem_of_mem_eraseIdx member)⟩
          rw [filter_eraseIdx_new found new]
          exact editor.existing
      | false =>
          have marked : removeClicked rows index = rows.modify index AttrRow.toggleMark := by
            simp [removeClicked, found, new, ← set_eq_modify found, AttrRow.toggleMark]
          rw [marked]
          exact editorOf_modify editor (fun row => row.toggleMark_keeps.1)
            (fun row => row.toggleMark_keeps.2.1) (fun row => row.toggleMark_keeps.2.2) index

theorem editorOf_editRows {attrs : AttrTable} {rows : List AttrRow}
    (edit : RowEdit) (editor : EditorOf attrs rows) :
    EditorOf attrs (editRows rows edit) := by
  cases edit with
  | valueChanged index text =>
      have keeps := AttrRow.editValue_keeps text
      exact editorOf_modify editor (fun row => (keeps row).1) (fun row => (keeps row).2.1)
        (fun row _ => (keeps row).2.2) index
  | nameChanged index text =>
      have keeps := AttrRow.editName_keeps text
      exact editorOf_modify editor (fun row => (keeps row).1) (fun row => (keeps row).2.1)
        (fun row _ => (keeps row).2.2) index
  | removeClicked index => exact editorOf_removeClicked editor index
  | newAttrClicked =>
      constructor
      · simp only [editRows, List.filter_append, List.map_append, editor.existing]
        exact List.append_nil _
      · intro row member new
        rcases List.mem_append.mp member with kept | added
        · exact editor.unmarked row kept new
        · rw [List.mem_singleton.mp added]
          rfl

/-! The entry after Save -/

/-- Each loaded attribute has values, no value twice, and a name of its own. -/
structure WellLoaded (attrs : AttrTable) : Prop where
  filled : ∀ attr ∈ attrs.keys, lookupValues (some attrs) (some attr) ≠ []
  distinct : ∀ attr ∈ attrs.keys, (lookupValues (some attrs) (some attr)).Nodup
  names : (attrs.keys.map asciiStrdown).Nodup

/-- The entry is the one the table was loaded from, value sets compared. -/
structure EqualsLoaded (entry : Attributes) (attrs : AttrTable) : Prop where
  values : ∀ attr ∈ attrs.keys,
    entry.HoldsValues attr (lookupValues (some attrs) (some attr))
  others : ∀ type, (∀ attr ∈ attrs.keys, asciiStrdown attr ≠ asciiStrdown type) →
    entry.values type = []

/-- The new rows have names, each a different one and none a loaded attribute's. -/
structure NewNames (attrs : AttrTable) (rows : List AttrRow) : Prop where
  named : ∀ row ∈ rows, row.isNew = true → row.attrEntry ≠ []
  distinct : ((rows.filter AttrRow.isNew).map AttrRow.key).Nodup
  fresh : ∀ row ∈ rows, row.isNew = true →
    ∀ attr ∈ attrs.keys, asciiStrdown attr ≠ row.key

section Save

variable {attrs : AttrTable} {rows : List AttrRow}

theorem EditorOf.attr_mem (editor : EditorOf attrs rows) {row : AttrRow} (member : row ∈ rows)
    (existing : row.isNew = false) : ∃ attr ∈ attrs.keys, row.attr = some attr := by
  have kept : row ∈ rows.filter fun row => !row.isNew :=
    List.mem_filter.mpr ⟨member, by simp [existing]⟩
  have listed := List.mem_map_of_mem (f := AttrRow.attr) kept
  rw [editor.existing] at listed
  obtain ⟨attr, inKeys, same⟩ := List.mem_map.mp listed
  exact ⟨attr, (List.mem_insertionSort _).mp inKeys, same.symm⟩

theorem EditorOf.keys_existing (editor : EditorOf attrs rows) :
    (rows.filter fun row => !row.isNew).map AttrRow.key =
      (attrs.keys.insertionSort (· ≤ ·)).map asciiStrdown := by
  have keys : (rows.filter fun row => !row.isNew).map AttrRow.key =
      ((rows.filter fun row => !row.isNew).map AttrRow.attr).map
        fun attr => asciiStrdown (attr.getD []) := by
    rw [List.map_map]
    refine List.map_congr_left fun row member => ?_
    have existing : row.isNew = false := by simpa using (List.mem_filter.mp member).2
    simp [AttrRow.key, AttrRow.name, existing]
  rw [keys, editor.existing, List.map_map]
  rfl

theorem EditorOf.keys_nodup (editor : EditorOf attrs rows) (loaded : WellLoaded attrs)
    (names : NewNames attrs rows) : (rows.map AttrRow.key).Nodup := by
  have split : rows.Perm (rows.filter AttrRow.isNew ++ rows.filter fun row => !row.isNew) :=
    (List.filter_append_perm AttrRow.isNew rows).symm
  rw [(split.map AttrRow.key).nodup_iff, List.map_append, List.nodup_append]
  refine ⟨names.distinct, ?_, ?_⟩
  · rw [editor.keys_existing]
    exact (((List.perm_insertionSort _ _).map _).nodup_iff).mpr loaded.names
  · intro key isNew other existing same
    obtain ⟨row, member, rfl⟩ := List.mem_map.mp isNew
    obtain ⟨inRows, new⟩ := List.mem_filter.mp member
    rw [editor.keys_existing] at existing
    obtain ⟨attr, inKeys, rfl⟩ := List.mem_map.mp existing
    exact names.fresh row inRows new attr ((List.mem_insertionSort _).mp inKeys) same.symm

variable (editor : EditorOf attrs rows) (loaded : WellLoaded attrs) (names : NewNames attrs rows)
  {entry : Attributes} (equals : EqualsLoaded entry attrs) {row : AttrRow} (member : row ∈ rows)
include editor loaded names equals member

theorem EditorOf.admits : Admits entry row := by
  unfold Admits
  cases new : row.isNew with
  | true => exact iff_of_true (equals.others row.name (names.fresh row member new)) rfl
  | false =>
      obtain ⟨attr, inKeys, same⟩ := editor.attr_mem member new
      have name : row.name = attr := by simp [AttrRow.name, new, same]
      rw [name, (equals.values attr inKeys).nil_iff]
      exact iff_of_false (loaded.filled attr inKeys) (by simp)

theorem EditorOf.mem_rowResult (value : CString) :
    value ∈ rowResult (some attrs) entry row ↔ value ∈ row.tokens := by
  cases new : row.isNew with
  | true =>
      have absent := equals.others row.name (names.fresh row member new)
      rw [rowResult, rowMod_new new (names.named row member new), absent, AttrRow.tokens,
        editor.unmarked row member new]
      split
      next nothing => simp [nothing]
      next something => rfl
  | false =>
      obtain ⟨attr, inKeys, same⟩ := editor.attr_mem member new
      have name : row.name = attr := by simp [AttrRow.name, new, same]
      cases marked : row.markedDelete with
      | true =>
          rw [rowResult, rowMod_marked new marked, AttrRow.tokens, marked]
          rfl
      | false =>
          rw [rowResult, rowMod_existing new marked, AttrRow.tokens, marked, same, name]
          split
          next unchanged =>
            rw [Option.map_none, Option.getD_none, equals.values attr inKeys value]
            exact mem_iff_of_valuesEqualSet (loaded.distinct attr inKeys) unchanged value
          next changed => rfl

end Save

/-- Whatever the admin did to the rows, Save's modifications apply to the entry that was
loaded, and then each attribute holds exactly what its row asks for: the tokens of its
text, or nothing where it is marked or has no tokens. -/
theorem save_putGet (attrs : AttrTable) (loaded : WellLoaded attrs) (edits : List RowEdit)
    (names : NewNames attrs (run editRows (rebuildAttrRows (some attrs)) edits))
    (entry : Attributes) (equals : EqualsLoaded entry attrs) :
    let rows := run editRows (rebuildAttrRows (some attrs)) edits
    ∃ after, applyMods entry ((saveMods (some attrs) rows).map toLdapMod) = .ok after ∧
      RowsApplied (fun row value => value ∈ row.tokens) entry after rows := by
  intro rows
  have editor : EditorOf attrs rows :=
    run_of_step (EditorOf attrs) (fun _ edit editor => editorOf_editRows edit editor) edits
      (editorOf_rebuild attrs)
  obtain ⟨after, applied, result⟩ := @applyMods_saveMods (some attrs) rows
    (editor.keys_nodup loaded names) names.named entry
    fun _ member => editor.admits loaded names equals member
  refine ⟨after, applied, ?_, result.others⟩
  intro row member value
  rw [result.written row member value]
  exact editor.mem_rowResult loaded names equals member value

theorem save_putGet_members :
    let attrs := collectAttrs [(cstr "member", [cstr "a", cstr "b"])]
    let entry : Attributes := fun type =>
      if type = cstr "member" then [cstr "b", cstr "a"] else []
    let rows := run editRows (rebuildAttrRows (some attrs))
      [.valueChanged 0 (cstr "b; c"), .newAttrClicked, .nameChanged 1 (cstr "info"),
        .valueChanged 1 (cstr "x")]
    ∃ after, applyMods entry ((saveMods (some attrs) rows).map toLdapMod) = .ok after ∧
      RowsApplied (fun row value => value ∈ row.tokens) entry after rows := by
  intro attrs entry
  have keys : attrs.keys = [cstr "member"] := rfl
  refine save_putGet attrs ⟨by decide, by decide, by decide⟩ _
    ⟨by decide, by decide, by decide⟩ entry ⟨?_, ?_⟩
  · intro attr member value
    rw [keys, List.mem_singleton] at member
    rw [member]
    exact List.Perm.mem_iff (List.Perm.swap _ _ _)
  · intro type away
    have other := away (cstr "member") (by rw [keys]; exact List.mem_singleton_self _)
    exact if_neg (Ne.symm other)

end Sambervise.Ui
