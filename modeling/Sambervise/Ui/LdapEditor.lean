import Mathlib.Data.List.Sort
import Sambervise.Backend.LdapBrowse
import Sambervise.Transition.Run

namespace Sambervise.Ui

open Text Backend Transition

/-! The raw attribute editor: its rows, and what Save makes of them. -/

def semicolon : UInt8 := 0x3B

def joinValues (values : List CString) : CString :=
  if values = [] then [] else strjoinv (cstr "; ") values

def splitValues (joined : CString) : List CString :=
  if joined = [] then []
  else ((strsplit semicolon joined).map strstrip).filter (· ≠ [])

/-- One row of the editor. `touched` is not in the source: it says that the admin
has edited or marked the row, or added it. -/
structure AttrRow where
  attr : Option CString
  /-- The text of `attr_entry`, which only new rows have. -/
  attrEntry : CString
  valueEntry : CString
  isNew : Bool
  markedDelete : Bool
  touched : Bool
  deriving DecidableEq, Repr

def makeAttrRow (attr : Option CString) (joinedValue : CString) (isNew : Bool) : AttrRow :=
  { attr
    attrEntry := []
    valueEntry := joinedValue
    isNew
    markedDelete := false
    touched := isNew }

/-- NULL is a vector without strings. -/
def valuesEqualSet (a b : List CString) : Bool :=
  a.length == b.length && a.all fun value => b.contains value

/-- `g_hash_table_lookup`, with the empty vector for NULL. -/
def lookupValues (loadedAttrs : Option AttrTable) (attr : Option CString) : List CString :=
  (do (← loadedAttrs).lookup (← attr)).getD []

def rowIsDirty (loadedAttrs : Option AttrTable) (row : AttrRow) : Bool :=
  if row.isNew then row.attrEntry ≠ [] ∧ row.valueEntry ≠ []
  else if row.markedDelete then true
  else !valuesEqualSet (lookupValues loadedAttrs row.attr) (splitValues row.valueEntry)

def editorIsDirty (loadedAttrs : Option AttrTable) (rows : List AttrRow) : Bool :=
  rows.any (rowIsDirty loadedAttrs)

/-- What the loop of `on_save_clicked` adds for one row. -/
def rowMod (loadedAttrs : Option AttrTable) (row : AttrRow) : Option SbvLdapMod :=
  if row.isNew then
    if row.attrEntry = [] ∨ row.valueEntry = [] then none
    else
      let values := splitValues row.valueEntry
      if values = [] then none
      else some { op := .add, attr := row.attrEntry, values }
  else
    let attr := row.attr.getD []
    if row.markedDelete then some { op := .delete, attr, values := [] }
    else
      let current := splitValues row.valueEntry
      if valuesEqualSet (lookupValues loadedAttrs row.attr) current then none
      else if current = [] then some { op := .delete, attr, values := [] }
      else some { op := .replace, attr, values := current }

def saveMods (loadedAttrs : Option AttrTable) (rows : List AttrRow) : List SbvLdapMod :=
  rows.filterMap (rowMod loadedAttrs)

/-- One row for each attribute, in the order of `g_strcmp0`. -/
def rebuildAttrRows (loadedAttrs : Option AttrTable) : List AttrRow :=
  match loadedAttrs with
  | none => []
  | some attrs =>
      (attrs.keys.insertionSort (· ≤ ·)).map fun attr =>
        makeAttrRow (some attr) (joinValues ((attrs.lookup attr).getD [])) false

/-! What the admin can do to the rows -/

inductive RowEdit where
  | valueChanged (index : Nat) (text : CString)
  | nameChanged (index : Nat) (text : CString)
  | removeClicked (index : Nat)
  | newAttrClicked
  deriving DecidableEq, Repr

/-- The value entry of a row marked for deletion is insensitive. -/
def AttrRow.editValue (text : CString) (row : AttrRow) : AttrRow :=
  if row.markedDelete then row else { row with valueEntry := text, touched := true }

def AttrRow.editName (text : CString) (row : AttrRow) : AttrRow :=
  if row.isNew then { row with attrEntry := text, touched := true } else row

/-- A new row goes away; an existing one is marked, or unmarked again. -/
def removeClicked (rows : List AttrRow) (index : Nat) : List AttrRow :=
  match rows[index]? with
  | none => rows
  | some row =>
      if row.isNew then rows.eraseIdx index
      else rows.set index { row with markedDelete := !row.markedDelete, touched := true }

def editRows (rows : List AttrRow) : RowEdit → List AttrRow
  | .valueChanged index text => rows.modify index (AttrRow.editValue text)
  | .nameChanged index text => rows.modify index (AttrRow.editName text)
  | .removeClicked index => removeClicked rows index
  | .newAttrClicked => rows ++ [makeAttrRow none [] true]

/-! Displayed and read back -/

theorem splitValues_eq_fields (joined : CString) :
    splitValues joined = fields semicolon joined := by
  unfold splitValues
  split
  next empty =>
    rw [empty, fields_nil]
  · exact fields_strsplit joined

theorem joinValues_eq_strjoinv (values : List CString) :
    joinValues values = strjoinv (cstr "; ") values := by
  unfold joinValues
  split
  next empty =>
    rw [empty]
    rfl
  · rfl

theorem splitValues_joinValues (values : List CString) :
    splitValues (joinValues values) = values.flatMap (fields semicolon) := by
  rw [splitValues_eq_fields, joinValues_eq_strjoinv]
  exact @fields_strjoinv semicolon [0x20] (List.forall_mem_singleton.mpr ⟨rfl, by decide⟩)
    values

/-- The test looks one way only. -/
theorem valuesEqualSet_iff {a b : List CString} :
    valuesEqualSet a b = true ↔ a.length = b.length ∧ a ⊆ b := by
  simp only [valuesEqualSet, Bool.and_eq_true, beq_iff_eq, List.all_eq_true,
    List.contains_iff_mem]
  exact Iff.rfl

theorem valuesEqualSet_self (values : List CString) :
    valuesEqualSet values values = true :=
  valuesEqualSet_iff.mpr ⟨rfl, fun _ member => member⟩

theorem mem_of_valuesEqualSet {a b : List CString} (same : valuesEqualSet a b = true)
    {value : CString} (member : value ∈ a) : value ∈ b :=
  (valuesEqualSet_iff.mp same).2 member

/-- Values survive the display exactly where each of them is plain. -/
theorem valuesEqualSet_display_iff (values : List CString) :
    valuesEqualSet values (splitValues (joinValues values)) = true ↔
      ∀ value ∈ values, PlainField semicolon value := by
  rw [splitValues_joinValues]
  constructor
  · intro same value member
    obtain ⟨source, _, field⟩ := List.mem_flatMap.mp (mem_of_valuesEqualSet same member)
    exact plainField_of_mem_fields field
  · intro plain
    rw [flatMap_fields_of_plain plain]
    exact valuesEqualSet_self values

/-! Rows the admin leaves alone -/

/-- An untouched row still shows its attribute as loaded. -/
def ShowsLoaded (loadedAttrs : Option AttrTable) (row : AttrRow) : Prop :=
  row.touched = false →
    row.isNew = false ∧ row.markedDelete = false ∧
      row.valueEntry = joinValues (lookupValues loadedAttrs row.attr)

def AllShowLoaded (loadedAttrs : Option AttrTable) (rows : List AttrRow) : Prop :=
  ∀ row ∈ rows, ShowsLoaded loadedAttrs row

theorem showsLoaded_rebuild {loadedAttrs : Option AttrTable} {row : AttrRow}
    (member : row ∈ rebuildAttrRows loadedAttrs) : ShowsLoaded loadedAttrs row := by
  cases loadedAttrs with
  | none => cases member
  | some attrs =>
      obtain ⟨attr, _, rfl⟩ := List.mem_map.mp member
      intro _
      exact ⟨rfl, rfl, rfl⟩

theorem mem_modify {α : Type} {edit : α → α} {items : List α} {index : Nat} {item : α}
    (member : item ∈ items.modify index edit) :
    item ∈ items ∨ ∃ old ∈ items, item = edit old := by
  induction items generalizing index with
  | nil => simp at member
  | cons head tail ih =>
      cases index with
      | zero =>
          rw [List.modify_zero_cons] at member
          rcases List.mem_cons.mp member with rfl | later
          · exact .inr ⟨head, List.mem_cons_self, rfl⟩
          · exact .inl (List.mem_cons_of_mem _ later)
      | succ index =>
          rw [List.modify_succ_cons] at member
          rcases List.mem_cons.mp member with rfl | later
          · exact .inl List.mem_cons_self
          · rcases ih later with kept | ⟨old, inTail, rfl⟩
            · exact .inl (List.mem_cons_of_mem _ kept)
            · exact .inr ⟨old, List.mem_cons_of_mem _ inTail, rfl⟩

theorem showsLoaded_editRows {loadedAttrs : Option AttrTable} {rows : List AttrRow}
    (shows : AllShowLoaded loadedAttrs rows) (edit : RowEdit) :
    AllShowLoaded loadedAttrs (editRows rows edit) := by
  intro row member
  cases edit with
  | valueChanged index text =>
      rcases mem_modify member with kept | ⟨old, inRows, rfl⟩
      · exact shows row kept
      · unfold AttrRow.editValue
        split
        · exact shows old inRows
        · exact fun untouched => absurd untouched (by simp)
  | nameChanged index text =>
      rcases mem_modify member with kept | ⟨old, inRows, rfl⟩
      · exact shows row kept
      · unfold AttrRow.editName
        split
        · exact fun untouched => absurd untouched (by simp)
        · exact shows old inRows
  | removeClicked index =>
      simp only [editRows, removeClicked] at member
      split at member
      · exact shows row member
      · split at member
        · exact shows row (List.mem_of_mem_eraseIdx member)
        · rcases List.mem_or_eq_of_mem_set member with kept | rfl
          · exact shows row kept
          · exact fun untouched => absurd untouched (by simp)
  | newAttrClicked =>
      rcases List.mem_append.mp member with kept | added
      · exact shows row kept
      · rw [List.mem_singleton.mp added]
        exact fun untouched => absurd untouched (by simp [makeAttrRow])

theorem rowMod_untouched_iff {loadedAttrs : Option AttrTable} {row : AttrRow}
    (shows : ShowsLoaded loadedAttrs row) (untouched : row.touched = false) :
    rowMod loadedAttrs row = none ↔
      ∀ value ∈ lookupValues loadedAttrs row.attr, PlainField semicolon value := by
  obtain ⟨notNew, notMarked, text⟩ := shows untouched
  rw [← valuesEqualSet_display_iff, ← text]
  cases same : valuesEqualSet (lookupValues loadedAttrs row.attr)
      (splitValues row.valueEntry) with
  | true => simp [rowMod, notNew, notMarked, same]
  | false =>
      simp only [rowMod, notNew, notMarked, same, Bool.false_eq_true, if_false,
        iff_false]
      split
      · simp
      · simp

theorem filterMap_filter_eq_iff {α β : Type} (contributes : α → Option β)
    (keep : α → Bool) (items : List α) :
    items.filterMap contributes = (items.filter keep).filterMap contributes ↔
      ∀ item ∈ items, keep item = false → contributes item = none := by
  induction items with
  | nil => simp
  | cons item rest ih =>
      rw [List.forall_mem_cons, ← ih]
      cases kept : keep item with
      | true =>
          rw [List.filter_cons_of_pos kept]
          cases found : contributes item with
          | none => simp [found]
          | some result => simp [found]
      | false =>
          rw [List.filter_cons_of_neg (by simp [kept])]
          cases found : contributes item with
          | none => simp [found]
          | some result =>
              have shorter :=
                (List.filter_sublist (p := keep) (l := rest)).filterMap contributes
                  |>.length_le
              simp only [List.filterMap_cons, found, reduceCtorEq, imp_false,
                not_true_eq_false, false_and, iff_false]
              intro same
              have := congrArg List.length same
              simp only [List.length_cons] at this
              omega

theorem rowIsDirty_untouched {loadedAttrs : Option AttrTable} {row : AttrRow}
    (shows : ShowsLoaded loadedAttrs row) (untouched : row.touched = false) :
    rowIsDirty loadedAttrs row = false ↔
      ∀ value ∈ lookupValues loadedAttrs row.attr, PlainField semicolon value := by
  obtain ⟨notNew, notMarked, text⟩ := shows untouched
  rw [← valuesEqualSet_display_iff, ← text]
  simp [rowIsDirty, notNew, notMarked]

theorem untouched_rebuild {loadedAttrs : Option AttrTable} {row : AttrRow}
    (member : row ∈ rebuildAttrRows loadedAttrs) : row.touched = false := by
  cases loadedAttrs with
  | none => cases member
  | some attrs =>
      obtain ⟨attr, _, rfl⟩ := List.mem_map.mp member
      rfl

def PlainTable (attrs : AttrTable) : Prop :=
  ∀ attr values, attrs.lookup attr = some values →
    ∀ value ∈ values, PlainField semicolon value

theorem plainTable_iff_rows (attrs : AttrTable) :
    PlainTable attrs ↔
      ∀ row ∈ rebuildAttrRows (some attrs),
        ∀ value ∈ lookupValues (some attrs) row.attr, PlainField semicolon value := by
  constructor
  · intro plain row member value inValues
    obtain ⟨attr, _, rfl⟩ := List.mem_map.mp member
    cases found : attrs.lookup attr with
    | none => simp [lookupValues, makeAttrRow, found] at inValues
    | some values =>
        simp only [lookupValues, makeAttrRow, Option.bind_eq_bind, Option.bind_some,
          found, Option.getD_some] at inValues
        exact plain attr values found value inValues
  · intro plain attr values found value inValues
    have key : attr ∈ attrs.keys.insertionSort (· ≤ ·) := by
      rw [List.mem_insertionSort, ← AList.mem_keys, ← AList.lookup_isSome, found]
      rfl
    refine plain _ (List.mem_map.mpr ⟨attr, key, rfl⟩) value ?_
    simpa [lookupValues, makeAttrRow, found] using inValues

/-- After any edits, Save's modifications come from the rows the admin touched alone
exactly where the other rows show plain values only; and a freshly loaded editor is
clean, with nothing to save, exactly where all values are plain. -/
theorem save_touched_only_iff (entry : LdapMessage) (edits : List RowEdit) :
    let attrs := collectAttrs entry
    let loaded := rebuildAttrRows (some attrs)
    let rows := run editRows loaded edits
    (saveMods (some attrs) rows = saveMods (some attrs) (rows.filter AttrRow.touched) ↔
        ∀ row ∈ rows, row.touched = false →
          ∀ value ∈ lookupValues (some attrs) row.attr, PlainField semicolon value) ∧
      (editorIsDirty (some attrs) loaded = false ∧ saveMods (some attrs) loaded = [] ↔
        PlainTable attrs) := by
  intro attrs loaded rows
  have initial : AllShowLoaded (some attrs) loaded := fun _ => showsLoaded_rebuild
  have shows : AllShowLoaded (some attrs) rows :=
    run_of_step (AllShowLoaded (some attrs))
      (fun _ edit shows => showsLoaded_editRows shows edit) edits initial
  constructor
  · rw [saveMods, saveMods, filterMap_filter_eq_iff]
    constructor
    · intro nothing row member untouched
      exact (rowMod_untouched_iff (shows row member) untouched).mp
        (nothing row member untouched)
    · intro plain row member untouched
      exact (rowMod_untouched_iff (shows row member) untouched).mpr
        (plain row member untouched)
  · rw [plainTable_iff_rows, editorIsDirty, List.any_eq_false, saveMods,
      List.filterMap_eq_nil_iff]
    constructor
    · rintro ⟨_, nothing⟩ row member
      exact (rowMod_untouched_iff (showsLoaded_rebuild member)
        (untouched_rebuild member)).mp (nothing row member)
    · intro plain
      constructor
      · intro row member
        have clean := (rowIsDirty_untouched (showsLoaded_rebuild member)
          (untouched_rebuild member)).mpr (plain row member)
        simp [clean]
      · intro row member
        exact (rowMod_untouched_iff (showsLoaded_rebuild member)
          (untouched_rebuild member)).mpr (plain row member)

/-- An entry with a semicolon in a value is dirty as soon as it is loaded, and Save
rewrites it. -/
theorem save_splits_untouched :
    let attrs := collectAttrs [(cstr "gPLink", [cstr "[LDAP://cn=A;0]"])]
    let loaded := rebuildAttrRows (some attrs)
    (∀ row ∈ loaded, row.touched = false) ∧
      editorIsDirty (some attrs) loaded = true ∧
      saveMods (some attrs) loaded =
        [{ op := .replace
           attr := cstr "gPLink"
           values := [cstr "[LDAP://cn=A", cstr "0]"] }] := by
  decide

end Sambervise.Ui
