import Sambervise.Backend.Computers
import Sambervise.Backend.Contacts
import Sambervise.Backend.Users
import Sambervise.Heap.Slots

namespace Sambervise.Backend

open Text Ldap Heap

/-! The arrays on the stack of the update workers: `mods_buf`, the pointers to its elements
in `mods`, and the rows of `slot_vals` that the values of an element may be in. -/

/-- `mod_values`: NULL, a row of `slot_vals`, or a vector outside of it. -/
inductive ModValues where
  | null
  | row (index : Nat)
  | vector (values : List CString)
  deriving DecidableEq, Repr

structure ModSlot where
  modOp : ModOp
  modType : Option CString
  modValues : ModValues
  deriving DecidableEq, Repr

/-- All bits zero, which is `LDAP_MOD_ADD`. -/
def ModSlot.zeroed : ModSlot := { modOp := .add, modType := none, modValues := .null }

structure ModArrays where
  modsBuf : Slots ModSlot
  mods : Slots (Option Nat)
  slotVals : List (Slots (Option CString))
  n : Nat
  deriving DecidableEq, Repr

namespace ModArrays

def declared (buffer pointers rows : Nat) : ModArrays :=
  { modsBuf := Slots.declared buffer
    mods := Slots.declared pointers
    slotVals := List.replicate rows (Slots.declared 2)
    n := 0 }

/-- `memset (mods_buf, 0, sizeof mods_buf)` -/
def cleared (arrays : ModArrays) : ModArrays :=
  { arrays with modsBuf := arrays.modsBuf.map fun _ => some .zeroed }

/-- `mods[n] = &mods_buf[n]; n++` -/
def push (arrays : ModArrays) : Option ModArrays := do
  let mods ← arrays.mods.write arrays.n (some arrays.n)
  return { arrays with mods, n := arrays.n + 1 }

/-- `ADD_MOD` -/
def addMod (attr : String) (val : Option CString) (arrays : ModArrays) : Option ModArrays :=
  match val with
  | none => some arrays
  | some val => do
      let modsBuf ← arrays.modsBuf.write arrays.n
        { modOp := .replace
          modType := some (cstr attr)
          modValues := if val = [] then .null else .vector [val] }
      { arrays with modsBuf }.push

def setType (attr : String) (arrays : ModArrays) : Option ModArrays := do
  let slot ← arrays.modsBuf.read arrays.n
  let modsBuf ← arrays.modsBuf.write arrays.n
    { slot with modOp := .replace, modType := some (cstr attr) }
  return { arrays with modsBuf }

def setValues (values : ModValues) (arrays : ModArrays) : Option ModArrays := do
  let slot ← arrays.modsBuf.read arrays.n
  let modsBuf ← arrays.modsBuf.write arrays.n { slot with modValues := values }
  return { arrays with modsBuf }

/-- `slot_vals[n]` is `val` and NULL. -/
def setRow (val : CString) (arrays : ModArrays) : Option ModArrays := do
  let row ← arrays.slotVals[arrays.n]?
  let row ← row.write 0 (some val)
  let row ← row.write 1 none
  return { arrays with slotVals := arrays.slotVals.set arrays.n row }

/-- `ADD_STR_MOD` -/
def addStrMod (attr : String) (val : Option CString) (arrays : ModArrays) :
    Option ModArrays :=
  match val with
  | none => some arrays
  | some val => do
      let arrays ← arrays.setType attr
      let arrays ←
        if val = [] then some arrays
        else do
          let arrays ← arrays.setRow val
          arrays.setValues (.row arrays.n)
      arrays.push

def addProxies (proxyAddresses : Option (List CString)) (arrays : ModArrays) :
    Option ModArrays :=
  match proxyAddresses with
  | none => some arrays
  | some values => do
      let arrays ← arrays.setType "proxyAddresses"
      let arrays ← if values = [] then some arrays else arrays.setValues (.vector values)
      arrays.push

/-- `mods[n] = NULL` -/
def terminate (arrays : ModArrays) : Option ModArrays := do
  let mods ← arrays.mods.write arrays.n none
  return { arrays with mods }

/-! What `ldap_modify_ext_s` reads of them -/

def valuesAt (arrays : ModArrays) : ModValues → Option (List CString)
  | .null => some []
  | .row index => do
      let row ← arrays.slotVals[index]?
      row.terminated
  | .vector values => some values

def modAt (arrays : ModArrays) (index : Nat) : Option LdapMod := do
  let slot ← arrays.modsBuf.read index
  let type ← slot.modType
  let values ← arrays.valuesAt slot.modValues
  return { op := slot.modOp, type, values }

def request (arrays : ModArrays) : Option (List LdapMod) := do
  let pointers ← arrays.mods.terminated
  pointers.mapM arrays.modAt

/-- No write is behind the end of an array, and what is read of the arrays up to the
terminator is these modifications. -/
def FilledWith (arrays : Option ModArrays) (sent : List LdapMod) : Prop :=
  ∃ done, arrays = some done ∧ done.n = sent.length ∧ done.request = some sent

end ModArrays

/-! The arrays of each worker -/

def Users.UpdateAttrsData.scalars (d : UpdateAttrsData) : List (String × Option CString) :=
  [ ("displayName", d.displayName), ("givenName", d.givenName), ("sn", d.sn),
    ("mail", d.email) ]

def Users.UpdateAttrsData.modArrays (d : UpdateAttrsData) : Option ModArrays := do
  let arrays ← d.scalars.foldlM (fun arrays field => arrays.addMod field.1 field.2)
    (ModArrays.declared 4 5 0)
  arrays.terminate

def Computers.UpdateAttrsData.scalars (d : UpdateAttrsData) :
    List (String × Option CString) :=
  [("description", d.description), ("dNSHostName", d.dnsHostname)]

def Computers.UpdateAttrsData.modArrays (d : UpdateAttrsData) : Option ModArrays := do
  let arrays ← d.scalars.foldlM (fun arrays field => arrays.addMod field.1 field.2)
    (ModArrays.declared 2 3 0)
  arrays.terminate

def Contacts.UpdateData.scalars (d : UpdateData) : List (String × Option CString) :=
  [ ("displayName", d.displayName), ("givenName", d.givenName), ("sn", d.sn),
    ("description", d.description), ("mail", d.mail),
    ("telephoneNumber", d.telephoneNumber), ("mobile", d.mobile),
    ("facsimileTelephoneNumber", d.fax), ("physicalDeliveryOfficeName", d.office),
    ("streetAddress", d.streetAddress), ("l", d.locality), ("st", d.state),
    ("postalCode", d.postalCode), ("co", d.country) ]

def Contacts.UpdateData.modArrays (d : UpdateData) : Option ModArrays := do
  let arrays ← d.scalars.foldlM (fun arrays field => arrays.addStrMod field.1 field.2)
    (ModArrays.declared 16 17 16).cleared
  let arrays ← arrays.addProxies d.proxyAddresses
  arrays.terminate

namespace ModArrays

/-! What one macro does -/

/-- The element at `index` has its values in no other row than its own. -/
def Own (arrays : ModArrays) (index : Nat) : Prop :=
  ∀ slot, arrays.modsBuf.read index = some slot → ∀ row, slot.modValues = .row row →
    row = index

/-- The elements in front of `n` are what is read as these modifications. -/
structure Holds (arrays : ModArrays) (sent : List LdapMod) : Prop where
  count : arrays.n = sent.length
  pointers : ∀ index < arrays.n, arrays.mods.read index = some (some index)
  own : ∀ index < arrays.n, arrays.Own index
  entries : ∀ (index : Nat) (mod : LdapMod), sent[index]? = some mod →
    arrays.modAt index = some mod

structure Room (arrays : ModArrays) (more : Nat) : Prop where
  buffer : arrays.n + more ≤ arrays.modsBuf.length
  pointers : arrays.n + more < arrays.mods.length

/-- From `n` on the elements are as `memset` left them and no value is in the rows. -/
structure Fresh (arrays : ModArrays) : Prop where
  slots : ∀ index, arrays.n ≤ index → index < arrays.modsBuf.length →
    arrays.modsBuf.read index = some .zeroed
  rows : ∀ index, arrays.n ≤ index → index < arrays.modsBuf.length →
    arrays.slotVals[index]? = some (Slots.declared 2)

/-- An element was filled in at `n` and nothing in front of it was touched. -/
structure Fills (arrays filled : ModArrays) (mod : LdapMod) : Prop where
  count : filled.n = arrays.n
  pointers : filled.mods = arrays.mods
  size : filled.modsBuf.length = arrays.modsBuf.length
  slots : ∀ index, arrays.n ≠ index →
    filled.modsBuf.read index = arrays.modsBuf.read index
  rows : ∀ index, arrays.n ≠ index → filled.slotVals[index]? = arrays.slotVals[index]?
  own : filled.Own arrays.n
  entry : filled.modAt arrays.n = some mod

def filledWith (attr : String) (values : ModValues) (rows : List (Slots (Option CString)))
    (arrays : ModArrays) : ModArrays :=
  { arrays with
    modsBuf := arrays.modsBuf.set arrays.n
      (some { modOp := .replace, modType := some (cstr attr), modValues := values })
    slotVals := rows }

variable {arrays filled : ModArrays} {sent : List LdapMod} {mod : LdapMod} {more : Nat}

theorem modAt_congr {other : ModArrays} {index : Nat}
    (slot : other.modsBuf.read index = arrays.modsBuf.read index)
    (row : other.slotVals[index]? = arrays.slotVals[index]?) (own : arrays.Own index) :
    other.modAt index = arrays.modAt index := by
  unfold modAt
  rw [slot]
  cases held : arrays.modsBuf.read index with
  | none => rfl
  | some slot =>
      have values : other.valuesAt slot.modValues = arrays.valuesAt slot.modValues := by
        cases pointer : slot.modValues with
        | null => rfl
        | vector values => rfl
        | row at_ =>
            rw [own slot held at_ pointer, valuesAt, valuesAt, row]
      simp only [bind, Option.bind, values]

theorem fills_filledWith {attr : String} {values : ModValues}
    {rows : List (Slots (Option CString))} {read : List CString}
    (inside : arrays.n < arrays.modsBuf.length)
    (others : ∀ index, arrays.n ≠ index → rows[index]? = arrays.slotVals[index]?)
    (own : ∀ row, values = .row row → row = arrays.n)
    (reads : (arrays.filledWith attr values rows).valuesAt values = some read) :
    Fills arrays (arrays.filledWith attr values rows) (replaceMod attr read) where
  count := rfl
  pointers := rfl
  size := List.length_set
  slots := fun _ elsewhere => Slots.read_set_of_ne elsewhere _
  rows := others
  own := by
    intro slot held row pointer
    rw [filledWith, Slots.read_set_self inside] at held
    cases held
    exact own row pointer
  entry := by
    unfold modAt
    have slot := Slots.read_set_self inside
      { modOp := .replace, modType := some (cstr attr), modValues := values }
    rw [show (arrays.filledWith attr values rows).modsBuf.read arrays.n = _ from slot]
    simp only [bind, Option.bind, reads]
    rfl

/-- The element at `n` is in the list. -/
def pushed (arrays : ModArrays) : ModArrays :=
  { arrays with mods := arrays.mods.set arrays.n (some (some arrays.n)), n := arrays.n + 1 }

theorem push_of_lt (inside : arrays.n < arrays.mods.length) :
    arrays.push = some arrays.pushed := by
  rw [push, Slots.write_of_lt inside]
  rfl

theorem Holds.pushed (holds : Holds arrays sent) (inside : filled.n < filled.mods.length)
    (fills : Fills arrays filled mod) : Holds filled.pushed (sent ++ [mod]) where
  count := by
    change filled.n + 1 = _
    rw [fills.count, holds.count, List.length_append, List.length_singleton]
  pointers := by
    intro index below
    change index < filled.n + 1 at below
    change Slots.read (filled.mods.set filled.n (some (some filled.n))) index = _
    by_cases last : filled.n = index
    · rw [← last, Slots.read_set_self inside]
    · rw [Slots.read_set_of_ne last, fills.pointers]
      exact holds.pointers index (by rw [← fills.count]; omega)
  own := by
    intro index below
    change index < filled.n + 1 at below
    rw [fills.count] at below
    by_cases last : arrays.n = index
    · exact last ▸ fills.own
    · intro slot held
      exact holds.own index (by omega) slot ((fills.slots index last).symm.trans held)
  entries := by
    intro index entry at_
    change filled.modAt index = some entry
    by_cases last : arrays.n = index
    · rw [← last, holds.count, List.getElem?_concat_length] at at_
      cases at_
      rw [← last]
      exact fills.entry
    · have inList := (List.getElem?_eq_some_iff.mp at_).1
      rw [List.length_append, List.length_singleton] at inList
      have counted := holds.count
      have before : index < sent.length := by omega
      rw [List.getElem?_append_left before] at at_
      have own := holds.own index (by rw [holds.count]; exact before)
      rw [modAt_congr (fills.slots index last) (fills.rows index last) own]
      exact holds.entries index entry at_

theorem Room.pushed (room : Room arrays (more + 1)) (fills : Fills arrays filled mod) :
    Room filled.pushed more where
  buffer := by
    change filled.n + 1 + more ≤ filled.modsBuf.length
    rw [fills.count, fills.size]
    have := room.buffer
    omega
  pointers := by
    change filled.n + 1 + more < (filled.mods.set _ _).length
    rw [List.length_set, fills.count, fills.pointers]
    have := room.pointers
    omega

theorem Fresh.pushed (fresh : Fresh arrays) (fills : Fills arrays filled mod) :
    Fresh filled.pushed := by
  have behind {index : Nat} (above : filled.n + 1 ≤ index)
      (inside : index < filled.modsBuf.length) :
      arrays.n < index ∧ index < arrays.modsBuf.length := by
    rw [fills.count] at above
    rw [fills.size] at inside
    exact ⟨above, inside⟩
  constructor
  · intro index above inside
    obtain ⟨later, inBuffer⟩ := behind above inside
    exact (fills.slots index later.ne).trans (fresh.slots index later.le inBuffer)
  · intro index above inside
    obtain ⟨later, inBuffer⟩ := behind above inside
    exact (fills.rows index later.ne).trans (fresh.rows index later.le inBuffer)

theorem Holds.push (holds : Holds arrays sent) (room : Room arrays (more + 1))
    (fills : Fills arrays filled mod) :
    ∃ next, filled.push = some next ∧ Holds next (sent ++ [mod]) ∧ Room next more ∧
      (Fresh arrays → Fresh next) := by
  have inside : filled.n < filled.mods.length := by
    rw [fills.count, fills.pointers]
    have := room.pointers
    omega
  exact ⟨filled.pushed, push_of_lt inside, holds.pushed inside fills, room.pushed fills,
    fun fresh => fresh.pushed fills⟩

theorem Room.weaken (room : Room arrays (more + 1)) : Room arrays more :=
  ⟨(Nat.le_succ _).trans room.buffer, (Nat.lt_succ_self _).trans room.pointers⟩

theorem Room.done (room : Room arrays more) : Room arrays 0 :=
  ⟨by have := room.buffer; omega, by have := room.pointers; omega⟩

theorem Room.inside (room : Room arrays (more + 1)) :
    arrays.n < arrays.modsBuf.length := by
  have := room.buffer
  omega

theorem Holds.addMod (holds : Holds arrays sent) (room : Room arrays (more + 1))
    (attr : String) (val : Option CString) :
    ∃ next, arrays.addMod attr val = some next ∧
      Holds next (sent ++ Backend.addMod attr val) ∧ Room next more := by
  cases val with
  | none => exact ⟨arrays, rfl, by simpa [Backend.addMod] using holds, room.weaken⟩
  | some val =>
      have fills := @fills_filledWith arrays attr (if val = [] then .null else .vector [val])
        arrays.slotVals (if val = [] then [] else [val]) room.inside (fun _ _ => rfl)
        (by split <;> exact fun _ pointer => nomatch pointer) (by split <;> rfl)
      obtain ⟨next, pushed, holds, left, _⟩ := holds.push room fills
      refine ⟨next, ?_, holds, left⟩
      rw [ModArrays.addMod, Slots.write_of_lt room.inside]
      exact pushed

section Cleared

variable (room : Room arrays (more + 1)) (attr : String)
include room

theorem read_filledWith (values : ModValues) (rows : List (Slots (Option CString))) :
    (arrays.filledWith attr values rows).modsBuf.read arrays.n =
      some { modOp := .replace, modType := some (cstr attr), modValues := values } :=
  Slots.read_set_self room.inside _

theorem setValues_filledWith (values : ModValues) (rows : List (Slots (Option CString))) :
    (arrays.filledWith attr .null rows).setValues values =
      some (arrays.filledWith attr values rows) := by
  have read := read_filledWith room attr .null rows
  have inside : arrays.n < (arrays.filledWith attr .null rows).modsBuf.length :=
    room.inside.trans_eq List.length_set.symm
  change ((arrays.filledWith attr .null rows).modsBuf.read arrays.n >>= _) = _
  rw [read]
  change (Slots.write _ arrays.n _ >>= _) = _
  rw [Slots.write_of_lt inside]
  simp [filledWith, pure]

theorem fills_outside {values : ModValues} {read : List CString}
    (outside : values = .null ∧ read = [] ∨ values = .vector read) :
    Fills arrays (arrays.filledWith attr values arrays.slotVals) (replaceMod attr read) := by
  refine fills_filledWith room.inside (fun _ _ => rfl) ?_ ?_
  · rcases outside with ⟨rfl, _⟩ | rfl
    · exact fun _ pointer => nomatch pointer
    · exact fun _ pointer => nomatch pointer
  · rcases outside with ⟨rfl, rfl⟩ | rfl
    · rfl
    · rfl

variable (fresh : Fresh arrays)
include fresh

theorem setType_fresh :
    arrays.setType attr = some (arrays.filledWith attr .null arrays.slotVals) := by
  rw [setType, fresh.slots arrays.n (Nat.le_refl _) room.inside]
  simp only [bind, Option.bind, Slots.write_of_lt room.inside]
  rfl

theorem setRow_fresh (val : CString) :
    (arrays.filledWith attr .null arrays.slotVals).setRow val =
      some (arrays.filledWith attr .null
        (arrays.slotVals.set arrays.n [some (some val), some none])) := by
  change (arrays.slotVals[arrays.n]? >>= _) = _
  rw [fresh.rows arrays.n (Nat.le_refl _) room.inside]
  rfl

theorem fills_row (val : CString) :
    Fills arrays (arrays.filledWith attr (.row arrays.n)
      (arrays.slotVals.set arrays.n [some (some val), some none]))
      (replaceMod attr [val]) := by
  refine fills_filledWith room.inside ?_ ?_ ?_
  · exact fun index elsewhere => List.getElem?_set_ne elsewhere
  · intro row same
    cases same
    rfl
  · have held := (List.getElem?_eq_some_iff.mp
      (fresh.rows arrays.n (Nat.le_refl _) room.inside)).1
    change ((arrays.slotVals.set arrays.n _)[arrays.n]? >>= _) = _
    rw [List.getElem?_set_self held]
    rfl

theorem Holds.addStrMod (holds : Holds arrays sent) (val : Option CString) :
    ∃ next, arrays.addStrMod attr val = some next ∧
      Holds next (sent ++ Backend.addMod attr val) ∧ Room next more ∧ Fresh next := by
  cases val with
  | none =>
      exact ⟨arrays, rfl, by simpa [Backend.addMod] using holds, room.weaken, fresh⟩
  | some val =>
      rw [ModArrays.addStrMod, setType_fresh room attr fresh]
      by_cases empty : val = []
      · subst empty
        obtain ⟨next, pushed, holds, left, kept⟩ :=
          holds.push room (fills_outside room attr (.inl ⟨rfl, rfl⟩))
        exact ⟨next, pushed, holds, left, kept fresh⟩
      · obtain ⟨next, pushed, holds, left, kept⟩ :=
          holds.push room (fills_row room attr fresh val)
        refine ⟨next, ?_, ?_, left, kept fresh⟩
        · simp only [bind, Option.bind, if_neg empty, setRow_fresh room attr fresh,
            setValues_filledWith room]
          exact pushed
        · rw [Backend.addMod, if_neg empty]
          exact holds

theorem Holds.addProxies (holds : Holds arrays sent)
    (proxyAddresses : Option (List CString)) :
    ∃ next, arrays.addProxies proxyAddresses = some next ∧
      Holds next (sent ++ (proxyAddresses.map (replaceMod "proxyAddresses")).toList) ∧
        Room next more := by
  cases proxyAddresses with
  | none => exact ⟨arrays, rfl, by simpa using holds, room.weaken⟩
  | some values =>
      rw [ModArrays.addProxies, setType_fresh room "proxyAddresses" fresh]
      by_cases empty : values = []
      · subst empty
        obtain ⟨next, pushed, holds, left, _⟩ :=
          holds.push room (fills_outside room "proxyAddresses" (.inl ⟨rfl, rfl⟩))
        exact ⟨next, pushed, holds, left⟩
      · obtain ⟨next, pushed, holds, left, _⟩ :=
          holds.push room (fills_outside room "proxyAddresses" (.inr rfl))
        refine ⟨next, ?_, holds, left⟩
        simp only [bind, Option.bind, if_neg empty, setValues_filledWith room]
        exact pushed

end Cleared

/-! Runs of the macros, and the terminator -/

/-- A macro that fills in one element for each field, and keeps what it relies on. -/
theorem Holds.foldlM {keeps : ModArrays → Prop}
    {fill : String → Option CString → ModArrays → Option ModArrays}
    (one : ∀ {arrays sent more} (attr : String) (val : Option CString), Holds arrays sent →
      Room arrays (more + 1) → keeps arrays →
      ∃ next, fill attr val arrays = some next ∧
        Holds next (sent ++ Backend.addMod attr val) ∧ Room next more ∧ keeps next)
    {fields : List (String × Option CString)} (holds : Holds arrays sent)
    (room : Room arrays (fields.length + more)) (kept : keeps arrays) :
    ∃ next, fields.foldlM (fun arrays field => fill field.1 field.2 arrays) arrays = some next ∧
      Holds next (sent ++ fields.flatMap fun field => Backend.addMod field.1 field.2) ∧
        Room next more ∧ keeps next := by
  induction fields generalizing arrays sent with
  | nil => exact ⟨arrays, rfl, by simpa using holds, by simpa using room, kept⟩
  | cons field rest ih =>
      rw [List.length_cons, Nat.add_right_comm] at room
      obtain ⟨after, added, holds, room, kept⟩ := one field.1 field.2 holds room kept
      obtain ⟨next, run, holds, room, kept⟩ := ih holds room kept
      refine ⟨next, ?_, ?_, room, kept⟩
      · rw [List.foldlM_cons, added]
        exact run
      · rwa [List.flatMap_cons, ← List.append_assoc]

theorem Holds.addMods {fields : List (String × Option CString)} (holds : Holds arrays sent)
    (room : Room arrays (fields.length + more)) :
    ∃ next, fields.foldlM (fun arrays field => arrays.addMod field.1 field.2) arrays =
        some next ∧
      Holds next (sent ++ fields.flatMap fun field => Backend.addMod field.1 field.2) ∧
        Room next more := by
  obtain ⟨next, run, holds, room, _⟩ := @Holds.foldlM arrays sent more (fun _ => True)
    ModArrays.addMod (fun attr val holds room _ => by
      obtain ⟨next, added, holds, room⟩ := holds.addMod room attr val
      exact ⟨next, added, holds, room, trivial⟩) fields holds room trivial
  exact ⟨next, run, holds, room⟩

theorem Holds.addStrMods {fields : List (String × Option CString)}
    (holds : Holds arrays sent) (fresh : Fresh arrays)
    (room : Room arrays (fields.length + more)) :
    ∃ next, fields.foldlM (fun arrays field => arrays.addStrMod field.1 field.2) arrays =
        some next ∧
      Holds next (sent ++ fields.flatMap fun field => Backend.addMod field.1 field.2) ∧
        Room next more ∧ Fresh next :=
  holds.foldlM (fun attr val holds room fresh => holds.addStrMod room attr fresh val) room fresh

theorem Holds.terminate (holds : Holds arrays sent) (room : Room arrays 0) :
    FilledWith arrays.terminate sent := by
  have inside : arrays.n < arrays.mods.length := room.pointers
  refine ⟨{ arrays with mods := arrays.mods.set arrays.n (some none) }, ?_, holds.count, ?_⟩
  · rw [ModArrays.terminate, Slots.write_of_lt inside]
    rfl
  have pointers : Slots.terminated (arrays.mods.set arrays.n (some none)) =
      some (List.range sent.length) := by
    refine Slots.terminated_of_read ?_ ?_
    · intro index value at_
      obtain ⟨below, rfl⟩ := List.getElem?_eq_some_iff.mp at_
      rw [List.length_range, ← holds.count] at below
      rw [List.getElem_range, Slots.read_set_of_ne (by omega)]
      exact holds.pointers index below
    · rw [List.length_range, ← holds.count]
      exact Slots.read_set_self inside none
  change (Slots.terminated (arrays.mods.set arrays.n (some none)) >>= _) = _
  rw [pointers]
  exact Slots.mapM_range_of_read holds.entries

theorem holds_nil (start : arrays.n = 0) : Holds arrays [] where
  count := start
  pointers := by simp [start]
  own := by simp [start]
  entries := by simp

theorem fresh_cleared (size : Nat) (pointers : Nat) :
    Fresh (ModArrays.declared size pointers size).cleared where
  slots index _ inside := by
    have below : index < size := by simpa [cleared, declared, Slots.declared] using inside
    simp [cleared, declared, Slots.declared, Slots.read, below]
  rows index _ inside := by
    have below : index < size := by simpa [cleared, declared, Slots.declared] using inside
    simp [cleared, declared, below]

/-- `ADD_MOD` for each field, in arrays of just that size. -/
theorem filled_addMods (fields : List (String × Option CString)) :
    FilledWith (do
      let arrays ← fields.foldlM (fun arrays field => arrays.addMod field.1 field.2)
        (declared fields.length (fields.length + 1) 0)
      arrays.terminate) (fields.flatMap fun field => Backend.addMod field.1 field.2) := by
  have room : Room (declared fields.length (fields.length + 1) 0) (fields.length + 0) := by
    constructor
    · simp [declared, Slots.declared]
    · simp [declared, Slots.declared]
  obtain ⟨arrays, run, holds, room⟩ := (holds_nil rfl).addMods room
  rw [run]
  exact holds.terminate room

/-- `ADD_STR_MOD` for each field and then the addresses, in arrays that have room. -/
theorem filled_addStrMods {fields : List (String × Option CString)} {size : Nat}
    (fits : fields.length < size) (proxyAddresses : Option (List CString)) :
    FilledWith (do
      let arrays ← fields.foldlM (fun arrays field => arrays.addStrMod field.1 field.2)
        (declared size (size + 1) size).cleared
      let arrays ← arrays.addProxies proxyAddresses
      arrays.terminate)
      ((fields.flatMap fun field => Backend.addMod field.1 field.2) ++
        (proxyAddresses.map (replaceMod "proxyAddresses")).toList) := by
  have room : Room (declared size (size + 1) size).cleared
      (fields.length + (size - fields.length - 1 + 1)) := by
    constructor
    · simp only [cleared, declared, Slots.declared, List.length_map, List.length_replicate]
      omega
    · simp only [cleared, declared, Slots.declared, List.length_replicate]
      omega
  obtain ⟨scalars, run, holds, room, fresh⟩ :=
    (holds_nil rfl).addStrMods (fresh_cleared size (size + 1)) room
  obtain ⟨arrays, added, holds, room⟩ := holds.addProxies room fresh proxyAddresses
  rw [run]
  change FilledWith (scalars.addProxies proxyAddresses >>= terminate) _
  rw [added]
  exact holds.terminate room.done

end ModArrays

end Sambervise.Backend
