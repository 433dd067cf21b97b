import Mathlib.Data.List.Infix
import Sambervise.Model.Objects

namespace Sambervise.Ui

open Text Model

/-! The filters of the five lists: the rows that stay visible while the admin types a
search text. -/

section Arrays

variable {α : Type}

/-- The loop over an array by its length, which skips what is NULL. -/
def someMatches (isMatch : α → Bool) (fields : List (Option α)) : Bool :=
  fields.any fun field =>
    match field with
    | none => false
    | some field => isMatch field

/-- The loop over an array that NULL is to end. -/
def someMatchesBeforeNull (isMatch : α → Bool) : List (Option α) → Bool
  | [] => false
  | none :: _ => false
  | some field :: rest => if isMatch field then true else someMatchesBeforeNull isMatch rest

theorem someMatches_iff {isMatch : α → Bool} {fields : List (Option α)} :
    someMatches isMatch fields = true ↔ ∃ field, some field ∈ fields ∧ isMatch field = true := by
  rw [someMatches, List.any_eq_true]
  constructor
  · rintro ⟨field, member, matched⟩
    cases field with
    | none => cases matched
    | some field => exact ⟨field, member, matched⟩
  · rintro ⟨field, member, matched⟩
    exact ⟨some field, member, matched⟩

theorem someMatchesBeforeNull_iff {isMatch : α → Bool} {fields : List (Option α)} :
    someMatchesBeforeNull isMatch (fields ++ [none]) = true ↔
      ∃ field, some field ∈ fields.takeWhile Option.isSome ∧ isMatch field = true := by
  induction fields with
  | nil => simp [someMatchesBeforeNull]
  | cons field rest ih =>
      cases field with
      | none => simp [someMatchesBeforeNull]
      | some field =>
          rw [List.cons_append, someMatchesBeforeNull, List.takeWhile_cons_of_pos rfl]
          by_cases matched : isMatch field = true
          · rw [if_pos matched]
            exact iff_of_true rfl ⟨field, List.mem_cons_self, matched⟩
          · rw [if_neg matched, ih]
            constructor
            · rintro ⟨other, member, isMatch⟩
              exact ⟨other, List.mem_cons_of_mem _ member, isMatch⟩
            · rintro ⟨other, member, isMatch⟩
              rcases List.mem_cons.mp member with same | later
              · obtain rfl := Option.some.inj same
                exact absurd isMatch matched
              · exact ⟨other, later, isMatch⟩

end Arrays

/-- `g_utf8_strdown`, which leaves something of every string but the empty one. -/
structure Strdown where
  apply : CString → CString
  nil_iff : ∀ string, apply string = [] ↔ string = []

def asciiOnly : Strdown where
  apply := asciiStrdown
  nil_iff _ := List.map_eq_nil_iff

variable (strdown : Strdown)

/-- The `filter_text` of a panel or a dialog after its search entry has changed. -/
def onSearchChanged (text : CString) : Option CString :=
  if text = [] then none else some (strdown.apply text)

/-- `strstr (lower, filter_text) != NULL` -/
def contains (filterText field : CString) : Bool := filterText <:+: strdown.apply field

/-- What the filters share: without a text, and for a row without an object, they show
the row. -/
def filterRow {α : Type} (loop : CString → α → Bool) (filterText : Option CString)
    (object : Option α) : Bool :=
  match filterText with
  | none => true
  | some filterText =>
      if filterText = [] then true
      else
        match object with
        | none => true
        | some object => loop filterText object

namespace Users

def searched (user : SbvUser) : List (Option CString) :=
  [user.displayName, user.cn, user.sam, user.email]

def filterFunc : Option CString → Option SbvUser → Bool :=
  filterRow fun filterText user => someMatches (contains strdown filterText) (searched user)

end Users

namespace Groups

def searched (group : SbvGroup) : List (Option CString) := [group.displayName, group.sam]

def filterFunc : Option CString → Option SbvGroup → Bool :=
  filterRow fun filterText group =>
    someMatchesBeforeNull (contains strdown filterText) (searched group ++ [none])

def addDialogSearched (user : SbvUser) : List (Option CString) :=
  [user.displayName, user.cn, user.sam]

def addDialogFilter : Option CString → Option SbvUser → Bool :=
  filterRow fun filterText user =>
    someMatchesBeforeNull (contains strdown filterText) (addDialogSearched user ++ [none])

end Groups

namespace Computers

def searched (computer : SbvComputer) : List (Option CString) :=
  [computer.cn, computer.sam, computer.dnsHostname, computer.description]

def filterFunc : Option CString → Option SbvComputer → Bool :=
  filterRow fun filterText computer =>
    someMatchesBeforeNull (contains strdown filterText) (searched computer ++ [none])

end Computers

namespace Contacts

def searched (contact : SbvContact) : List (Option CString) :=
  [contact.displayName, contact.cn, contact.mail, contact.telephoneNumber]

def filterFunc : Option CString → Option SbvContact → Bool :=
  filterRow fun filterText contact =>
    someMatches (contains strdown filterText) (searched contact)

end Contacts

/-- A row of one of the lists. -/
inductive ListedRow where
  | user (user : SbvUser)
  | group (group : SbvGroup)
  | addDialogUser (user : SbvUser)
  | computer (computer : SbvComputer)
  | contact (contact : SbvContact)
  deriving DecidableEq, Repr

namespace ListedRow

def fields : ListedRow → List (Option CString)
  | .user object => Users.searched object
  | .group object => Groups.searched object
  | .addDialogUser object => Groups.addDialogSearched object
  | .computer object => Computers.searched object
  | .contact object => Contacts.searched object

def shown (filterText : Option CString) : ListedRow → Bool
  | .user object => Users.filterFunc strdown filterText (some object)
  | .group object => Groups.filterFunc strdown filterText (some object)
  | .addDialogUser object => Groups.addDialogFilter strdown filterText (some object)
  | .computer object => Computers.filterFunc strdown filterText (some object)
  | .contact object => Contacts.filterFunc strdown filterText (some object)

/-- The lists whose loop takes an absent field for the end. -/
def endsAtNull : ListedRow → Bool
  | .user _ | .contact _ => false
  | .group _ | .addDialogUser _ | .computer _ => true

/-- A row is shown where the text is empty or some field that is present contains it. -/
def SearchesAll (row : ListedRow) (text : CString) : Prop :=
  row.shown strdown (onSearchChanged strdown text) = true ↔
    text = [] ∨ ∃ field, some field ∈ row.fields ∧ contains strdown (strdown.apply text) field

/-- No field behind an absent one contains the text, unless one in front of it does. -/
def FoundInFront (row : ListedRow) (text : CString) : Prop :=
  (∃ field, some field ∈ row.fields.dropWhile Option.isSome ∧
      contains strdown (strdown.apply text) field) →
    ∃ field, some field ∈ row.fields.takeWhile Option.isSome ∧
      contains strdown (strdown.apply text) field

variable {strdown} {row : ListedRow} {text : CString}

theorem shown_empty : row.shown strdown (onSearchChanged strdown []) = true := by
  rw [onSearchChanged, if_pos rfl]
  cases row with
  | user | group | addDialogUser | computer | contact => rfl

theorem filterRow_apply {α : Type} (loop : CString → α → Bool) (object : α)
    (nonempty : text ≠ []) :
    filterRow loop (onSearchChanged strdown text) (some object) =
      loop (strdown.apply text) object := by
  have lower : strdown.apply text ≠ [] := fun empty => nonempty ((strdown.nil_iff text).mp empty)
  rw [onSearchChanged, if_neg nonempty, filterRow, if_neg lower]

theorem shown_counted (counted : row.endsAtNull = false) (nonempty : text ≠ []) :
    row.shown strdown (onSearchChanged strdown text) =
      someMatches (contains strdown (strdown.apply text)) row.fields := by
  cases row with
  | user object =>
      rw [shown, Users.filterFunc, filterRow_apply _ object nonempty]
      rfl
  | contact object =>
      rw [shown, Contacts.filterFunc, filterRow_apply _ object nonempty]
      rfl
  | group | addDialogUser | computer => cases counted

theorem shown_terminated (ends : row.endsAtNull = true) (nonempty : text ≠ []) :
    row.shown strdown (onSearchChanged strdown text) =
      someMatchesBeforeNull (contains strdown (strdown.apply text)) (row.fields ++ [none]) := by
  cases row with
  | user | contact => cases ends
  | group object =>
      rw [shown, Groups.filterFunc, filterRow_apply _ object nonempty]
      rfl
  | addDialogUser object =>
      rw [shown, Groups.addDialogFilter, filterRow_apply _ object nonempty]
      rfl
  | computer object =>
      rw [shown, Computers.filterFunc, filterRow_apply _ object nonempty]
      rfl

theorem present_iff (isMatch : CString → Bool) :
    (∃ field, some field ∈ row.fields ∧ isMatch field = true) ↔
      (∃ field, some field ∈ row.fields.takeWhile Option.isSome ∧ isMatch field = true) ∨
        ∃ field, some field ∈ row.fields.dropWhile Option.isSome ∧ isMatch field = true := by
  rw [← exists_or]
  refine exists_congr fun field => ?_
  rw [← or_and_right, ← List.mem_append, List.takeWhile_append_dropWhile]

variable (strdown)

/-- A list searches every field that is present in the users and the contacts list, and in
the others exactly where the text is empty or no field behind an absent one is needed. -/
theorem searchesAll_iff (row : ListedRow) (text : CString) :
    row.SearchesAll strdown text ↔
      row.endsAtNull = false ∨ text = [] ∨ row.FoundInFront strdown text := by
  unfold SearchesAll
  by_cases empty : text = []
  · subst empty
    exact iff_of_true (iff_of_true shown_empty (.inl rfl)) (.inr (.inl rfl))
  · cases ends : row.endsAtNull with
    | false =>
        rw [shown_counted ends empty, someMatches_iff]
        simp only [empty, false_or, true_or]
    | true =>
        rw [shown_terminated ends empty, someMatchesBeforeNull_iff]
        simp only [empty, false_or, Bool.true_eq_false]
        rw [present_iff, FoundInFront]
        exact iff_self_or

/-- Without a display name a user is not found by the name the add dialog shows, and a
computer without a host name not by its description. -/
theorem hidden_behind_null :
    let user : SbvUser := { cn := some (cstr "Ada"), sam := some (cstr "ada") }
    let computer : SbvComputer :=
      { cn := some (cstr "WS1"), sam := some (cstr "WS1$"), description := some (cstr "lab") }
    (ListedRow.user user).shown asciiOnly (onSearchChanged asciiOnly (cstr "ada")) = true ∧
      (ListedRow.addDialogUser user).shown asciiOnly
        (onSearchChanged asciiOnly (cstr "ada")) = false ∧
      ¬ (ListedRow.addDialogUser user).SearchesAll asciiOnly (cstr "ada") ∧
      ¬ (ListedRow.computer computer).SearchesAll asciiOnly (cstr "lab") := by
  intro user computer
  refine ⟨by decide, by decide, ?_, ?_⟩
  · intro searches
    have shown := searches.mpr (.inr ⟨cstr "Ada", by decide, by decide⟩)
    exact absurd shown (by decide)
  · intro searches
    have shown := searches.mpr (.inr ⟨cstr "lab", by decide, by decide⟩)
    exact absurd shown (by decide)

end ListedRow

end Sambervise.Ui
