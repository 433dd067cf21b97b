import Sambervise.Model.Objects

namespace Sambervise.Ui

open Text Model

/-! The list pane the account panels share: the listed objects as rows, the object
selected, and the listings in flight. -/

/-- Connections are told apart by the order they were made in. -/
abbrev ConnId := Nat

inductive OuterStack where
  | loading
  | empty
  | split
  deriving DecidableEq, Repr

/-- An object of a list store, which rows and the selection share by reference, and
what the source does not record: the connection of the listing that made it. -/
structure Listed (α : Type) where
  id : Nat
  listedOver : ConnId
  obj : α
  deriving DecidableEq, Repr

/-- The name of an object on the server, and what a reload finds it by. -/
class Listable (α : Type) where
  dn : α → Option CString
  key : α → Option CString

namespace Listed

variable {α : Type} [Listable α]

def dn (listed : Listed α) : Option CString := Listable.dn listed.obj

def key (listed : Listed α) : Option CString := Listable.key listed.obj

end Listed

structure ListPanel (α : Type) where
  conn : Option ConnId := none
  outerStack : OuterStack := .loading
  detailVisible : Bool := false
  rows : List (Listed α) := []
  selected : Option (Listed α) := none
  pendingSelectDn : Option CString := none
  listings : List ConnId := []
  nextId : Nat := 0

namespace ListPanel

variable {α : Type}

/-- Whether the detail pane can be seen, and with it edited and clicked. -/
def shown (self : ListPanel α) : Bool :=
  self.outerStack = .split && self.detailVisible

def select (self : ListPanel α) (row : Listed α) : ListPanel α :=
  { self with selected := some row, detailVisible := true }

/-- A setter called on the selected object, which is also the object of its row. -/
def mutate (self : ListPanel α) (setter : α → α) : ListPanel α :=
  match self.selected with
  | none => self
  | some object =>
      let mutated (row : Listed α) : Listed α :=
        if row.id = object.id then { row with obj := setter row.obj } else row
      { self with
        selected := some { object with obj := setter object.obj }
        rows := self.rows.map mutated }

/-- `sbv_*_panel_load`: the panel takes the connection at once and its rows later. -/
def load (self : ListPanel α) (conn : ConnId) : ListPanel α :=
  { self with
    conn := some conn
    outerStack := .loading
    listings := self.listings ++ [conn] }

def newRows (self : ListPanel α) (source : ConnId) (objects : List α) : List (Listed α) :=
  objects.mapIdx fun index obj =>
    { id := self.nextId + index, listedOver := source, obj }

theorem listedOver_newRows (self : ListPanel α) (source : ConnId) (objects : List α)
    {row : Listed α} (member : row ∈ self.newRows source objects) :
    row.listedOver = source := by
  unfold newRows at member
  obtain ⟨index, inside, rfl⟩ := List.mem_mapIdx.mp member
  rfl

theorem map_newRows (self : ListPanel α) (source : ConnId) (objects : List α) :
    (self.newRows source objects).map Listed.obj = objects := by
  apply List.ext_getElem?
  intro index
  rw [List.getElem?_map, newRows, List.getElem?_mapIdx, Option.map_map]
  exact congrFun Option.map_id _

/-- The rows of a successful listing; until a row is selected no detail shows. -/
def refill (self : ListPanel α) (source : ConnId) (objects : List α) : ListPanel α :=
  { self with
    outerStack := if objects.isEmpty then .empty else .split
    detailVisible := false
    rows := self.newRows source objects
    pendingSelectDn := none
    nextId := self.nextId + objects.length }

section Reload

variable [Listable α]

/-- The object a reload selects again: the one just created, or else the first with
the name of the one selected. -/
def reselects (self : ListPanel α) (object : α) : Bool :=
  match self.pendingSelectDn with
  | some dn => orEmpty (Listable.dn object) = dn
  | none =>
      match self.selected.bind Listed.key with
      | some key => orEmpty (Listable.key object) = key
      | none => false

def reselected (self : ListPanel α) (source : ConnId) (objects : List α) :
    Option (Listed α) :=
  (self.newRows source objects).find? fun row => self.reselects row.obj

theorem listedOver_reselected (self : ListPanel α) (source : ConnId) (objects : List α)
    {row : Listed α} (found : self.reselected source objects = some row) :
    row.listedOver = source :=
  self.listedOver_newRows source objects (List.mem_of_find?_eq_some found)

/-- The rows are found again in the order of the listing. -/
theorem map_reselected (self : ListPanel α) (source : ConnId) (objects : List α) :
    (self.reselected source objects).map Listed.obj = objects.find? self.reselects := by
  conv => rhs; rw [← self.map_newRows source objects, List.find?_map]
  rfl

end Reload

/-! What a setter leaves as it was -/

section Mutate

variable (self : ListPanel α) (setter : α → α)

@[simp] theorem mutate_conn : (self.mutate setter).conn = self.conn := by
  unfold mutate
  split
  · rfl
  · rfl

@[simp] theorem mutate_outerStack : (self.mutate setter).outerStack = self.outerStack := by
  unfold mutate
  split
  · rfl
  · rfl

@[simp] theorem mutate_detailVisible :
    (self.mutate setter).detailVisible = self.detailVisible := by
  unfold mutate
  split
  · rfl
  · rfl

@[simp] theorem mutate_selected :
    (self.mutate setter).selected =
      self.selected.map fun object => { object with obj := setter object.obj } := by
  unfold mutate
  split
  next none_ =>
    rw [none_]
    rfl
  next object some_ =>
    rw [some_]
    rfl

theorem listedOver_mutate {row : Listed α} (member : row ∈ (self.mutate setter).rows) :
    ∃ before ∈ self.rows, row.listedOver = before.listedOver := by
  unfold mutate at member
  split at member
  · exact ⟨row, member, rfl⟩
  · obtain ⟨before, inRows, rfl⟩ := List.mem_map.mp member
    refine ⟨before, inRows, ?_⟩
    split
    · rfl
    · rfl

end Mutate

end ListPanel

end Sambervise.Ui
