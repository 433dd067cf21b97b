import Sambervise.Backend.LdapBrowse
import Sambervise.Table.Forest
import Sambervise.Transition.Partial
import Sambervise.Ui.ListPanel

namespace Sambervise.Ui

open Text Backend Table Transition

/-! The tree of the LDAP browser: its nodes are read one level at a time, when the tree view
first asks for their children. -/

/-- The context of a read, with the DN that its worker is given. A node is known by the load
that made its tree and its place there. -/
structure TreeRead where
  generation : Nat
  node : Nat
  conn : ConnId
  dn : CString
  deriving DecidableEq, Repr

structure LdapTree where
  conn : Option ConnId := none
  /-- The tree is in front, not the "empty" page. -/
  shown : Bool := false
  /-- How many trees there have been. The nodes of those before are freed. -/
  generation : Nat := 0
  forest : Option (Forest Backend.SbvLdapNode) := none
  loaded : List Nat := []
  childReads : List TreeRead := []
  rootReads : List TreeRead := []
  /-- All reads of children there have been, and the nodes whose read has failed; the source
  records neither. -/
  asked : List TreeRead := []
  failed : List Nat := []

namespace LdapTree

variable (search : ConnId → LdapSearch) (collate : CString → CString → Int)

def place (read : TreeRead) : Nat × Nat := (read.generation, read.node)

/-- The root has no attributes until its own read completes. -/
def rootNode (base : CString) : Backend.SbvLdapNode :=
  { dn := base, label := base, hasChildren := none, attrs := ∅ }

def load (self : LdapTree) (conn : ConnId) (base : CString) : LdapTree :=
  if base = [] then { self with conn := some conn, shown := false }
  else
    let generation := self.generation + 1
    { self with
      conn := some conn
      shown := true
      generation
      forest := some (.single (rootNode base))
      loaded := []
      failed := []
      rootReads := self.rootReads ++ [{ generation, node := 0, conn, dn := base }] }

def requestChildren (self : LdapTree) (conn : ConnId) (node : Nat)
    (item : Backend.SbvLdapNode) : LdapTree :=
  let read := { generation := self.generation, node, conn, dn := item.dn }
  { self with
    loaded := self.loaded.insert node
    childReads := self.childReads ++ [read]
    asked := self.asked ++ [read] }

/-- The tree view asks for the children of a node as often as it likes. -/
def createChildModel (self : LdapTree) (node : Nat) : LdapTree :=
  match self.forest.bind (·.items[node]?), self.conn with
  | some item, some conn =>
      if item.hasChildren = some false then self
      else if node ∈ self.loaded then self
      else self.requestChildren conn node item
  | _, _ => self

def onChildrenLoaded (self : LdapTree) (read : TreeRead) :
    Except GError (List Backend.SbvLdapNode) → Option LdapTree
  | .error _ =>
      if read.generation = self.generation then
        some
          { self with
            loaded := self.loaded.insert read.node
            failed := self.failed.insert read.node }
      else none
  | .ok nodes =>
      if read.generation = self.generation then
        some
          { self with
            loaded := self.loaded.insert read.node
            forest := self.forest.map fun forest =>
              if inside : read.node < forest.items.length then
                forest.grow read.node inside nodes
              else forest }
      else none

def onRootAttrsLoaded (self : LdapTree) (read : TreeRead) :
    Except GError AttrTable → Option LdapTree
  | .error _ => some self
  | .ok attrs =>
      if read.generation = self.generation then
        some
          { self with
            forest := self.forest.map fun forest =>
              match forest.items[0]? with
              | none => forest
              | some root => forest.replace 0 { root with attrs } }
      else none

inductive Event where
  /-- With the base DN of the connection. -/
  | load (conn : ConnId) (base : CString)
  /-- A row is unfolded, which it can be where the tree is in front. -/
  | childModel (node : Nat)
  /-- The worker of the read at this place among those in flight runs on the session, and
  the read completes with what it returns. -/
  | childrenDone (index : Nat) (session : Ldap.Session)
  | rootAttrsDone (index : Nat) (session : Ldap.Session)

def handle (self : LdapTree) : Event → Option LdapTree
  | .load conn base => some (self.load conn base)
  | .childModel node => some (if self.shown then self.createChildModel node else self)
  | .childrenDone index session =>
      match self.childReads[index]? with
      | none => some self
      | some read =>
          onChildrenLoaded { self with childReads := self.childReads.eraseIdx index } read
            (childrenThread (search read.conn) collate read.dn session).1
  | .rootAttrsDone index session =>
      match self.rootReads[index]? with
      | none => some self
      | some read =>
          onRootAttrsLoaded { self with rootReads := self.rootReads.eraseIdx index } read
            (attrsThread (search read.conn) read.dn session).1

/-- A completion for a node that is freed ends the run. -/
def step : Option LdapTree → Event → Option LdapTree := attempt (handle search collate)

end LdapTree

end Sambervise.Ui
