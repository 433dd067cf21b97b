import Sambervise.Ldap.Directory
import Sambervise.Text.Decimal

namespace Sambervise.Ldap

open Text

/-! Searches of a whole subtree by a filter. -/

inductive Comparison where
  | equal
  | atLeast
  | atMost
  deriving DecidableEq, Repr

def Comparison.holds : Comparison → Int → Int → Bool
  | .equal, value, bound => value = bound
  | .atLeast, value, bound => bound ≤ value
  | .atMost, value, bound => value ≤ bound

structure FilterItem where
  type : CString
  comparison : Comparison
  value : CString
  deriving DecidableEq, Repr

/-- The items of a conjunction `(&(…)(…))`. -/
abbrev Filter := List FilterItem

def classItem (objectClass : String) : FilterItem :=
  { type := cstr "objectClass", comparison := .equal, value := cstr objectClass }

def numberItem (type : String) (comparison : Comparison) (number : GInt64) : FilterItem :=
  { type := cstr type, comparison, value := formatInt64 number }

def Comparison.symbol : Comparison → String
  | .equal => "="
  | .atLeast => ">="
  | .atMost => "<="

/-- The filter as it is sent. -/
def Filter.string (filter : Filter) : CString :=
  cstr "(&" ++
    (filter.flatMap fun item =>
      cstr "(" ++ item.type ++ cstr item.comparison.symbol ++ item.value ++ cstr ")") ++
    cstr ")"

/-- The attributes whose values the server reads as integers. -/
def integerSyntax (type : CString) : Bool :=
  asciiStrdown type = asciiStrdown (cstr "uidNumber") ||
    asciiStrdown type = asciiStrdown (cstr "gidNumber")

def FilterItem.accepts (item : FilterItem) (attrs : Attributes) : Bool :=
  (attrs.values item.type).any fun value =>
    if integerSyntax item.type then item.comparison.holds (readInt value) (readInt item.value)
    else item.comparison = .equal && asciiStrdown value = asciiStrdown item.value

def Filter.accepts (filter : Filter) (attrs : Attributes) : Bool :=
  filter.all (·.accepts attrs)

abbrev Search := Option CString → Filter → Except ResultCode (List Attributes)

/-! A server whose objects may have Unix ids -/

inductive IdKind where
  | uid
  | gid
  deriving DecidableEq, Repr

def IdKind.attrName : IdKind → String
  | .uid => "uidNumber"
  | .gid => "gidNumber"

def IdKind.objectClass : IdKind → String
  | .uid => "user"
  | .gid => "group"

structure PosixObject where
  dn : CString
  sam : Option CString := none
  classes : List CString
  number : IdKind → Option Int
  plain : 0 ∉ dn := by decide

def PosixObject.attrs (object : PosixObject) : Attributes := fun type =>
  if type = asciiStrdown (cstr "distinguishedName") then [object.dn]
  else if type = asciiStrdown (cstr "sAMAccountName") then object.sam.toList
  else if type = asciiStrdown (cstr "objectClass") then object.classes
  else if type = asciiStrdown (cstr "uidNumber") then
    ((object.number .uid).map formatInt).toList
  else if type = asciiStrdown (cstr "gidNumber") then
    ((object.number .gid).map formatInt).toList
  else []

def PosixObject.hasClass (object : PosixObject) (objectClass : String) : Bool :=
  object.classes.any fun name => asciiStrdown name = asciiStrdown (cstr objectClass)

abbrev Tree := Option CString → List PosixObject

def Tree.search (tree : Tree) : Search := fun base filter =>
  .ok (((tree base).map PosixObject.attrs).filter filter.accepts)

/-- What a server sees to of the objects below a base: each has a name of its own, and
no user is a group. -/
structure Subtree where
  objects : List PosixObject
  distinct : (objects.map PosixObject.dn).Nodup
  exclusive : ∀ object ∈ objects,
    ¬ (object.hasClass "user" = true ∧ object.hasClass "group" = true)

def Subtree.tree (subtree : Subtree) : Tree := fun _ => subtree.objects

theorem Subtree.eq_of_dn (subtree : Subtree) {first second : PosixObject}
    (inFirst : first ∈ subtree.objects) (inSecond : second ∈ subtree.objects)
    (same : first.dn = second.dn) : first = second :=
  List.inj_on_of_nodup_map subtree.distinct inFirst inSecond same

namespace PosixObject

variable (object : PosixObject)

@[simp] theorem values_number (kind : IdKind) :
    object.attrs.values (cstr kind.attrName) =
      ((object.number kind).map formatInt).toList := by
  cases kind with
  | uid => rfl
  | gid => rfl

@[simp] theorem values_distinguishedName :
    object.attrs.values (cstr "distinguishedName") = [object.dn] := rfl

@[simp] theorem values_sAMAccountName :
    object.attrs.values (cstr "sAMAccountName") = object.sam.toList := rfl

@[simp] theorem values_objectClass :
    object.attrs.values (cstr "objectClass") = object.classes := rfl

@[simp] theorem accepts_classItem (objectClass : String) :
    (classItem objectClass).accepts object.attrs = object.hasClass objectClass := by
  have text : integerSyntax (cstr "objectClass") = false := by decide
  simp only [FilterItem.accepts, classItem, values_objectClass, text, decide_true,
    Bool.true_and, Bool.false_eq_true, if_false]
  rfl

@[simp] theorem accepts_numberItem (kind : IdKind) (comparison : Comparison)
    (number : GInt64) :
    (numberItem kind.attrName comparison number).accepts object.attrs =
      (object.number kind).any fun value => comparison.holds value number.toInt := by
  have integer : integerSyntax (cstr kind.attrName) = true := by
    cases kind with
    | uid => decide
    | gid => decide
  cases present : object.number kind with
  | none => simp [FilterItem.accepts, numberItem, present]
  | some value =>
      simp [FilterItem.accepts, numberItem, present, integer, formatInt64, readInt_formatInt]

end PosixObject

end Sambervise.Ldap
