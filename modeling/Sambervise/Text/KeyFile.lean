import Mathlib.Data.List.Nodup
import Mathlib.Logic.Function.Basic
import Sambervise.Text.Decimal

namespace Sambervise.Text

/-! GLib's key files: named groups of keys with their values, in order. -/

/-- The encoding of values: what is set is what is got. -/
structure GKeyFile where
  Value : Type
  ofString : CString → Value
  ofInteger : BitVec 32 → Value
  ofInt64 : GInt64 → Value
  ofBoolean : Bool → Value
  getString : Value → Option CString
  getInteger : Value → Option (BitVec 32)
  getInt64 : Value → Option GInt64
  getBoolean : Value → Option Bool
  getString_ofString : ∀ string, getString (ofString string) = some string
  getInteger_ofInteger : ∀ number, getInteger (ofInteger number) = some number
  getInt64_ofInt64 : ∀ number, getInt64 (ofInt64 number) = some number
  getBoolean_ofBoolean : ∀ flag, getBoolean (ofBoolean flag) = some flag

variable {kf : GKeyFile}

abbrev Keys (kf : GKeyFile) := CString → Option kf.Value

structure KeyGroup (kf : GKeyFile) where
  name : CString
  keys : Keys kf := fun _ => none

namespace KeyGroup

variable (group : KeyGroup kf)

def set (key : CString) (value : kf.Value) : KeyGroup kf :=
  { group with keys := Function.update group.keys key (some value) }

def getString (key : String) : Option CString := (group.keys (cstr key)).bind kf.getString

def getInteger (key : String) : Option (BitVec 32) := (group.keys (cstr key)).bind kf.getInteger

def getInt64 (key : String) : Option GInt64 := (group.keys (cstr key)).bind kf.getInt64

/-- A key that is missing is false. -/
def getBoolean (key : String) : Bool :=
  ((group.keys (cstr key)).bind kf.getBoolean).getD false

end KeyGroup

def asciiIsCntrl (char : UInt8) : Bool := char < 0x20 || char == 0x7F

/-- `g_key_file_is_group_name` -/
def isGroupName (name : CString) : Bool :=
  name ≠ [] && name.all fun char => char != 0x5B && char != 0x5D && !asciiIsCntrl char

/-- `g_key_file_set_value`: nothing is set in a group that cannot have its name. -/
def setValue (groups : List (KeyGroup kf)) (name key : CString) (value : kf.Value) :
    List (KeyGroup kf) :=
  if isGroupName name then
    if name ∈ groups.map KeyGroup.name then
      groups.map fun group => if group.name = name then group.set key value else group
    else groups ++ [KeyGroup.set { name } key value]
  else groups

def setValues (groups : List (KeyGroup kf)) (name : CString)
    (settings : List (CString × kf.Value)) : List (KeyGroup kf) :=
  settings.foldl (fun groups setting => setValue groups name setting.1 setting.2) groups

/-- The groups have proper names, each its own. -/
structure WellFormed (groups : List (KeyGroup kf)) : Prop where
  distinct : (groups.map KeyGroup.name).Nodup
  proper : ∀ name ∈ groups.map KeyGroup.name, isGroupName name = true

theorem names_setValue (groups : List (KeyGroup kf)) (name key : CString) (value : kf.Value) :
    (setValue groups name key value).map KeyGroup.name =
      if isGroupName name = true ∧ name ∉ groups.map KeyGroup.name then
        groups.map KeyGroup.name ++ [name]
      else groups.map KeyGroup.name := by
  unfold setValue
  by_cases proper : isGroupName name = true
  · by_cases known : name ∈ groups.map KeyGroup.name
    · rw [if_pos proper, if_pos known, if_neg (by simp [known]), List.map_map]
      apply List.map_congr_left
      intro group _
      dsimp only [Function.comp_apply]
      split
      · rfl
      · rfl
    · rw [if_pos proper, if_neg known, if_pos ⟨proper, known⟩, List.map_append]
      rfl
  · rw [if_neg proper, if_neg (by simp [proper])]

theorem WellFormed.setValue {groups : List (KeyGroup kf)} (wellFormed : WellFormed groups)
    (name key : CString) (value : kf.Value) : WellFormed (setValue groups name key value) := by
  have names := names_setValue groups name key value
  split at names
  next new =>
    refine ⟨?_, ?_⟩
    · rw [names, ← List.concat_eq_append]
      exact List.Nodup.concat new.2 wellFormed.distinct
    · rw [names]
      intro other member
      rcases List.mem_append.mp member with known | last
      · exact wellFormed.proper other known
      · exact List.mem_singleton.mp last ▸ new.1
  · exact ⟨names ▸ wellFormed.distinct, names ▸ wellFormed.proper⟩

theorem WellFormed.setValues {groups : List (KeyGroup kf)} (wellFormed : WellFormed groups)
    (name : CString) (settings : List (CString × kf.Value)) :
    WellFormed (setValues groups name settings) := by
  induction settings generalizing groups with
  | nil => exact wellFormed
  | cons setting rest ih => exact ih (wellFormed.setValue name setting.1 setting.2)

theorem setValues_improper {name : CString} (improper : isGroupName name = false)
    (groups : List (KeyGroup kf)) (settings : List (CString × kf.Value)) :
    setValues groups name settings = groups := by
  induction settings with
  | nil => rfl
  | cons setting rest ih =>
      rw [setValues, List.foldl_cons, Text.setValue, if_neg (by simp [improper])]
      exact ih

/-! The keys of a group that is written anew -/

def keysFrom (keys : Keys kf) (settings : List (CString × kf.Value)) : Keys kf :=
  settings.foldl (fun keys setting => Function.update keys setting.1 (some setting.2)) keys

theorem setValue_last {groups : List (KeyGroup kf)} {group : KeyGroup kf}
    (proper : isGroupName group.name = true) (new : group.name ∉ groups.map KeyGroup.name)
    (key : CString) (value : kf.Value) :
    setValue (groups ++ [group]) group.name key value = groups ++ [group.set key value] := by
  rw [setValue, if_pos proper, if_pos (by simp), List.map_append]
  congr 1
  · calc
      _ = groups.map id := by
        apply List.map_congr_left
        intro earlier member
        have other : earlier.name ≠ group.name := by
          intro same
          exact new (same ▸ List.mem_map_of_mem member)
        exact if_neg other
      _ = groups := List.map_id groups
  · simp

theorem setValues_last {groups : List (KeyGroup kf)} {group : KeyGroup kf}
    (proper : isGroupName group.name = true) (new : group.name ∉ groups.map KeyGroup.name)
    (settings : List (CString × kf.Value)) :
    setValues (groups ++ [group]) group.name settings =
      groups ++ [{ group with keys := keysFrom group.keys settings }] := by
  induction settings generalizing group with
  | nil => rfl
  | cons setting rest ih =>
      have later := @ih (group.set setting.1 setting.2) proper new
      rw [setValues, List.foldl_cons, setValue_last proper new]
      exact later

theorem setValues_new {groups : List (KeyGroup kf)} {name : CString}
    (proper : isGroupName name = true) (new : name ∉ groups.map KeyGroup.name)
    {settings : List (CString × kf.Value)} (some : settings ≠ []) :
    setValues groups name settings =
      groups ++ [{ name, keys := keysFrom (fun _ => none) settings }] := by
  obtain ⟨setting, rest, rfl⟩ := List.exists_cons_of_ne_nil some
  rw [setValues, List.foldl_cons, setValue, if_pos proper, if_neg new]
  exact @setValues_last kf groups (KeyGroup.set { name } setting.1 setting.2) proper new rest

theorem keysFrom_of_notMem {settings : List (CString × kf.Value)} {key : CString}
    (absent : key ∉ settings.map Prod.fst) (keys : Keys kf) :
    keysFrom keys settings key = keys key := by
  induction settings generalizing keys with
  | nil => rfl
  | cons setting rest ih =>
      rw [List.map_cons, List.mem_cons, not_or] at absent
      rw [keysFrom, List.foldl_cons]
      exact (ih absent.2 _).trans (Function.update_of_ne absent.1 _ _)

theorem keysFrom_of_mem {settings : List (CString × kf.Value)}
    (distinct : (settings.map Prod.fst).Nodup) {key : CString} {value : kf.Value}
    (member : (key, value) ∈ settings) (keys : Keys kf) :
    keysFrom keys settings key = some value := by
  induction settings generalizing keys with
  | nil => cases member
  | cons setting rest ih =>
      obtain ⟨absent, distinct⟩ := List.nodup_cons.mp distinct
      rw [keysFrom, List.foldl_cons]
      rcases List.mem_cons.mp member with rfl | later
      · exact (keysFrom_of_notMem absent _).trans (Function.update_self _ _ _)
      · exact ih distinct later _

end Sambervise.Text
