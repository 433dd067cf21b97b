import Mathlib.Data.List.InsertIdx
import Sambervise.Backend.ProfileHistory

namespace Sambervise.Backend

open Text Model Table Transition

/-! The profiles in the store while the program adds, replaces and removes profiles, with
saves that may fail. -/

variable {kf : GKeyFile}

/-- One call, and what becomes of the file operation of its save. -/
structure ProfileCall where
  op : ProfileOp
  writes : Bool
  deriving DecidableEq, Repr

namespace ProfileCall

def perform (self : Profiles kf) (call : ProfileCall) : Bool × Profiles kf :=
  match call.op with
  | .upsert profile => self.sbvProfilesUpsert profile call.writes
  | .remove name => self.sbvProfilesRemove name call.writes

def step (self : Profiles kf) (call : ProfileCall) : Profiles kf := (perform self call).2

end ProfileCall

/-! The store as a map -/

def DistinctNames (self : Profiles kf) : Prop := (self.store.map profileKey).Nodup

def named (name : CString) (p : SbvProfile) : Bool := profileKey p = name

/-- The new profile is what is found under its name. It is where the one was that it
replaces, or at the end, and the others are where they were. -/
structure Upserted (before : List SbvProfile) (profile : SbvProfile)
    (after : List SbvProfile) : Prop where
  stored : after.find? (named (profileKey profile)) = some profile
  placed : after = match before.findIdx? (named (profileKey profile)) with
    | some index => before.set index profile
    | none => before ++ [profile]

/-- The others are left in their order. -/
def Removed (before : List SbvProfile) (name : CString) (after : List SbvProfile) : Prop :=
  after = before.filter (fun p => !named name p)

def ObeysMapLaws (self : Profiles kf) (call : ProfileCall) : Prop :=
  match call.op with
  | .upsert profile => Upserted self.store profile (call.step self).store
  | .remove name => Removed self.store (orEmpty name) (call.step self).store

section Call

variable {self : Profiles kf}

theorem store_upsert (self : Profiles kf) (profile : SbvProfile) (writes : Bool) :
    (self.sbvProfilesUpsert profile writes).2.store = upsert profileKey profile self.store := by
  cases writes with
  | true => rfl
  | false => rfl

theorem store_remove (self : Profiles kf) (name : Option CString) (writes : Bool) :
    (self.sbvProfilesRemove name writes).2.store =
      (remove profileKey (orEmpty name) self.store).getD self.store := by
  unfold Profiles.sbvProfilesRemove
  cases remove profileKey (orEmpty name) self.store with
  | none => rfl
  | some store =>
      cases writes with
      | true => rfl
      | false => rfl

theorem upserted_upsert (store : List SbvProfile) (profile : SbvProfile) :
    Upserted store profile (upsert profileKey profile store) where
  stored := find?_upsert profile store
  placed := by
    rw [upsert_eq]
    cases found : store.findIdx? (fun other => profileKey other = profileKey profile) with
    | none =>
        have absent : store.findIdx? (named (profileKey profile)) = none := found
        rw [absent]
    | some index =>
        have present : store.findIdx? (named (profileKey profile)) = some index := found
        obtain ⟨inRange, _⟩ := List.findIdx?_eq_some_iff_getElem.mp found
        rw [present]
        exact List.insertIdx_eraseIdx_self inRange.ne profile

theorem distinctNames_step (distinct : DistinctNames self) (call : ProfileCall) :
    DistinctNames (call.step self) := by
  rw [DistinctNames, ProfileCall.step, ProfileCall.perform]
  split
  · rw [store_upsert]
    exact nodup_upsert distinct _
  next name _ =>
    rw [store_remove, remove_getD_eq_filter distinct]
    exact (List.filter_sublist.map profileKey).nodup distinct

theorem obeysMapLaws_of_distinct (distinct : DistinctNames self) (call : ProfileCall) :
    ObeysMapLaws self call := by
  rw [ObeysMapLaws, ProfileCall.step, ProfileCall.perform]
  split
  · rw [store_upsert]
    exact upserted_upsert _ _
  · rw [store_remove, remove_getD_eq_filter distinct, Removed]
    apply List.filter_congr
    intro p _
    simp [named]

end Call

/-- Over every run of a program started with a file: the names of the stored profiles stay
distinct, and every call does to the store what it does to a map. -/
theorem profileStore_map_laws (found : Contents kf) (calls : List ProfileCall) :
    Throughout ProfileCall.step DistinctNames (Profiles.started found) calls ∧
      Along ProfileCall.step ObeysMapLaws (Profiles.started found) calls := by
  have distinct : DistinctNames (Profiles.started found) := (consistent_started found).distinct
  have throughout := throughout_of_step DistinctNames
    (fun _ call holds => distinctNames_step holds call) calls distinct
  exact ⟨throughout, along_of_throughout (fun _ call holds => obeysMapLaws_of_distinct holds call)
    throughout⟩

end Sambervise.Backend
