import Sambervise.Backend.ProfileCalls
import Sambervise.Ui.ConnectDialog

namespace Sambervise.Ui

open Text Model Backend Table Transition
open ConnectDialog
  (Form SaveReplies SaveError buildProfile validateInputs onSaveClicked dropOriginal)

/-! What is left of the stored profiles by calls and edits whose saves fail -/

variable {kf : GKeyFile}

/-! An edit is a rename and an upsert -/

def rejected (d : Form) : Bool :=
  (validateInputs d false).isSome || profileKey (buildProfile d) = []

def renames (originalName : Option CString) (d : Form) : Bool :=
  match originalName with
  | none => false
  | some original => original ≠ profileKey (buildProfile d)

/-- The calls that Save makes in the edit dialog. -/
def saveCalls (originalName : Option CString) (replies : SaveReplies) (d : Form) :
    List ProfileCall :=
  if rejected d then []
  else
    let upserts : ProfileCall := { op := .upsert (buildProfile d), writes := replies.upsertWrites }
    if renames originalName d then
      [{ op := .remove originalName, writes := replies.removeWrites }, upserts]
    else [upserts]

section Save

variable {originalName : Option CString} {replies : SaveReplies} {d : Form} {self : Profiles kf}

theorem onSaveClicked_rejected (no : rejected d = true) :
    (∃ text, (onSaveClicked originalName replies d self).1 = .error (.label text)) ∧
      (onSaveClicked originalName replies d self).2 = self := by
  unfold onSaveClicked
  cases valid : validateInputs d false with
  | some text => exact ⟨⟨text, rfl⟩, rfl⟩
  | none =>
      simp only [rejected, valid, Option.isSome_none, Bool.false_or, decide_eq_true_eq] at no
      dsimp only
      rw [if_pos no]
      exact ⟨⟨_, rfl⟩, rfl⟩

theorem dropOriginal_eq (writes : Bool) :
    dropOriginal originalName (profileKey (buildProfile d)) writes self =
      if renames originalName d then (self.sbvProfilesRemove originalName writes).2 else self := by
  cases originalName with
  | none => rfl
  | some original =>
      by_cases same : original = profileKey (buildProfile d)
      · simp [dropOriginal, renames, same]
      · simp [dropOriginal, renames, same]

theorem onSaveClicked_accepted (yes : rejected d = false) :
    onSaveClicked originalName replies d self =
      let dropped := dropOriginal originalName (profileKey (buildProfile d))
        replies.removeWrites self
      (if replies.upsertWrites then .ok (buildProfile d) else .error .file,
        (dropped.sbvProfilesUpsert (buildProfile d) replies.upsertWrites).2) := by
  simp only [rejected, Bool.or_eq_false_iff, Option.isSome_eq_false_iff, Option.isNone_iff_eq_none,
    decide_eq_false_iff_not] at yes
  simp only [onSaveClicked, yes.1, if_neg yes.2]
  rfl

theorem onSaveClicked_eq_run :
    (onSaveClicked originalName replies d self).2 =
      run ProfileCall.step self (saveCalls originalName replies d) := by
  rw [saveCalls]
  cases decided : rejected d with
  | true => exact (onSaveClicked_rejected decided).2
  | false =>
      rw [onSaveClicked_accepted decided, dropOriginal_eq]
      cases renames originalName d with
      | true => rfl
      | false => rfl

end Save

/-! One call -/

/-- The store is as it was where the call returns FALSE. -/
def KeepsOnFailure (self : Profiles kf) (call : ProfileCall) : Prop :=
  (call.perform self).1 = false → (call.step self).store = self.store

/-- The file can be written, or the call changes nothing: the same profile is stored
already, or there is none to remove. -/
def WritesChange (self : Profiles kf) (call : ProfileCall) : Prop :=
  call.writes = true ∨
    match call.op with
    | .upsert profile => self.store.find? (named (profileKey profile)) = some profile
    | .remove name => orEmpty name ∉ self.store.map profileKey

theorem keepsOnFailure_iff (self : Profiles kf) (call : ProfileCall) :
    KeepsOnFailure self call ↔ WritesChange self call := by
  obtain ⟨op, writes⟩ := call
  cases writes with
  | true =>
      refine iff_of_true (fun failed => ?_) (.inl rfl)
      cases op with
      | upsert profile => cases failed
      | remove name =>
          simp only [ProfileCall.perform, Profiles.sbvProfilesRemove] at failed
          split at failed
          · cases failed
          · cases failed
  | false =>
      simp only [KeepsOnFailure, WritesChange, Bool.false_eq_true, false_or]
      cases op with
      | upsert profile => exact forall_prop_of_true rfl |>.trans upsert_eq_self_iff
      | remove name =>
          dsimp only
          rw [← remove_eq_none_iff]
          simp only [ProfileCall.step, ProfileCall.perform, Profiles.sbvProfilesRemove]
          cases gone : remove profileKey (orEmpty name) self.store with
          | none => exact iff_of_true (fun _ => rfl) rfl
          | some store =>
              refine iff_of_false (fun kept => ?_) (Option.some_ne_none store)
              have same : store = self.store := kept rfl
              have shorter := length_of_remove gone
              rw [same] at shorter
              omega

/-! The store and the file -/

namespace SavedProfiles

inductive Event where
  | call (call : ProfileCall)
  /-- Save in the edit dialog of a stored profile. -/
  | editSave (edited : SbvProfile) (replies : SaveReplies) (d : Form)

def step (self : Profiles kf) : Event → Profiles kf
  | .call one => one.step self
  | .editSave edited replies d =>
      if edited ∈ self.store then (onSaveClicked edited.name replies d self).2 else self

/-- No call that returns FALSE changes the store, and an edit that ends with an error
message has kept the profile. -/
def FailsCleanly (self : Profiles kf) : Event → Prop
  | .call one => KeepsOnFailure self one
  | .editSave edited replies d =>
      edited ∈ self.store →
        Along ProfileCall.step KeepsOnFailure self (saveCalls edited.name replies d) ∧
          ∀ error, (onSaveClicked edited.name replies d self).1 = .error error →
            edited ∈ (onSaveClicked edited.name replies d self).2.store

/-- The profiles in the store are those that are loaded from the file as it is. -/
def HoldsFile (self : Profiles kf) : Prop :=
  List.Forall₂ SameProfile (sbvProfilesLoad self.file) self.store

/-- A group of the file can have the profile's name. -/
def NamesGroup (call : ProfileCall) : Prop :=
  match call.op with
  | .upsert profile => properlyNamed profile = true
  | .remove _ => True

/-- Whatever is to change is written, both steps of a rename are, and every profile that is
saved has a name that a group of the file can have. -/
def Careful (self : Profiles kf) : Event → Prop
  | .call one => WritesChange self one ∧ NamesGroup one
  | .editSave edited replies d =>
      edited ∈ self.store →
        Along ProfileCall.step WritesChange self (saveCalls edited.name replies d) ∧
          (∀ one ∈ saveCalls edited.name replies d, NamesGroup one) ∧
            (rejected d = false → renames edited.name d = true → replies.upsertWrites = true)

variable {self : Profiles kf}

theorem distinctNames_run (distinct : DistinctNames self) (calls : List ProfileCall) :
    DistinctNames (run ProfileCall.step self calls) :=
  run_of_step DistinctNames (fun _ one holds => distinctNames_step holds one) calls distinct

theorem distinctNames_event (self : Profiles kf) (event : Event)
    (distinct : DistinctNames self) : DistinctNames (step self event) := by
  cases event with
  | call one => exact distinctNames_step distinct one
  | editSave edited replies d =>
      rw [step]
      by_cases stored : edited ∈ self.store
      · rw [if_pos stored, onSaveClicked_eq_run]
        exact distinctNames_run distinct _
      · rw [if_neg stored]
        exact distinct

/-! Calls that write what they change -/

theorem proper_of_holds (holds : HoldsFile self) {p : SbvProfile} (member : p ∈ self.store) :
    properlyNamed p = true := by
  have keys : (sbvProfilesLoad self.file).map profileKey = self.store.map profileKey := by
    rw [← List.forall₂_eq_eq_eq, List.forall₂_map_left_iff, List.forall₂_map_right_iff]
    exact List.Forall₂.imp (fun _ _ same => SameProfile.key same) holds
  have named : profileKey p ∈ (sbvProfilesLoad self.file).map profileKey := by
    rw [keys]
    exact List.mem_map_of_mem member
  obtain ⟨loaded, inFile, same⟩ := List.mem_map.mp named
  rw [properlyNamed, ← same]
  exact proper_of_load inFile

theorem step_of_writesChange {one : ProfileCall} (within : WritesChange self one) :
    one.step self = self ∨ (one.step self).file = written kf (one.step self).store := by
  obtain ⟨op, writes⟩ := one
  cases op with
  | upsert profile =>
      rcases within with wrote | stored
      · have wrote : writes = true := wrote
        subst wrote
        exact .inr rfl
      · have same := upsert_eq_self_iff.mpr stored
        cases writes with
        | true => exact .inr rfl
        | false =>
            left
            simp only [ProfileCall.step, ProfileCall.perform, Profiles.sbvProfilesUpsert,
              Profiles.sbvProfilesSave, same, Bool.false_eq_true, if_false]
  | remove name =>
      simp only [ProfileCall.step, ProfileCall.perform, Profiles.sbvProfilesRemove]
      cases gone : remove profileKey (orEmpty name) self.store with
      | none => exact .inl rfl
      | some store =>
          rcases within with wrote | absent
          · have wrote : writes = true := wrote
            subst wrote
            exact .inr rfl
          · rw [remove_eq_none_iff.mpr absent] at gone
            cases gone

theorem proper_after_iff (distinct : DistinctNames self) (holds : HoldsFile self)
    (one : ProfileCall) :
    (∀ p ∈ (one.step self).store, properlyNamed p = true) ↔ NamesGroup one := by
  have known : ∀ p ∈ self.store, properlyNamed p = true := fun _ member =>
    proper_of_holds holds member
  obtain ⟨op, writes⟩ := one
  cases op with
  | upsert profile =>
      rw [ProfileCall.step, ProfileCall.perform, store_upsert]
      constructor
      · exact fun every => every profile ((mem_upsert_iff distinct).mpr (.inl rfl))
      · intro proper p member
        rcases (mem_upsert_iff distinct).mp member with rfl | ⟨earlier, _⟩
        · exact proper
        · exact known p earlier
  | remove name =>
      rw [ProfileCall.step, ProfileCall.perform, store_remove, remove_getD_eq_filter distinct]
      exact iff_of_true (fun p member => known p (List.mem_of_mem_filter member)) trivial

/-- A profile is loaded again if its name is one that a group can have. -/
theorem holdsFile_call_iff (distinct : DistinctNames self) (holds : HoldsFile self)
    {one : ProfileCall} (within : WritesChange self one) :
    HoldsFile (one.step self) ↔ NamesGroup one := by
  rw [← proper_after_iff distinct holds one]
  rcases step_of_writesChange within with same | wrote
  · rw [same]
    exact iff_of_true holds fun _ member => proper_of_holds holds member
  · rw [HoldsFile, wrote]
    exact load_written_iff (distinctNames_step distinct one)

theorem holdsFile_run_iff (distinct : DistinctNames self) (holds : HoldsFile self)
    {originalName : Option CString} {replies : SaveReplies} {d : Form}
    (along : Along ProfileCall.step WritesChange self (saveCalls originalName replies d)) :
    HoldsFile (run ProfileCall.step self (saveCalls originalName replies d)) ↔
      ∀ one ∈ saveCalls originalName replies d, NamesGroup one := by
  rw [saveCalls] at along ⊢
  by_cases decided : rejected d = true
  · rw [if_pos decided]
    exact iff_of_true holds nofun
  · rw [if_neg decided] at along ⊢
    dsimp only at along ⊢
    by_cases renamed : renames originalName d = true
    · -- the remove keeps what the file holds, and the upsert after it decides
      rw [if_pos renamed] at along ⊢
      obtain ⟨dropping, upserting, _⟩ := along
      have dropped := (holdsFile_call_iff distinct holds dropping).mpr trivial
      have free : NamesGroup { op := .remove originalName, writes := replies.removeWrites } :=
        trivial
      rw [List.forall_mem_cons, and_iff_right free, List.forall_mem_singleton]
      exact holdsFile_call_iff (distinctNames_step distinct _) dropped upserting
    · rw [if_neg renamed] at along ⊢
      rw [List.forall_mem_singleton]
      exact holdsFile_call_iff distinct holds along.1

/-! An edit that ends with an error message -/

section EditSave

variable {edited : SbvProfile} {replies : SaveReplies} {d : Form} {profiles : Profiles kf}

/-- Both steps of a rename are done to the store, so the profile is gone. -/
theorem edited_lost (distinct : DistinctNames profiles) (accepted : rejected d = false)
    (renamed : renames edited.name d = true) :
    edited ∉ (onSaveClicked edited.name replies d profiles).2.store := by
  have different : profileKey edited ≠ profileKey (buildProfile d) := by
    cases name : edited.name with
    | none =>
        rw [name] at renamed
        cases renamed
    | some original =>
        rw [name] at renamed
        rw [profileKey, name]
        simpa [renames, orEmpty] using renamed
  rw [onSaveClicked_accepted accepted, dropOriginal_eq, if_pos renamed]
  simp only [store_upsert]
  have dropped : DistinctNames (profiles.sbvProfilesRemove edited.name replies.removeWrites).2 :=
    distinctNames_step distinct { op := .remove edited.name, writes := replies.removeWrites }
  intro member
  rcases (mem_upsert_iff dropped).mp member with same | ⟨kept, _⟩
  · exact different (congrArg profileKey same)
  · rw [store_remove, remove_getD_eq_filter distinct] at kept
    have other := (List.mem_filter.mp kept).2
    exact absurd rfl (of_decide_eq_true other)

theorem kept_iff (distinct : DistinctNames profiles) (stored : edited ∈ profiles.store)
    (unchanged : rejected d = false → renames edited.name d = false →
      WritesChange profiles { op := .upsert (buildProfile d), writes := replies.upsertWrites }) :
    (∀ error, (onSaveClicked edited.name replies d profiles).1 = .error error →
        edited ∈ (onSaveClicked edited.name replies d profiles).2.store) ↔
      (rejected d = false → renames edited.name d = true → replies.upsertWrites = true) := by
  cases decided : rejected d with
  | true =>
      refine iff_of_true (fun _ _ => ?_) fun wrong => nomatch wrong
      rw [(onSaveClicked_rejected decided).2]
      exact stored
  | false =>
      have outcome : (onSaveClicked edited.name replies d profiles).1 =
          if replies.upsertWrites then .ok (buildProfile d) else .error .file := by
        rw [onSaveClicked_accepted decided]
      rw [outcome, forall_prop_of_true rfl]
      cases wrote : replies.upsertWrites with
      | true => exact iff_of_true (fun _ failed => nomatch failed) fun _ => rfl
      | false =>
          cases renamed : renames edited.name d with
          | true =>
              refine iff_of_false (fun kept => ?_) (fun wrong => nomatch wrong rfl)
              exact edited_lost distinct decided renamed (kept .file rfl)
          | false =>
              refine iff_of_true (fun _ _ => ?_) nofun
              rcases unchanged decided renamed with impossible | same
              · exact absurd (wrote.symm.trans impossible) Bool.false_ne_true
              · rw [onSaveClicked_accepted decided, dropOriginal_eq, renamed]
                simp only [Bool.false_eq_true, if_false, store_upsert, upsert_eq_self_iff.mpr same]
                exact stored

end EditSave

/-- What one step has to be like. -/
theorem careful_iff (self : Profiles kf) (event : Event) (distinct : DistinctNames self)
    (holds : HoldsFile self) :
    Careful self event ↔ FailsCleanly self event ∧ HoldsFile (step self event) := by
  cases event with
  | call one =>
      rw [Careful, FailsCleanly, keepsOnFailure_iff]
      exact and_congr_right fun within => (holdsFile_call_iff distinct holds within).symm
  | editSave edited replies d =>
      rw [Careful, FailsCleanly, step]
      by_cases stored : edited ∈ self.store
      · rw [if_pos stored, forall_prop_of_true stored, forall_prop_of_true stored,
          onSaveClicked_eq_run, along_congr (fun _ => True) (fun _ _ _ => trivial)
            (fun state one _ => keepsOnFailure_iff state one) _ trivial, and_assoc]
        refine and_congr_right fun along => ?_
        rw [holdsFile_run_iff distinct holds along, and_comm, ← onSaveClicked_eq_run]
        refine and_congr_left' (kept_iff distinct stored ?_).symm
        intro accepted sameName
        simp only [saveCalls, accepted, sameName] at along
        exact along.1
      · rw [if_neg stored]
        exact iff_of_true (fun member => absurd member stored)
          ⟨fun member => absurd member stored, holds⟩

theorem holdsFile_started (found : Contents kf) : HoldsFile (.started found) :=
  List.forall₂_same.mpr fun _ _ => rfl

/-- Over every run of a program started with a file: failures change nothing and the store
is what the file holds, exactly where everything that is to change is written and every
profile that is saved has a name that a group can have. -/
theorem failures_change_nothing_iff (found : Contents kf) (events : List Event) :
    Along step FailsCleanly (.started found) events ∧
        Throughout step HoldsFile (.started found) events ↔
      Along step Careful (.started found) events :=
  along_and_throughout_iff HoldsFile DistinctNames distinctNames_event careful_iff events
    (consistent_started found).distinct (holdsFile_started found)

/-- "Hut" is renamed to "Lodge": the file is written without it, the write of the new name
fails, and the error message stands beside a store without "Hut". -/
theorem hut_lost :
    let hut : SbvProfile := { name := some (cstr "Hut"), host := some (cstr "dc1.hut") }
    let events : List Event :=
      [ .call { op := .upsert hut, writes := true },
        .editSave hut { upsertWrites := false }
          { nameEntry := cstr "Lodge", hostEntry := cstr "dc1.hut", baseDnEntry := cstr "DC=hut" } ]
    let final := run step (.started noFile) events
    hut ∉ final.store ∧ sbvProfilesLoad final.file = [] ∧ final.store ≠ [] ∧
      ¬ (Along step FailsCleanly (.started noFile) events ∧
        Throughout step HoldsFile (.started noFile) events) := by
  intro hut events final
  have empty : sbvProfilesLoad final.file = [] := by decide
  have stored : final.store ≠ [] := by decide
  refine ⟨by decide, empty, stored, fun both => ?_⟩
  have holds : HoldsFile final := both.2.last
  rw [HoldsFile, empty] at holds
  exact stored (List.forall₂_nil_left_iff.mp holds)

end SavedProfiles

end Sambervise.Ui
