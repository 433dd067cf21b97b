import Sambervise.Backend.Profiles
import Sambervise.Transition.Run

namespace Sambervise.Backend

open Text Model Table Transition

/-! What becomes of the profiles of a file while the program adds, replaces and removes
profiles, with every save successful. -/

variable {kf : GKeyFile}

inductive ProfileOp where
  | upsert (profile : SbvProfile)
  | remove (name : Option CString)
  deriving DecidableEq, Repr

namespace ProfileOp

def name : ProfileOp → CString
  | .upsert profile => profileKey profile
  | .remove name => orEmpty name

def isUpsert : ProfileOp → Bool
  | .upsert _ => true
  | .remove _ => false

def perform (self : Profiles kf) : ProfileOp → Profiles kf
  | .upsert profile => (self.sbvProfilesUpsert profile true).2
  | .remove name => (self.sbvProfilesRemove name true).2

end ProfileOp

open ProfileOp (perform)

def StillIn (file : Contents kf) (group : KeyGroup kf) : Prop :=
  ∃ later ∈ file.groups, later.name = group.name ∧
    SameProfile (profileOf later) (profileOf group)

def KeepsOthers (before : Contents kf) (ops : List ProfileOp) (after : Contents kf) : Prop :=
  ∀ group ∈ before.groups, group.name ∉ ops.map ProfileOp.name → StillIn after group

/-! One operation -/

/-- The names in the store differ, and the file is as it was found or holds the store. -/
structure Consistent (found : Contents kf) (state : Profiles kf) : Prop where
  distinct : (state.store.map profileKey).Nodup
  file : state.file = found ∨ state.file = written kf state.store

section Perform

variable {found : Contents kf} {self : Profiles kf}

theorem perform_remove (self : Profiles kf) (name : Option CString) :
    remove profileKey (orEmpty name) self.store = none ∧ perform self (.remove name) = self ∨
      ∃ store, remove profileKey (orEmpty name) self.store = some store ∧
        perform self (.remove name) = { store, file := written kf store } := by
  cases outcome : remove profileKey (orEmpty name) self.store with
  | none => exact .inl ⟨rfl, by simp [perform, Profiles.sbvProfilesRemove, outcome]⟩
  | some store =>
      refine .inr ⟨store, rfl, ?_⟩
      simp [perform, Profiles.sbvProfilesRemove, outcome, Profiles.sbvProfilesSave]

theorem consistent_perform (consistent : Consistent found self) (op : ProfileOp) :
    Consistent found (perform self op) := by
  cases op with
  | upsert profile =>
      exact
        { distinct := nodup_upsert consistent.distinct profile
          file := .inr rfl }
  | remove name =>
      rcases perform_remove self name with ⟨_, same⟩ | ⟨store, gone, after⟩
      · rw [same]
        exact consistent
      · rw [after]
        exact
          { distinct := ((sublist_of_remove gone).map profileKey).nodup consistent.distinct
            file := .inr rfl }

theorem mem_store_perform (consistent : Consistent found self) {p : SbvProfile}
    (member : p ∈ self.store) {op : ProfileOp} (other : profileKey p ≠ op.name) :
    p ∈ (perform self op).store := by
  cases op with
  | upsert profile => exact (mem_upsert_iff consistent.distinct).mpr (.inr ⟨member, other⟩)
  | remove name =>
      rcases perform_remove self name with ⟨_, same⟩ | ⟨store, gone, after⟩
      · rw [same]
        exact member
      · rw [after]
        exact (mem_of_remove_iff consistent.distinct gone).mpr ⟨member, other⟩

theorem key_of_mem_perform (consistent : Consistent found self) {op : ProfileOp}
    {p : SbvProfile} (member : p ∈ (perform self op).store) :
    p ∈ self.store ∨ profileKey p = op.name := by
  cases op with
  | upsert profile =>
      rcases (mem_upsert_iff consistent.distinct).mp member with rfl | ⟨earlier, _⟩
      · exact .inr rfl
      · exact .inl earlier
  | remove name =>
      rcases perform_remove self name with ⟨_, same⟩ | ⟨store, gone, after⟩
      · rw [same] at member
        exact .inl member
      · rw [after] at member
        exact .inl ((mem_of_remove_iff consistent.distinct gone).mp member).1

end Perform

/-! All of them -/

section Run

variable {found : Contents kf} {self : Profiles kf} {ops : List ProfileOp}

theorem consistent_run (consistent : Consistent found self) (ops : List ProfileOp) :
    Consistent found (run perform self ops) :=
  run_of_step (Consistent found) (fun _ op holds => consistent_perform holds op) ops consistent

theorem mem_store_run (consistent : Consistent found self) {p : SbvProfile}
    (member : p ∈ self.store) (other : profileKey p ∉ ops.map ProfileOp.name) :
    p ∈ (run perform self ops).store := by
  induction ops generalizing self with
  | nil => exact member
  | cons op rest ih =>
      rw [List.map_cons, List.mem_cons, not_or] at other
      exact ih (consistent_perform consistent op)
        (mem_store_perform consistent member other.1) other.2

theorem key_of_mem_run (consistent : Consistent found self) {p : SbvProfile}
    (member : p ∈ (run perform self ops).store) :
    p ∈ self.store ∨ profileKey p ∈ ops.map ProfileOp.name := by
  induction ops generalizing self with
  | nil => exact .inl member
  | cons op rest ih =>
      rw [List.map_cons, List.mem_cons]
      rcases ih (consistent_perform consistent op) member with earlier | later
      · rcases key_of_mem_perform consistent earlier with first | named
        · exact .inl first
        · exact .inr (.inl named)
      · exact .inr (.inr later)

theorem file_run (stored : self.file = written kf self.store) (ops : List ProfileOp) :
    (run perform self ops).file = written kf (run perform self ops).store := by
  refine run_of_step (fun state : Profiles kf => state.file = written kf state.store) ?_ ops stored
  intro state op stored
  cases op with
  | upsert profile => rfl
  | remove name =>
      rcases perform_remove state name with ⟨_, same⟩ | ⟨store, _, after⟩
      · rw [same]
        exact stored
      · rw [after]

theorem file_run_of_upsert {op : ProfileOp} (member : op ∈ ops) (upserts : op.isUpsert = true) :
    (run perform self ops).file = written kf (run perform self ops).store := by
  induction ops generalizing self with
  | nil => cases member
  | cons first rest ih =>
      rcases List.mem_cons.mp member with rfl | later
      · cases op with
        | upsert profile => exact file_run rfl rest
        | remove name => cases upserts
      · exact ih later

theorem run_removes (empty : self.store = [])
    (removes : ∀ op ∈ ops, op.isUpsert = false) : run perform self ops = self := by
  induction ops with
  | nil => rfl
  | cons op rest ih =>
      have same : perform self op = self := by
        cases op with
        | upsert profile => cases removes _ List.mem_cons_self
        | remove name => simp [perform, Profiles.sbvProfilesRemove, empty, remove]
      rw [run_cons, same]
      exact ih fun other member => removes other (List.mem_cons_of_mem _ member)

end Run

/-! What the program starts with -/

section Started

variable {found : Contents kf}

theorem consistent_started (found : Contents kf) : Consistent found (Profiles.started found) := by
  refine { distinct := ?_, file := .inl rfl }
  rw [Profiles.started, sbvProfilesLoad]
  split
  next parses =>
    rw [List.map_map]
    exact (found.wellFormed parses).distinct
  · exact List.nodup_nil

theorem stillIn_written {store : List SbvProfile} (distinct : (store.map profileKey).Nodup)
    {group : KeyGroup kf} (member : profileOf group ∈ store)
    (proper : isGroupName group.name = true) : StillIn (written kf store) group := by
  refine ⟨savedGroup kf group.name (profileOf group), ?_, rfl, ?_⟩
  · show _ ∈ saveGroups kf store
    rw [saveGroups_eq distinct]
    exact List.mem_map.mpr ⟨profileOf group, List.mem_filter.mpr ⟨member, proper⟩, rfl⟩
  · rw [profileOf_savedGroup]
    exact normalProfile_idem (profileOf group)

theorem keepsOthers_of_parses (parses : found.parses = true) (ops : List ProfileOp) :
    KeepsOthers found ops (run perform (Profiles.started found) ops).file := by
  intro group member other
  have consistent := consistent_run (consistent_started found) ops
  rcases consistent.file with same | stored
  · rw [same]
    exact ⟨group, member, rfl, rfl⟩
  · have loaded : profileOf group ∈ (Profiles.started found).store := by
      rw [Profiles.started, sbvProfilesLoad, if_pos parses]
      exact List.mem_map_of_mem member
    have kept := mem_store_run (consistent_started found) loaded other
    have proper := (found.wellFormed parses).proper group.name (List.mem_map_of_mem member)
    rw [stored]
    exact stillIn_written consistent.distinct kept proper

/-- After a load that failed one added profile is enough to lose every group that no
operation names. -/
theorem named_of_keepsOthers (fails : found.parses = false) {ops : List ProfileOp}
    {op : ProfileOp} (member : op ∈ ops) (upserts : op.isUpsert = true)
    (keeps : KeepsOthers found ops (run perform (Profiles.started found) ops).file)
    {group : KeyGroup kf} (inFile : group ∈ found.groups) :
    group.name ∈ ops.map ProfileOp.name := by
  by_contra other
  obtain ⟨later, inLater, same, _⟩ := keeps group inFile other
  have consistent := consistent_run (consistent_started found) ops
  rw [file_run_of_upsert member upserts] at inLater
  have inGroups : later ∈ saveGroups kf (run perform (Profiles.started found) ops).store := inLater
  rw [saveGroups_eq consistent.distinct, List.mem_map] at inGroups
  obtain ⟨p, kept, rfl⟩ := inGroups
  have named : profileKey p = group.name := same
  rcases key_of_mem_run (consistent_started found) (List.mem_filter.mp kept).1 with first | touched
  · rw [Profiles.started, sbvProfilesLoad, if_neg (by simp [fails])] at first
    cases first
  · exact other (named ▸ touched)

/-- The groups that no operation names are kept exactly where the file can be read, where
no profile is added, or where there are none. -/
theorem keepsOthers_iff (found : Contents kf) (ops : List ProfileOp) :
    KeepsOthers found ops (run perform (Profiles.started found) ops).file ↔
      found.parses = true ∨ (∀ op ∈ ops, op.isUpsert = false) ∨
        ∀ group ∈ found.groups, group.name ∈ ops.map ProfileOp.name := by
  cases parses : found.parses with
  | true => exact ⟨fun _ => .inl rfl, fun _ => keepsOthers_of_parses parses ops⟩
  | false =>
      constructor
      · intro keeps
        by_cases removes : ∀ op ∈ ops, op.isUpsert = false
        · exact .inr (.inl removes)
        · push Not at removes
          obtain ⟨op, member, upserts⟩ := removes
          refine .inr (.inr fun group inFile => ?_)
          exact named_of_keepsOthers parses member (by simpa using upserts) keeps inFile
      · intro either
        rcases either with impossible | removes | named
        · cases impossible
        · have nothing : (Profiles.started found).store = [] := by
            rw [Profiles.started, sbvProfilesLoad, if_neg (by simp [parses])]
          rw [run_removes nothing removes]
          exact fun group inFile _ => ⟨group, inFile, rfl, rfl⟩
        · exact fun group inFile other => absurd (named group inFile) other

end Started

/-- The profile "Office" is in the file, but some line of it does not parse. -/
def brokenFile : Contents plainKeyFile :=
  { groups := [savedGroup plainKeyFile (cstr "Office") (labProfile "Office")]
    parses := false
    wellFormed := by simp }

/-- A profile added is written over the file, and "Office" is gone. -/
theorem office_lost :
    ¬ KeepsOthers brokenFile [.upsert (labProfile "Lab")]
      (run perform (Profiles.started brokenFile) [.upsert (labProfile "Lab")]).file := by
  intro keeps
  obtain ⟨later, inLater, same, _⟩ := keeps _ List.mem_cons_self (by decide)
  have names : (written plainKeyFile [labProfile "Lab"]).groups.map KeyGroup.name =
      [cstr "Lab"] := by decide
  have member : later.name ∈ [cstr "Lab"] := by
    rw [← names]
    exact List.mem_map_of_mem inLater
  rw [same] at member
  exact absurd member (by decide)

end Sambervise.Backend
