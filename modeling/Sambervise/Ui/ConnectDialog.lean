import Sambervise.Backend.Profiles

namespace Sambervise.Ui.ConnectDialog

open Text Model Backend Table

/-! The dialog in which a connection is described, to connect with it or to save it. -/

structure Form where
  nameEntry : CString := []
  hostEntry : CString := []
  portSpin : GInt := 389
  baseDnEntry : CString := []
  simpleRadio : Bool := false
  bindDnEntry : CString := []
  passwordEntry : CString := []
  useTlsCheck : Bool := false
  useLdapsCheck : Bool := false
  skipCertCheck : Bool := false
  uidMinSpin : GInt64 := 0
  uidMaxSpin : GInt64 := 0
  gidMinSpin : GInt64 := 0
  gidMaxSpin : GInt64 := 0
  deriving DecidableEq, Repr

/-- The spinner shows 0 for a bound that is not set. -/
def spinBound (value : GInt64) : GInt64 := if 0 < value.toInt then value else -1

def buildProfile (d : Form) : SbvProfile :=
  { name := if d.nameEntry = [] then none else some d.nameEntry
    host := some d.hostEntry
    port := d.portSpin
    baseDn := some d.baseDnEntry
    authType := if d.simpleRadio then .simple else .kerberos
    bindDn := if d.simpleRadio then some d.bindDnEntry else none
    useTls := d.useTlsCheck
    useLdaps := d.useLdapsCheck
    skipCert := d.skipCertCheck
    uidMin := spinBound d.uidMinSpin
    uidMax := spinBound d.uidMaxSpin
    gidMin := spinBound d.gidMinSpin
    gidMax := spinBound d.gidMaxSpin }

def badRange (min max : GInt64) : Bool :=
  0 < min.toInt && 0 < max.toInt && max.toInt < min.toInt

def validateInputs (d : Form) (requirePassword : Bool) : Option CString :=
  if d.hostEntry = [] ∨ d.baseDnEntry = [] then some (cstr "Host and Base DN are required.")
  else if d.simpleRadio ∧ requirePassword ∧ d.bindDnEntry = [] then
    some (cstr "Bind DN / UPN is required for simple auth.")
  else if badRange d.uidMinSpin d.uidMaxSpin ∨ badRange d.gidMinSpin d.gidMaxSpin then
    some (cstr "POSIX range max must be greater than or equal to min.")
  else none

inductive SaveError where
  | label (text : CString)
  /-- The label shows the error of the file operation. -/
  | file
  deriving DecidableEq, Repr

variable {kf : GKeyFile}

/-- What becomes of the file operations of one save: of the remove, and of the upsert. -/
structure SaveReplies where
  removeWrites : Bool := true
  upsertWrites : Bool := true

/-- A rename drops the old name first; that this may fail is only logged. -/
def dropOriginal (originalName : Option CString) (newName : CString) (writes : Bool)
    (self : Profiles kf) : Profiles kf :=
  match originalName with
  | none => self
  | some original =>
      if original = newName then self else (self.sbvProfilesRemove (some original) writes).2

def onSaveClicked (originalName : Option CString) (replies : SaveReplies) (d : Form)
    (self : Profiles kf) : Except SaveError SbvProfile × Profiles kf :=
  match validateInputs d false with
  | some text => (.error (.label text), self)
  | none =>
      let profile := buildProfile d
      if profileKey profile = [] then
        (.error (.label (cstr "A profile name is required when saving.")), self)
      else
        let self := dropOriginal originalName (profileKey profile) replies.removeWrites self
        let (ok, self) := self.sbvProfilesUpsert profile replies.upsertWrites
        (if ok then .ok profile else .error .file, self)

/-- The connect was done: the profile is read off the form again, saved if it has a name,
and handed on if the save succeeds. -/
def onConnectDone (d : Form) (writes : Bool) (self : Profiles kf) :
    Option SbvProfile × Profiles kf :=
  let profile := buildProfile d
  match profile.name with
  | none => (none, self)
  | some _ =>
      let (ok, self) := self.sbvProfilesUpsert profile writes
      (if ok then some profile else none, self)

theorem onConnectDone_eq_some_iff {d : Form} {writes : Bool} {self : Profiles kf}
    {profile : SbvProfile} :
    (onConnectDone d writes self).1 = some profile ↔
      d.nameEntry ≠ [] ∧ writes = true ∧ buildProfile d = profile := by
  unfold onConnectDone
  by_cases empty : d.nameEntry = []
  · simp [buildProfile, empty]
  · have name : (buildProfile d).name = some d.nameEntry := if_neg empty
    simp only [name]
    cases writes with
    | true => simp [Profiles.sbvProfilesUpsert, Profiles.sbvProfilesSave, empty]
    | false => simp [Profiles.sbvProfilesUpsert, Profiles.sbvProfilesSave]

/-- The edit of a profile touches only that one: all others are still in the store, the
edited one is there once under its name, and the old name is gone unless it is the new. -/
structure TouchesOnly (before : List SbvProfile) (edited profile : SbvProfile)
    (after : List SbvProfile) : Prop where
  others : ∀ p ∈ before, p ≠ edited → p ∈ after
  once : after.filter (fun p => profileKey p = profileKey profile) = [profile]
  renamed : profileKey edited ≠ profileKey profile →
    ∀ p ∈ after, profileKey p ≠ profileKey edited

section Save

variable {self : Profiles kf} {d : Form} {edited profile : SbvProfile}

theorem onSaveClicked_ok {originalName : Option CString}
    (saved : (onSaveClicked originalName {} d self).1 = .ok profile) :
    profile = buildProfile d ∧
      (onSaveClicked originalName {} d self).2.store =
        upsert profileKey profile
          (dropOriginal originalName (profileKey profile) true self).store := by
  unfold onSaveClicked at saved ⊢
  cases valid : validateInputs d false with
  | some text =>
      rw [valid] at saved
      cases saved
  | none =>
      rw [valid] at saved
      dsimp only at saved ⊢
      split at saved
      · cases saved
      next named =>
        rw [if_neg named]
        cases saved
        exact ⟨rfl, rfl⟩

section Drop

variable (distinct : (self.store.map profileKey).Nodup) {original : CString}
  (member : original ∈ self.store.map profileKey) (newName : CString)
include distinct

theorem nodup_dropOriginal :
    ((dropOriginal (some original) newName true self).store.map profileKey).Nodup := by
  unfold dropOriginal Profiles.sbvProfilesRemove
  dsimp only [orEmpty, Option.getD_some]
  split
  · exact distinct
  · split
    next store gone =>
      exact ((sublist_of_remove gone).map profileKey).nodup distinct
    · exact distinct

include member

theorem mem_dropOriginal_iff {p : SbvProfile} :
    p ∈ (dropOriginal (some original) newName true self).store ↔
      p ∈ self.store ∧ (original = newName ∨ profileKey p ≠ original) := by
  unfold dropOriginal Profiles.sbvProfilesRemove
  dsimp only [orEmpty, Option.getD_some]
  by_cases same : original = newName
  · simp [same]
  · rw [if_neg same]
    cases gone : remove profileKey original self.store with
    | none => exact absurd member (remove_eq_none_iff.mp gone)
    | some store =>
        rw [show p ∈ ((Profiles.sbvProfilesSave { self with store } true).2).store ↔ p ∈ store
          from Iff.rfl, mem_of_remove_iff distinct gone]
        simp [same]

end Drop

/-- A save touches only the edited profile exactly where its new name is not that of
another profile, or that one is the same in all its fields. -/
theorem touchesOnly_iff (distinct : (self.store.map profileKey).Nodup)
    (stored : edited ∈ self.store) {original : CString} (name : edited.name = some original)
    (saved : (onSaveClicked edited.name {} d self).1 = .ok profile) :
    TouchesOnly self.store edited profile (onSaveClicked edited.name {} d self).2.store ↔
      ∀ p ∈ self.store, p ≠ edited → profileKey p = profileKey profile → p = profile := by
  have key : profileKey edited = original := by
    rw [profileKey, name]
    rfl
  have member : original ∈ self.store.map profileKey := key ▸ List.mem_map_of_mem stored
  obtain ⟨_, after⟩ := onSaveClicked_ok saved
  rw [name] at after
  have dropped : ((dropOriginal (some original) (profileKey profile) true self).store.map
      profileKey).Nodup := nodup_dropOriginal distinct (profileKey profile)
  have inAfter : ∀ p, p ∈ (onSaveClicked edited.name {} d self).2.store ↔
      p = profile ∨ (p ∈ self.store ∧
        (original = profileKey profile ∨ profileKey p ≠ original)) ∧
          profileKey p ≠ profileKey profile := by
    intro p
    rw [name, after, mem_upsert_iff dropped,
      mem_dropOriginal_iff distinct member (profileKey profile)]
  constructor
  · intro touches p inStore other same
    rcases (inAfter p).mp (touches.others p inStore other) with new | ⟨_, different⟩
    · exact new
    · exact absurd same different
  · intro free
    refine { others := ?_, once := ?_, renamed := ?_ }
    · intro p inStore other
      by_cases same : profileKey p = profileKey profile
      · exact (inAfter p).mpr (.inl (free p inStore other same))
      · have notEdited : profileKey p ≠ original := fun equal =>
          other (List.inj_on_of_nodup_map distinct inStore stored (equal.trans key.symm))
        exact (inAfter p).mpr (.inr ⟨⟨inStore, .inr notEdited⟩, same⟩)
    · have unique : ((onSaveClicked edited.name {} d self).2.store.map profileKey).Nodup := by
        rw [name, after]
        exact nodup_upsert dropped profile
      exact filter_key_eq unique ((inAfter profile).mpr (.inl rfl))
    · intro renamed p inStore
      rcases (inAfter p).mp inStore with rfl | ⟨⟨_, same | other⟩, _⟩
      · exact fun equal => renamed equal.symm
      · exact absurd (key.trans same) renamed
      · rw [key]
        exact other

end Save

def labForm (name : String) : Form :=
  { nameEntry := cstr name, hostEntry := cstr "dc1.lab", baseDnEntry := cstr "DC=lab" }

def labStore : Profiles plainKeyFile :=
  { store :=
      [ { name := some (cstr "Lab"), host := some (cstr "dc1.lab") },
        { name := some (cstr "Office"), host := some (cstr "dc1.office") } ]
    file := noFile }

theorem touchesOnly_iff_lab :
    let edited : SbvProfile := { name := some (cstr "Lab"), host := some (cstr "dc1.lab") }
    let profile := buildProfile (labForm "Lab 2")
    let after := (onSaveClicked edited.name {} (labForm "Lab 2") labStore).2.store
    TouchesOnly labStore.store edited profile after ↔
      ∀ p ∈ labStore.store, p ≠ edited → profileKey p = profileKey profile → p = profile := by
  intro edited profile after
  exact touchesOnly_iff (by decide) (by decide) rfl rfl

/-- "Lab" renamed to "Office": what was "Office" is gone. -/
theorem office_replaced :
    let edited : SbvProfile := { name := some (cstr "Lab"), host := some (cstr "dc1.lab") }
    let saved := onSaveClicked edited.name {} (labForm "Office") labStore
    saved.1 = .ok (buildProfile (labForm "Office")) ∧
      ¬ TouchesOnly labStore.store edited (buildProfile (labForm "Office")) saved.2.store := by
  intro edited saved
  refine ⟨rfl, fun touches => ?_⟩
  have kept := touches.others { name := some (cstr "Office"), host := some (cstr "dc1.office") }
    (by decide) (by decide)
  exact absurd kept (by decide)

end Sambervise.Ui.ConnectDialog
