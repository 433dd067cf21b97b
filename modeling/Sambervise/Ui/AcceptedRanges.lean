import Sambervise.Backend.IdmapHints
import Sambervise.Backend.ProfileCalls
import Sambervise.Ui.ConnectDialog

namespace Sambervise.Ui.ConnectDialog

open Text Model Backend Table

/-! The id ranges that come of an accepted form, after the profile was saved and loaded
again. -/

def RangesNonempty (hints : SbvIdmapHints) : Prop :=
  hints.uidMin.toInt ≤ hints.uidMax.toInt ∧ hints.gidMin.toInt ≤ hints.gidMax.toInt

/-- A bound that is set alone lies on the right side of the other default. -/
def FitsDefaults (min max : GInt64) : Prop :=
  (0 < min.toInt → max.toInt ≤ 0 → min.toInt ≤ sbvIdmapDefaultMax.toInt) ∧
    (0 < max.toInt → min.toInt ≤ 0 → sbvIdmapDefaultMin.toInt ≤ max.toInt)

instance (min max : GInt64) : Decidable (FitsDefaults min max) :=
  inferInstanceAs (Decidable (_ ∧ _))

/-- What the profiles file gives back under the name of a profile that is saved. -/
def reloaded {kf : GKeyFile} (self : Profiles kf) (p : SbvProfile) : Option SbvProfile :=
  (sbvProfilesLoad (self.sbvProfilesUpsert p true).2.file).find? (named (profileKey p))

section Reloaded

variable {kf : GKeyFile} {self : Profiles kf}

theorem reloaded_eq (distinct : DistinctNames self) (p : SbvProfile) :
    reloaded self p = if properlyNamed p then some (normalProfile p) else none := by
  have saved : sbvProfilesLoad (self.sbvProfilesUpsert p true).2.file =
      ((upsert profileKey p self.store).filter properlyNamed).map normalProfile :=
    load_written (nodup_upsert distinct p)
  have sameName : (fun other => decide (properlyNamed other = true ∧
      named (profileKey p) other = true)) =
        fun other => named (profileKey p) other && properlyNamed p := by
    funext other
    cases same : named (profileKey p) other with
    | false => simp
    | true =>
        have equal : profileKey other = profileKey p := of_decide_eq_true same
        simp [properlyNamed, equal]
  rw [reloaded, saved, List.find?_map, List.find?_filter]
  have normal : (named (profileKey p) ∘ normalProfile) = named (profileKey p) := rfl
  rw [normal, sameName]
  cases properlyNamed p with
  | true =>
      have found : (upsert profileKey p self.store).find? (named (profileKey p)) = some p :=
        find?_upsert p self.store
      simp only [Bool.and_true, if_true]
      rw [found]
      rfl
  | false => simp

end Reloaded

/-- A bound of the form as the hints have it. -/
theorem toInt_orDefault (value fallback : GInt64) :
    (orDefault (normalBound (spinBound value)) fallback).toInt =
      if 0 < value.toInt then value.toInt else fallback.toInt := by
  unfold spinBound
  split
  next set =>
    rw [normalBound, if_pos set.le, orDefault, if_pos set.le]
  · rw [normalBound, if_neg (by decide), orDefault, if_neg (by decide)]

theorem nonempty_iff_fitsDefaults {min max : GInt64} (accepted : badRange min max = false) :
    (orDefault (normalBound (spinBound min)) sbvIdmapDefaultMin).toInt ≤
        (orDefault (normalBound (spinBound max)) sbvIdmapDefaultMax).toInt ↔
      FitsDefaults min max := by
  simp only [badRange, Bool.and_eq_false_iff, decide_eq_false_iff_not] at accepted
  have defaults : sbvIdmapDefaultMin.toInt = 10000 ∧ sbvIdmapDefaultMax.toInt = 29999 := by decide
  rw [toInt_orDefault, toInt_orDefault, FitsDefaults, defaults.1, defaults.2]
  split
  · split
    · omega
    · omega
  · split
    · omega
    · omega

theorem badRange_of_accepted {d : Form} {requirePassword : Bool}
    (accepted : validateInputs d requirePassword = none) :
    badRange d.uidMinSpin d.uidMaxSpin = false ∧ badRange d.gidMinSpin d.gidMaxSpin = false := by
  unfold validateInputs at accepted
  split at accepted
  · cases accepted
  · split at accepted
    · cases accepted
    · split at accepted
      · cases accepted
      next fine =>
        simpa using fine

/-- The ranges of an accepted form are not empty, after a save and a load, exactly where
every bound that is set alone fits the default of the other. -/
theorem rangesNonempty_iff {kf : GKeyFile} {self : Profiles kf} (distinct : DistinctNames self)
    {d : Form} {requirePassword : Bool} (accepted : validateInputs d requirePassword = none) :
    (∀ p, reloaded self (buildProfile d) = some p →
        RangesNonempty (sbvIdmapHintsFromProfile p)) ↔
      (isGroupName (profileKey (buildProfile d)) = true →
        FitsDefaults d.uidMinSpin d.uidMaxSpin ∧ FitsDefaults d.gidMinSpin d.gidMaxSpin) := by
  obtain ⟨uid, gid⟩ := badRange_of_accepted accepted
  have ranges : RangesNonempty (sbvIdmapHintsFromProfile (normalProfile (buildProfile d))) ↔
      FitsDefaults d.uidMinSpin d.uidMaxSpin ∧ FitsDefaults d.gidMinSpin d.gidMaxSpin :=
    and_congr (nonempty_iff_fitsDefaults uid) (nonempty_iff_fitsDefaults gid)
  rw [reloaded_eq distinct, ← ranges, show isGroupName (profileKey (buildProfile d)) =
    properlyNamed (buildProfile d) from rfl]
  cases properlyNamed (buildProfile d) with
  | true => simp
  | false => simp

theorem rangesNonempty_iff_cabin :
    let d : Form :=
      { nameEntry := cstr "Cabin", hostEntry := cstr "dc1.cabin", baseDnEntry := cstr "DC=cabin"
        uidMinSpin := 20000, gidMinSpin := 12000, gidMaxSpin := 15000 }
    (∀ p, reloaded (Profiles.started noFile) (buildProfile d) = some p →
        RangesNonempty (sbvIdmapHintsFromProfile p)) ↔
      (isGroupName (profileKey (buildProfile d)) = true →
        FitsDefaults d.uidMinSpin d.uidMaxSpin ∧ FitsDefaults d.gidMinSpin d.gidMaxSpin) := by
  intro d
  exact @rangesNonempty_iff _ _ (consistent_started noFile).distinct d false (by decide)

/-- The UIDs from 50000 on, with the upper bound left at its default. -/
theorem empty_range_accepted :
    let d : Form :=
      { nameEntry := cstr "Cabin", hostEntry := cstr "dc1.cabin", baseDnEntry := cstr "DC=cabin"
        uidMinSpin := 50000 }
    validateInputs d false = none ∧
      ∃ p, reloaded (Profiles.started noFile) (buildProfile d) = some p ∧
        ¬ (sbvIdmapHintsFromProfile p).uidMin.toInt ≤
          (sbvIdmapHintsFromProfile p).uidMax.toInt := by
  intro d
  refine ⟨rfl, normalProfile (buildProfile d), ?_, by decide⟩
  rw [reloaded_eq (consistent_started noFile).distinct]
  rfl

end Sambervise.Ui.ConnectDialog
