import Sambervise.Ui.ConnectDialog

namespace Sambervise.Ui.ConnectDialog

open Text Model Backend

/-! A profile that is opened in the edit dialog and read off its form again -/

/-- A spin button holds what is between its limits. -/
def spinSetValue {w : Nat} (lower upper value : BitVec w) : BitVec w :=
  if value.toInt < lower.toInt then lower else if upper.toInt < value.toInt then upper else value

def onLdapsToggled (d : Form) : Form :=
  if d.useLdapsCheck then
    if d.portSpin = 389 then { d with portSpin := 636 } else d
  else
    if d.portSpin = 636 then { d with portSpin := 389 } else d

/-- A change of the check runs the handler that is connected by then, if one is. -/
def setUseLdaps (toggled : Option (Form → Form)) (active : Bool) (d : Form) : Form :=
  if d.useLdapsCheck = active then d
  else toggled.getD id { d with useLdapsCheck := active }

def boundSpin (bound : GInt64) : GInt64 :=
  spinSetValue 0 2147483647 (if 0 < bound.toInt then bound else 0)

/-- Texts that are NULL leave their empty entry alone. -/
def populate (p : SbvProfile) : Form :=
  let d : Form :=
    { nameEntry := orEmpty p.name
      hostEntry := orEmpty p.host
      portSpin := spinSetValue 1 65535 p.port
      baseDnEntry := orEmpty p.baseDn }
  let d :=
    match p.authType with
    | .simple => { d with simpleRadio := true, bindDnEntry := orEmpty p.bindDn }
    | .kerberos => d
  -- `on_ldaps_toggled` is connected only after this.
  let d := setUseLdaps none p.useLdaps { d with useTlsCheck := p.useTls }
  { d with
    skipCertCheck := p.skipCert
    uidMinSpin := boundSpin p.uidMin
    uidMaxSpin := boundSpin p.uidMax
    gidMinSpin := boundSpin p.gidMin
    gidMaxSpin := boundSpin p.gidMax }

/-- With NULL texts taken as empty. -/
def withTexts (p : SbvProfile) : SbvProfile :=
  { p with
    name := some (orEmpty p.name)
    host := some (orEmpty p.host)
    baseDn := some (orEmpty p.baseDn)
    bindDn := some (orEmpty p.bindDn) }

def SameUpToNull (first second : SbvProfile) : Prop := withTexts first = withTexts second

instance (first second : SbvProfile) : Decidable (SameUpToNull first second) :=
  inferInstanceAs (Decidable (_ = _))

/-- What the dialog can show of a profile is all there is of it. -/
structure Shown (p : SbvProfile) : Prop where
  bindDn : p.authType = .kerberos → orEmpty p.bindDn = []
  port : 1 ≤ p.port.toInt ∧ p.port.toInt ≤ 65535
  bounds : ∀ bound ∈ bounds p, bound.2 = -1 ∨ 0 < bound.2.toInt ∧ bound.2.toInt ≤ 2147483647

theorem spinSetValue_eq_self_iff {w : Nat} {lower upper value : BitVec w} :
    spinSetValue lower upper value = value ↔
      lower.toInt ≤ value.toInt ∧ value.toInt ≤ upper.toInt := by
  unfold spinSetValue
  split
  next below =>
    refine iff_of_false (fun same => ?_) (fun both => by omega)
    rw [same] at below
    exact below.false
  · split
    next above =>
      refine iff_of_false (fun same => ?_) (fun both => by omega)
      rw [same] at above
      exact above.false
    · exact iff_of_true rfl (by omega)

theorem spinBound_boundSpin_iff (bound : GInt64) :
    spinBound (boundSpin bound) = bound ↔
      bound = -1 ∨ 0 < bound.toInt ∧ bound.toInt ≤ 2147483647 := by
  have limits : (0 : GInt64).toInt = 0 ∧ (2147483647 : GInt64).toInt = 2147483647 := by decide
  unfold boundSpin
  by_cases set : 0 < bound.toInt
  · have notUnset : bound ≠ -1 := by
      intro unset
      rw [unset] at set
      exact absurd set (by decide)
    rw [if_pos set]
    have shown : 0 < (spinSetValue 0 2147483647 bound).toInt := by
      unfold spinSetValue
      split
      · omega
      · split
        · omega
        · exact set
    rw [spinBound, if_pos shown, spinSetValue_eq_self_iff]
    simp only [notUnset, false_or]
    omega
  · rw [if_neg set, show spinBound (spinSetValue 0 2147483647 (0 : GInt64)) = -1 by decide]
    constructor
    · exact fun same => .inl same.symm
    · intro either
      rcases either with unset | both
      · exact unset.symm
      · exact absurd both.1 set

theorem setUseLdaps_unconnected (active : Bool) (d : Form) :
    setUseLdaps none active d = { d with useLdapsCheck := active } := by
  unfold setUseLdaps
  split
  next same =>
    rw [← same]
  · rfl

-- Connected any earlier, the handler would move a profile with LDAPS on port 389.
example :
    (setUseLdaps (some onLdapsToggled) true
      { nameEntry := cstr "Byre", hostEntry := cstr "dc1.byre", baseDnEntry := cstr "DC=byre"
        portSpin := 389 }).portSpin = 636 := by decide

/-- What an untouched dialog makes of a profile. -/
theorem buildProfile_populate (p : SbvProfile) :
    withTexts (buildProfile (populate p)) =
      { withTexts p with
        port := spinSetValue 1 65535 p.port
        bindDn := some (if p.authType = .simple then orEmpty p.bindDn else [])
        uidMin := spinBound (boundSpin p.uidMin)
        uidMax := spinBound (boundSpin p.uidMax)
        gidMin := spinBound (boundSpin p.gidMin)
        gidMax := spinBound (boundSpin p.gidMax) } := by
  have name : orEmpty (if orEmpty p.name = [] then none else some (orEmpty p.name)) =
      orEmpty p.name := by
    split
    next empty =>
      exact empty.symm
    · rfl
  unfold populate
  simp only [setUseLdaps_unconnected]
  cases auth : p.authType with
  | simple => simpa [withTexts, buildProfile, orEmpty, auth] using name
  | kerberos => simpa [withTexts, buildProfile, orEmpty, auth] using name

/-- An untouched edit dialog gives back the profile it was opened with exactly where all
there is of it can be shown: a bind DN with simple authentication only, and numbers within
the limits of the spin buttons. -/
theorem sameUpToNull_iff (p : SbvProfile) :
    SameUpToNull (buildProfile (populate p)) p ↔ Shown p := by
  have limits : (1 : GInt).toInt = 1 ∧ (65535 : GInt).toInt = 65535 := by decide
  have port : spinSetValue 1 65535 p.port = p.port ↔
      1 ≤ p.port.toInt ∧ p.port.toInt ≤ 65535 := by
    rw [spinSetValue_eq_self_iff, limits.1, limits.2]
  have bindDn : (if p.authType = .simple then orEmpty p.bindDn else []) = orEmpty p.bindDn ↔
      (p.authType = .kerberos → orEmpty p.bindDn = []) := by
    cases p.authType with
    | simple => simp
    | kerberos =>
        rw [if_neg nofun, forall_prop_of_true rfl]
        exact eq_comm
  rw [SameUpToNull, buildProfile_populate]
  simp only [withTexts, SbvProfile.mk.injEq, Option.some.injEq, true_and, port, bindDn,
    spinBound_boundSpin_iff]
  constructor
  · intro same
    obtain ⟨inRange, simple, uidMin, uidMax, gidMin, gidMax⟩ := same
    refine { bindDn := simple, port := inRange, bounds := ?_ }
    simp only [Backend.bounds, List.forall_mem_cons, List.not_mem_nil, false_imp_iff,
      implies_true, and_true]
    exact ⟨uidMin, uidMax, gidMin, gidMax⟩
  · intro shown
    have bounds := shown.bounds
    simp only [Backend.bounds, List.forall_mem_cons, List.not_mem_nil, false_imp_iff,
      implies_true, and_true] at bounds
    exact ⟨shown.port, shown.bindDn, bounds⟩

/-- A Kerberos profile with a bind DN in the file comes back without it. -/
theorem bindDn_dropped :
    let barn : SbvProfile := { name := some (cstr "Barn"), bindDn := some (cstr "CN=admin") }
    let found : Contents plainKeyFile :=
      { groups := [savedGroup plainKeyFile (cstr "Barn") barn], parses := true
        wellFormed := fun _ => { distinct := by decide, proper := by decide } }
    ∃ p ∈ sbvProfilesLoad found, ¬ SameUpToNull (buildProfile (populate p)) p := by
  intro barn found
  exact ⟨profileOf (savedGroup plainKeyFile (cstr "Barn") barn), List.mem_cons_self, by decide⟩

end Sambervise.Ui.ConnectDialog
