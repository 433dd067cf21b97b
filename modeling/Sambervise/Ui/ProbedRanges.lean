import Sambervise.Ui.HelpedForm

namespace Sambervise.Ui.ConnectDialog

open Text Ldap Model Backend Transition

/-! The id ranges that a form stands for, filled in by a probe or not. -/

def Bound.fallback : Bound → GInt64
  | .uidMin => sbvIdmapDefaultMin
  | .uidMax => sbvIdmapDefaultMax
  | .gidMin => sbvIdmapDefaultMin
  | .gidMax => sbvIdmapDefaultMax

/-- The bound that the program goes by with what the form says. -/
def effective (d : Form) (bound : Bound) : GInt64 :=
  hintBound (sbvIdmapHintsFromProfile (buildProfile d)) bound

def SameRanges (first second : Form) : Prop :=
  ∀ bound, effective first bound = effective second bound

def Ranged (d : Form) : Prop :=
  ∀ bound, 0 ≤ (d.spin bound).toInt ∧ (d.spin bound).toInt ≤ 2147483647

theorem orDefault_spinBound (value fallback : GInt64) :
    orDefault (spinBound value) fallback = if 0 < value.toInt then value else fallback := by
  unfold spinBound
  split
  next set =>
    exact if_pos set.le
  · exact if_neg (by decide)

theorem effective_eq (d : Form) (bound : Bound) :
    effective d bound = if 0 < (d.spin bound).toInt then d.spin bound else bound.fallback := by
  cases bound with
  | uidMin | uidMax | gidMin | gidMax => exact orDefault_spinBound _ _

theorem effective_congr {first second : Form} {bound : Bound}
    (same : first.spin bound = second.spin bound) :
    effective first bound = effective second bound := by
  rw [effective_eq, effective_eq, same]

theorem pos_effective {d : Form} (ranged : Ranged d) (bound : Bound) :
    0 < (effective d bound).toInt ∧ (effective d bound).toInt ≤ 2147483647 := by
  rw [effective_eq]
  split
  next set =>
    exact ⟨set, (ranged bound).2⟩
  · cases bound with
    | uidMin | uidMax | gidMin | gidMax => decide

/-- What the server publishes does not move the bounds. -/
theorem hintBound_fetchIdmap (profile : SbvProfile) (entry : Option Attributes)
    (bound : Bound) :
    hintBound (fetchIdmap profile entry) bound =
      hintBound (sbvIdmapHintsFromProfile profile) bound := by
  unfold fetchIdmap
  dsimp only
  split
  · rfl
  · cases entry with
    | none => rfl
    | some entry => cases bound with
      | uidMin | uidMax | gidMin | gidMax => rfl

theorem idmap_probeDc {replies : ProbeReplies} {entry : Option Attributes}
    {library : Libldap} {data : ProbeData} {reply : ProbeReply} {hints : SbvIdmapHints}
    (answered : probeDc replies entry library data = .ok reply)
    (found : reply.idmap = some hints) :
    ∃ profile, data.bindProfile = some profile ∧ hints = fetchIdmap profile entry := by
  unfold probeDc at answered
  cases outcome : (probeThread replies data library).1 with
  | error error =>
      rw [outcome] at answered
      cases answered
  | ok result =>
      rw [outcome] at answered
      cases answered
      dsimp only at found
      split at found
      · obtain ⟨profile, bound, rfl⟩ := Option.map_eq_some_iff.mp found
        exact ⟨profile, bound, rfl⟩
      · cases found


/-! What a probe was asked with -/

variable {kf : GKeyFile}

/-- The spin buttons are within their limits, now and when the probe was started. -/
structure Limited (d : DialogData kf) : Prop where
  form : Ranged d.form
  asked : ∀ data profile, d.probing = some data → data.bindProfile = some profile →
    ∃ form, Ranged form ∧ profile = buildProfile form

theorem bindProfile_probeData {d : Form} {profile : SbvProfile}
    (bound : (probeData d).bindProfile = some profile) : profile = buildProfile d := by
  change bindProfile d = some profile at bound
  unfold bindProfile at bound
  split at bound
  · exact (Option.some.inj bound).symm
  · cases bound

theorem Limited.hints {d : DialogData kf} (limited : Limited d) {replies : ProbeReplies}
    {entry : Option Attributes} {library : Libldap} {data : ProbeData} {reply : ProbeReply}
    {hints : SbvIdmapHints} (asked : d.probing = some data)
    (answered : probeDc replies entry library data = .ok reply)
    (found : reply.idmap = some hints) (bound : Bound) :
    0 < (hintBound hints bound).toInt ∧ (hintBound hints bound).toInt ≤ 2147483647 := by
  obtain ⟨profile, bindable, rfl⟩ := idmap_probeDc answered found
  obtain ⟨form, ranged, rfl⟩ := limited.asked data profile asked bindable
  rw [hintBound_fetchIdmap]
  exact pos_effective ranged bound

theorem toInt_spinSetValue {value : GInt64} (pos : 0 < value.toInt)
    (limit : value.toInt ≤ 2147483647) : spinSetValue 0 2147483647 value = value :=
  spinSetValue_eq_self_iff.mpr ⟨pos.le, limit⟩

theorem ranged_setSpin {d : Form} (ranged : Ranged d) (value : GInt64) (bound : Bound) :
    Ranged (d.setSpin value bound) := by
  intro other
  by_cases here : other = bound
  · rw [here, spin_setSpin_self]
    have limits : (0 : GInt64).toInt = 0 ∧ (2147483647 : GInt64).toInt = 2147483647 := by decide
    unfold spinSetValue
    split
    · exact ⟨limits.1.ge, by decide⟩
    · split
      · exact ⟨by decide, limits.2.le⟩
      · omega
  · rw [spin_setSpin_of_ne d value here]
    exact ranged other

theorem spin_setDc (d : Form) (target : DcTarget) (bound : Bound) :
    (d.setDc target).spin bound = d.spin bound := by
  unfold Form.setDc
  split
  · cases bound with
    | uidMin | uidMax | gidMin | gidMax => rfl
  · cases bound with
    | uidMin | uidMax | gidMin | gidMax => rfl

theorem spin_suggestBaseDn (domain : CString) (d : Form) (bound : Bound) :
    (suggestBaseDn domain d).spin bound = d.spin bound := by
  unfold suggestBaseDn
  split
  · cases bound with
    | uidMin | uidMax | gidMin | gidMax => rfl
  · rfl

theorem ranged_aid {d : DialogData kf} {event : Event} {aided : Form} (aid : Aid d event aided)
    (ranged : Ranged d.form) : Ranged aided := by
  cases aid with
  | nothing => exact ranged
  | target target => exact fun bound => spin_setDc d.form target bound ▸ ranged bound
  | baseDn typed =>
      exact fun bound => spin_suggestBaseDn d.domainEntry d.form bound ▸ ranged bound
  | ranges asked answered found =>
      exact fillSpins_induction _ ranged fun _ value bound ranged =>
        ranged_setSpin ranged value bound

theorem ranged_edit {d : Form} (ranged : Ranged d) (event : Event) (busy : Bool) :
    Ranged (event.edit busy d) := by
  intro bound
  rcases spin_edit event busy bound with ⟨value, rfl⟩ | keeps
  · exact ranged_setSpin ranged value bound bound
  · rw [keeps]
    exact ranged bound

theorem ranged_own {d : DialogData kf} {form : Form} (ranged : Ranged form) (event : Event) :
    Ranged (d.own event form) := by
  unfold DialogData.own
  split
  · exact ranged_edit ranged event d.busy
  · exact ranged

theorem Limited.handle {d next : DialogData kf} (limited : Limited d) {event : Event}
    (outcome : d.handle event = some next) : Limited next := by
  have effect := effect_handle outcome
  obtain ⟨aided, aid, form⟩ := effect.form
  refine ⟨?_, fun data profile asked bindable => ?_⟩
  · rw [form]
    exact ranged_own (ranged_aid aid limited.form) event
  · rcases effect.probing data asked with before | ⟨_, rfl⟩
    · exact limited.asked data profile before bindable
    · exact ⟨d.form, limited.form, bindProfile_probeData bindable⟩

theorem ranged_default : Ranged {} := by
  intro bound
  cases bound with
  | uidMin | uidMax | gidMin | gidMax => exact ⟨by decide, by decide⟩

theorem limited_opening (opening : Opening) (profiles : Profiles kf) :
    Limited (opening.dialog profiles) := by
  have nothing : (opening.dialog profiles).probing = none := by
    cases opening with
    | new domain => rfl
    | stored profile editOnly => rfl
  refine ⟨?_, fun data profile asked => ?_⟩
  · cases opening with
    | new domain => exact ranged_default
    | stored profile editOnly =>
        have limits (bound : GInt64) : 0 ≤ (boundSpin bound).toInt ∧
            (boundSpin bound).toInt ≤ 2147483647 :=
          ranged_setSpin ranged_default _ .uidMin .uidMin
        intro bound
        cases bound with
        | uidMin | uidMax | gidMin | gidMax => exact limits _
  · rw [nothing] at asked
    cases asked

/-! A probe that comes back -/

section Filled

variable {form own : Form} {hints : SbvIdmapHints} (positive : ∀ bound,
  0 < (hintBound hints bound).toInt ∧ (hintBound hints bound).toInt ≤ 2147483647)

include positive

theorem spin_filled (bound : Bound) : (fillSpins hints form).spin bound =
    if form.spin bound = 0 then hintBound hints bound else form.spin bound := by
  obtain ⟨pos, limit⟩ := positive bound
  rw [spin_fillSpins, toInt_spinSetValue pos limit]
  simp [fills, pos]

theorem effective_filled (bound : Bound) : effective (fillSpins hints form) bound =
    if form.spin bound = 0 then hintBound hints bound else effective form bound := by
  rw [effective_eq, spin_filled positive]
  split
  · exact if_pos (positive bound).1
  · exact (effective_eq form bound).symm

theorem sameRanges_filled_iff (same : SameRanges form own) :
    SameRanges (fillSpins hints form) own ↔
      ∀ bound, form.spin bound = 0 → hintBound hints bound = bound.fallback := by
  refine forall_congr' fun bound => ?_
  rw [effective_filled positive, ← same bound]
  split
  next unset =>
    rw [effective_eq, unset, if_neg (by decide)]
    exact ⟨fun equal _ => equal, fun equal => equal rfl⟩
  next set =>
    exact iff_of_true rfl fun unset => absurd unset set

end Filled

/-- The probe finds no spin button at 0 that had a bound of its own, not the default, when
the probe was asked for. -/
def LeavesUnset (w : Watched kf) : Event → Prop
  | .probeDone replies entry library =>
      w.dialog.alive = true → ∀ data reply hints, w.dialog.probing = some data →
        probeDc replies entry library data = .ok reply → reply.idmap = some hints →
        ∀ bound, w.dialog.form.spin bound = 0 → hintBound hints bound = bound.fallback
  | _ => True

theorem sameRanges_own {d : DialogData kf} {first second : Form}
    (same : SameRanges first second) (event : Event) :
    SameRanges (d.own event first) (d.own event second) := by
  unfold DialogData.own
  split
  · intro bound
    rcases spin_edit event d.busy bound with ⟨value, rfl⟩ | keeps
    · exact effective_congr ((spin_setSpin_self first value bound).trans
        (spin_setSpin_self second value bound).symm)
    · rw [effective_congr (keeps first), effective_congr (keeps second)]
      exact same bound
  · exact same

theorem form_probeDone {d next : DialogData kf} {replies : ProbeReplies}
    {entry : Option Attributes} {library : Libldap} {data : ProbeData} (alive : d.alive = true)
    (asked : d.probing = some data)
    (outcome : d.handle (.probeDone replies entry library) = some next) :
    (∃ reply hints, probeDc replies entry library data = .ok reply ∧ reply.idmap = some hints ∧
        next.form = fillSpins hints d.form) ∨
      next.form = d.form ∧ ∀ reply, probeDc replies entry library data = .ok reply →
        reply.idmap = none := by
  simp only [DialogData.handle, asked, alive] at outcome
  cases outcome
  cases answered : probeDc replies entry library data with
  | error error =>
      refine .inr ⟨rfl, fun reply same => ?_⟩
      cases same
  | ok reply =>
      obtain ⟨rootdse, idmap, bindError⟩ := reply
      cases idmap with
      | none =>
          refine .inr ⟨rfl, fun reply same => ?_⟩
          cases same
          rfl
      | some hints => exact .inl ⟨_, hints, rfl, rfl, rfl⟩

/-- Only a probe fills in bounds. -/
theorem spin_aid {d : DialogData kf} {event : Event} {aided : Form} (aid : Aid d event aided)
    (other : ∀ replies entry library, event ≠ .probeDone replies entry library)
    (bound : Bound) : aided.spin bound = d.form.spin bound := by
  cases aid with
  | nothing => rfl
  | target target => exact spin_setDc _ target bound
  | baseDn typed => exact spin_suggestBaseDn _ _ bound
  | ranges asked answered found => exact absurd rfl (other _ _ _)

theorem sameRanges_other {w next : Watched kf} (same : SameRanges w.dialog.form w.own)
    {event : Event} (other : ∀ aided, Aid w.dialog event aided →
      ∀ bound, aided.spin bound = w.dialog.form.spin bound)
    (outcome : w.handle event = some next) : SameRanges next.dialog.form next.own := by
  obtain ⟨dialog, handled, rfl⟩ := Option.map_eq_some_iff.mp outcome
  obtain ⟨aided, aid, form⟩ := (effect_handle handled).form
  rw [form]
  refine sameRanges_own (fun bound => ?_) event
  rw [effective_congr (other aided aid bound)]
  exact same bound

theorem sameRanges_handle_iff {w : Watched kf} (limited : Limited w.dialog)
    (same : SameRanges w.dialog.form w.own) (event : Event) :
    LeavesUnset w event ↔
      ∀ next, w.handle event = some next → SameRanges next.dialog.form next.own := by
  cases event with
  | probeDone replies entry library =>
      constructor
      · intro leaves next outcome
        obtain ⟨dialog, handled, rfl⟩ := Option.map_eq_some_iff.mp outcome
        have own : w.dialog.own (.probeDone replies entry library) w.own = w.own := ite_self _
        dsimp only
        rw [own]
        cases alive : w.dialog.alive with
        | false =>
            rw [handle_closed alive handled]
            exact same
        | true =>
            cases asked : w.dialog.probing with
            | none =>
                simp only [DialogData.handle, asked] at handled
                cases handled
                exact same
            | some data =>
                rcases form_probeDone alive asked handled with
                  ⟨reply, hints, answered, found, form⟩ | ⟨form, _⟩
                · rw [form, sameRanges_filled_iff (limited.hints asked answered found) same]
                  exact leaves alive data reply hints asked answered found
                · rw [form]
                  exact same
      · intro kept alive data reply hints asked answered found
        have handled : ∃ dialog,
            w.dialog.handle (.probeDone replies entry library) = some dialog := by
          simp [DialogData.handle, asked, alive]
        obtain ⟨dialog, handled⟩ := handled
        have after := kept _ (Option.map_eq_some_iff.mpr ⟨dialog, handled, rfl⟩)
        have own : w.dialog.own (.probeDone replies entry library) w.own = w.own := ite_self _
        dsimp only at after
        rw [own] at after
        rcases form_probeDone alive asked handled with
          ⟨other, others, again, once, form⟩ | ⟨_, nothing⟩
        · cases answered.symm.trans again
          cases found.symm.trans once
          rw [form, sameRanges_filled_iff (limited.hints asked answered found) same] at after
          exact after
        · rw [nothing reply answered] at found
          cases found
  | typed _ _ | domainTyped _ | portSet _ | authSet _ | tlsSet _ | ldapsSet _ | skipCertSet _
  | spinSet _ _ | dcActivated _ | discoverClicked | probeClicked | buttonClicked _ | closed
  | discoverDone _ | connectDone _ _ =>
      refine iff_of_true trivial fun next outcome => sameRanges_other same ?_ outcome
      exact fun _ aid => spin_aid aid (by simp)

/-- The watched dialog with what it needs to be limited. -/
theorem limited_step {state : Option (Watched kf)} {event : Event}
    (limited : ∀ w, state = some w → Limited w.dialog) :
    ∀ w, Watched.step state event = some w → Limited w.dialog := by
  intro next reached
  cases state with
  | none => cases reached
  | some w =>
      obtain ⟨dialog, handled, rfl⟩ := Option.map_eq_some_iff.mp reached
      exact (limited w rfl).handle handled

/-- The ranges that the form stands for are those that the admin chose, at all times and in
what is saved of it, exactly in the runs in which no probe comes back to a spin button that
was set back to 0 since the probe was asked for. -/
theorem ranges_own_iff (opening : Opening) (profiles : Profiles kf) (events : List Event) :
    Along Watched.step (Wherever LeavesUnset) (some (.start (opening.dialog profiles)))
        events ↔
      Throughout Watched.step
        (fun state => ∀ w, state = some w → SameRanges w.dialog.form w.own)
        (some (.start (opening.dialog profiles))) events := by
  apply along_iff_throughout_within _ fun state => ∀ w, state = some w → Limited w.dialog
  · intro state event limited
    exact limited_step limited
  · intro state event limited same
    cases state with
    | none =>
        refine iff_of_true (fun w absent => ?_) (fun w absent => ?_)
        · exact absurd absent.symm (Option.some_ne_none w)
        · exact absurd absent.symm (Option.some_ne_none w)
    | some w =>
        have exact_step := sameRanges_handle_iff (limited w rfl) (same w rfl) event
        constructor
        · intro leaves
          exact exact_step.mp (leaves w rfl)
        · intro kept other reached
          cases reached
          exact exact_step.mpr kept
  · intro w reached
    cases reached
    exact limited_opening opening profiles
  · intro w reached
    cases reached
    exact fun _ => rfl

/-! After a probe that found id ranges -/

def AllSet (d : Form) : Prop := ∀ bound, d.spin bound ≠ 0

/-- The admin puts no spin button back to 0. -/
def KeepsSet (event : Event) : Prop :=
  ∀ bound value, event = .spinSet bound value → 0 < value.toInt

theorem spin_ne_zero_of_pos {value : GInt64} (pos : 0 < value.toInt) : value ≠ 0 := by
  intro zero
  rw [zero] at pos
  exact absurd pos (by decide)

theorem spinSetValue_ne_zero {value : GInt64} (pos : 0 < value.toInt) :
    spinSetValue 0 2147483647 value ≠ 0 := by
  unfold spinSetValue
  split
  next below =>
    exact absurd pos (by rw [show (0 : GInt64).toInt = 0 from rfl] at below; omega)
  · split
    · decide
    · exact spin_ne_zero_of_pos pos

theorem allSet_own {d : DialogData kf} {form : Form} (set : AllSet form) {event : Event}
    (keeps : KeepsSet event) : AllSet (d.own event form) := by
  unfold DialogData.own
  split
  · intro bound
    rcases spin_edit event d.busy bound with ⟨value, same⟩ | untouched
    · rw [same]
      change (form.setSpin value bound).spin bound ≠ 0
      rw [spin_setSpin_self]
      exact spinSetValue_ne_zero (keeps bound value same)
    · rw [untouched]
      exact set bound
  · exact set

theorem allSet_handle {d next : DialogData kf} (set : AllSet d.form) {event : Event}
    (keeps : KeepsSet event) (outcome : d.handle event = some next) : AllSet next.form := by
  obtain ⟨aided, aid, form⟩ := (effect_handle outcome).form
  rw [form]
  refine allSet_own (fun bound => ?_) keeps
  cases aid with
  | nothing => exact set bound
  | target target =>
      rw [spin_setDc]
      exact set bound
  | baseDn typed =>
      rw [spin_suggestBaseDn]
      exact set bound
  | ranges asked answered found =>
      rw [spin_fillSpins, if_neg]
      · exact set bound
      · rw [fills, beq_eq_false_iff_ne.mpr (set bound), Bool.and_false]
        exact Bool.false_ne_true

/-- Nothing is left for the defaults to fill in, so the check of the form is enough. -/
theorem rangesNonempty_of_allSet {d : Form} (ranged : Ranged d) (set : AllSet d)
    {requirePassword : Bool} (accepted : validateInputs d requirePassword = none) :
    RangesNonempty (sbvIdmapHintsFromProfile (buildProfile d)) := by
  have positive (bound : Bound) : 0 < (d.spin bound).toInt := by
    have nonneg := (ranged bound).1
    have nonzero : (d.spin bound).toInt ≠ 0 := fun zero =>
      set bound (BitVec.eq_of_toInt_eq zero)
    omega
  have chosen (bound : Bound) : effective d bound = d.spin bound := by
    rw [effective_eq, if_pos (positive bound)]
  obtain ⟨uid, gid⟩ := badRange_of_accepted accepted
  simp only [badRange, Bool.and_eq_false_iff, decide_eq_false_iff_not] at uid gid
  have uidMin := positive .uidMin
  have uidMax := positive .uidMax
  have gidMin := positive .gidMin
  have gidMax := positive .gidMax
  constructor
  · change (effective d .uidMin).toInt ≤ (effective d .uidMax).toInt
    rw [chosen, chosen]
    simp only [Form.spin] at *
    omega
  · change (effective d .gidMin).toInt ≤ (effective d .gidMax).toInt
    rw [chosen, chosen]
    simp only [Form.spin] at *
    omega

/-- Once a probe has found the ranges, and as long as no spin button is put back to 0, a
form that the dialog accepts stands for ranges that are not empty. -/
theorem ranges_nonempty_after_probe {opening : Opening} {profiles : Profiles kf}
    {before after : List Event} {d next : DialogData kf} {replies : ProbeReplies}
    {entry : Option Attributes} {library : Libldap} {data : ProbeData} {reply : ProbeReply}
    {requirePassword : Bool}
    (reached : run DialogData.step (some (opening.dialog profiles)) before = some d)
    (alive : d.alive = true) (asked : d.probing = some data)
    (answered : probeDc replies entry library data = .ok reply)
    (found : reply.idmap.isSome = true) (keeps : ∀ event ∈ after, KeepsSet event)
    (later : run DialogData.step (some d) (.probeDone replies entry library :: after) =
      some next)
    (accepted : validateInputs next.form requirePassword = none) :
    RangesNonempty (sbvIdmapHintsFromProfile (buildProfile next.form)) := by
  have keepsLimited (events : List Event) : ∀ event ∈ events, ∀ (d next : DialogData kf),
      Limited d → d.handle event = some next → Limited next :=
    fun _ _ _ _ limited outcome => limited.handle outcome
  have limited : Limited d :=
    run_attempt_keeps (keepsLimited before) (limited_opening opening profiles) reached
  have still : Limited next := run_attempt_keeps (keepsLimited _) limited later
  obtain ⟨hints, idmap⟩ := Option.isSome_iff_exists.mp found
  obtain ⟨between, outcome, later⟩ := run_attempt_cons _ later
  have set : AllSet between.form := by
    rcases form_probeDone alive asked outcome with
      ⟨other, others, again, once, form⟩ | ⟨_, nothing⟩
    · rw [form]
      intro bound
      rw [spin_filled (limited.hints asked again once)]
      split
      · exact spin_ne_zero_of_pos (limited.hints asked again once bound).1
      · assumption
    · rw [nothing reply answered] at idmap
      cases idmap
  refine rangesNonempty_of_allSet still.form ?_ accepted
  exact run_attempt_keeps (fun event member _ _ set outcome =>
    allSet_handle set (keeps event member) outcome) set later

/-- A name is typed after the probe, another probe comes back, and a bound is set. -/
theorem ranges_nonempty_after_probe_cabin :
    let form : Form :=
      { nameEntry := cstr "Cabin", hostEntry := cstr "dc1.cabin", baseDnEntry := cstr "DC=cabin"
        uidMinSpin := 21000, uidMaxSpin := 29999, gidMinSpin := 10000, gidMaxSpin := 29999 }
    RangesNonempty (sbvIdmapHintsFromProfile (buildProfile form)) := by
  intro form
  let asked : Form :=
    { hostEntry := cstr "dc1.cabin", baseDnEntry := cstr "DC=cabin", uidMinSpin := 20000 }
  let d : DialogData plainKeyFile :=
    { DialogData.new (.started noFile) none with
      form := asked, probeBtn := false, probing := some (probeData asked) }
  let hints := fetchIdmap (buildProfile asked) none
  let reply : ProbeReply := { rootdse := [], idmap := some hints, bindError := none }
  let library : Libldap := { requireCert := .demand, nextHandle := 0, unbound := [] }
  let again : List Event :=
    [.typed .name (cstr "Cabin"), .probeClicked, .probeDone {} none library,
      .spinSet .uidMin 21000]
  have before : run DialogData.step (some ((Opening.new none).dialog (.started noFile)))
      [ .typed .host (cstr "dc1.cabin"), .typed .baseDn (cstr "DC=cabin"),
        .spinSet .uidMin 20000, .probeClicked ] = some d := rfl
  have after : ∃ next, run DialogData.step (some d) (.probeDone {} none library :: again) =
      some next ∧ next.form = form := ⟨_, rfl, by decide⟩
  obtain ⟨next, after, filled⟩ := after
  rw [← filled]
  refine @ranges_nonempty_after_probe _ (.new none) (.started noFile) _ again d next {} none
    library (probeData asked) reply true before rfl rfl rfl rfl ?_ after ?_
  · simp [again, KeepsSet]
  · rw [filled]
    decide

end Sambervise.Ui.ConnectDialog
