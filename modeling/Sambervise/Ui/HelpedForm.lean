import Sambervise.Ui.AcceptedRanges
import Sambervise.Ui.ConnectAssist

namespace Sambervise.Ui.ConnectDialog

open Text Ldap Model Backend Transition

/-! What the dialog's help makes of a form that the admin fills in at the same time. -/

/-! The spin buttons -/

theorem spin_setSpin_self (d : Form) (value : GInt64) (bound : Bound) :
    (d.setSpin value bound).spin bound = spinSetValue 0 2147483647 value := by
  cases bound with
  | uidMin | uidMax | gidMin | gidMax => rfl

theorem spin_setSpin_of_ne (d : Form) (value : GInt64) {bound other : Bound}
    (different : other ≠ bound) : (d.setSpin value bound).spin other = d.spin other := by
  cases bound with
  | uidMin | uidMax | gidMin | gidMax =>
      cases other with
      | uidMin | uidMax | gidMin | gidMax => first | rfl | exact absurd rfl different

theorem fills_congr {hints : SbvIdmapHints} {first second : Form} {bound : Bound}
    (same : first.spin bound = second.spin bound) :
    fills hints first bound = fills hints second bound := by
  rw [fills, fills, same]

theorem spin_fillSpin (hints : SbvIdmapHints) (d : Form) (bound other : Bound) :
    (fillSpin hints d bound).spin other =
      if other = bound ∧ fills hints d bound = true then
        spinSetValue 0 2147483647 (hintBound hints bound)
      else d.spin other := by
  unfold fillSpin
  by_cases filled : fills hints d bound = true
  · rw [if_pos filled]
    by_cases here : other = bound
    · rw [if_pos ⟨here, filled⟩, here, spin_setSpin_self]
    · rw [if_neg fun both => here both.1, spin_setSpin_of_ne d _ here]
  · rw [if_neg filled, if_neg fun both => filled both.2]

theorem spin_foldl_fillSpin (hints : SbvIdmapHints) {bounds : List Bound}
    (distinct : bounds.Nodup) (d : Form) (bound : Bound) :
    (bounds.foldl (fillSpin hints) d).spin bound =
      if bound ∈ bounds ∧ fills hints d bound = true then
        spinSetValue 0 2147483647 (hintBound hints bound)
      else d.spin bound := by
  induction bounds generalizing d with
  | nil => simp
  | cons first rest ih =>
      obtain ⟨fresh, distinct⟩ := List.nodup_cons.mp distinct
      rw [List.foldl_cons, ih distinct]
      by_cases here : bound = first
      · subst here
        rw [if_neg fun both => fresh both.1, spin_fillSpin]
        simp
      · have same : (fillSpin hints d first).spin bound = d.spin bound := by
          rw [spin_fillSpin, if_neg fun both => here both.1]
        rw [same, fills_congr same]
        simp [here]

theorem spin_fillSpins (hints : SbvIdmapHints) (d : Form) (bound : Bound) :
    (fillSpins hints d).spin bound =
      if fills hints d bound = true then
        spinSetValue 0 2147483647 (hintBound hints bound)
      else d.spin bound := by
  have all : bound ∈ Bound.all := by
    cases bound with
    | uidMin | uidMax | gidMin | gidMax => decide
  rw [fillSpins, spin_foldl_fillSpin hints (by decide)]
  simp [all]

/-! The rest of the form -/

/-- The form without the fields that the dialog fills in by itself. -/
def Form.unhelped (d : Form) : Form :=
  { d with
    hostEntry := []
    portSpin := 389
    baseDnEntry := []
    uidMinSpin := 0
    uidMaxSpin := 0
    gidMinSpin := 0
    gidMaxSpin := 0 }

theorem unhelped_setSpin (d : Form) (value : GInt64) (bound : Bound) :
    (d.setSpin value bound).unhelped = d.unhelped := by
  cases bound with
  | uidMin | uidMax | gidMin | gidMax => rfl

theorem baseDnEntry_setSpin (d : Form) (value : GInt64) (bound : Bound) :
    (d.setSpin value bound).baseDnEntry = d.baseDnEntry := by
  cases bound with
  | uidMin | uidMax | gidMin | gidMax => rfl

theorem fillSpins_induction {property : Form → Prop} (hints : SbvIdmapHints) {d : Form}
    (initial : property d)
    (keeps : ∀ form value bound, property form → property (form.setSpin value bound)) :
    property (fillSpins hints d) := by
  unfold fillSpins
  generalize Bound.all = bounds
  induction bounds generalizing d with
  | nil => exact initial
  | cons bound rest ih =>
      apply ih
      unfold fillSpin
      split
      · exact keeps d _ bound initial
      · exact initial

/-! What one event does to the form -/

variable {kf : GKeyFile}

/-- The help a form may get with an event, besides what the admin edits. -/
inductive Aid (d : DialogData kf) : Event → Form → Prop
  | nothing {event : Event} : Aid d event d.form
  | target {event : Event} (target : DcTarget) : Aid d event (d.form.setDc target)
  | baseDn (typed : d.domainEntry ≠ []) :
      Aid d .discoverClicked (suggestBaseDn d.domainEntry d.form)
  | ranges {replies : ProbeReplies} {entry : Option Attributes} {library : Libldap}
      {data : ProbeData} {reply : ProbeReply} {hints : SbvIdmapHints}
      (asked : d.probing = some data) (answered : probeDc replies entry library data = .ok reply)
      (found : reply.idmap = some hints) :
      Aid d (.probeDone replies entry library) (fillSpins hints d.form)

/-- The domain that a click on Discover finds in its entry. -/
def DialogData.discovers (d : DialogData kf) : Event → List CString
  | .discoverClicked => [d.domainEntry]
  | _ => []

/-- What the admin's own part of an event makes of a form. -/
def DialogData.own (d : DialogData kf) (event : Event) (form : Form) : Form :=
  if d.alive then event.edit d.busy form else form

/-- The profiles that the end of a dialog hands on are read off its form. -/
structure Ended (d next : DialogData kf) : Prop where
  closed : next.alive = false
  form : next.form = d.form
  handedOn : next.handedOn = d.handedOn ∨
    ∃ handed, next.handedOn = d.handedOn ++ [handed] ∧
      ∀ profile ∈ handed, profile = buildProfile d.form

/-- What a step does to the form and to what is asked for with it: some help, and then
what the admin does. -/
structure Effect (d : DialogData kf) (event : Event) (edit : Form → Form)
    (next : DialogData kf) : Prop where
  form : ∃ aided, Aid d event aided ∧ next.form = edit aided
  probing : ∀ data, next.probing = some data → d.probing = some data ∨
    next.form = d.form ∧ data = probeData d.form
  ended : next.alive = d.alive ∧ next.handedOn = d.handedOn ∨ Ended d next

/-! The handlers one by one -/

section Handlers

variable (d : DialogData kf) {event : Event}

theorem effect_onDiscoverClicked : Effect d .discoverClicked id d.onDiscoverClicked := by
  unfold DialogData.onDiscoverClicked
  split
  · exact ⟨⟨_, .nothing, rfl⟩, fun _ => .inl, .inl ⟨rfl, rfl⟩⟩
  · split
    · exact ⟨⟨_, .nothing, rfl⟩, fun _ => .inl, .inl ⟨rfl, rfl⟩⟩
    next typed =>
      exact ⟨⟨_, .baseDn typed, rfl⟩, fun _ => .inl, .inl ⟨rfl, rfl⟩⟩

theorem effect_onDiscoverDone (result : Except CString (List DcTarget)) :
    Effect d event id ({ d with discovering := none }.onDiscoverDone result) := by
  cases result with
  | error text => exact ⟨⟨_, .nothing, rfl⟩, fun _ => .inl, .inl ⟨rfl, rfl⟩⟩
  | ok targets =>
      refine ⟨?_, fun _ => .inl, .inl ⟨rfl, rfl⟩⟩
      match targets with
      | [] => exact ⟨_, .nothing, rfl⟩
      | [only] => exact ⟨_, .target only, rfl⟩
      | first :: second :: rest => exact ⟨_, .nothing, rfl⟩

theorem effect_onDcRowActivated (index : Nat) : Effect d event id (d.onDcRowActivated index) := by
  unfold DialogData.onDcRowActivated
  split
  · exact ⟨⟨_, .nothing, rfl⟩, fun _ => .inl, .inl ⟨rfl, rfl⟩⟩
  · exact ⟨⟨_, .target _, rfl⟩, fun _ => .inl, .inl ⟨rfl, rfl⟩⟩

theorem effect_onProbeClicked : Effect d event id d.onProbeClicked := by
  unfold DialogData.onProbeClicked
  split
  · exact ⟨⟨_, .nothing, rfl⟩, fun _ => .inl, .inl ⟨rfl, rfl⟩⟩
  · split
    · exact ⟨⟨_, .nothing, rfl⟩, fun _ => .inl, .inl ⟨rfl, rfl⟩⟩
    · refine ⟨⟨_, .nothing, rfl⟩, ?_, .inl ⟨rfl, rfl⟩⟩
      intro data asked
      exact .inr ⟨rfl, (Option.some.inj asked).symm⟩

theorem probing_onProbeDone (result : Except GError ProbeReply) :
    (d.onProbeDone result).probing = d.probing := by
  cases result with
  | error error => rfl
  | ok reply =>
      obtain ⟨rootdse, idmap, bindError⟩ := reply
      cases idmap with
      | none => rfl
      | some hints => rfl

theorem effect_onProbeDone {d : DialogData kf} {data : ProbeData}
    (asked : d.probing = some data) (replies : ProbeReplies) (entry : Option Attributes)
    (library : Libldap) :
    Effect d (.probeDone replies entry library) id
      ({ d with probing := none }.onProbeDone (probeDc replies entry library data)) := by
  have nothing := probing_onProbeDone { d with probing := none }
    (probeDc replies entry library data)
  refine ⟨?_, fun data again => ?_, ?_⟩
  · cases answered : probeDc replies entry library data with
    | error error => exact ⟨_, .nothing, rfl⟩
    | ok reply =>
        obtain ⟨rootdse, idmap, bindError⟩ := reply
        cases idmap with
        | none => exact ⟨_, .nothing, rfl⟩
        | some hints => exact ⟨_, .ranges asked answered rfl, rfl⟩
  · rw [nothing] at again
    cases again
  · cases probeDc replies entry library data with
    | error error => exact .inl ⟨rfl, rfl⟩
    | ok reply =>
        obtain ⟨rootdse, idmap, bindError⟩ := reply
        cases idmap with
        | none => exact .inl ⟨rfl, rfl⟩
        | some hints => exact .inl ⟨rfl, rfl⟩

theorem saved_onSaveClicked {originalName : Option CString} {replies : SaveReplies}
    {form : Form} {self : Profiles kf} {profile : SbvProfile}
    (saved : (onSaveClicked originalName replies form self).1 = .ok profile) :
    profile = buildProfile form := by
  unfold onSaveClicked at saved
  split at saved
  · cases saved
  · dsimp only at saved
    split at saved
    · cases saved
    · dsimp only at saved
      split at saved
      · exact (Except.ok.inj saved).symm
      · cases saved

theorem effect_onButtonClicked (replies : SaveReplies) :
    Effect d event id (d.onButtonClicked replies) := by
  unfold DialogData.onButtonClicked
  split
  · exact ⟨⟨_, .nothing, rfl⟩, fun _ => .inl, .inl ⟨rfl, rfl⟩⟩
  · split
    · unfold DialogData.onSaveClicked
      have built := @saved_onSaveClicked _ d.originalName replies d.form d.profiles
      generalize ConnectDialog.onSaveClicked d.originalName replies d.form d.profiles = result
        at built
      obtain ⟨saved, profiles⟩ := result
      match saved with
      | .error (.label text) =>
          exact ⟨⟨_, .nothing, rfl⟩, fun _ => .inl, .inl ⟨rfl, rfl⟩⟩
      | .error .file => exact ⟨⟨_, .nothing, rfl⟩, fun _ => .inl, .inl ⟨rfl, rfl⟩⟩
      | .ok profile =>
          refine ⟨⟨_, .nothing, rfl⟩, fun _ => .inl, .inr ⟨rfl, rfl, .inr ⟨_, rfl, ?_⟩⟩⟩
          intro handed member
          cases member
          exact built rfl
    · unfold DialogData.onConnectClicked
      split
      · exact ⟨⟨_, .nothing, rfl⟩, fun _ => .inl, .inl ⟨rfl, rfl⟩⟩
      · exact ⟨⟨_, .nothing, rfl⟩, fun _ => .inl, .inl ⟨rfl, rfl⟩⟩

theorem effect_onConnectDone (failure : Option GError) (writes : Bool) :
    Effect d event id ({ d with connecting := none }.onConnectDone failure writes) := by
  cases failure with
  | some error => exact ⟨⟨_, .nothing, rfl⟩, fun _ => .inl, .inl ⟨rfl, rfl⟩⟩
  | none =>
      refine ⟨⟨_, .nothing, rfl⟩, fun _ => .inl, .inr ⟨rfl, rfl, .inr ⟨_, rfl, ?_⟩⟩⟩
      intro profile handed
      exact (onConnectDone_eq_some_iff.mp handed).2.2.symm

end Handlers

theorem Effect.idle (d : DialogData kf) (event : Event) : Effect d event id d :=
  ⟨⟨_, .nothing, rfl⟩, fun _ => .inl, .inl ⟨rfl, rfl⟩⟩

theorem effect_act (d : DialogData kf) (event : Event) :
    Effect d event (fun form => event.edit d.busy form) (d.act event) := by
  cases event with
  | dcActivated index => exact effect_onDcRowActivated d index
  | discoverClicked => exact effect_onDiscoverClicked d
  | probeClicked => exact effect_onProbeClicked d
  | buttonClicked replies => exact effect_onButtonClicked d replies
  | closed => exact ⟨⟨_, .nothing, rfl⟩, fun _ => .inl, .inr ⟨rfl, rfl, .inl rfl⟩⟩
  | domainTyped text => exact ⟨⟨_, .nothing, rfl⟩, fun _ => .inl, .inl ⟨rfl, rfl⟩⟩
  | typed _ _ | portSet _ | authSet _ | tlsSet _ | ldapsSet _ | skipCertSet _ | spinSet _ _
  | discoverDone _ | probeDone _ _ _ | connectDone _ _ =>
      exact ⟨⟨_, .nothing, rfl⟩, fun _ => .inl, .inl ⟨rfl, rfl⟩⟩

theorem effect_acted (d : DialogData kf) (event : Event) :
    Effect d event (d.own event) (if d.alive then d.act event else d) := by
  unfold DialogData.own
  cases d.alive with
  | true => exact effect_act d event
  | false => exact .idle d event

theorem effect_handle {d next : DialogData kf} {event : Event}
    (outcome : d.handle event = some next) : Effect d event (d.own event) next := by
  have quiet {other : DialogData kf} (effect : Effect d event id other)
      (done : ∀ busy form, event.edit busy form = form) : Effect d event (d.own event) other := by
    have same : d.own event = id := by
      funext form
      unfold DialogData.own
      split
      · exact done _ form
      · rfl
    rw [same]
    exact effect
  cases event with
  | discoverDone resolver =>
      simp only [DialogData.handle] at outcome
      split at outcome
      · cases outcome
        exact quiet (.idle d _) fun _ _ => rfl
      · split at outcome
        · cases outcome
          exact quiet (effect_onDiscoverDone d _) fun _ _ => rfl
        · cases outcome
  | probeDone replies entry library =>
      simp only [DialogData.handle] at outcome
      split at outcome
      · cases outcome
        exact quiet (.idle d _) fun _ _ => rfl
      next data asked =>
        split at outcome
        · cases outcome
          exact quiet (effect_onProbeDone asked replies entry library) fun _ _ => rfl
        · cases outcome
  | connectDone failure writes =>
      simp only [DialogData.handle] at outcome
      split at outcome
      · cases outcome
        exact quiet (.idle d _) fun _ _ => rfl
      · split at outcome
        · cases outcome
          exact quiet (effect_onConnectDone d failure writes) fun _ _ => rfl
        · cases outcome
  | typed _ _ | domainTyped _ | portSet _ | authSet _ | tlsSet _ | ldapsSet _ | skipCertSet _
  | spinSet _ _ | dcActivated _ | discoverClicked | probeClicked | buttonClicked _ | closed =>
      have done := Option.some.inj outcome
      subst done
      exact effect_acted d _

/-! What the admin edits -/

theorem keeps_onLdapsToggled {α : Type} {field : Form → α}
    (free : ∀ (d : Form) port, field { d with portSpin := port } = field d) (d : Form) :
    field (onLdapsToggled d) = field d := by
  unfold onLdapsToggled
  split
  · split
    · exact free d 636
    · rfl
  · split
    · exact free d 389
    · rfl

theorem keeps_setUseLdaps {α : Type} {field : Form → α}
    (free : ∀ (d : Form) port, field { d with portSpin := port } = field d)
    (unchecked : ∀ (d : Form) active, field { d with useLdapsCheck := active } = field d)
    (active : Bool) (d : Form) :
    field (setUseLdaps (some onLdapsToggled) active d) = field d := by
  unfold setUseLdaps
  split
  · rfl
  · exact (keeps_onLdapsToggled free _).trans (unchecked d active)

theorem spin_edit (event : Event) (busy : Bool) (bound : Bound) :
    (∃ value, event = .spinSet bound value) ∨
      ∀ d, (event.edit busy d).spin bound = d.spin bound := by
  cases event with
  | spinSet other value =>
      by_cases here : bound = other
      · subst here
        exact .inl ⟨value, rfl⟩
      · exact .inr fun d => spin_setSpin_of_ne d value here
  | typed entry text =>
      refine .inr fun d => ?_
      unfold Event.edit
      dsimp only
      split
      · rfl
      · cases entry with
        | name | host | baseDn | bindDn | password => cases bound with
          | uidMin | uidMax | gidMin | gidMax => rfl
  | portSet port =>
      refine .inr fun d => ?_
      unfold Event.edit
      dsimp only
      split
      · rfl
      · cases bound with
        | uidMin | uidMax | gidMin | gidMax => rfl
  | ldapsSet active =>
      refine .inr (@keeps_setUseLdaps _ (Form.spin · bound) (fun d port => ?_)
        (fun d active => ?_) active)
      · cases bound with
        | uidMin | uidMax | gidMin | gidMax => rfl
      · cases bound with
        | uidMin | uidMax | gidMin | gidMax => rfl
  | authSet _ | tlsSet _ | skipCertSet _ =>
      refine .inr fun d => ?_
      cases bound with
      | uidMin | uidMax | gidMin | gidMax => rfl
  | domainTyped _ | dcActivated _ | discoverClicked | probeClicked | buttonClicked _ | closed
  | discoverDone _ | probeDone _ _ _ | connectDone _ _ => exact .inr fun d => rfl

theorem baseDnEntry_edit (event : Event) (busy : Bool) :
    (∃ text, ∀ d, (event.edit busy d).baseDnEntry = text) ∨
      ∀ d, (event.edit busy d).baseDnEntry = d.baseDnEntry := by
  cases event with
  | typed entry text =>
      cases entry with
      | baseDn => exact .inl ⟨text, fun d => by simp [Event.edit, Form.setText]⟩
      | name | bindDn | password => exact .inr fun d => by simp [Event.edit, Form.setText]
      | host =>
          refine .inr fun d => ?_
          unfold Event.edit
          dsimp only
          split
          · rfl
          · rfl
  | spinSet bound value => exact .inr fun d => baseDnEntry_setSpin d value bound
  | portSet port =>
      refine .inr fun d => ?_
      unfold Event.edit
      dsimp only
      split
      · rfl
      · rfl
  | ldapsSet active => exact .inr (keeps_setUseLdaps (fun _ _ => rfl) (fun _ _ => rfl) active)
  | authSet _ | tlsSet _ | skipCertSet _ | domainTyped _ | dcActivated _ | discoverClicked
  | probeClicked | buttonClicked _ | closed | discoverDone _ | probeDone _ _ _
  | connectDone _ _ => exact .inr fun d => rfl

/-- An edit of the fields the dialog never fills in does not look at the others. -/
theorem unhelped_edit (event : Event) (busy : Bool) (d : Form) :
    (event.edit busy d).unhelped = (event.edit busy d.unhelped).unhelped := by
  cases event with
  | typed entry text =>
      unfold Event.edit
      dsimp only
      split
      · rfl
      · cases entry with
        | name | host | baseDn | bindDn | password => rfl
  | portSet port =>
      unfold Event.edit
      dsimp only
      split
      · rfl
      · rfl
  | ldapsSet active =>
      unfold Event.edit setUseLdaps
      dsimp only
      by_cases same : d.useLdapsCheck = active
      · rw [if_pos same, if_pos (show d.unhelped.useLdapsCheck = active from same)]
        rfl
      · have toggled := @keeps_onLdapsToggled _ Form.unhelped (fun _ _ => rfl)
        rw [if_neg same, if_neg (show ¬ d.unhelped.useLdapsCheck = active from same)]
        exact (toggled { d with useLdapsCheck := active }).trans
          (toggled { d.unhelped with useLdapsCheck := active }).symm
  | spinSet bound value =>
      exact (unhelped_setSpin d value bound).trans (unhelped_setSpin d.unhelped value bound).symm
  | authSet _ | tlsSet _ | skipCertSet _ | domainTyped _ | dcActivated _ | discoverClicked
  | probeClicked | buttonClicked _ | closed | discoverDone _ | probeDone _ _ _
  | connectDone _ _ => rfl

/-! The form beside that of an admin without help -/

/-- The two forms are the same but for the host and the port, for a base DN that is
empty in the admin's own form, and comes from one of the domains then, and for bounds that
are 0 there. -/
structure Helped (domains : List CString) (own form : Form) : Prop where
  rest : form.unhelped = own.unhelped
  baseDn : own.baseDnEntry ≠ [] → form.baseDnEntry = own.baseDnEntry
  suggested : own.baseDnEntry = [] → form.baseDnEntry ≠ [] →
    ∃ domain ∈ domains, domainToBaseDn (some domain) = some form.baseDnEntry
  spins : ∀ bound, own.spin bound ≠ 0 → form.spin bound = own.spin bound

namespace Helped

variable {domains : List CString} {own form : Form}

theorem refl (domains : List CString) (form : Form) : Helped domains form form :=
  ⟨rfl, fun _ => rfl, fun empty filled => absurd empty filled, fun _ _ => rfl⟩

theorem later (helped : Helped domains own form) (more : List CString) :
    Helped (domains ++ more) own form := by
  refine ⟨helped.rest, helped.baseDn, fun empty filled => ?_, helped.spins⟩
  obtain ⟨domain, member, derived⟩ := helped.suggested empty filled
  exact ⟨domain, List.mem_append_left _ member, derived⟩

theorem setDc (helped : Helped domains own form) (target : DcTarget) :
    Helped domains own (form.setDc target) := by
  unfold Form.setDc
  split
  · exact ⟨helped.rest, helped.baseDn, helped.suggested, helped.spins⟩
  · refine ⟨helped.rest, helped.baseDn, helped.suggested, fun bound set => ?_⟩
    rw [← helped.spins bound set]
    cases bound with
    | uidMin | uidMax | gidMin | gidMax => rfl

theorem suggestBaseDn (helped : Helped domains own form) {domain : CString}
    (member : domain ∈ domains) (typed : domain ≠ []) :
    Helped domains own (suggestBaseDn domain form) := by
  unfold ConnectDialog.suggestBaseDn
  split
  next empty =>
    have unset : own.baseDnEntry = [] := by
      by_contra set
      exact set ((helped.baseDn set).symm.trans empty)
    refine ⟨helped.rest, fun set => absurd unset set, fun _ _ => ⟨domain, member, ?_⟩, ?_⟩
    · simp [domainToBaseDn, typed]
    · intro bound set
      rw [← helped.spins bound set]
      cases bound with
      | uidMin | uidMax | gidMin | gidMax => rfl
  · exact helped

theorem fillSpins (helped : Helped domains own form) (hints : SbvIdmapHints) :
    Helped domains own (fillSpins hints form) := by
  have rest := @fillSpins_induction (fun d => d.unhelped = own.unhelped) hints form
    helped.rest fun d value bound same => (unhelped_setSpin d value bound).trans same
  have baseDn := @fillSpins_induction (fun d => d.baseDnEntry = form.baseDnEntry) hints form
    rfl fun d value bound same => (baseDnEntry_setSpin d value bound).trans same
  refine ⟨rest, fun set => baseDn.trans (helped.baseDn set), ?_, ?_⟩
  · rw [baseDn]
    exact helped.suggested
  · intro bound set
    have kept := helped.spins bound set
    have left : fills hints form bound = false := by
      rw [fills, kept, beq_eq_false_iff_ne.mpr set, Bool.and_false]
    rw [spin_fillSpins, left, kept]
    rfl

theorem aid (helped : Helped domains own form) {d : DialogData kf} (same : d.form = form)
    {event : Event} {aided : Form} (aid : Aid d event aided) :
    Helped (domains ++ d.discovers event) own aided := by
  subst same
  have helped := helped.later (d.discovers event)
  cases aid with
  | nothing => exact helped
  | target target => exact helped.setDc target
  | baseDn typed =>
      exact helped.suggestBaseDn (List.mem_append_right _ List.mem_cons_self) typed
  | ranges asked answered found => exact helped.fillSpins _

theorem edit (helped : Helped domains own form) (event : Event) (busy : Bool) :
    Helped domains (event.edit busy own) (event.edit busy form) := by
  have rest : (event.edit busy form).unhelped = (event.edit busy own).unhelped := by
    rw [unhelped_edit event busy form, helped.rest, ← unhelped_edit event busy own]
  have spins (bound : Bound) (set : (event.edit busy own).spin bound ≠ 0) :
      (event.edit busy form).spin bound = (event.edit busy own).spin bound := by
    rcases spin_edit event busy bound with ⟨value, rfl⟩ | keeps
    · exact (spin_setSpin_self form value bound).trans (spin_setSpin_self own value bound).symm
    · have before : own.spin bound ≠ 0 := fun unset => set ((keeps own).trans unset)
      exact (keeps form).trans ((helped.spins bound before).trans (keeps own).symm)
  rcases baseDnEntry_edit event busy with ⟨text, sets⟩ | keeps
  · have same := (sets form).trans (sets own).symm
    refine ⟨rest, fun _ => same, fun empty filled => ?_, spins⟩
    exact absurd (same.trans empty) filled
  · refine ⟨rest, ?_, ?_, spins⟩
    · rw [keeps own, keeps form]
      exact helped.baseDn
    · rw [keeps own, keeps form]
      exact helped.suggested

end Helped

/-! Whole runs, with what the admin alone would have made of the form -/

structure Watched (kf : GKeyFile) where
  dialog : DialogData kf
  own : Form
  /-- The domains that were in the entry when Discover was clicked. -/
  domains : List CString

/-- How the dialog comes up. -/
inductive Opening where
  | new (domain : Option CString)
  | stored (profile : SbvProfile) (editOnly : Bool)

def Opening.dialog (profiles : Profiles kf) : Opening → DialogData kf
  | .new domain => .new profiles domain
  | .stored profile editOnly => .opened profiles profile editOnly

namespace Watched

def start (d : DialogData kf) : Watched kf := { dialog := d, own := d.form, domains := [] }

def handle (w : Watched kf) (event : Event) : Option (Watched kf) :=
  (w.dialog.handle event).map fun next =>
    { dialog := next
      own := w.dialog.own event w.own
      domains := if w.dialog.alive then w.domains ++ w.dialog.discovers event else w.domains }

def step : Option (Watched kf) → Event → Option (Watched kf) := attempt handle

theorem map_dialog_run (state : Option (Watched kf)) (events : List Event) :
    (run step state events).map dialog = run DialogData.step (state.map dialog) events := by
  induction events generalizing state with
  | nil => rfl
  | cons event rest ih =>
      rw [run_cons, run_cons, ih]
      congr 1
      cases state with
      | none => rfl
      | some w =>
          change ((w.dialog.handle event).map _).map dialog = w.dialog.handle event
          rw [Option.map_map]
          exact Option.map_id'

end Watched

theorem handle_closed {d next : DialogData kf} {event : Event} (closed : d.alive = false)
    (outcome : d.handle event = some next) : next = d := by
  cases event with
  | discoverDone resolver =>
      simp only [DialogData.handle, closed] at outcome
      split at outcome
      · exact (Option.some.inj outcome).symm
      · cases outcome
  | probeDone replies entry library =>
      simp only [DialogData.handle, closed] at outcome
      split at outcome
      · exact (Option.some.inj outcome).symm
      · cases outcome
  | connectDone failure writes =>
      simp only [DialogData.handle, closed] at outcome
      split at outcome
      · exact (Option.some.inj outcome).symm
      · cases outcome
  | typed _ _ | domainTyped _ | portSet _ | authSet _ | tlsSet _ | ldapsSet _ | skipCertSet _
  | spinSet _ _ | dcActivated _ | discoverClicked | probeClicked | buttonClicked _ | closed =>
      simp only [DialogData.handle, closed] at outcome
      exact (Option.some.inj outcome).symm

/-- The form is the admin's own but for the help, and so is what was handed on. -/
structure Assisted (w : Watched kf) : Prop where
  helped : Helped w.domains w.own w.dialog.form
  waiting : w.dialog.alive = true → w.dialog.handedOn = []
  once : w.dialog.handedOn.length ≤ 1
  handedOn : ∀ handed ∈ w.dialog.handedOn, ∀ profile ∈ handed,
    profile = buildProfile w.dialog.form

theorem Opening.handedOn (opening : Opening) (profiles : Profiles kf) :
    (opening.dialog profiles).handedOn = [] := by
  cases opening with
  | new domain => rfl
  | stored profile editOnly => rfl

theorem Assisted.of_nothing {w : Watched kf} (helped : Helped w.domains w.own w.dialog.form)
    (nothing : w.dialog.handedOn = []) : Assisted w where
  helped := helped
  waiting := fun _ => nothing
  once := by
    rw [nothing]
    exact Nat.zero_le 1
  handedOn := by
    rw [nothing]
    exact fun _ member => absurd member List.not_mem_nil

theorem assisted_start (opening : Opening) (profiles : Profiles kf) :
    Assisted (.start (opening.dialog profiles)) :=
  .of_nothing (.refl [] _) (opening.handedOn profiles)

theorem Assisted.handle {w next : Watched kf} (assisted : Assisted w) {event : Event}
    (outcome : w.handle event = some next) : Assisted next := by
  obtain ⟨dialog, handled, rfl⟩ := Option.map_eq_some_iff.mp outcome
  cases alive : w.dialog.alive with
  | false =>
      have same := handle_closed alive handled
      subst same
      have own : w.dialog.own event w.own = w.own := by
        simp [DialogData.own, alive]
      rw [own, if_neg Bool.false_ne_true]
      exact assisted
  | true =>
      have effect := effect_handle handled
      have nothing := assisted.waiting alive
      obtain ⟨aided, aid, form⟩ := effect.form
      rw [if_pos rfl]
      have helped : Helped (w.domains ++ w.dialog.discovers event) (w.dialog.own event w.own)
          dialog.form := by
        rw [form]
        unfold DialogData.own
        rw [alive]
        exact (assisted.helped.aid rfl aid).edit event w.dialog.busy
      rcases effect.ended with ⟨_, still⟩ | ended
      · exact .of_nothing helped (still.trans nothing)
      · rcases ended.handedOn with still | ⟨handed, added, built⟩
        · exact .of_nothing helped (still.trans nothing)
        · rw [nothing, List.nil_append] at added
          refine ⟨helped, fun open' => ?_, ?_, ?_⟩
          · rw [ended.closed] at open'
            cases open'
          · rw [added]
            exact Nat.le_refl 1
          · rw [added, ended.form]
            intro other member
            rw [List.mem_singleton.mp member]
            exact built

/-- Whatever is discovered and probed meanwhile, and whenever it completes: the help never
changes a base DN or a bound that the admin set, and what the dialog hands on, once at most,
is what its form then says. -/
theorem form_assisted (opening : Opening) (profiles : Profiles kf) (events : List Event) :
    (run Watched.step (some (.start (opening.dialog profiles))) events).map Watched.dialog =
        run DialogData.step (some (opening.dialog profiles)) events ∧
      Throughout Watched.step (fun state => ∀ w, state = some w → Assisted w)
        (some (.start (opening.dialog profiles))) events := by
  refine ⟨Watched.map_dialog_run _ events, throughout_of_step _ ?_ events ?_⟩
  · intro state event assisted w reached
    cases state with
    | none => cases reached
    | some before => exact (assisted before rfl).handle reached
  · intro w same
    cases same
    exact assisted_start opening profiles

end Sambervise.Ui.ConnectDialog
