import Sambervise.Ui.HelpedForm

namespace Sambervise.Ui.ConnectDialog

open Text Ldap Model Backend Transition

/-! The dialog's data goes with its window, whatever is still under way. -/

namespace DialogData

variable {kf : GKeyFile}

def pending (d : DialogData kf) : Nat :=
  d.discovering.toList.length + d.probing.toList.length + d.connecting.toList.length

/-- Nothing comes back to a dialog that is gone. -/
def Awaited (d : DialogData kf) : Prop := d.alive = true ∨ d.pending = 0

/-- The button saves the form and closes the dialog. -/
def Saves (d : DialogData kf) (replies : SaveReplies) : Prop :=
  d.busy = false ∧ d.editOnly = true ∧ validateInputs d.form false = none ∧
    profileKey (buildProfile d.form) ≠ [] ∧ replies.upsertWrites = true

/-- The dialog is not closed, and neither ends well, while anything else is under way. -/
def EndsAlone (d : DialogData kf) : Event → Prop
  | .closed => d.alive = true → d.pending = 0
  | .buttonClicked replies => d.alive = true → d.Saves replies → d.pending = 0
  | .connectDone none _ =>
      d.alive = true → d.connecting.isSome = true → d.discovering = none ∧ d.probing = none
  | _ => True

def Completes : Event → Prop
  | .discoverDone _ => True
  | .probeDone _ _ _ => True
  | .connectDone (some _) _ => True
  | _ => False

/-! What each handler leaves of the dialog and of what is under way -/

/-- The window and what is under way are the same. -/
structure SameLife (d next : DialogData kf) : Prop where
  alive : next.alive = d.alive
  discovering : next.discovering = d.discovering
  probing : next.probing = d.probing
  connecting : next.connecting = d.connecting

theorem SameLife.awaited_iff {d next : DialogData kf} (same : SameLife d next) :
    next.Awaited ↔ d.Awaited := by
  rw [Awaited, Awaited, pending, pending, same.alive, same.discovering, same.probing,
    same.connecting]

section Handlers

variable (d : DialogData kf)

theorem sameLife_onDiscoverDone (result : Except CString (List DcTarget)) :
    SameLife d (d.onDiscoverDone result) := by
  cases result with
  | error text => exact ⟨rfl, rfl, rfl, rfl⟩
  | ok targets => exact ⟨rfl, rfl, rfl, rfl⟩

theorem sameLife_onProbeDone (result : Except GError ProbeReply) :
    SameLife d (d.onProbeDone result) := by
  cases result with
  | error error => exact ⟨rfl, rfl, rfl, rfl⟩
  | ok reply =>
      obtain ⟨rootdse, idmap, bindError⟩ := reply
      cases idmap with
      | none => exact ⟨rfl, rfl, rfl, rfl⟩
      | some hints => exact ⟨rfl, rfl, rfl, rfl⟩

theorem sameLife_onDcRowActivated (index : Nat) : SameLife d (d.onDcRowActivated index) := by
  unfold onDcRowActivated
  split
  · exact ⟨rfl, rfl, rfl, rfl⟩
  · exact ⟨rfl, rfl, rfl, rfl⟩

theorem alive_onDiscoverClicked : d.onDiscoverClicked.alive = d.alive := by
  unfold onDiscoverClicked
  split
  · rfl
  · split
    · rfl
    · rfl

theorem alive_onProbeClicked : d.onProbeClicked.alive = d.alive := by
  unfold onProbeClicked
  split
  · rfl
  · split
    · rfl
    · rfl

theorem alive_onConnectClicked : d.onConnectClicked.alive = d.alive := by
  unfold onConnectClicked
  split
  · rfl
  · rfl

/-- A save closes the dialog if the form is accepted, has a name, and can be written. -/
theorem onSaveClicked_ends (replies : SaveReplies) :
    if validateInputs d.form false = none ∧ profileKey (buildProfile d.form) ≠ [] ∧
        replies.upsertWrites = true then
      SameLife { d with alive := false } (d.onSaveClicked replies)
    else SameLife d (d.onSaveClicked replies) := by
  unfold onSaveClicked ConnectDialog.onSaveClicked
  cases validateInputs d.form false with
  | some text =>
      rw [if_neg nofun]
      exact ⟨rfl, rfl, rfl, rfl⟩
  | none =>
      dsimp only
      by_cases unnamed : profileKey (buildProfile d.form) = []
      · rw [if_pos unnamed, if_neg fun both => both.2.1 unnamed]
        exact ⟨rfl, rfl, rfl, rfl⟩
      · rw [if_neg unnamed]
        cases writes : replies.upsertWrites with
        | false =>
            rw [if_neg fun both => Bool.false_ne_true both.2.2]
            exact ⟨rfl, rfl, rfl, rfl⟩
        | true =>
            rw [if_pos ⟨rfl, unnamed, rfl⟩]
            exact ⟨rfl, rfl, rfl, rfl⟩

end Handlers

theorem handle_settled {d : DialogData kf} (closed : d.alive = false)
    (nothing : d.pending = 0) (event : Event) : d.handle event = some d := by
  obtain ⟨both, connecting⟩ := Nat.add_eq_zero_iff.mp nothing
  obtain ⟨discovering, probing⟩ := Nat.add_eq_zero_iff.mp both
  have unset {α : Type} {asked : Option α} (none : asked.toList.length = 0) :
      asked = Option.none := by
    cases asked with
    | none => rfl
    | some value => cases none
  cases event with
  | discoverDone resolver => simp only [handle, unset discovering]
  | probeDone replies entry library => simp only [handle, unset probing]
  | connectDone failure writes => simp only [handle, unset connecting]
  | typed _ _ | domainTyped _ | portSet _ | authSet _ | tlsSet _ | ldapsSet _ | skipCertSet _
  | spinSet _ _ | dcActivated _ | discoverClicked | probeClicked | buttonClicked _ | closed =>
      simp only [handle, closed, Bool.false_eq_true, if_false]

theorem awaited_onButtonClicked_iff {d : DialogData kf} (alive : d.alive = true)
    (replies : SaveReplies) :
    (d.Saves replies → d.pending = 0) ↔ (d.onButtonClicked replies).Awaited := by
  unfold onButtonClicked Saves
  cases busy : d.busy with
  | true => exact iff_of_true nofun (.inl alive)
  | false =>
      cases mode : d.editOnly with
      | false =>
          refine iff_of_true nofun (.inl ?_)
          simp only [Bool.false_eq_true, if_false]
          exact (alive_onConnectClicked d).trans alive
      | true =>
          simp only [Bool.false_eq_true, if_false, if_true, true_and]
          have ends := onSaveClicked_ends d replies
          split at ends
          next saves =>
            rw [ends.awaited_iff]
            refine ⟨fun nothing => .inr (nothing saves), fun awaited _ => ?_⟩
            rcases awaited with alive | nothing
            · cases alive
            · exact nothing
          next kept =>
            exact iff_of_true (fun saves => absurd saves kept)
              (ends.awaited_iff.mpr (.inl alive))

theorem endsAlone_of_closed {d : DialogData kf} (closed : d.alive = false) (event : Event) :
    d.EndsAlone event := by
  have gone : ¬ d.alive = true := Bool.eq_false_iff.mp closed
  cases event with
  | closed => exact fun alive => absurd alive gone
  | buttonClicked replies => exact fun alive => absurd alive gone
  | connectDone failure writes =>
      cases failure with
      | none => exact fun alive => absurd alive gone
      | some error => trivial
  | typed _ _ | domainTyped _ | portSet _ | authSet _ | tlsSet _ | ldapsSet _ | skipCertSet _
  | spinSet _ _ | dcActivated _ | discoverClicked | probeClicked | discoverDone _
  | probeDone _ _ _ => trivial

theorem awaited_connectDone_iff {d : DialogData kf} {profile : SbvProfile}
    (asked : d.connecting = some profile) (alive : d.alive = true) (failure : Option GError)
    (writes : Bool) :
    d.EndsAlone (.connectDone failure writes) ↔
      ({ d with connecting := none }.onConnectDone failure writes).Awaited := by
  cases failure with
  | some error => exact iff_of_true trivial (.inl alive)
  | none =>
      have ended : ({ d with connecting := none }.onConnectDone none writes).Awaited ↔
          d.discovering.toList.length + d.probing.toList.length = 0 :=
        ⟨fun awaited => awaited.resolve_left Bool.false_ne_true, .inr⟩
      rw [ended, EndsAlone, asked, alive]
      cases d.discovering with
      | none => cases d.probing with
        | none => simp
        | some data => simp
      | some domain => simp

section Alive

variable {d : DialogData kf} (alive : d.alive = true)

include alive

theorem handle_act {event : Event}
    (action : d.handle event = some (if d.alive then d.act event else d)) :
    d.handle event = some (d.act event) := by
  rw [action, alive]
  rfl

theorem handle_discoverDone {domain : CString} (asked : d.discovering = some domain)
    (resolver : Resolver) : d.handle (.discoverDone resolver) =
      some ({ d with discovering := none }.onDiscoverDone (discoverThread resolver domain)) := by
  simp only [handle, asked, alive, if_true]

theorem handle_probeDone {data : ProbeData} (asked : d.probing = some data)
    (replies : ProbeReplies) (entry : Option Attributes) (library : Libldap) :
    d.handle (.probeDone replies entry library) =
      some ({ d with probing := none }.onProbeDone (probeDc replies entry library data)) := by
  simp only [handle, asked, alive, if_true]

theorem handle_connectDone {profile : SbvProfile} (asked : d.connecting = some profile)
    (failure : Option GError) (writes : Bool) :
    d.handle (.connectDone failure writes) =
      some ({ d with connecting := none }.onConnectDone failure writes) := by
  simp only [handle, asked, alive, if_true]

end Alive

theorem endsAlone_iff {d : DialogData kf} (awaited : d.Awaited) (event : Event) :
    d.EndsAlone event ↔ ∃ next, d.handle event = some next ∧ next.Awaited := by
  have result {next : DialogData kf} (outcome : d.handle event = some next) :
      (∃ next, d.handle event = some next ∧ next.Awaited) ↔ next.Awaited := by
    rw [outcome]
    simp
  cases alive : d.alive with
  | false =>
      have nothing := awaited.resolve_left (Bool.eq_false_iff.mp alive)
      rw [result (handle_settled alive nothing event)]
      exact iff_of_true (endsAlone_of_closed alive event) awaited
  | true =>
      have stays {next : DialogData kf} (outcome : d.handle event = some next)
          (same : next.alive = d.alive) : ∃ next, d.handle event = some next ∧ next.Awaited :=
        ⟨next, outcome, .inl (same.trans alive)⟩
      cases event with
      | discoverDone resolver =>
          refine iff_of_true trivial ?_
          cases asked : d.discovering with
          | none => exact stays (by simp only [handle, asked]) rfl
          | some domain =>
              exact stays (handle_discoverDone alive asked resolver)
                (sameLife_onDiscoverDone _ _).alive
      | probeDone replies entry library =>
          refine iff_of_true trivial ?_
          cases asked : d.probing with
          | none => exact stays (by simp only [handle, asked]) rfl
          | some data =>
              exact stays (handle_probeDone alive asked replies entry library)
                (sameLife_onProbeDone _ _).alive
      | connectDone failure writes =>
          cases asked : d.connecting with
          | none =>
              refine iff_of_true ?_ (stays (by simp only [handle, asked]) rfl)
              cases failure with
              | some error => trivial
              | none =>
                  intro _ something
                  rw [asked] at something
                  cases something
          | some profile =>
              rw [awaited_connectDone_iff asked alive failure writes]
              exact (result (handle_connectDone alive asked failure writes)).symm
      | closed =>
          rw [result (handle_act alive rfl)]
          constructor
          · exact fun alone => .inr (alone alive)
          · exact fun settled _ => settled.resolve_left Bool.false_ne_true
      | buttonClicked replies =>
          rw [result (handle_act alive rfl)]
          have saves := awaited_onButtonClicked_iff alive replies
          exact ⟨fun alone => saves.mp (alone alive), fun settled _ => saves.mpr settled⟩
      | dcActivated index =>
          exact iff_of_true trivial
            (stays (handle_act alive rfl) (sameLife_onDcRowActivated d index).alive)
      | discoverClicked =>
          exact iff_of_true trivial (stays (handle_act alive rfl) (alive_onDiscoverClicked d))
      | probeClicked =>
          exact iff_of_true trivial (stays (handle_act alive rfl) (alive_onProbeClicked d))
      | typed _ _ | domainTyped _ | portSet _ | authSet _ | tlsSet _ | ldapsSet _
      | skipCertSet _ | spinSet _ _ =>
          exact iff_of_true trivial (stays (handle_act alive rfl) rfl)

/-! A completion is one request less. -/

theorem handle_discoverDone_closed {d : DialogData kf} (closed : d.alive = false)
    {domain : CString} (asked : d.discovering = some domain) (resolver : Resolver) :
    d.handle (.discoverDone resolver) = none := by
  simp only [handle, asked, closed, Bool.false_eq_true, if_false]

theorem handle_probeDone_closed {d : DialogData kf} (closed : d.alive = false)
    {data : ProbeData} (asked : d.probing = some data) (replies : ProbeReplies)
    (entry : Option Attributes) (library : Libldap) :
    d.handle (.probeDone replies entry library) = none := by
  simp only [handle, asked, closed, Bool.false_eq_true, if_false]

theorem handle_connectDone_closed {d : DialogData kf} (closed : d.alive = false)
    {profile : SbvProfile} (asked : d.connecting = some profile) (failure : Option GError)
    (writes : Bool) : d.handle (.connectDone failure writes) = none := by
  simp only [handle, asked, closed, Bool.false_eq_true, if_false]

section Fewer

variable {d next : DialogData kf}

theorem fewer_discoverDone {domain : CString} (asked : d.discovering = some domain)
    {resolver : Resolver} (outcome : d.handle (.discoverDone resolver) = some next) :
    next.pending < d.pending := by
  cases alive : d.alive with
  | false =>
      rw [handle_discoverDone_closed alive asked] at outcome
      cases outcome
  | true =>
      cases (handle_discoverDone alive asked resolver).symm.trans outcome
      have same := sameLife_onDiscoverDone { d with discovering := none }
        (discoverThread resolver domain)
      rw [pending, pending, same.discovering, same.probing, same.connecting, asked]
      simp

theorem fewer_probeDone {data : ProbeData} (asked : d.probing = some data)
    {replies : ProbeReplies} {entry : Option Attributes} {library : Libldap}
    (outcome : d.handle (.probeDone replies entry library) = some next) :
    next.pending < d.pending := by
  cases alive : d.alive with
  | false =>
      rw [handle_probeDone_closed alive asked] at outcome
      cases outcome
  | true =>
      cases (handle_probeDone alive asked replies entry library).symm.trans outcome
      have same := sameLife_onProbeDone { d with probing := none }
        (probeDc replies entry library data)
      rw [pending, pending, same.discovering, same.probing, same.connecting, asked]
      simp

theorem fewer_connectDone {profile : SbvProfile} (asked : d.connecting = some profile)
    {error : GError} {writes : Bool}
    (outcome : d.handle (.connectDone (some error) writes) = some next) :
    next.pending < d.pending := by
  cases alive : d.alive with
  | false =>
      rw [handle_connectDone_closed alive asked] at outcome
      cases outcome
  | true =>
      cases (handle_connectDone alive asked (some error) writes).symm.trans outcome
      rw [pending, pending, asked]
      simp [onConnectDone]

end Fewer

theorem foreseen :
    Foreseen (@handle kf) (fun _ => True) Awaited EndsAlone Completes pending where
  keeps := fun _ _ => trivial
  exact_step := fun _ awaited => endsAlone_iff awaited _
  persists := by
    intro d event next _ outcome awaited
    cases alive : d.alive with
    | true => exact .inl alive
    | false =>
        rw [handle_closed alive outcome] at awaited
        exact awaited
  completes := by
    intro d event complete
    cases event with
    | discoverDone | probeDone => trivial
    | connectDone failure writes =>
        cases failure with
        | none => cases complete
        | some error => trivial
    | typed | domainTyped | portSet | authSet | tlsSet | ldapsSet | skipCertSet | spinSet
    | dcActivated | discoverClicked | probeClicked | buttonClicked | closed => cases complete
  settled := fun _ nothing => .inr nothing
  progress := by
    intro d _ something
    cases discovering : d.discovering with
    | some domain =>
        exact ⟨.discoverDone fun _ => .ok [], trivial, fun next => fewer_discoverDone discovering⟩
    | none =>
        cases probing : d.probing with
        | some data =>
            exact ⟨.probeDone {} none { requireCert := .demand, nextHandle := 0, unbound := [] },
              trivial, fun next => fewer_probeDone probing⟩
        | none =>
            cases connecting : d.connecting with
            | some profile =>
                exact ⟨.connectDone (some { code := .connection, text := [] }) false, trivial,
                  fun next => fewer_connectDone connecting⟩
            | none =>
                refine absurd ?_ something
                rw [pending, discovering, probing, connecting]
                rfl

/-- No completion finds the dialog's data gone, whatever is under way completes in the end,
exactly in the runs in which the dialog is neither closed nor ends well while anything else
is under way. -/
theorem completions_find_dialog_iff (opening : Opening) (profiles : Profiles kf)
    (events : List Event) :
    Along step (Wherever EndsAlone) (some (opening.dialog profiles)) events ↔
      ∀ completions, (∀ event ∈ completions, Completes event) →
        (run step (some (opening.dialog profiles)) (events ++ completions)).isSome = true := by
  refine foreseen.along_iff_completions trivial (.inl ?_) events
  cases opening with
  | new domain => rfl
  | stored profile editOnly => rfl

/-- The window manager closes the dialog while a domain is looked up. -/
example :
    run step (some ((Opening.new (some (cstr "lan"))).dialog (.started noFile)))
      [.discoverClicked, .closed, .discoverDone fun _ => .ok []] = none := rfl

end DialogData

end Sambervise.Ui.ConnectDialog
