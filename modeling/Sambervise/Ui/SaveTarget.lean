import Sambervise.Transition.Run
import Sambervise.Ui.ComputersPanel
import Sambervise.Ui.UsersPanel

namespace Sambervise.Ui

open Text Model Backend Transition

/-! Whom the second step of a save is for. -/

namespace AccountPanel

variable {kind : AccountKind}

def ToOwn (sent : DispatchedWrite kind) : Prop :=
  match sent.write with
  | .setEnabled data ctx => data.dn = ctx.startedOn.dn
  | _ => True

instance : DecidablePred (@ToOwn kind) := fun sent =>
  match sent with
  | { write := .setEnabled data ctx, .. } =>
      inferInstanceAs (Decidable (data.dn = ctx.startedOn.dn))
  | { write := .updateAttrs .., .. } => isTrue trivial
  | { write := .delete .., .. } => isTrue trivial
  | { write := .other _, .. } => isTrue trivial

/-- Every save that completed so far had its enable change sent, and to its own object. -/
def SavesOwn (self : AccountPanel kind) : Prop :=
  self.crashed = false ∧ ∀ sent ∈ self.dispatched, ToOwn sent

instance (self : AccountPanel kind) : Decidable self.SavesOwn :=
  inferInstanceAs (Decidable (_ ∧ _))

/-- Where a save completes that changes the enabled flag, the object selected has the DN
of the one the save was started on. -/
def CompletesSelected (self : AccountPanel kind) : Event kind → Prop
  | .done index (.ok ()) =>
      ∀ saved ∈ self.inFlight[index]?, ∀ data ctx, saved.write = .updateAttrs data ctx →
        ctx.needEnabledChange = true →
          ∃ object ∈ self.selected, object.dn = ctx.startedOn.dn
  | _ => True

theorem toOwn_of_sends {self : AccountPanel kind} {event : Event kind}
    {sent : DispatchedWrite kind} (sends : self.Sends event sent)
    (completes : self.CompletesSelected event) : ToOwn sent := by
  cases sends with
  | save _ _ _ reachable selected connected => trivial
  | button button write reachable selected connected => trivial
  | delete confirm selected connected => trivial
  | enable inFlight save needed selected =>
      obtain ⟨object, chosen, sameDn⟩ := completes _ inFlight _ _ save needed
      rw [selected] at chosen
      cases chosen
      exact sameDn

theorem savesOwn_handle {self : AccountPanel kind} {event : Event kind}
    (own : self.SavesOwn) (completes : self.CompletesSelected event) :
    (self.handle event).SavesOwn := by
  refine ⟨?_, forall_dispatched_handle own.2 fun _ sends => toOwn_of_sends sends completes⟩
  cases self.handle_dispatches event with
  | nothing dispatched inFlight crashed => exact crashed.trans own.1
  | one sent sends dispatched inFlight crashed => exact crashed.trans own.1
  | crash index saved data ctx done saving save needed selected dispatched inFlight crashed =>
      subst done
      obtain ⟨object, chosen, _⟩ := completes saved saving data ctx save needed
      rw [selected] at chosen
      cases chosen

theorem completesSelected_of_savesOwn {self : AccountPanel kind} {event : Event kind}
    (own : (self.handle event).SavesOwn) : self.CompletesSelected event := by
  cases event with
  | done index result =>
      cases result with
      | error error => trivial
      | ok done =>
          intro saved inFlight data ctx save needed
          rw [Option.mem_def] at inFlight
          simp only [handle, inFlight, onDone, save, onUpdateAttrsDone, needed, if_true,
            mutateSelected, ListPanel.mutate_selected] at own
          cases selected : self.selected with
          | none =>
              rw [selected] at own
              exact absurd own.1 (by simp)
          | some object =>
              rw [selected] at own
              refine ⟨object, rfl, ?_⟩
              have sent := own.2 _ (List.mem_append_right _ (List.mem_singleton.mpr rfl))
              simpa only [ToOwn, Listed.dn, kind.dn_adopt] using sent
  | load | listed | rowSelected | edited | saveClicked | buttonClicked | addClicked
  | createClosed | created | deleteClicked | confirmTyped | confirmClicked | confirmClosed =>
      trivial

theorem completesSelected_iff_step (self : AccountPanel kind) (event : Event kind)
    (own : self.SavesOwn) :
    self.CompletesSelected event ↔ (self.step event).SavesOwn := by
  rw [step, if_neg (by simp [own.1])]
  exact ⟨savesOwn_handle own, completesSelected_of_savesOwn⟩

end AccountPanel

open AccountPanel

/-- In both panels, over every run of a new panel: the enable change of every completed
save goes to the account the save was started on, exactly where each such save
completes while an object with that account's DN is selected. -/
theorem saves_own_iff (calendar : Users.GDateTimeUtc) (usersForm : Users.Form)
    (computersForm : Computers.Form) :
    (∀ events,
      Along (@step (usersKind calendar)) CompletesSelected (opened usersForm) events ↔
        Throughout step SavesOwn (opened usersForm) events) ∧
    ∀ events,
      Along (@step computersKind) CompletesSelected (opened computersForm) events ↔
        Throughout step SavesOwn (opened computersForm) events := by
  constructor
  · intro events
    exact along_iff_throughout SavesOwn completesSelected_iff_step ⟨rfl, by simp [opened]⟩
  · intro events
    exact along_iff_throughout SavesOwn completesSelected_iff_step ⟨rfl, by simp [opened]⟩

/-- Another row selected while a save runs gets the enable change asked for the first. -/
theorem save_overtaken_by_selection :
    let user (name : String) (enabled : Bool) : SbvUser :=
      { dn := some (cstr name), sam := some (cstr name), enabled }
    let computer (name : String) (enabled : Bool) : SbvComputer :=
      { dn := some (cstr name), sam := some (cstr name), enabled }
    let users := run (@step (usersKind Users.noCalendar)) (opened {})
      [ .load 0, .listed 0 (.ok [user "CN=a" false, user "CN=b" true]),
        .rowSelected (some 0), .edited (.toggled .enabled true), .saveClicked,
        .rowSelected (some 1), .done 0 (.ok ()) ]
    let computers := run (@step computersKind) (opened {})
      [ .load 0, .listed 0 (.ok [computer "CN=a" false, computer "CN=b" true]),
        .rowSelected (some 0), .edited (.enabled true), .saveClicked,
        .rowSelected (some 1), .done 0 (.ok ()) ]
    ¬ users.SavesOwn ∧ ¬ computers.SavesOwn := by
  decide

end Sambervise.Ui
