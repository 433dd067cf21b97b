import Sambervise.Ui.Connections

namespace Sambervise.Ui

open Text Model Backend Transition

/-! What the type-to-confirm dialog deletes. -/

namespace AccountPanel

variable {kind : AccountKind} {self : AccountPanel kind} {event : Event kind}

/-- A delete is for the object its confirmation was opened for, over the connection that
object was listed over. -/
def Confirmed (sent : DispatchedWrite kind) : Prop :=
  match sent.write with
  | .delete dn ctx => dn = ctx.openedFor.dn ∧ sent.conn = ctx.openedFor.listedOver
  | _ => True

instance : DecidablePred (@Confirmed kind) := fun sent =>
  match sent with
  | { write := .delete dn ctx, conn, .. } =>
      inferInstanceAs (Decidable (dn = ctx.openedFor.dn ∧ conn = ctx.openedFor.listedOver))
  | { write := .updateAttrs .., .. } => isTrue trivial
  | { write := .setEnabled .., .. } => isTrue trivial
  | { write := .other _, .. } => isTrue trivial

def DeletesConfirmed (self : AccountPanel kind) : Prop :=
  ∀ sent ∈ self.dispatched, Confirmed sent

instance (self : AccountPanel kind) : Decidable self.DeletesConfirmed :=
  inferInstanceAs (Decidable (∀ sent ∈ self.dispatched, Confirmed sent))

def Reselects (self : AccountPanel kind) (dn : Option CString) : Event kind → Prop
  | .listed index (.ok objects) =>
      ∀ source ∈ self.listings[index]?,
        ∀ row ∈ self.reselected source objects, row.dn = dn
  | _ => True

instance (self : AccountPanel kind) (dn : Option CString) :
    DecidablePred (self.Reselects dn)
  | .listed index (.ok objects) =>
      inferInstanceAs
        (Decidable
          (∀ source ∈ self.listings[index]?,
            ∀ row ∈ self.reselected source objects, row.dn = dn))
  | .listed _ (.error _) => isTrue trivial
  | .load _ | .done _ _ | .rowSelected _ | .edited _ | .saveClicked | .buttonClicked _
  | .addClicked | .createClosed | .created _ | .deleteClicked | .confirmTyped _
  | .confirmClicked | .confirmClosed => isTrue trivial

/-- The condition on an event: listings complete over the connection the panel has; and
while a confirmation is open the panel takes no other one, and a reload selects nothing
but an object with the DN of the one to be deleted. -/
def KeepsConfirmed (self : AccountPanel kind) (event : Event kind) : Prop :=
  self.ListsCurrent event ∧
    ∀ ctx ∈ self.confirm,
      (∀ conn ∈ self.reloadsOver event, self.conn = some conn) ∧
        self.Reselects ctx.openedFor.dn event

instance (self : AccountPanel kind) : DecidablePred self.KeepsConfirmed := fun _ =>
  inferInstanceAs (Decidable (_ ∧ ∀ ctx ∈ self.confirm, _ ∧ _))

def StandsFor (self : AccountPanel kind) (ctx : ConfirmDelCtx kind) : Prop :=
  self.conn = some ctx.openedFor.listedOver ∧
    ∀ object ∈ self.selected, object.dn = ctx.openedFor.dn

structure ConfirmInvariant (panel : AccountPanel kind) : Prop where
  shows : panel.Shows
  standsFor : ∀ ctx ∈ panel.confirm, panel.StandsFor ctx
  deletes : panel.DeletesConfirmed

theorem conn_of_kept (kept : ∀ conn ∈ self.reloadsOver event, self.conn = some conn) :
    (self.handle event).conn = self.conn := by
  rw [conn_handle]
  cases reloads : self.reloadsOver event with
  | none => rfl
  | some conn =>
      rw [kept conn reloads]
      rfl

theorem dn_of_selects {object : Listed kind.Obj} (selects : self.Selects event object)
    {ctx : ConfirmDelCtx kind} (open_ : self.confirm = some ctx)
    (standsFor : self.StandsFor ctx) (reselects : self.Reselects ctx.openedFor.dn event) :
    object.dn = ctx.openedFor.dn := by
  cases selects with
  | kept selected dn listedOver =>
      rw [dn]
      exact standsFor.2 _ selected
  | row split modal inRows =>
      rw [reachable, open_] at modal
      cases modal
  | reselected listing found => exact reselects _ listing _ found

theorem standsFor_handle (invariant : self.ConfirmInvariant)
    (keeps : self.KeepsConfirmed event) {ctx : ConfirmDelCtx kind}
    (confirm : (self.handle event).confirm = some ctx) :
    (self.handle event).StandsFor ctx := by
  cases confirms_handle confirm with
  | kept before openedFor =>
      obtain ⟨sameConn, reselects⟩ := keeps.2 _ before
      have stands := invariant.standsFor _ before
      rw [StandsFor, conn_of_kept sameConn, openedFor]
      refine ⟨stands.1, ?_⟩
      intro object selected
      exact dn_of_selects (selects_handle selected) before stands reselects
  | opened reachable selected =>
      rw [StandsFor, self.toListPanel_handle rfl]
      refine ⟨selected_of_reachable invariant.shows reachable selected, ?_⟩
      intro object chosen
      rw [Option.mem_def, selected, Option.some.injEq] at chosen
      rw [chosen]

theorem confirmed_of_sends (invariant : self.ConfirmInvariant)
    {sent : DispatchedWrite kind} (sends : self.Sends event sent) : Confirmed sent := by
  cases sends with
  | save _ _ _ reachable selected connected => trivial
  | button button write reachable selected connected => trivial
  | delete confirm selected connected =>
      have stands := invariant.standsFor _ confirm
      refine ⟨stands.2 _ selected, ?_⟩
      have same := stands.1
      rw [connected] at same
      exact Option.some.inj same
  | enable inFlight save needed selected => trivial

theorem confirmInvariant_step (self : AccountPanel kind) (event : Event kind)
    (invariant : self.ConfirmInvariant) (keeps : self.KeepsConfirmed event) :
    (self.step event).ConfirmInvariant := by
  unfold step
  split
  · exact invariant
  · exact
      { shows := shows_handle invariant.shows keeps.1
        standsFor := fun ctx confirm => standsFor_handle invariant keeps confirm
        deletes := forall_dispatched_handle invariant.deletes fun _ sends =>
          confirmed_of_sends invariant sends }

theorem confirmInvariant_opened (form : kind.Form) : (opened form).ConfirmInvariant where
  shows := ListPanel.shows_of_hidden (by simp [opened])
  standsFor := by simp [opened]
  deletes := by simp [DeletesConfirmed, opened]

end AccountPanel

open AccountPanel

/-- In every state of every run of a new users panel whose events all meet the condition,
only what was confirmed has been deleted. -/
theorem deletes_confirmed (calendar : Users.GDateTimeUtc) (form : Users.Form)
    (events : List (AccountPanel.Event (usersKind calendar)))
    (keeps : Along (@step (usersKind calendar)) KeepsConfirmed (opened form) events) :
    Throughout (@step (usersKind calendar)) DeletesConfirmed (opened form) events := by
  have invariant := throughout_of_along ConfirmInvariant confirmInvariant_step
    (@confirmInvariant_opened (usersKind calendar) form) keeps
  exact invariant.mono fun _ holds => holds.deletes

theorem deletes_confirmed_reload :
    let account : SbvUser := { dn := some (cstr "CN=j,DC=a"), sam := some (cstr "j") }
    Throughout (@step (usersKind Users.noCalendar)) DeletesConfirmed (opened {})
      [ .load 0, .listed 0 (.ok [account]), .rowSelected (some 0), .deleteClicked,
        .confirmTyped (cstr "j"), .load 0, .listed 0 (.ok [account]), .confirmClicked ] :=
  deletes_confirmed Users.noCalendar {} _ (by decide)

/-- A connection made while the confirmation is open: the account of the same name in
the other domain takes the place of the one confirmed. -/
theorem delete_of_namesake :
    let account (dn : String) : SbvUser :=
      { dn := some (cstr dn), sam := some (cstr "j") }
    let final := run (@step (usersKind Users.noCalendar)) (opened {})
      [ .load 0, .listed 0 (.ok [account "CN=j,DC=a"]), .rowSelected (some 0),
        .deleteClicked, .confirmTyped (cstr "j"), .load 1,
        .listed 0 (.ok [account "CN=j,DC=b"]), .confirmClicked ]
    final.dispatched.map (fun sent => (sent.conn, sent.target.dn)) =
        [(1, some (cstr "CN=j,DC=b"))] ∧
      ¬ final.DeletesConfirmed := by
  decide

end Sambervise.Ui
