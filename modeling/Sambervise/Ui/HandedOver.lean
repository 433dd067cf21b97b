import Sambervise.Ui.ActiveProfile

namespace Sambervise.Ui

open Text Model Backend Transition

/-! How a connection comes to the window -/

namespace ProfilesWindow

variable {calendar : Users.GDateTimeUtc} {kf : GKeyFile} {state : ProfilesWindow calendar kf}

/-- The connection that an event hands to the window, with the profile it comes with. -/
def handsOver (self : ProfilesWindow calendar kf) :
    Event calendar → Option (ConnId × Option SbvProfile)
  | .connectDone index (.ok ()) writes =>
      match self.window.connecting[index]? with
      | none => none
      | some done =>
          match done.flow with
          | .kerberos => some (done.conn, done.profile)
          | .password => some (done.conn, self.window.activeProfile)
          | .dialog =>
              self.dialog.map fun form =>
                (done.conn, (ConnectDialog.onConnectDone form writes self.profiles).1)
  | _ => none

/-! What the window's connection does with an event -/

structure KeepsConnection (before after : ProfilesWindow calendar kf) : Prop where
  conn : after.window.conn = before.window.conn
  crashed : after.crashed = before.crashed

/-- The connection at this place among those in flight is the window's now, and comes
with a profile or crashes. -/
structure HandedOver (before after : ProfilesWindow calendar kf) (index : Nat)
    (conn : ConnId) (profile : Option SbvProfile) : Prop where
  flying : ∃ done ∈ before.window.connecting[index]?, done.conn = conn
  connecting : after.window.connecting = before.window.connecting.eraseIdx index
  nextConn : after.window.nextConn = before.window.nextConn
  boundWith : after.boundWith = before.boundWith
  conn : after.window.conn = some conn
  activeProfile : after.window.activeProfile = profile
  crashed : after.crashed = profile.isNone

theorem Unmoved.keepsConnection {after : ProfilesWindow calendar kf}
    (unmoved : Unmoved state after) : KeepsConnection state after :=
  ⟨unmoved.conn, unmoved.crashed⟩

theorem keepsConnection_connectToProfile (profile : SbvProfile) :
    KeepsConnection state (state.connectToProfile profile) := by
  unfold connectToProfile SbvWindow.connectToProfile
  cases profile.authType with
  | kerberos | simple => exact ⟨rfl, rfl⟩

theorem keepsConnection_onConnectDone_error {start : ProfilesWindow calendar kf}
    (kept : KeepsConnection state start) (done : Connecting) (writes : Bool)
    (error : GError) :
    KeepsConnection state (start.onConnectDone done writes (.error error)) := by
  simp only [onConnectDone, SbvWindow.onConnectDone]
  cases done.flow with
  | kerberos | password | dialog => exact ⟨kept.conn, kept.crashed⟩

theorem keepsConnection_handle {event : Event calendar}
    (quiet : state.handsOver event = none) : KeepsConnection state (state.handle event) := by
  cases event with
  | rowActivated index =>
      simp only [handle]
      split
      · exact ⟨rfl, rfl⟩
      · exact keepsConnection_connectToProfile _
  | passwordConnect =>
      simp only [handle, passwordConnect]
      split
      · exact ⟨rfl, rfl⟩
      · split
        · exact ⟨rfl, rfl⟩
        · exact ⟨rfl, rfl⟩
  | dialogConnect =>
      simp only [handle, dialogConnect]
      split
      · exact ⟨rfl, rfl⟩
      · split
        · exact ⟨rfl, rfl⟩
        · split
          · exact ⟨rfl, rfl⟩
          · exact ⟨rfl, rfl⟩
  | connectDone index result writes =>
      cases found : state.window.connecting[index]? with
      | none =>
          simp only [handle, found]
          exact ⟨rfl, rfl⟩
      | some done =>
          simp only [handle, found]
          cases result with
          | error error =>
              apply keepsConnection_onConnectDone_error
              exact ⟨rfl, rfl⟩
          | ok connected =>
              simp only [handsOver, found] at quiet
              cases flow : done.flow with
              | kerberos | password => simp [flow] at quiet
              | dialog =>
                  simp only [flow, Option.map_eq_none_iff] at quiet
                  simp only [onConnectDone, flow, quiet]
                  exact ⟨rfl, rfl⟩
  | passwordClosed | addConnClicked | formEdited | dialogCancelled | editSaveClicked | users
  | computers => exact Unmoved.keepsConnection (unmoved_handle state not_false)

theorem handedOver_connected {index : Nat} {done : Connecting}
    (found : state.window.connecting[index]? = some done) {start : ProfilesWindow calendar kf}
    (connecting : start.window.connecting = state.window.connecting.eraseIdx index)
    (nextConn : start.window.nextConn = state.window.nextConn)
    (boundWith : start.boundWith = state.boundWith) {handed : Connecting}
    (same : handed.conn = done.conn) {profile : Option SbvProfile}
    (comes : (if handed.flow = .password then start.window.activeProfile
      else handed.profile) = profile) :
    HandedOver state (start.connected handed) index done.conn profile := by
  obtain ⟨next, pending⟩ := @connected_pending _ _ start handed
  have active := (@connected_activeProfile _ _ start handed).trans comes
  constructor
  · exact ⟨done, found, rfl⟩
  · exact pending.trans connecting
  · exact next.trans nextConn
  · exact boundWith
  · rw [connected_conn, same]
  · exact active
  · rw [← active]
    rfl

theorem handedOver_handle {event : Event calendar} {conn : ConnId}
    {profile : Option SbvProfile} (hands : state.handsOver event = some (conn, profile)) :
    ∃ index, HandedOver state (state.handle event) index conn profile := by
  cases event with
  | connectDone index result writes =>
      refine ⟨index, ?_⟩
      cases result with
      | error error => cases hands
      | ok connected =>
          cases found : state.window.connecting[index]? with
          | none => simp [handsOver, found] at hands
          | some done =>
              simp only [handsOver, found] at hands
              simp only [handle, found, onConnectDone]
              cases flow : done.flow with
              | kerberos | password =>
                  simp only [flow, Option.some_inj, Prod.mk.injEq] at hands
                  obtain ⟨rfl, rfl⟩ := hands
                  apply handedOver_connected found
                  · rfl
                  · rfl
                  · rfl
                  · rfl
                  · simp [flow]
              | dialog =>
                  cases form : state.dialog with
                  | none => simp [flow, form] at hands
                  | some form =>
                      simp only [flow, form, Option.map_some, Option.some_inj,
                        Prod.mk.injEq] at hands
                      obtain ⟨rfl, rfl⟩ := hands
                      apply handedOver_connected found
                      · rfl
                      · rfl
                      · rfl
                      · rfl
                      · simp
  | rowActivated | passwordConnect | passwordClosed | addConnClicked | formEdited
  | dialogConnect | dialogCancelled | editSaveClicked | users | computers => cases hands

/-- Connections are only ever started anew, with a profile of their own. -/
structure Pends (before after : ProfilesWindow calendar kf) : Prop where
  connecting : (after.window.connecting.map Connecting.conn).Sublist
    (before.window.connecting.map Connecting.conn ++ [before.window.nextConn])
  nextConn : before.window.nextConn ≤ after.window.nextConn
  boundWith : ∀ conn < before.window.nextConn, after.boundWith conn = before.boundWith conn

theorem pends_connect (flow : ConnectFlow) (handed : Option SbvProfile)
    (profile : SbvProfile) :
    Pends state { state.bindNext profile with
      window := (state.bindNext profile).window.connect flow handed } := by
  constructor
  · simp [bindNext, SbvWindow.connect]
  · exact Nat.le_succ state.window.nextConn
  · intro conn below
    exact Function.update_of_ne (Nat.ne_of_lt below) _ _

theorem boundWith_onConnectDone (done : Connecting) (writes : Bool)
    (result : Except GError Unit) :
    (state.onConnectDone done writes result).boundWith = state.boundWith := by
  cases result with
  | error error => rfl
  | ok connected =>
      simp only [onConnectDone]
      split
      · rfl
      · rfl
      · split
        · rfl
        · rfl

theorem pends_handles {event : Event calendar} {after : ProfilesWindow calendar kf}
    (handles : state.Handles event after) : Pends state after := by
  cases handles with
  | unmoved keeps unmoved =>
      constructor
      · rw [unmoved.connecting]
        exact List.sublist_append_left _ _
      · exact unmoved.nextConn.ge
      · intro conn below
        rw [unmoved.boundWith]
  | @row index profile row =>
      unfold connectToProfile SbvWindow.connectToProfile
      cases profile.authType with
      | kerberos =>
          obtain ⟨connecting, nextConn, boundWith⟩ :=
            @pends_connect _ _ state .kerberos (some profile) profile
          exact ⟨connecting, nextConn, boundWith⟩
      | simple =>
          constructor
          · exact List.sublist_append_left _ _
          · exact le_refl _
          · exact fun conn below => rfl
  | connect keeps flow handed kerberos => exact pends_connect flow handed _
  | done result writes found =>
      obtain ⟨nextConn, connecting⟩ := onConnectDone_pending writes result
      constructor
      · rw [connecting]
        refine List.Sublist.trans ?_ (List.sublist_append_left _ _)
        exact (List.eraseIdx_sublist _ _).map Connecting.conn
      · exact nextConn.ge
      · intro conn below
        rw [boundWith_onConnectDone]

end ProfilesWindow

end Sambervise.Ui
