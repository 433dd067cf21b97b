import Sambervise.Ui.ActiveProfile

namespace Sambervise.Ui

open Text Model Backend Transition

/-! Connecting from the rows of the profiles alone -/

structure RowsWindow (calendar : Users.GDateTimeUtc) (kf : GKeyFile) where
  profilesWindow : ProfilesWindow calendar kf
  /-- The connection opened for the row activated last, once one is. -/
  opened : Option ConnId := none
  failed : Bool := false

namespace RowsWindow

variable {calendar : Users.GDateTimeUtc} {kf : GKeyFile}

def connecting (self : RowsWindow calendar kf) : List Connecting :=
  self.profilesWindow.window.connecting

def conn (self : RowsWindow calendar kf) : Option ConnId := self.profilesWindow.window.conn

inductive Event where
  | rowActivated (index : Nat)
  | passwordConnect
  | passwordClosed
  /-- The connect at this place among those in flight completes. -/
  | connectDone (index : Nat) (result : Except GError Unit)

def opens (self : RowsWindow calendar kf) (profile : SbvProfile) : Option ConnId :=
  match profile.authType with
  | .kerberos => some self.profilesWindow.window.nextConn
  | .simple => none

/-- The password dialog is modal, so no row is activated while it is open. -/
def handle (self : RowsWindow calendar kf) : Event → RowsWindow calendar kf
  | .rowActivated index =>
      match self.profilesWindow.window.passwordFor, self.profilesWindow.rows[index]? with
      | none, some profile =>
          { self with
            profilesWindow := self.profilesWindow.handle (.rowActivated index)
            opened := self.opens profile }
      | _, _ => self
  | .passwordConnect =>
      match self.profilesWindow.window.passwordFor with
      | none => self
      | some _ =>
          if self.profilesWindow.busy .password then self
          else
            { self with
              profilesWindow := self.profilesWindow.handle .passwordConnect
              opened := some self.profilesWindow.window.nextConn }
  | .passwordClosed =>
      { self with profilesWindow := self.profilesWindow.handle .passwordClosed }
  | .connectDone index result =>
      match self.connecting[index]? with
      | none => self
      | some _ =>
          { self with
            profilesWindow := self.profilesWindow.handle (.connectDone index result true)
            failed := self.failed || !result.toBool }

def step (self : RowsWindow calendar kf) (event : Event) : RowsWindow calendar kf :=
  if self.profilesWindow.dead then self else self.handle event

variable {state : RowsWindow calendar kf}

/-- With no connect in flight and none that failed, the window has the connection that was
opened for the row activated last. -/
def LastWins (state : RowsWindow calendar kf) : Prop :=
  state.connecting = [] → state.failed = false → ∀ conn ∈ state.opened,
    state.conn = some conn

/-- The connect that completes with no other in flight is the one that was opened for the
row activated last. -/
def LastIsNewest (state : RowsWindow calendar kf) (event : Event) : Prop :=
  state.profilesWindow.dead = false →
    match event with
    | .connectDone index (.ok ()) => ∀ done ∈ state.connecting[index]?,
        state.connecting.eraseIdx index = [] → state.failed = false →
          ∀ conn ∈ state.opened, done.conn = conn
    | _ => True

def FromRows (state : RowsWindow calendar kf) : Prop :=
  ∀ connecting ∈ state.connecting, connecting.flow ≠ .dialog

theorem lastWins_of_connecting {connecting : Connecting} {rest : List Connecting}
    (started : state.connecting = rest ++ [connecting]) : state.LastWins := by
  intro quiet
  rw [quiet] at started
  exact absurd started.symm (List.append_ne_nil_of_right_ne_nil rest (List.cons_ne_nil _ _))

/-! What an event does -/

/-- A row that opens no connection leaves the ones there are. -/
inductive Handles (state : RowsWindow calendar kf) : Event → RowsWindow calendar kf → Prop
  | idle {event : Event} {after : RowsWindow calendar kf}
      (ordered : state.LastIsNewest event)
      (connecting : after.connecting = state.connecting) (conn : after.conn = state.conn)
      (opened : after.opened = state.opened ∨ after.opened = none)
      (failed : after.failed = state.failed) :
      Handles state event after
  | connect {event : Event} {after : RowsWindow calendar kf} {connecting : Connecting}
      (ordered : state.LastIsNewest event) (flow : connecting.flow ≠ .dialog)
      (started : after.connecting = state.connecting ++ [connecting]) :
      Handles state event after
  | failed {index : Nat} {error : GError} {after : RowsWindow calendar kf}
      (connecting : after.connecting = state.connecting.eraseIdx index)
      (failed : after.failed = true) :
      Handles state (.connectDone index (.error error)) after
  | connected {index : Nat} {done : Connecting} {after : RowsWindow calendar kf}
      (found : state.connecting[index]? = some done)
      (connecting : after.connecting = state.connecting.eraseIdx index)
      (conn : after.conn = some done.conn) (opened : after.opened = state.opened)
      (failed : after.failed = state.failed) :
      Handles state (.connectDone index (.ok ())) after

theorem handles_rowActivated (state : RowsWindow calendar kf) (index : Nat) :
    state.Handles (.rowActivated index) (state.handle (.rowActivated index)) := by
  have ordered : state.LastIsNewest (.rowActivated index) := fun _ => trivial
  simp only [handle]
  split
  next profile shown row =>
    simp only [ProfilesWindow.handle, row, ProfilesWindow.connectToProfile,
      SbvWindow.connectToProfile, opens]
    cases profile.authType with
    | kerberos => exact .connect ordered ConnectFlow.noConfusion rfl
    | simple => exact .idle ordered rfl rfl (.inr rfl) rfl
  · exact .idle ordered rfl rfl (.inl rfl) rfl

theorem handles_passwordConnect (state : RowsWindow calendar kf) :
    state.Handles .passwordConnect (state.handle .passwordConnect) := by
  have ordered : state.LastIsNewest .passwordConnect := fun _ => trivial
  simp only [handle]
  split
  · exact .idle ordered rfl rfl (.inl rfl) rfl
  next profile shown =>
    split
    · exact .idle ordered rfl rfl (.inl rfl) rfl
    next free =>
      let started : Connecting :=
        { conn := state.profilesWindow.window.nextConn, flow := .password,
          profile := some profile }
      apply @Handles.connect _ _ _ _ _ started ordered ConnectFlow.noConfusion
      simp only [connecting, ProfilesWindow.handle, if_neg free,
        ProfilesWindow.passwordConnect, shown]
      rfl

theorem handles_passwordClosed (state : RowsWindow calendar kf) :
    state.Handles .passwordClosed (state.handle .passwordClosed) := by
  have ordered : state.LastIsNewest .passwordClosed := fun _ => trivial
  simp only [handle, ProfilesWindow.handle]
  split
  · exact .idle ordered rfl rfl (.inl rfl) rfl
  · exact .idle ordered rfl rfl (.inl rfl) rfl

theorem handles_connectDone (fromRows : state.FromRows) (index : Nat)
    (result : Except GError Unit) :
    state.Handles (.connectDone index result) (state.handle (.connectDone index result)) := by
  simp only [handle]
  cases found : state.connecting[index]? with
  | none =>
      refine .idle (fun _ => ?_) rfl rfl (.inl rfl) rfl
      cases result with
      | error error => trivial
      | ok connected => simp [found]
  | some done =>
      have row : done.flow ≠ .dialog := fromRows done (List.mem_of_getElem? found)
      have there : state.profilesWindow.window.connecting[index]? = some done := found
      simp only [ProfilesWindow.handle, there, ProfilesWindow.onConnectDone]
      cases result with
      | error error =>
          apply Handles.failed
          · simp only [connecting, SbvWindow.onConnectDone]
            split
            · rfl
            · rfl
            · rfl
          · simp [Except.toBool]
      | ok connected =>
          cases flow : done.flow with
          | dialog => exact absurd flow row
          | kerberos | password =>
              apply Handles.connected found
              · exact ProfilesWindow.connected_pending.2
              · exact ProfilesWindow.connected_conn
              · rfl
              · simp [Except.toBool]

theorem handles_handle (fromRows : state.FromRows) (event : Event) :
    state.Handles event (state.handle event) := by
  cases event with
  | rowActivated index => exact handles_rowActivated state index
  | passwordConnect => exact handles_passwordConnect state
  | passwordClosed => exact handles_passwordClosed state
  | connectDone index result => exact handles_connectDone fromRows index result

/-! Which connect is the last -/

theorem fromRows_handles (fromRows : state.FromRows) {event : Event}
    {after : RowsWindow calendar kf} (handles : state.Handles event after) :
    after.FromRows := by
  unfold FromRows
  cases handles with
  | idle _ connecting _ _ _ =>
      rw [connecting]
      exact fromRows
  | connect _ flow started =>
      rw [started]
      intro connecting member
      rcases List.mem_append.mp member with earlier | new
      · exact fromRows connecting earlier
      · rw [List.mem_singleton] at new
        exact new ▸ flow
  | failed connecting _ | connected _ connecting _ _ _ =>
      rw [connecting]
      exact fun other member => fromRows other (List.mem_of_mem_eraseIdx member)

theorem lastIsNewest_iff_handles (alive : state.profilesWindow.dead = false)
    (wins : state.LastWins) {event : Event} {after : RowsWindow calendar kf}
    (handles : state.Handles event after) :
    state.LastIsNewest event ↔ after.LastWins := by
  cases handles with
  | idle ordered connecting conn opened failed =>
      refine iff_of_true ordered ?_
      unfold LastWins
      rw [connecting, conn, failed]
      intro quiet none_failed new member
      rcases opened with same | nothing
      · exact wins quiet none_failed new (same ▸ member)
      · rw [nothing] at member
        cases member
  | connect ordered _ started => exact iff_of_true ordered (lastWins_of_connecting started)
  | failed _ failed =>
      refine iff_of_true (fun _ => trivial) ?_
      intro _ none_failed
      rw [failed] at none_failed
      cases none_failed
  | connected found connecting conn opened failed =>
      simp only [LastIsNewest, alive, true_imp_iff, found, Option.mem_some_iff, forall_eq',
        LastWins, connecting, conn, opened, failed, Option.some.injEq]

theorem fromRows_step (state : RowsWindow calendar kf) (event : Event)
    (fromRows : state.FromRows) : (state.step event).FromRows := by
  unfold step
  split
  · exact fromRows
  · exact fromRows_handles fromRows (handles_handle fromRows event)

theorem lastIsNewest_iff_step (state : RowsWindow calendar kf) (event : Event)
    (fromRows : state.FromRows) (wins : state.LastWins) :
    state.LastIsNewest event ↔ (state.step event).LastWins := by
  unfold step
  split
  next dead =>
    refine iff_of_true (fun alive => ?_) wins
    rw [dead] at alive
    cases alive
  next alive =>
    rw [Bool.not_eq_true] at alive
    exact lastIsNewest_iff_handles alive wins (handles_handle fromRows event)

/-- Over every run of a new window in which rows are activated and connects complete in
any order: the last activated row wins, exactly where no older connect is the last to
complete. -/
theorem lastWins_throughout_iff (profiles : Profiles kf) (usersForm : Users.Form)
    (computersForm : Computers.Form) (events : List Event) :
    let first : RowsWindow calendar kf :=
      { profilesWindow := .opened profiles usersForm computersForm }
    Along step LastIsNewest first events ↔ Throughout step LastWins first events := by
  intro first
  apply along_iff_throughout_within LastWins FromRows fromRows_step lastIsNewest_iff_step
  · intro connecting member
    cases member
  · intro _ _ conn member
    cases member

/-- Two rows are activated, and the first one's connect completes last. -/
theorem first_row_wins :
    let profiles : Profiles plainKeyFile :=
      { store := [Backend.labProfile "Lab", Backend.labProfile "Branch"], file := noFile }
    let first : RowsWindow Users.noCalendar plainKeyFile :=
      { profilesWindow := .opened profiles {} {} }
    let events : List Event :=
      [ .rowActivated 0, .rowActivated 1, .connectDone 1 (.ok ()), .connectDone 0 (.ok ()) ]
    (run step first events).conn = some 0 ∧ (run step first events).opened = some 1 ∧
      ¬ Throughout step LastWins first events := by
  intro profiles first events
  have conn : (run step first events).conn = some 0 := by decide
  have opened : (run step first events).opened = some 1 := by decide
  refine ⟨conn, opened, ?_⟩
  intro throughout
  have latest := throughout.last (by decide) (by decide) 1 opened
  rw [conn] at latest
  cases latest

end RowsWindow

end Sambervise.Ui
