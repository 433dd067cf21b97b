import Mathlib.Logic.Function.Basic
import Sambervise.Ui.ConnectDialog
import Sambervise.Ui.Window

namespace Sambervise.Ui

open Text Model Backend Transition

/-! The window with all that connects it: the rows of the profiles, the password dialog
and the connect dialog. -/

structure ProfilesWindow (calendar : Users.GDateTimeUtc) (kf : GKeyFile) where
  window : SbvWindow calendar
  profiles : Profiles kf
  /-- The rows of the sidebar, as last built from the store. -/
  rows : List SbvProfile
  /-- The form of the connect dialog, while it is open. -/
  dialog : Option ConnectDialog.Form := none
  boundWith : ConnId → Option SbvProfile := fun _ => none
  /-- The hints were queried with no profile. -/
  crashed : Bool := false

namespace ProfilesWindow

variable {calendar : Users.GDateTimeUtc} {kf : GKeyFile}

def opened (profiles : Profiles kf) (usersForm : Users.Form)
    (computersForm : Computers.Form) : ProfilesWindow calendar kf :=
  { window := .opened usersForm computersForm, profiles, rows := profiles.store }

/-- The buttons of a dialog are off while its connect is in flight. -/
def busy (self : ProfilesWindow calendar kf) (flow : ConnectFlow) : Bool :=
  self.window.connecting.any (fun connecting => decide (connecting.flow = flow))

def rebuildProfilesList (self : ProfilesWindow calendar kf) : ProfilesWindow calendar kf :=
  { self with rows := self.profiles.store }

def bindNext (self : ProfilesWindow calendar kf) (profile : SbvProfile) :
    ProfilesWindow calendar kf :=
  { self with
    boundWith := Function.update self.boundWith self.window.nextConn (some profile) }

def connectToProfile (self : ProfilesWindow calendar kf) (profile : SbvProfile) :
    ProfilesWindow calendar kf :=
  let self :=
    match profile.authType with
    | .kerberos => self.bindNext profile
    | .simple => self
  { self with window := self.window.connectToProfile profile }

def passwordConnect (self : ProfilesWindow calendar kf) : ProfilesWindow calendar kf :=
  match self.window.passwordFor with
  | none => self
  | some profile =>
      let self := self.bindNext profile
      { self with window := self.window.connect .password (some profile) }

def dialogConnect (self : ProfilesWindow calendar kf) (form : ConnectDialog.Form) :
    ProfilesWindow calendar kf :=
  match ConnectDialog.validateInputs form true with
  | some _ => self
  | none =>
      let self := self.bindNext (ConnectDialog.buildProfile form)
      { self with window := self.window.connect .dialog none }

/-- The window is handed the connection and then queries the hints with its profile. -/
def connected (self : ProfilesWindow calendar kf) (done : Connecting) :
    ProfilesWindow calendar kf :=
  let window := self.window.onConnectDone done (.ok ())
  { self.rebuildProfilesList with window, crashed := window.activeProfile.isNone }

def onConnectDone (self : ProfilesWindow calendar kf) (done : Connecting) (writes : Bool) :
    Except GError Unit → ProfilesWindow calendar kf
  | .error error => { self with window := self.window.onConnectDone done (.error error) }
  | .ok () =>
      match done.flow with
      | .kerberos | .password => self.connected done
      | .dialog =>
          match self.dialog with
          | none => self
          | some form =>
              let (profile, profiles) := ConnectDialog.onConnectDone form writes self.profiles
              connected { self with dialog := none, profiles } { done with profile }

inductive Event (calendar : Users.GDateTimeUtc) where
  | rowActivated (index : Nat)
  | passwordConnect
  | passwordClosed
  | addConnClicked
  /-- The form of the connect dialog after an edit, or after a discovery filled it in,
  which it does in entries that are off as well. -/
  | formEdited (form : ConnectDialog.Form)
  | dialogConnect
  | dialogCancelled
  /-- The connect at this place among those in flight completes; `writes` is what becomes
  of the file operation, where it is saved. -/
  | connectDone (index : Nat) (result : Except GError Unit) (writes : Bool)
  /-- Save in the edit dialog of a row. -/
  | editSaveClicked (originalName : Option CString) (replies : ConnectDialog.SaveReplies)
      (form : ConnectDialog.Form)
  | users (event : AccountPanel.Event (usersKind calendar))
  | computers (event : AccountPanel.Event computersKind)

def handle (self : ProfilesWindow calendar kf) :
    Event calendar → ProfilesWindow calendar kf
  | .rowActivated index =>
      match self.rows[index]? with
      | none => self
      | some profile => self.connectToProfile profile
  | .passwordConnect => if self.busy .password then self else self.passwordConnect
  | .passwordClosed =>
      if self.busy .password then self
      else { self with window := self.window.handle .passwordClosed }
  | .addConnClicked =>
      match self.dialog with
      | none => { self with dialog := some {} }
      | some _ => self
  | .formEdited form =>
      match self.dialog with
      | none => self
      | some _ => { self with dialog := some form }
  | .dialogConnect =>
      match self.dialog with
      | none => self
      | some form => if self.busy .dialog then self else self.dialogConnect form
  | .dialogCancelled => if self.busy .dialog then self else { self with dialog := none }
  | .connectDone index result writes =>
      match self.window.connecting[index]? with
      | none => self
      | some done =>
          onConnectDone
            { self with
              window := { self.window with
                connecting := self.window.connecting.eraseIdx index } }
            done writes result
  | .editSaveClicked originalName replies form =>
      match ConnectDialog.onSaveClicked originalName replies form self.profiles with
      | (.ok _, profiles) => rebuildProfilesList { self with profiles }
      | (.error _, profiles) => { self with profiles }
  | .users event => { self with window := self.window.handle (.users event) }
  | .computers event => { self with window := self.window.handle (.computers event) }

def dead (self : ProfilesWindow calendar kf) : Bool := self.crashed || self.window.crashed

def step (self : ProfilesWindow calendar kf) (event : Event calendar) :
    ProfilesWindow calendar kf :=
  if self.dead then self else self.handle event

/-! The active profile and the connection -/

variable {state : ProfilesWindow calendar kf}

/-- The hints were never queried with no profile, and the active profile is the one the
connection of the window is bound with. -/
structure Describes (state : ProfilesWindow calendar kf) : Prop where
  queried : state.crashed = false
  active : ∀ conn ∈ state.window.conn, ∃ profile,
    state.boundWith conn = some profile ∧ state.window.activeProfile = some profile

/-- What a completed connect hands to the window is what it was started with. -/
def HandsBound (state : ProfilesWindow calendar kf) (done : Connecting) (writes : Bool) :
    Prop :=
  match done.flow with
  | .kerberos => True
  | .password => state.window.activeProfile = state.boundWith done.conn
  | .dialog => ∀ form ∈ state.dialog, form.nameEntry ≠ [] ∧ writes = true ∧
      state.boundWith done.conn = some (ConnectDialog.buildProfile form)

/-- Once there is a connection, no row is activated but of the profile it is bound with. -/
def Keeps (state : ProfilesWindow calendar kf) (event : Event calendar) : Prop :=
  state.dead = false →
    match event with
    | .rowActivated index => ∀ profile ∈ state.rows[index]?, ∀ conn ∈ state.window.conn,
        state.boundWith conn = some profile
    | .connectDone index (.ok ()) writes => ∀ done ∈ state.window.connecting[index]?,
        state.HandsBound done writes
    | _ => True

/-- The connections handed out so far, each with a profile that it is bound with. -/
structure WellBound (state : ProfilesWindow calendar kf) : Prop where
  conn : ∀ conn ∈ state.window.conn, conn < state.window.nextConn
  connecting : ∀ connecting ∈ state.window.connecting,
    connecting.conn < state.window.nextConn ∧
      ∃ profile, state.boundWith connecting.conn = some profile ∧
        (connecting.flow = .kerberos → connecting.profile = some profile)

/-! What an event does -/

/-- What the active profile and the connection depend on is as it was. -/
structure Unmoved (before after : ProfilesWindow calendar kf) : Prop where
  conn : after.window.conn = before.window.conn
  activeProfile : after.window.activeProfile = before.window.activeProfile
  nextConn : after.window.nextConn = before.window.nextConn
  connecting : after.window.connecting = before.window.connecting
  boundWith : after.boundWith = before.boundWith
  crashed : after.crashed = before.crashed

theorem Unmoved.refl (state : ProfilesWindow calendar kf) : Unmoved state state :=
  ⟨rfl, rfl, rfl, rfl, rfl, rfl⟩

theorem Unmoved.wellBound {after : ProfilesWindow calendar kf} (unmoved : Unmoved state after)
    (bound : state.WellBound) : after.WellBound := by
  constructor
  · rw [unmoved.conn, unmoved.nextConn]
    exact bound.conn
  · rw [unmoved.connecting, unmoved.nextConn, unmoved.boundWith]
    exact bound.connecting

theorem Unmoved.describes {after : ProfilesWindow calendar kf} (unmoved : Unmoved state after)
    (described : state.Describes) : after.Describes := by
  constructor
  · rw [unmoved.crashed]
    exact described.queried
  · rw [unmoved.conn, unmoved.activeProfile, unmoved.boundWith]
    exact described.active

/-- Nothing moves, a row is activated, a connect is started, or one is done. -/
inductive Handles (state : ProfilesWindow calendar kf) :
    Event calendar → ProfilesWindow calendar kf → Prop
  | unmoved {event : Event calendar} {after : ProfilesWindow calendar kf}
      (keeps : state.Keeps event) (unmoved : Unmoved state after) :
      Handles state event after
  | row {index : Nat} {profile : SbvProfile} (row : state.rows[index]? = some profile) :
      Handles state (.rowActivated index) (state.connectToProfile profile)
  | connect {event : Event calendar} (keeps : state.Keeps event) (flow : ConnectFlow)
      (handed : Option SbvProfile) {profile : SbvProfile}
      (kerberos : flow = .kerberos → handed = some profile) :
      Handles state event
        { state.bindNext profile with
          window := (state.bindNext profile).window.connect flow handed }
  | done {index : Nat} {done : Connecting} (result : Except GError Unit) (writes : Bool)
      (found : state.window.connecting[index]? = some done) :
      Handles state (.connectDone index result writes)
        (onConnectDone
          { state with
            window := { state.window with
              connecting := state.window.connecting.eraseIdx index } }
          done writes result)

theorem unmoved_users (state : ProfilesWindow calendar kf)
    (event : AccountPanel.Event (usersKind calendar)) :
    Unmoved state { state with window := state.window.handle (.users event) } := by
  cases event with
  | load conn => exact Unmoved.refl state
  | listed | done | rowSelected | edited | saveClicked | buttonClicked | addClicked
  | createClosed | created | deleteClicked | confirmTyped | confirmClicked
  | confirmClosed => exact ⟨rfl, rfl, rfl, rfl, rfl, rfl⟩

theorem unmoved_computers (state : ProfilesWindow calendar kf)
    (event : AccountPanel.Event computersKind) :
    Unmoved state { state with window := state.window.handle (.computers event) } := by
  cases event with
  | load conn => exact Unmoved.refl state
  | listed | done | rowSelected | edited | saveClicked | buttonClicked | addClicked
  | createClosed | created | deleteClicked | confirmTyped | confirmClicked
  | confirmClosed => exact ⟨rfl, rfl, rfl, rfl, rfl, rfl⟩

/-- The events that start a connect or end one. -/
def Event.Connects : Event calendar → Prop
  | .rowActivated _ | .passwordConnect | .dialogConnect | .connectDone _ _ _ => True
  | _ => False

theorem unmoved_handle (state : ProfilesWindow calendar kf) {event : Event calendar}
    (other : ¬ event.Connects) : Unmoved state (state.handle event) := by
  cases event with
  | rowActivated | passwordConnect | dialogConnect | connectDone => exact absurd trivial other
  | passwordClosed | addConnClicked | formEdited | dialogCancelled | editSaveClicked =>
      simp only [handle]
      split
      · exact ⟨rfl, rfl, rfl, rfl, rfl, rfl⟩
      · exact ⟨rfl, rfl, rfl, rfl, rfl, rfl⟩
  | users event => exact unmoved_users state event
  | computers event => exact unmoved_computers state event

theorem handles_handle (state : ProfilesWindow calendar kf) (event : Event calendar) :
    state.Handles event (state.handle event) := by
  cases event with
  | rowActivated index =>
      simp only [handle]
      cases row : state.rows[index]? with
      | none => exact .unmoved (fun _ => by simp [row]) (Unmoved.refl state)
      | some profile => exact .row row
  | passwordConnect =>
      simp only [handle, passwordConnect]
      split
      · exact .unmoved (fun _ => trivial) (Unmoved.refl state)
      · split
        · exact .unmoved (fun _ => trivial) (Unmoved.refl state)
        · exact .connect (fun _ => trivial) .password _ nofun
  | dialogConnect =>
      simp only [handle, dialogConnect]
      split
      · exact .unmoved (fun _ => trivial) (Unmoved.refl state)
      · split
        · exact .unmoved (fun _ => trivial) (Unmoved.refl state)
        · split
          · exact .unmoved (fun _ => trivial) (Unmoved.refl state)
          · exact .connect (fun _ => trivial) .dialog none nofun
  | connectDone index result writes =>
      simp only [handle]
      cases found : state.window.connecting[index]? with
      | none =>
          refine .unmoved (fun _ => ?_) (Unmoved.refl state)
          cases result with
          | error error => trivial
          | ok connected => simp [found]
      | some done => exact .done result writes found
  | passwordClosed | addConnClicked | formEdited | dialogCancelled | editSaveClicked | users
  | computers => exact .unmoved (fun _ => trivial) (unmoved_handle state not_false)

/-! The connections are well bound -/

theorem wellBound_connect (bound : state.WellBound) (flow : ConnectFlow)
    (handed : Option SbvProfile) {profile : SbvProfile}
    (kerberos : flow = .kerberos → handed = some profile) :
    WellBound { state.bindNext profile with
      window := (state.bindNext profile).window.connect flow handed } := by
  constructor
  · intro conn current
    exact Nat.lt_succ_of_lt (bound.conn conn current)
  · intro connecting member
    rcases List.mem_append.mp member with earlier | new
    · obtain ⟨below, started⟩ := bound.connecting connecting earlier
      refine ⟨Nat.lt_succ_of_lt below, ?_⟩
      simp only [bindNext, Function.update_of_ne (Nat.ne_of_lt below)]
      exact started
    · rw [List.mem_singleton] at new
      subst new
      refine ⟨Nat.lt_succ_self state.window.nextConn, profile, ?_, kerberos⟩
      exact Function.update_self state.window.nextConn (some profile) state.boundWith

theorem boundWith_bindNext (bound : state.WellBound) (profile : SbvProfile) {conn : ConnId}
    (current : conn ∈ state.window.conn) :
    (state.bindNext profile).boundWith conn = state.boundWith conn :=
  Function.update_of_ne (Nat.ne_of_lt (bound.conn conn current)) _ _

section Done

variable {done : Connecting}

theorem connected_conn : (state.connected done).window.conn = some done.conn := by
  unfold connected SbvWindow.onConnectDone
  cases done.flow with
  | kerberos | password | dialog => rfl

theorem connected_pending :
    (state.connected done).window.nextConn = state.window.nextConn ∧
      (state.connected done).window.connecting = state.window.connecting := by
  unfold connected SbvWindow.onConnectDone
  cases done.flow with
  | kerberos | password | dialog => exact ⟨rfl, rfl⟩

theorem connected_activeProfile :
    (state.connected done).window.activeProfile =
      if done.flow = .password then state.window.activeProfile else done.profile := by
  unfold connected SbvWindow.onConnectDone
  cases flow : done.flow with
  | kerberos | password | dialog => rfl

theorem describes_connected_iff {profile : SbvProfile}
    (started : state.boundWith done.conn = some profile) :
    (state.connected done).Describes ↔
      (if done.flow = .password then state.window.activeProfile else done.profile) =
        some profile := by
  rw [← connected_activeProfile]
  constructor
  · intro describes
    obtain ⟨other, bound, active⟩ := describes.active done.conn connected_conn
    rw [active, ← bound]
    exact started
  · intro active
    constructor
    · change (state.connected done).window.activeProfile.isNone = false
      rw [active]
      rfl
    · intro conn current
      rw [connected_conn, Option.mem_some_iff] at current
      subst current
      exact ⟨profile, started, active⟩

theorem wellBound_connected (bound : state.WellBound)
    (below : done.conn < state.window.nextConn) : (state.connected done).WellBound := by
  obtain ⟨nextConn, connecting⟩ := @connected_pending _ _ state done
  constructor
  · rw [connected_conn, nextConn]
    intro conn current
    rw [Option.mem_some_iff] at current
    exact current ▸ below
  · rw [connecting, nextConn]
    exact bound.connecting

theorem onConnectDone_pending (writes : Bool) (result : Except GError Unit) :
    (state.onConnectDone done writes result).window.nextConn = state.window.nextConn ∧
      (state.onConnectDone done writes result).window.connecting =
        state.window.connecting := by
  cases result with
  | error error =>
      simp only [onConnectDone, SbvWindow.onConnectDone]
      cases done.flow with
      | kerberos | password | dialog => exact ⟨rfl, rfl⟩
  | ok connected =>
      simp only [onConnectDone]
      split
      · exact connected_pending
      · exact connected_pending
      · split
        · exact ⟨rfl, rfl⟩
        · exact connected_pending

theorem wellBound_onConnectDone (bound : state.WellBound)
    (below : done.conn < state.window.nextConn) (writes : Bool)
    (result : Except GError Unit) : (state.onConnectDone done writes result).WellBound := by
  cases result with
  | error error =>
      simp only [onConnectDone, SbvWindow.onConnectDone]
      cases done.flow with
      | kerberos | password | dialog => exact ⟨bound.conn, bound.connecting⟩
  | ok connected =>
      simp only [onConnectDone]
      split
      · exact wellBound_connected bound below
      · exact wellBound_connected bound below
      · split
        · exact bound
        · apply wellBound_connected
          · exact ⟨bound.conn, bound.connecting⟩
          · exact below

theorem handsBound_iff (described : state.Describes) {profile : SbvProfile}
    (started : state.boundWith done.conn = some profile)
    (kerberos : done.flow = .kerberos → done.profile = some profile) (writes : Bool) :
    state.HandsBound done writes ↔ (state.onConnectDone done writes (.ok ())).Describes := by
  unfold HandsBound onConnectDone
  cases flow : done.flow with
  | kerberos =>
      dsimp only
      rw [describes_connected_iff started, flow]
      exact iff_of_true trivial (kerberos flow)
  | password =>
      dsimp only
      rw [describes_connected_iff started, flow, started, if_pos rfl]
  | dialog =>
      dsimp only
      cases form : state.dialog with
      | none => exact iff_of_true (by simp) described
      | some form =>
          refine Iff.trans ?_ (Iff.symm (describes_connected_iff started))
          rw [started, if_neg ConnectFlow.noConfusion,
            ConnectDialog.onConnectDone_eq_some_iff]
          simp [eq_comm]

end Done

theorem wellBound_connectToProfile (bound : state.WellBound) (profile : SbvProfile) :
    (state.connectToProfile profile).WellBound := by
  have activated : WellBound { state with window :=
      { state.window with activeProfile := some profile } } :=
    ⟨bound.conn, bound.connecting⟩
  unfold connectToProfile SbvWindow.connectToProfile
  cases profile.authType with
  | kerberos => exact wellBound_connect activated .kerberos (some profile) (fun _ => rfl)
  | simple => exact ⟨bound.conn, bound.connecting⟩

theorem wellBound_handles (bound : state.WellBound) {event : Event calendar}
    {after : ProfilesWindow calendar kf} (handles : state.Handles event after) :
    after.WellBound := by
  cases handles with
  | unmoved _ unmoved => exact unmoved.wellBound bound
  | row row => exact wellBound_connectToProfile bound _
  | connect _ flow handed kerberos => exact wellBound_connect bound flow handed kerberos
  | done result writes found =>
      apply wellBound_onConnectDone
      · constructor
        · exact bound.conn
        · intro connecting member
          exact bound.connecting connecting (List.mem_of_mem_eraseIdx member)
      · exact (bound.connecting _ (List.mem_of_getElem? found)).1

theorem wellBound_step (state : ProfilesWindow calendar kf) (event : Event calendar)
    (bound : state.WellBound) : (state.step event).WellBound := by
  unfold step
  split
  · exact bound
  · exact wellBound_handles bound (handles_handle state event)

theorem describes_connect (bound : state.WellBound) (described : state.Describes)
    (profile : SbvProfile) (flow : ConnectFlow) (handed : Option SbvProfile) :
    Describes { state.bindNext profile with
      window := (state.bindNext profile).window.connect flow handed } := by
  constructor
  · exact described.queried
  · intro conn current
    rw [boundWith_bindNext bound profile current]
    exact described.active conn current

theorem describes_connectToProfile_iff (bound : state.WellBound)
    (described : state.Describes) (profile : SbvProfile) :
    (∀ conn ∈ state.window.conn, state.boundWith conn = some profile) ↔
      (state.connectToProfile profile).Describes := by
  have active : (state.connectToProfile profile).window.activeProfile = some profile := by
    unfold connectToProfile SbvWindow.connectToProfile
    cases profile.authType with
    | kerberos | simple => rfl
  have same : ∀ conn ∈ state.window.conn,
      (state.connectToProfile profile).boundWith conn = state.boundWith conn := by
    intro conn current
    unfold connectToProfile
    cases profile.authType with
    | kerberos => exact boundWith_bindNext bound profile current
    | simple => rfl
  have conns : (state.connectToProfile profile).window.conn = state.window.conn := by
    unfold connectToProfile SbvWindow.connectToProfile
    cases profile.authType with
    | kerberos | simple => rfl
  have queried : (state.connectToProfile profile).crashed = state.crashed := by
    unfold connectToProfile
    cases profile.authType with
    | kerberos | simple => rfl
  constructor
  · intro only
    refine ⟨queried.trans described.queried, ?_⟩
    rw [conns]
    intro conn current
    exact ⟨profile, (same conn current).trans (only conn current), active⟩
  · intro describes conn current
    obtain ⟨other, started, shown⟩ := describes.active conn (conns ▸ current)
    rw [← same conn current, started, ← shown, active]

theorem describes_onConnectDone_error (described : state.Describes) (done : Connecting)
    (error : GError) (writes : Bool) :
    (state.onConnectDone done writes (.error error)).Describes := by
  simp only [onConnectDone, SbvWindow.onConnectDone]
  cases done.flow with
  | kerberos | password | dialog => exact ⟨described.queried, described.active⟩

theorem keeps_iff_handles (alive : state.dead = false) (bound : state.WellBound)
    (described : state.Describes) {event : Event calendar}
    {after : ProfilesWindow calendar kf} (handles : state.Handles event after) :
    state.Keeps event ↔ after.Describes := by
  cases handles with
  | unmoved keeps unmoved => exact iff_of_true keeps (unmoved.describes described)
  | row row =>
      rw [← describes_connectToProfile_iff bound described]
      simp [Keeps, alive, row]
  | connect keeps flow handed kerberos =>
      exact iff_of_true keeps (describes_connect bound described _ flow handed)
  | @done index done result writes found =>
      have ⟨_, profile, started, kerberos⟩ :=
        bound.connecting done (List.mem_of_getElem? found)
      have kept : Describes { state with
          window := { state.window with
            connecting := state.window.connecting.eraseIdx index } } :=
        ⟨described.queried, described.active⟩
      cases result with
      | error error =>
          refine iff_of_true (fun _ => trivial) ?_
          exact describes_onConnectDone_error kept done error writes
      | ok connected =>
          simp only [Keeps, alive, true_imp_iff, found, Option.mem_some_iff, forall_eq']
          exact handsBound_iff kept started kerberos writes

theorem keeps_iff_step (state : ProfilesWindow calendar kf) (event : Event calendar)
    (bound : state.WellBound) (described : state.Describes) :
    state.Keeps event ↔ (state.step event).Describes := by
  unfold step
  split
  next dead =>
    refine iff_of_true (fun alive => ?_) described
    rw [dead] at alive
    cases alive
  next alive =>
    rw [Bool.not_eq_true] at alive
    exact keeps_iff_handles alive bound described (handles_handle state event)

/-- Over every run of a new window: the active profile is the one the connection is bound
with in every state, exactly where no row of another profile is activated once there is a
connection, a password connect completes while its profile is active still, and a dialog
connect completes with a name, a save that succeeds and the form as it was. -/
theorem describes_throughout_iff (profiles : Profiles kf) (usersForm : Users.Form)
    (computersForm : Computers.Form) (events : List (Event calendar)) :
    Along step Keeps (opened profiles usersForm computersForm) events ↔
      Throughout step Describes (opened profiles usersForm computersForm) events := by
  apply along_iff_throughout_within Describes WellBound wellBound_step keeps_iff_step
  · constructor
    · intro conn current
      cases current
    · intro connecting member
      cases member
  · constructor
    · rfl
    · intro conn current
      cases current

/-- After a connect with the first row, a connect with the second one that fails leaves
the second one active; and a dialog connect with no name ends in a query with no profile. -/
theorem second_row_active :
    let profiles : Profiles plainKeyFile :=
      { store := [Backend.labProfile "Lab", Backend.labProfile "Office"], file := noFile }
    let first := @opened Users.noCalendar _ profiles {} {}
    let rows : List (Event Users.noCalendar) :=
      [ .rowActivated 0, .connectDone 0 (.ok ()) true, .rowActivated 1,
        .connectDone 0 (.error { code := .connection, text := [] }) true ]
    let unnamed : List (Event Users.noCalendar) :=
      [ .addConnClicked, .formEdited (ConnectDialog.labForm ""), .dialogConnect,
        .connectDone 0 (.ok ()) true ]
    ¬ Throughout step Describes first rows ∧ (run step first unnamed).crashed = true := by
  intro profiles first rows unnamed
  constructor
  · intro throughout
    obtain ⟨profile, started, active⟩ := throughout.last.active 0 (by decide)
    have lab : profile = Backend.labProfile "Lab" :=
      Option.some.inj (started.symm.trans (by decide))
    have office : profile = Backend.labProfile "Office" :=
      Option.some.inj (active.symm.trans (by decide))
    exact absurd (lab.symm.trans office) (by decide)
  · decide

end ProfilesWindow

end Sambervise.Ui
