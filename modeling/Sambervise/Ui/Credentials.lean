import Sambervise.Ui.ActiveProfile

namespace Sambervise.Ui

open Text Model Backend Transition

/-! What the connections are bound with -/

/-- What `connect_thread` goes by for the bind. -/
structure BindCredentials where
  authType : SbvAuthType
  bindDn : Option CString
  password : Option CString
  deriving DecidableEq, Repr

/-- libldap takes a missing text for an empty one. -/
def Given (text : Option CString) : Prop := text.getD [] ≠ []

instance (text : Option CString) : Decidable (Given text) := inferInstanceAs (Decidable (¬ _))

def BindCredentials.Authenticated (bind : BindCredentials) : Prop :=
  bind.authType = .simple → Given bind.bindDn ∧ Given bind.password

structure BindsWindow (calendar : Users.GDateTimeUtc) (kf : GKeyFile) where
  profilesWindow : ProfilesWindow calendar kf
  credentials : ConnId → Option BindCredentials := fun _ => none
  connected : List BindCredentials := []

namespace BindsWindow

variable {calendar : Users.GDateTimeUtc} {kf : GKeyFile}

def connecting (self : BindsWindow calendar kf) : List Connecting :=
  self.profilesWindow.window.connecting

def nextConn (self : BindsWindow calendar kf) : ConnId := self.profilesWindow.window.nextConn

inductive Event (calendar : Users.GDateTimeUtc) where
  /-- Connect in the password dialog, with the text of its entry. -/
  | passwordConnect (passwordEntry : CString)
  | other (event : ProfilesWindow.Event calendar)

def bindOf (profile : SbvProfile) (password : Option CString) : BindCredentials :=
  { authType := profile.authType, bindDn := profile.bindDn, password }

def dialogBind (form : ConnectDialog.Form) : BindCredentials :=
  bindOf (ConnectDialog.buildProfile form)
    (if form.simpleRadio then some form.passwordEntry else none)

def startBind (self : BindsWindow calendar kf) (event : ProfilesWindow.Event calendar)
    (bind : Option BindCredentials) : BindsWindow calendar kf :=
  let profilesWindow := self.profilesWindow.handle event
  { self with
    profilesWindow
    credentials :=
      if profilesWindow.window.nextConn = self.nextConn then self.credentials
      else Function.update self.credentials self.nextConn bind }

def handle (self : BindsWindow calendar kf) : Event calendar → BindsWindow calendar kf
  | .passwordConnect passwordEntry =>
      self.startBind .passwordConnect
        (self.profilesWindow.window.passwordFor.map
          (fun profile => bindOf profile (some passwordEntry)))
  | .other .passwordConnect => self
  | .other (.rowActivated index) =>
      self.startBind (.rowActivated index)
        (self.profilesWindow.rows[index]?.map (fun profile => bindOf profile none))
  | .other .dialogConnect =>
      self.startBind .dialogConnect (self.profilesWindow.dialog.map dialogBind)
  | .other (.connectDone index result writes) =>
      { self with
        profilesWindow := self.profilesWindow.handle (.connectDone index result writes)
        connected :=
          match result with
          | .error _ => self.connected
          | .ok () =>
              self.connected ++
                self.connecting[index]?.toList.filterMap
                  (fun done => self.credentials done.conn) }
  | .other event => { self with profilesWindow := self.profilesWindow.handle event }

def step (self : BindsWindow calendar kf) (event : Event calendar) : BindsWindow calendar kf :=
  if self.profilesWindow.dead then self else self.handle event

variable {state : BindsWindow calendar kf}

/-- No simple bind that succeeded was without a name or a password. -/
def NoAnonymous (state : BindsWindow calendar kf) : Prop :=
  ∀ bind ∈ state.connected, bind.Authenticated

/-- The connect dialog has asked for the name, the password dialog for nothing. -/
def GivenBy (bind : BindCredentials) : ConnectFlow → Prop
  | .kerberos => True
  | .dialog => bind.authType = .simple → Given bind.password
  | .password => bind.authType = .simple → Given bind.bindDn ∧ Given bind.password

/-- A simple connect that succeeds was started with a password, and from the password dialog
for a profile with a bind DN. -/
def Entered (state : BindsWindow calendar kf) (event : Event calendar) : Prop :=
  state.profilesWindow.dead = false →
    match event with
    | .other (.connectDone index (.ok ()) _) => ∀ done ∈ state.connecting[index]?,
        ∀ bind ∈ state.credentials done.conn, GivenBy bind done.flow
    | _ => True

/-- What each way to a connection has seen to. -/
def CheckedBy (bind : BindCredentials) : ConnectFlow → Prop
  | .kerberos => bind.authType = .kerberos
  | .dialog => bind.authType = .simple → Given bind.bindDn
  | .password => True

theorem givenBy_iff {bind : BindCredentials} {flow : ConnectFlow}
    (checked : CheckedBy bind flow) : GivenBy bind flow ↔ bind.Authenticated := by
  cases flow with
  | kerberos =>
      refine iff_of_true trivial (fun simple => ?_)
      rw [show bind.authType = .kerberos from checked] at simple
      cases simple
  | dialog =>
      constructor
      · exact fun given simple => ⟨checked simple, given simple⟩
      · exact fun given simple => (given simple).2
  | password => exact Iff.rfl

theorem checkedBy_dialogBind {form : ConnectDialog.Form}
    (valid : ConnectDialog.validateInputs form true = none) :
    CheckedBy (dialogBind form) .dialog := by
  intro simple
  have radio : form.simpleRadio = true := by
    by_contra kerberos
    simp [dialogBind, bindOf, ConnectDialog.buildProfile, kerberos] at simple
  have named : form.bindDnEntry ≠ [] := by
    intro empty
    unfold ConnectDialog.validateInputs at valid
    split at valid
    · cases valid
    · rw [if_pos ⟨radio, rfl, empty⟩] at valid
      cases valid
  simpa [Given, dialogBind, bindOf, ConnectDialog.buildProfile, radio] using named

/-- Every connect in flight has its credentials, as its way in has checked them. -/
def Checked (state : BindsWindow calendar kf) : Prop :=
  ∀ connecting ∈ state.connecting, connecting.conn < state.nextConn ∧
    ∃ bind, state.credentials connecting.conn = some bind ∧ CheckedBy bind connecting.flow

/-! What an event does -/

/-- The connects in flight and their credentials are as they were, one is started, or one
is done. -/
inductive Handles (state : BindsWindow calendar kf) :
    Event calendar → BindsWindow calendar kf → Prop
  | idle {event : Event calendar} {after : BindsWindow calendar kf}
      (entered : state.Entered event) (connecting : after.connecting = state.connecting)
      (nextConn : after.nextConn = state.nextConn)
      (credentials : after.credentials = state.credentials)
      (connected : after.connected = state.connected) :
      Handles state event after
  | connect {event : Event calendar} {after : BindsWindow calendar kf}
      {connecting : Connecting} {bind : BindCredentials} (entered : state.Entered event)
      (new : connecting.conn = state.nextConn) (checked : CheckedBy bind connecting.flow)
      (started : after.connecting = state.connecting ++ [connecting])
      (nextConn : after.nextConn = state.nextConn + 1)
      (credentials : after.credentials =
        Function.update state.credentials state.nextConn (some bind))
      (connected : after.connected = state.connected) :
      Handles state event after
  | failed {index : Nat} {error : GError} {writes : Bool} {after : BindsWindow calendar kf}
      (connecting : after.connecting = state.connecting.eraseIdx index)
      (nextConn : after.nextConn = state.nextConn)
      (credentials : after.credentials = state.credentials)
      (connected : after.connected = state.connected) :
      Handles state (.other (.connectDone index (.error error) writes)) after
  | done {index : Nat} {writes : Bool} {done : Connecting} {after : BindsWindow calendar kf}
      (found : state.connecting[index]? = some done)
      (connecting : after.connecting = state.connecting.eraseIdx index)
      (nextConn : after.nextConn = state.nextConn)
      (credentials : after.credentials = state.credentials)
      (connected : after.connected = state.connected ++ (state.credentials done.conn).toList) :
      Handles state (.other (.connectDone index (.ok ()) writes)) after

theorem handles_other {event : Event calendar} (entered : state.Entered event)
    {other : ProfilesWindow.Event calendar} {after : BindsWindow calendar kf}
    (handled : after = { state with profilesWindow := state.profilesWindow.handle other })
    (quiet : ¬ other.Connects) : state.Handles event after := by
  have unmoved := ProfilesWindow.unmoved_handle state.profilesWindow quiet
  rw [handled]
  exact .idle entered unmoved.connecting unmoved.nextConn rfl rfl

theorem startBind_unmoved {event : ProfilesWindow.Event calendar}
    (same : state.profilesWindow.handle event = state.profilesWindow)
    (bind : Option BindCredentials) : state.startBind event bind = state := by
  simp only [startBind, same]
  rw [if_pos (show state.profilesWindow.window.nextConn = state.nextConn from rfl)]

theorem handles_startBind {event : Event calendar} (entered : state.Entered event)
    {started : ProfilesWindow.Event calendar} {window : SbvWindow calendar}
    {flow : ConnectFlow} {handed : Option SbvProfile}
    (connects : (state.profilesWindow.handle started).window = window.connect flow handed)
    (connecting : window.connecting = state.connecting)
    (nextConn : window.nextConn = state.nextConn) {bind : BindCredentials}
    (checked : CheckedBy bind flow) :
    state.Handles event (state.startBind started (some bind)) := by
  let new : Connecting := { conn := window.nextConn, flow, profile := handed }
  apply @Handles.connect _ _ _ _ _ new bind entered nextConn checked
  · rw [← connecting]
    exact congrArg SbvWindow.connecting connects
  · rw [← nextConn]
    exact congrArg SbvWindow.nextConn connects
  · simp only [startBind, connects]
    rw [if_neg]
    rw [← nextConn]
    exact Nat.succ_ne_self window.nextConn
  · rfl

theorem handles_passwordConnect (state : BindsWindow calendar kf) (passwordEntry : CString) :
    state.Handles (.passwordConnect passwordEntry)
      (state.handle (.passwordConnect passwordEntry)) := by
  have entered : state.Entered (.passwordConnect passwordEntry) := fun _ => trivial
  have idle : ∀ bind, state.profilesWindow.handle .passwordConnect = state.profilesWindow →
      state.Handles (.passwordConnect passwordEntry)
        (state.startBind .passwordConnect bind) := by
    intro bind same
    rw [startBind_unmoved same]
    exact .idle entered rfl rfl rfl rfl
  simp only [handle]
  cases busy : state.profilesWindow.busy .password with
  | true => exact idle _ (by simp [ProfilesWindow.handle, busy])
  | false =>
      cases shown : state.profilesWindow.window.passwordFor with
      | none =>
          exact idle _ (by simp [ProfilesWindow.handle, ProfilesWindow.passwordConnect, shown])
      | some profile =>
          have connects : (state.profilesWindow.handle .passwordConnect).window =
              state.profilesWindow.window.connect .password (some profile) := by
            simp [ProfilesWindow.handle, busy, ProfilesWindow.passwordConnect, shown,
              ProfilesWindow.bindNext]
          exact handles_startBind entered connects rfl rfl trivial

theorem handles_rowActivated (state : BindsWindow calendar kf) (index : Nat) :
    state.Handles (.other (.rowActivated index))
      (state.handle (.other (.rowActivated index))) := by
  have entered : state.Entered (.other (.rowActivated index)) := fun _ => trivial
  simp only [handle]
  cases row : state.profilesWindow.rows[index]? with
  | none =>
      rw [startBind_unmoved]
      · exact .idle entered rfl rfl rfl rfl
      · simp [ProfilesWindow.handle, row]
  | some profile =>
      cases auth : profile.authType with
      | kerberos =>
          have connects : (state.profilesWindow.handle (.rowActivated index)).window =
              SbvWindow.connect
                { state.profilesWindow.window with activeProfile := some profile }
                .kerberos (some profile) := by
            simp [ProfilesWindow.handle, row, ProfilesWindow.connectToProfile, auth,
              ProfilesWindow.bindNext, SbvWindow.connectToProfile]
          exact handles_startBind entered connects rfl rfl auth
      | simple =>
          have shown : (state.profilesWindow.handle (.rowActivated index)).window =
              { state.profilesWindow.window with
                activeProfile := some profile, passwordFor := some profile } := by
            simp [ProfilesWindow.handle, row, ProfilesWindow.connectToProfile, auth,
              SbvWindow.connectToProfile]
          simp only [startBind, shown]
          refine .idle entered ?_ ?_ (if_pos rfl) rfl
          · simp only [connecting, shown]
          · simp only [nextConn, shown]

theorem handles_dialogConnect (state : BindsWindow calendar kf) :
    state.Handles (.other .dialogConnect) (state.handle (.other .dialogConnect)) := by
  have entered : state.Entered (.other .dialogConnect) := fun _ => trivial
  have idle : ∀ bind, state.profilesWindow.handle .dialogConnect = state.profilesWindow →
      state.Handles (.other .dialogConnect) (state.startBind .dialogConnect bind) := by
    intro bind same
    rw [startBind_unmoved same]
    exact .idle entered rfl rfl rfl rfl
  simp only [handle]
  cases shown : state.profilesWindow.dialog with
  | none => exact idle _ (by simp [ProfilesWindow.handle, shown])
  | some form =>
      cases busy : state.profilesWindow.busy .dialog with
      | true => exact idle _ (by simp [ProfilesWindow.handle, shown, busy])
      | false =>
          cases valid : ConnectDialog.validateInputs form true with
          | some text =>
              exact idle _ (by
                simp [ProfilesWindow.handle, shown, busy, ProfilesWindow.dialogConnect, valid])
          | none =>
              have connects : (state.profilesWindow.handle .dialogConnect).window =
                  state.profilesWindow.window.connect .dialog none := by
                simp [ProfilesWindow.handle, shown, busy, ProfilesWindow.dialogConnect, valid,
                  ProfilesWindow.bindNext]
              exact handles_startBind entered connects rfl rfl (checkedBy_dialogBind valid)

theorem connecting_connectDone (state : ProfilesWindow calendar kf) (index : Nat)
    (result : Except GError Unit) (writes : Bool) :
    (state.handle (.connectDone index result writes)).window.connecting =
        state.window.connecting.eraseIdx index ∧
      (state.handle (.connectDone index result writes)).window.nextConn =
        state.window.nextConn := by
  simp only [ProfilesWindow.handle]
  split
  next nothing =>
    exact ⟨(List.eraseIdx_of_length_le (List.getElem?_eq_none_iff.mp nothing)).symm, rfl⟩
  · obtain ⟨nextConn, connecting⟩ := ProfilesWindow.onConnectDone_pending writes result
    exact ⟨connecting, nextConn⟩

theorem handles_connectDone (checked : state.Checked) (index : Nat)
    (result : Except GError Unit) (writes : Bool) :
    state.Handles (.other (.connectDone index result writes))
      (state.handle (.other (.connectDone index result writes))) := by
  obtain ⟨connecting, nextConn⟩ :=
    connecting_connectDone state.profilesWindow index result writes
  cases result with
  | error error => exact .failed connecting nextConn rfl rfl
  | ok made =>
      cases found : state.connecting[index]? with
      | none =>
          have kept : state.profilesWindow.handle (.connectDone index (.ok ()) writes) =
              state.profilesWindow := by
            have nothing : state.profilesWindow.window.connecting[index]? = none := found
            simp only [ProfilesWindow.handle, nothing]
          refine .idle (fun _ => ?_) ?_ nextConn rfl ?_
          · simp [found]
          · simp only [handle, BindsWindow.connecting, kept]
          · simp [handle, found]
      | some done =>
          obtain ⟨_, bind, started, _⟩ := checked done (List.mem_of_getElem? found)
          refine .done found connecting nextConn ?_ ?_
          · rfl
          · simp [handle, found, started]

theorem handles_handle (checked : state.Checked) (event : Event calendar) :
    state.Handles event (state.handle event) := by
  cases event with
  | passwordConnect passwordEntry => exact handles_passwordConnect state passwordEntry
  | other event =>
      cases event with
      | passwordConnect => exact .idle (fun _ => trivial) rfl rfl rfl rfl
      | rowActivated index => exact handles_rowActivated state index
      | dialogConnect => exact handles_dialogConnect state
      | connectDone index result writes => exact handles_connectDone checked index result writes
      | passwordClosed | addConnClicked | formEdited | dialogCancelled | editSaveClicked
      | users | computers =>
          exact handles_other (fun _ => trivial) rfl not_false

/-! Which binds succeed -/

theorem checked_handles (checked : state.Checked) {event : Event calendar}
    {after : BindsWindow calendar kf} (handles : state.Handles event after) :
    after.Checked := by
  unfold Checked
  cases handles with
  | idle _ connecting nextConn credentials _ =>
      rw [connecting, nextConn, credentials]
      exact checked
  | connect _ new here started nextConn credentials _ =>
      rw [started, nextConn, credentials]
      intro connecting member
      rcases List.mem_append.mp member with earlier | last
      · obtain ⟨below, bind, recorded, here⟩ := checked connecting earlier
        refine ⟨Nat.lt_succ_of_lt below, bind, ?_, here⟩
        rw [Function.update_of_ne (Nat.ne_of_lt below)]
        exact recorded
      · rw [List.mem_singleton] at last
        subst last
        rw [new, Function.update_self]
        exact ⟨Nat.lt_succ_self state.nextConn, _, rfl, here⟩
  | failed connecting nextConn credentials _ | done _ connecting nextConn credentials _ =>
      rw [connecting, nextConn, credentials]
      exact fun other member => checked other (List.mem_of_mem_eraseIdx member)

theorem entered_iff_handles (alive : state.profilesWindow.dead = false)
    (checked : state.Checked) (authenticated : state.NoAnonymous) {event : Event calendar}
    {after : BindsWindow calendar kf} (handles : state.Handles event after) :
    state.Entered event ↔ after.NoAnonymous := by
  unfold NoAnonymous
  cases handles with
  | idle entered _ _ _ connected | connect entered _ _ _ _ _ connected =>
      rw [connected]
      exact iff_of_true entered authenticated
  | failed _ _ _ connected =>
      rw [connected]
      exact iff_of_true (fun _ => trivial) authenticated
  | @done _ _ done _ found _ _ _ connected =>
      obtain ⟨_, bind, recorded, here⟩ := checked done (List.mem_of_getElem? found)
      rw [connected, recorded, Option.toList_some, List.forall_mem_append,
        List.forall_mem_singleton, ← givenBy_iff here]
      simp only [Entered, alive, true_imp_iff, found, Option.mem_some_iff, forall_eq', recorded]
      exact (and_iff_right authenticated).symm

theorem checked_step (state : BindsWindow calendar kf) (event : Event calendar)
    (checked : state.Checked) : (state.step event).Checked := by
  unfold step
  split
  · exact checked
  · exact checked_handles checked (handles_handle checked event)

theorem entered_iff_step (state : BindsWindow calendar kf) (event : Event calendar)
    (checked : state.Checked) (authenticated : state.NoAnonymous) :
    state.Entered event ↔ (state.step event).NoAnonymous := by
  unfold step
  split
  next dead =>
    refine iff_of_true (fun alive => ?_) authenticated
    rw [dead] at alive
    cases alive
  next alive =>
    rw [Bool.not_eq_true] at alive
    exact entered_iff_handles alive checked authenticated (handles_handle checked event)

/-- Over every run of a new window: every simple bind that succeeds has a name and a
password, exactly where every connect that succeeds was started with what its dialog does
not ask for. -/
theorem noAnonymous_throughout_iff (profiles : Profiles kf) (usersForm : Users.Form)
    (computersForm : Computers.Form) (events : List (Event calendar)) :
    let first : BindsWindow calendar kf :=
      { profilesWindow := .opened profiles usersForm computersForm }
    Along step Entered first events ↔ Throughout step NoAnonymous first events := by
  intro first
  apply along_iff_throughout_within NoAnonymous Checked checked_step entered_iff_step
  · intro connecting member
    cases member
  · intro bind member
    cases member

/-- A profile saved without a bind DN is connected with no password from its row; a profile
with one is connected with no password from the connect dialog. -/
theorem bound_as_nobody :
    let profiles : Profiles plainKeyFile :=
      { store := [Backend.labProfile "Home"], file := noFile }
    let first : BindsWindow Users.noCalendar plainKeyFile :=
      { profilesWindow := .opened profiles {} {} }
    let nameless : ConnectDialog.Form := { ConnectDialog.labForm "Home" with simpleRadio := true }
    let named : ConnectDialog.Form := { nameless with bindDnEntry := cstr "CN=admin" }
    let row : List (Event Users.noCalendar) :=
      [ .other (.editSaveClicked (some (cstr "Home")) {} nameless), .other (.rowActivated 0),
        .passwordConnect [], .other (.connectDone 0 (.ok ()) true) ]
    let dialog : List (Event Users.noCalendar) :=
      [ .other .addConnClicked, .other (.formEdited named), .other .dialogConnect,
        .other (.connectDone 0 (.ok ()) true) ]
    (run step first row).connected =
        [{ authType := .simple, bindDn := some [], password := some [] }] ∧
      (run step first dialog).connected =
        [{ authType := .simple, bindDn := some (cstr "CN=admin"), password := some [] }] ∧
      ¬ Throughout step NoAnonymous first row ∧ ¬ Throughout step NoAnonymous first dialog := by
  intro profiles first nameless named row dialog
  have byRow : (run step first row).connected =
      [{ authType := .simple, bindDn := some [], password := some [] }] := by decide
  have byDialog : (run step first dialog).connected =
      [{ authType := .simple, bindDn := some (cstr "CN=admin"), password := some [] }] := by
    decide
  refine ⟨byRow, byDialog, fun throughout => ?_, fun throughout => ?_⟩
  · have authenticated := throughout.last _ (byRow ▸ List.mem_singleton_self _) rfl
    exact authenticated.2 rfl
  · have authenticated := throughout.last _ (byDialog ▸ List.mem_singleton_self _) rfl
    exact authenticated.2 rfl

end BindsWindow

end Sambervise.Ui
