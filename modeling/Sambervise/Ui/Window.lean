import Sambervise.Transition.Run
import Sambervise.Ui.ComputersPanel
import Sambervise.Ui.UsersPanel

namespace Sambervise.Ui

open Text Model Backend Transition

/-! The window: the profiles it connects with, the connection it shows, and the two
account panels. The other panels are left out. -/

/-- The ways to a connection: a profile row, the password dialog, the connect dialog. -/
inductive ConnectFlow where
  | kerberos
  | password
  | dialog
  deriving DecidableEq, Repr

/-- A connect in flight, with the profile its completion hands to the window; the
password dialog hands on what is active by then. -/
structure Connecting where
  conn : ConnId
  flow : ConnectFlow
  profile : Option SbvProfile

structure SbvWindow (calendar : Users.GDateTimeUtc) where
  conn : Option ConnId := none
  activeProfile : Option SbvProfile := none
  nextConn : ConnId := 0
  connecting : List Connecting := []
  passwordFor : Option SbvProfile := none
  toast : Option GError := none
  usersPanel : UsersPanel calendar
  computersPanel : ComputersPanel

namespace SbvWindow

variable {calendar : Users.GDateTimeUtc}

def opened (usersForm : Users.Form) (computersForm : Computers.Form) :
    SbvWindow calendar :=
  { usersPanel := .opened usersForm, computersPanel := .opened computersForm }

def sbvWindowOnConnected (self : SbvWindow calendar) (conn : ConnId)
    (profile : Option SbvProfile) : SbvWindow calendar :=
  { self with
    conn := some conn
    activeProfile := profile
    usersPanel := self.usersPanel.step (.load conn)
    computersPanel := self.computersPanel.step (.load conn) }

def connect (self : SbvWindow calendar) (flow : ConnectFlow)
    (profile : Option SbvProfile) : SbvWindow calendar :=
  { self with
    nextConn := self.nextConn + 1
    connecting := self.connecting ++ [{ conn := self.nextConn, flow, profile }] }

def connectToProfile (self : SbvWindow calendar) (profile : SbvProfile) :
    SbvWindow calendar :=
  let self := { self with activeProfile := some profile }
  match profile.authType with
  | .kerberos => self.connect .kerberos (some profile)
  | .simple => { self with passwordFor := some profile }

def onConnectDone (self : SbvWindow calendar) (done : Connecting) :
    Except GError Unit → SbvWindow calendar
  | .error error =>
      match done.flow with
      | .kerberos => { self with toast := some error }
      | .password | .dialog => self
  | .ok () =>
      match done.flow with
      | .kerberos | .dialog => self.sbvWindowOnConnected done.conn done.profile
      | .password =>
          sbvWindowOnConnected { self with passwordFor := none } done.conn
            self.activeProfile

inductive Event (calendar : Users.GDateTimeUtc) where
  | profileActivated (profile : SbvProfile)
  | passwordConnect
  | passwordClosed
  /-- The connect dialog, with the profile it will have saved, if it has a name. -/
  | dialogConnect (profile : Option SbvProfile)
  /-- The connect at this place among those in flight completes. -/
  | connectDone (index : Nat) (result : Except GError Unit)
  | users (event : AccountPanel.Event (usersKind calendar))
  | computers (event : AccountPanel.Event computersKind)

/-- A panel is handed a connection by the window only. -/
def handle (self : SbvWindow calendar) : Event calendar → SbvWindow calendar
  | .profileActivated profile => self.connectToProfile profile
  | .passwordConnect =>
      match self.passwordFor with
      | none => self
      | some profile => self.connect .password (some profile)
  | .passwordClosed => { self with passwordFor := none }
  | .dialogConnect profile => self.connect .dialog profile
  | .connectDone index result =>
      match self.connecting[index]? with
      | none => self
      | some done =>
          onConnectDone { self with connecting := self.connecting.eraseIdx index } done
            result
  | .users (.load _) => self
  | .users event => { self with usersPanel := self.usersPanel.step event }
  | .computers (.load _) => self
  | .computers event => { self with computersPanel := self.computersPanel.step event }

def crashed (self : SbvWindow calendar) : Bool :=
  self.usersPanel.crashed || self.computersPanel.crashed

def step (self : SbvWindow calendar) (event : Event calendar) : SbvWindow calendar :=
  if self.crashed then self else self.handle event

/-! The users panel and the window's connection -/

def Follows (self : SbvWindow calendar) : Prop := self.usersPanel.conn = self.conn

instance (self : SbvWindow calendar) : Decidable self.Follows :=
  inferInstanceAs (Decidable (_ = _))

/-- A completion that makes the users panel reload is one of an operation started over
the connection the window has. -/
def StartedHere (self : SbvWindow calendar) : Event calendar → Prop
  | .users (.load _) => True
  | .users event =>
      self.crashed = false →
        ∀ conn ∈ self.usersPanel.reloadsOver event, self.conn = some conn
  | _ => True

theorem follows_onConnected {self : SbvWindow calendar} (alive : self.crashed = false)
    (conn : ConnId) (profile : Option SbvProfile) :
    (self.sbvWindowOnConnected conn profile).Follows := by
  rw [crashed, Bool.or_eq_false_iff] at alive
  rw [Follows, sbvWindowOnConnected, AccountPanel.step, if_neg (by simp [alive.1])]
  rfl

theorem follows_onConnectDone {self : SbvWindow calendar} (alive : self.crashed = false)
    (follows : self.Follows) (done : Connecting) (result : Except GError Unit) :
    (self.onConnectDone done result).Follows := by
  cases result with
  | error error =>
      simp only [onConnectDone]
      split
      · exact follows
      · exact follows
      · exact follows
  | ok connected =>
      simp only [onConnectDone]
      split
      · exact follows_onConnected alive done.conn done.profile
      · exact follows_onConnected alive done.conn done.profile
      · exact follows_onConnected alive done.conn self.activeProfile

theorem follows_users_iff {self : SbvWindow calendar} (alive : self.crashed = false)
    (follows : self.Follows) (event : AccountPanel.Event (usersKind calendar)) :
    (self.crashed = false →
        ∀ conn ∈ self.usersPanel.reloadsOver event, self.conn = some conn) ↔
      Follows { self with usersPanel := self.usersPanel.step event } := by
  simp only [alive, true_imp_iff]
  rw [crashed, Bool.or_eq_false_iff] at alive
  rw [Follows, AccountPanel.step, if_neg (by simp [alive.1]), AccountPanel.conn_handle]
  cases reloads : self.usersPanel.reloadsOver event with
  | none => exact iff_of_true (by simp) follows
  | some conn => simp [eq_comm]

theorem startedHere_of_crashed {self : SbvWindow calendar} (dead : self.crashed = true)
    (event : Event calendar) : self.StartedHere event := by
  cases event with
  | users event =>
      cases event with
      | load conn => trivial
      | listed | done | rowSelected | edited | saveClicked | buttonClicked | addClicked
      | createClosed | created | deleteClicked | confirmTyped | confirmClicked
      | confirmClosed =>
          intro alive
          rw [dead] at alive
          cases alive
  | profileActivated | passwordConnect | passwordClosed | dialogConnect | connectDone
  | computers => trivial

theorem startedHere_iff_handle {self : SbvWindow calendar} (alive : self.crashed = false)
    (follows : self.Follows) (event : Event calendar) :
    self.StartedHere event ↔ (self.handle event).Follows := by
  cases event with
  | profileActivated profile =>
      refine iff_of_true trivial ?_
      simp only [handle, connectToProfile]
      split
      · exact follows
      · exact follows
  | passwordConnect =>
      refine iff_of_true trivial ?_
      simp only [handle]
      split
      · exact follows
      · exact follows
  | passwordClosed => exact iff_of_true trivial follows
  | dialogConnect profile => exact iff_of_true trivial follows
  | connectDone index result =>
      refine iff_of_true trivial ?_
      simp only [handle]
      split
      · exact follows
      · apply follows_onConnectDone
        · exact alive
        · exact follows
  | users event =>
      cases event with
      | load conn => exact iff_of_true trivial follows
      | listed | done | rowSelected | edited | saveClicked | buttonClicked | addClicked
      | createClosed | created | deleteClicked | confirmTyped | confirmClicked
      | confirmClosed => exact follows_users_iff alive follows _
  | computers event =>
      refine iff_of_true trivial ?_
      cases event with
      | load conn => exact follows
      | listed | done | rowSelected | edited | saveClicked | buttonClicked | addClicked
      | createClosed | created | deleteClicked | confirmTyped | confirmClicked
      | confirmClosed => exact follows

theorem startedHere_iff_step (self : SbvWindow calendar) (event : Event calendar)
    (follows : self.Follows) : self.StartedHere event ↔ (self.step event).Follows := by
  unfold step
  split
  next dead =>
    exact iff_of_true (startedHere_of_crashed dead event) follows
  next alive =>
    rw [Bool.not_eq_true] at alive
    exact startedHere_iff_handle alive follows event

/-- Over every run of a new window: the users panel has the window's connection in every
state, exactly where every completion that makes it reload is one of an operation
started over the connection the window has then. -/
theorem follows_throughout_iff (usersForm : Users.Form) (computersForm : Computers.Form)
    (events : List (Event calendar)) :
    Along step StartedHere (opened usersForm computersForm) events ↔
      Throughout step Follows (opened usersForm computersForm) events :=
  along_iff_throughout Follows startedHere_iff_step rfl

/-- A save over the first connection that completes after the second one was made takes
the users panel back to the first. -/
theorem save_takes_panel_back :
    let profile : SbvProfile := {}
    let account : SbvUser := { dn := some (cstr "CN=a"), sam := some (cstr "a") }
    let final := run (@step Users.noCalendar) (opened {} {})
      [ .profileActivated profile, .connectDone 0 (.ok ()),
        .users (.listed 0 (.ok [account])), .users (.rowSelected (some 0)),
        .users .saveClicked, .profileActivated profile, .connectDone 0 (.ok ()),
        .users (.done 0 (.ok ())) ]
    final.conn = some 1 ∧ final.usersPanel.conn = some 0 ∧ ¬ final.Follows := by
  decide

end SbvWindow

end Sambervise.Ui
