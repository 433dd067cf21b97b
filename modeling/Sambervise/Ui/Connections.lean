import Sambervise.Transition.Run
import Sambervise.Ui.UsersPanel

namespace Sambervise.Ui

open Text Model Backend Transition

/-! Over which connection the objects on show were listed, and over which one the panel
writes. -/

structure ListPanel.Shows {α : Type} (panel : ListPanel α) : Prop where
  rows : panel.outerStack = .split → ∀ row ∈ panel.rows, panel.conn = some row.listedOver
  detail : panel.shown = true →
    ∀ object ∈ panel.selected, panel.conn = some object.listedOver

namespace ListPanel

variable {α : Type} {self : ListPanel α}

theorem shows_of_hidden (hidden : self.outerStack ≠ .split) : self.Shows := by
  constructor
  · intro visible
    exact absurd visible hidden
  · intro visible
    simp [shown, hidden] at visible

theorem shows_load (conn : ConnId) : (self.load conn).Shows :=
  shows_of_hidden (by simp [load])

theorem Shows.mutate (shows : self.Shows) (setter : α → α) : (self.mutate setter).Shows := by
  constructor
  · intro visible row member
    obtain ⟨before, inRows, same⟩ := self.listedOver_mutate setter member
    rw [mutate_outerStack] at visible
    rw [mutate_conn, same]
    exact shows.rows visible before inRows
  · intro shown object chosen
    rw [mutate_selected, Option.mem_def, Option.map_eq_some_iff] at chosen
    obtain ⟨before, selected, rfl⟩ := chosen
    rw [ListPanel.shown, mutate_outerStack, mutate_detailVisible] at shown
    rw [mutate_conn]
    exact shows.detail shown before selected

theorem Shows.select (shows : self.Shows) {row : Listed α}
    (current : self.conn = some row.listedOver) : (self.select row).Shows := by
  refine ⟨shows.rows, ?_⟩
  intro _ object chosen
  cases chosen
  exact current

theorem shows_refill {source : ConnId} (current : self.conn = some source)
    (objects : List α) : (self.refill source objects).Shows := by
  constructor
  · intro _ row member
    rw [self.listedOver_newRows source objects member]
    exact current
  · intro shown
    simp [ListPanel.shown, refill] at shown

end ListPanel

namespace AccountPanel

variable {kind : AccountKind} {self : AccountPanel kind} {event : Event kind}

def ListsCurrent (self : AccountPanel kind) : Event kind → Prop
  | .listed index (.ok _) => ∀ source ∈ self.listings[index]?, self.conn = some source
  | _ => True

instance (self : AccountPanel kind) : DecidablePred self.ListsCurrent
  | .listed index (.ok _) =>
      inferInstanceAs (Decidable (∀ source ∈ self.listings[index]?, self.conn = some source))
  | .listed _ (.error _) => isTrue trivial
  | .load _ | .done _ _ | .rowSelected _ | .edited _ | .saveClicked | .buttonClicked _
  | .addClicked | .createClosed | .created _ | .deleteClicked | .confirmTyped _
  | .confirmClicked | .confirmClosed => isTrue trivial

theorem shows_onLoaded {source : ConnId}
    (current : self.conn = some source) (result : Except GError (List kind.Obj)) :
    (self.onLoaded source result).Shows := by
  cases result with
  | error error => exact ListPanel.shows_of_hidden (by simp [onLoaded])
  | ok objects =>
      have refilled := ListPanel.shows_refill current objects
      simp only [onLoaded]
      split
      next row found =>
        apply refilled.select
        rw [self.listedOver_reselected source objects found]
        exact current
      · exact refilled

theorem shows_onDone (shows : self.Shows) (sent : DispatchedWrite kind)
    (result : Except GError Unit) : (self.onDone sent result).Shows := by
  unfold onDone
  cases result with
  | error error =>
      split
      · exact shows
      · exact shows
      · exact shows
      · exact shows
  | ok done =>
      split
      · simp only [onUpdateAttrsDone]
        split
        · split
          · exact shows.mutate _
          · exact shows.mutate _
        · exact ListPanel.shows_load sent.conn
      · exact ListPanel.shows_load sent.conn
      · exact ListPanel.shows_load sent.conn
      · exact ListPanel.shows_load sent.conn

theorem shows_handle (shows : self.Shows) (lists : self.ListsCurrent event) :
    (self.handle event).Shows := by
  have handles := self.handles_handle event
  generalize self.handle event = after at handles
  cases handles with
  | listed result listing =>
      cases result with
      | error error => exact ListPanel.shows_of_hidden (by simp [onLoaded])
      | ok objects =>
          apply shows_onLoaded
          exact lists _ listing
  | done result inFlight =>
      apply shows_onDone
      exact shows
  | load | created => exact ListPanel.shows_load _
  | hide =>
      refine ⟨shows.rows, ?_⟩
      intro shown
      simp [ListPanel.shown] at shown
  | row split reachable inRows =>
      apply shows.select
      exact shows.rows split _ (List.mem_of_getElem? inRows)
  | idle | edit | save | click | button | add | createClosed | confirm | type | delete | drop
  | confirmClosed => exact shows

theorem selected_of_reachable (shows : self.Shows)
    (reachable : self.detailReachable = true) {object : Listed kind.Obj}
    (selected : self.selected = some object) : self.conn = some object.listedOver := by
  rw [detailReachable, Bool.and_eq_true] at reachable
  exact shows.detail reachable.1 object selected

/-! Writes that go to the selected object without the list being looked at again -/

def changesEnabled (sent : DispatchedWrite kind) : Bool :=
  match sent.write with
  | .updateAttrs _ ctx => ctx.needEnabledChange
  | _ => false

/-- A confirmation is open, or a save in flight will change the enabled flag. -/
def Holding (self : AccountPanel kind) : Prop :=
  self.confirm.isSome = true ∨ ∃ sent ∈ self.inFlight, changesEnabled sent = true

instance (self : AccountPanel kind) : Decidable self.Holding :=
  inferInstanceAs (Decidable (_ ∨ _))

/-- While one of them is under way, the selected object was listed over the panel's
connection, and so is the save itself. -/
structure Holds (panel : AccountPanel kind) : Prop where
  selected : panel.Holding → ∀ object ∈ panel.selected, panel.conn = some object.listedOver
  saving : ∀ sent ∈ panel.inFlight, changesEnabled sent = true → panel.conn = some sent.conn

def SwitchesFree (self : AccountPanel kind) (event : Event kind) : Prop :=
  ∀ conn ∈ self.reloadsOver event, self.conn ≠ some conn → ¬ self.Holding

instance (self : AccountPanel kind) : DecidablePred self.SwitchesFree := fun event =>
  inferInstanceAs
    (Decidable (∀ conn ∈ self.reloadsOver event, self.conn ≠ some conn → ¬ self.Holding))

theorem conn_of_holding (free : self.SwitchesFree event) (holding : self.Holding) :
    (self.handle event).conn = self.conn := by
  rw [conn_handle]
  cases reloads : self.reloadsOver event with
  | none => rfl
  | some conn =>
      by_cases same : self.conn = some conn
      · rw [same]
        rfl
      · exact absurd holding (free conn reloads same)

theorem changesEnabled_of_sends {sent : DispatchedWrite kind}
    (sends : self.Sends event sent) (changes : changesEnabled sent = true) :
    event.leavesList = true ∧ self.detailReachable = true ∧ self.conn = some sent.conn := by
  cases sends with
  | save _ _ _ reachable selected connected => exact ⟨rfl, reachable, connected⟩
  | button button write reachable selected connected => cases changes
  | delete confirm selected connected => cases changes
  | enable inFlight save needed selected => cases changes

theorem saving_handle (holds : self.Holds) (free : self.SwitchesFree event)
    {sent : DispatchedWrite kind} (member : sent ∈ (self.handle event).inFlight)
    (changes : changesEnabled sent = true) :
    sent ∈ self.inFlight ∧ (self.handle event).conn = some sent.conn ∨
      event.leavesList = true ∧ self.detailReachable = true ∧ self.conn = some sent.conn := by
  have earlier : sent ∈ self.inFlight → (self.handle event).conn = some sent.conn := by
    intro before
    rw [conn_of_holding free (Or.inr ⟨sent, before, changes⟩)]
    exact holds.saving sent before changes
  cases self.handle_dispatches event with
  | nothing dispatched inFlight crashed =>
      have before := inFlight sent member
      exact Or.inl ⟨before, earlier before⟩
  | one latest sends dispatched inFlight crashed =>
      rcases inFlight sent member with before | rfl
      · exact Or.inl ⟨before, earlier before⟩
      · exact Or.inr (changesEnabled_of_sends sends changes)
  | crash index saved data ctx done saving save needed selected dispatched inFlight crashed =>
      have before := inFlight sent member
      exact Or.inl ⟨before, earlier before⟩

theorem holding_handle (holds : self.Holds) (free : self.SwitchesFree event)
    (holding : (self.handle event).Holding) :
    self.Holding ∨ event.leavesList = true ∧ self.detailReachable = true := by
  rcases holding with open_ | ⟨sent, member, changes⟩
  · obtain ⟨ctx, confirm⟩ := Option.isSome_iff_exists.mp open_
    cases confirms_handle confirm with
    | kept before openedFor => exact Or.inl (Or.inl (by simp [before]))
    | opened reachable selected => exact Or.inr ⟨rfl, reachable⟩
  · rcases saving_handle holds free member changes with ⟨before, _⟩ | ⟨leaves, reachable, _⟩
    · exact Or.inl (Or.inr ⟨sent, before, changes⟩)
    · exact Or.inr ⟨leaves, reachable⟩

theorem selected_of_holding (shows : self.Shows) (holds : self.Holds)
    (lists : self.ListsCurrent event) (holding : self.Holding) {object : Listed kind.Obj}
    (selected : (self.handle event).selected = some object) :
    self.conn = some object.listedOver := by
  cases selects_handle selected with
  | kept before dn listedOver =>
      rw [listedOver]
      exact holds.selected holding _ before
  | row split reachable inRows =>
      exact shows.rows split object (List.mem_of_getElem? inRows)
  | reselected listing found =>
      rw [self.listedOver_reselected _ _ found]
      exact lists _ listing

theorem holds_handle (shows : self.Shows) (holds : self.Holds)
    (lists : self.ListsCurrent event) (free : self.SwitchesFree event) :
    (self.handle event).Holds := by
  constructor
  · intro holding object selected
    rcases holding_handle holds free holding with before | ⟨leaves, reachable⟩
    · rw [conn_of_holding free before]
      exact selected_of_holding shows holds lists before selected
    · rw [self.toListPanel_handle leaves] at selected ⊢
      exact selected_of_reachable shows reachable selected
  · intro sent member changes
    rcases saving_handle holds free member changes with ⟨_, connected⟩ | ⟨leaves, _, connected⟩
    · exact connected
    · rw [self.toListPanel_handle leaves]
      exact connected

/-! No write crosses connections -/

/-- Every write so far went over the connection its object was listed over. -/
def WritesHome (self : AccountPanel kind) : Prop :=
  ∀ sent ∈ self.dispatched, sent.target.listedOver = sent.conn

instance (self : AccountPanel kind) : Decidable self.WritesHome :=
  inferInstanceAs (Decidable (∀ sent ∈ self.dispatched, sent.target.listedOver = sent.conn))

theorem home_of_sends (shows : self.Shows) (holds : self.Holds)
    {sent : DispatchedWrite kind} (sends : self.Sends event sent) :
    sent.target.listedOver = sent.conn := by
  cases sends with
  | save _ _ _ reachable selected connected =>
      have listed := selected_of_reachable shows reachable selected
      rw [connected] at listed
      exact (Option.some.inj listed).symm
  | button button write reachable selected connected =>
      have listed := selected_of_reachable shows reachable selected
      rw [connected] at listed
      exact (Option.some.inj listed).symm
  | delete confirm selected connected =>
      have listed := holds.selected (Or.inl (by simp [confirm])) _ selected
      rw [connected] at listed
      exact (Option.some.inj listed).symm
  | @enable index saved data ctx object inFlight save needed selected =>
      have member := List.mem_of_getElem? inFlight
      have changes : changesEnabled saved = true := by
        rw [changesEnabled, save]
        exact needed
      have listed := holds.selected (Or.inr ⟨saved, member, changes⟩) object selected
      rw [holds.saving saved member changes] at listed
      exact (Option.some.inj listed).symm

/-- The condition on an event: listings complete over the connection the panel has, and
the panel takes another one only while no confirmation is open and no save in flight
will change the enabled flag. -/
def StaysHome (self : AccountPanel kind) (event : Event kind) : Prop :=
  self.ListsCurrent event ∧ self.SwitchesFree event

instance (self : AccountPanel kind) : DecidablePred self.StaysHome := fun _ =>
  inferInstanceAs (Decidable (_ ∧ _))

structure HomeInvariant (panel : AccountPanel kind) : Prop where
  shows : panel.Shows
  holds : panel.Holds
  home : panel.WritesHome

theorem homeInvariant_step (self : AccountPanel kind) (event : Event kind)
    (invariant : self.HomeInvariant) (stays : self.StaysHome event) :
    (self.step event).HomeInvariant := by
  unfold step
  split
  · exact invariant
  · exact
      { shows := shows_handle invariant.shows stays.1
        holds := holds_handle invariant.shows invariant.holds stays.1 stays.2
        home := forall_dispatched_handle invariant.home fun _ sends =>
          home_of_sends invariant.shows invariant.holds sends }

theorem homeInvariant_opened (form : kind.Form) : (opened form).HomeInvariant where
  shows := ListPanel.shows_of_hidden (by simp [opened])
  holds := ⟨by simp [opened], by simp [opened]⟩
  home := by simp [WritesHome, opened]

end AccountPanel

open AccountPanel

/-- In every state of every run of a new users panel whose events all meet the condition,
no write has crossed connections. -/
theorem writes_home (calendar : Users.GDateTimeUtc) (form : Users.Form)
    (events : List (AccountPanel.Event (usersKind calendar)))
    (stays : Along (@step (usersKind calendar)) StaysHome (opened form) events) :
    Throughout (@step (usersKind calendar)) WritesHome (opened form) events := by
  have invariant := throughout_of_along HomeInvariant homeInvariant_step
    (@homeInvariant_opened (usersKind calendar) form) stays
  exact invariant.mono fun _ holds => holds.home

theorem writes_home_save :
    Throughout (@step (usersKind Users.noCalendar)) WritesHome (opened {})
      [ .load 0, .listed 0 (.ok [{ dn := some (cstr "CN=a"), sam := some (cstr "a") }]),
        .rowSelected (some 0), .saveClicked, .load 1 ] :=
  writes_home Users.noCalendar {} _ (by decide)

/-- A listing over the first connection that completes after the panel took the second
one: the write goes to a server its object does not come from. So it does without any
listing, where the delete was being confirmed when a connection was made. -/
theorem write_crosses_connections :
    let account : SbvUser := { dn := some (cstr "CN=a"), sam := some (cstr "a") }
    let outOfOrder := run (@step (usersKind Users.noCalendar)) (opened {})
      [ .load 0, .load 1, .listed 0 (.ok [account]), .rowSelected (some 0), .saveClicked ]
    let confirmed := run (@step (usersKind Users.noCalendar)) (opened {})
      [ .load 0, .listed 0 (.ok [account]), .rowSelected (some 0), .deleteClicked,
        .confirmTyped (cstr "a"), .load 1, .confirmClicked ]
    ¬ outOfOrder.WritesHome ∧ ¬ confirmed.WritesHome := by
  decide

end Sambervise.Ui
