import Sambervise.Heap.Life
import Sambervise.Transition.Partial
import Sambervise.Ui.ListPanel

namespace Sambervise.Ui

open Text Model Heap Transition

/-! The password dialogs and the connects they start. -/

/-- A window with the `PwData` that its destruction frees. -/
structure PasswordDialog where
  shown : Bool := true
  data : Life := .alive
  profile : SbvProfile
  errorLabel : Option GError := none
  busy : Bool := false
  pendingConn : Option ConnId := none
  deriving DecidableEq, Repr

structure PasswordConnect where
  dialog : Nat
  conn : ConnId
  profile : SbvProfile
  password : CString
  deriving DecidableEq, Repr

structure PasswordDialogs where
  dialogs : List PasswordDialog := []
  nextConn : ConnId := 0
  connecting : List PasswordConnect := []
  /-- The connections handed to the callback. -/
  connected : List ConnId := []
  deriving DecidableEq, Repr

namespace PasswordDialog

/-- A window that is destroyed already is left alone. -/
def destroy (self : PasswordDialog) : Option PasswordDialog :=
  if self.shown then do
    let data ← self.data.free
    return { self with shown := false, data, pendingConn := none }
  else some self

def onConnectClicked (self : PasswordDialog) (conn : ConnId) : Option PasswordDialog := do
  self.data.use
  return { self with errorLabel := none, busy := true, pendingConn := some conn }

def onConnectDone (self : PasswordDialog) (result : Except GError Unit) :
    Option PasswordDialog := do
  self.data.use
  match result with
  | .error error => return { self with errorLabel := some error, busy := false }
  | .ok () => self.destroy

end PasswordDialog

namespace PasswordDialogs

inductive Event where
  | opened (profile : SbvProfile)
  | connectClicked (dialog : Nat) (password : CString)
  | cancelClicked (dialog : Nat)
  /-- By the window manager, which the insensitive buttons do not stop. -/
  | windowClosed (dialog : Nat)
  /-- The connect at this place among those in flight completes. -/
  | connectDone (index : Nat) (result : Except GError Unit)

def onConnectClicked (self : PasswordDialogs) (dialog : Nat) (password : CString) :
    Option PasswordDialogs :=
  match self.dialogs[dialog]? with
  | none => some self
  | some clicked =>
      if clicked.shown && !clicked.busy then do
        let changed ← clicked.onConnectClicked self.nextConn
        let connect :=
          { dialog, conn := self.nextConn, profile := clicked.profile, password }
        return { self with
          dialogs := self.dialogs.set dialog changed
          nextConn := self.nextConn + 1
          connecting := self.connecting ++ [connect] }
      else some self

def close (self : PasswordDialogs) (dialog : Nat) : Option PasswordDialogs :=
  match self.dialogs[dialog]? with
  | none => some self
  | some closed => do
      let changed ← closed.destroy
      return { self with dialogs := self.dialogs.set dialog changed }

def onCancelClicked (self : PasswordDialogs) (dialog : Nat) : Option PasswordDialogs :=
  match self.dialogs[dialog]? with
  | none => some self
  | some clicked => if clicked.busy then some self else self.close dialog

def handedOver (self : PasswordDialogs) (conn : ConnId) : Except GError Unit → List ConnId
  | .error _ => self.connected
  | .ok () => self.connected ++ [conn]

def onConnectDone (self : PasswordDialogs) (connect : PasswordConnect)
    (result : Except GError Unit) : Option PasswordDialogs :=
  match self.dialogs[connect.dialog]? with
  | none => some self
  | some done => do
      let changed ← done.onConnectDone result
      return { self with
        dialogs := self.dialogs.set connect.dialog changed
        connected := self.handedOver connect.conn result }

def handle (self : PasswordDialogs) : Event → Option PasswordDialogs
  | .opened profile => some { self with dialogs := self.dialogs ++ [{ profile }] }
  | .connectClicked dialog password => self.onConnectClicked dialog password
  | .cancelClicked dialog => self.onCancelClicked dialog
  | .windowClosed dialog => self.close dialog
  | .connectDone index result =>
      match self.connecting[index]? with
      | none => some self
      | some connect =>
          onConnectDone { self with connecting := self.connecting.eraseIdx index } connect
            result

def requests (self : PasswordDialogs) : List Nat := self.connecting.map PasswordConnect.dialog

/-- The data of a dialog lives as long as its window, and at most one connect of a dialog is
in flight, during which it is busy. -/
structure Tracked (state : PasswordDialogs) : Prop where
  windows : ∀ dialog ∈ state.dialogs, dialog.shown = true ↔ dialog.data = .alive
  requestsOnce : state.requests.Nodup
  busy : ∀ index ∈ state.requests, ∃ dialog, state.dialogs[index]? = some dialog ∧
    dialog.busy = true

/-- No connect in flight has data that is freed. -/
def Sound (self : PasswordDialogs) : Prop :=
  Awaited PasswordDialog.data self.dialogs self.requests

/-- A dialog is not closed while its connect is in flight. -/
def Careful (self : PasswordDialogs) : Event → Prop
  | .windowClosed index =>
      ∀ dialog, self.dialogs[index]? = some dialog → dialog.shown = true →
        index ∉ self.requests
  | _ => True

def isCompletion : Event → Bool
  | .connectDone _ _ => true
  | _ => false

variable {self : PasswordDialogs} {index : Nat} {dialog changed : PasswordDialog}

theorem window_of_found (tracked : self.Tracked) (found : self.dialogs[index]? = some dialog) :
    dialog.shown = true ↔ dialog.data = .alive :=
  tracked.windows dialog (List.mem_of_getElem? found)

theorem busy_of_found (tracked : self.Tracked) (found : self.dialogs[index]? = some dialog)
    (member : index ∈ self.requests) : dialog.busy = true := by
  obtain ⟨other, same, busy⟩ := tracked.busy index member
  rw [found] at same
  cases same
  exact busy

/-- Every window that is put back is tracked, with fewer requests. -/
theorem tracked_set (tracked : self.Tracked) (found : self.dialogs[index]? = some dialog)
    (window : changed.shown = true ↔ changed.data = .alive) {connecting : List PasswordConnect}
    (fewer : connecting.Sublist self.connecting)
    (busy : index ∈ connecting.map PasswordConnect.dialog → changed.busy = true)
    (connected : List ConnId) :
    Tracked { self with dialogs := self.dialogs.set index changed, connecting, connected } where
  windows := by
    intro other member
    rcases List.mem_or_eq_of_mem_set member with kept | rfl
    · exact tracked.windows other kept
    · exact window
  requestsOnce := tracked.requestsOnce.sublist (fewer.map PasswordConnect.dialog)
  busy := by
    intro other member
    simp only [getElem?_set_of_found found]
    split
    next same =>
      exact ⟨changed, rfl, busy (same ▸ member)⟩
    · exact tracked.busy other ((fewer.map PasswordConnect.dialog).subset member)

theorem destroy_of_shown (shown : dialog.shown = true) (alive : dialog.data = .alive) :
    ∃ changed, dialog.destroy = some changed ∧ changed.shown = false ∧
      changed.data = .freed ∧ changed.busy = dialog.busy := by
  rw [PasswordDialog.destroy, if_pos shown, alive]
  exact ⟨_, rfl, rfl, rfl, rfl⟩

theorem window_closed (hidden : changed.shown = false) (freed : changed.data = .freed) :
    changed.shown = true ↔ changed.data = .alive := by
  rw [hidden, freed]
  exact iff_of_false Bool.false_ne_true nofun

/-- A dialog that is closed while its connect is in flight is one whose data is freed too
early. -/
theorem close_spec (tracked : self.Tracked) (index : Nat) :
    ∃ next, self.close index = some next ∧ next.Tracked ∧
      next.connecting = self.connecting ∧
        (next.Sound ↔ self.Sound ∧ ∀ dialog, self.dialogs[index]? = some dialog →
          dialog.shown = true → index ∉ self.requests) := by
  unfold close
  cases found : self.dialogs[index]? with
  | none => exact ⟨self, rfl, tracked, rfl, (and_iff_left fun _ absent => nomatch absent).symm⟩
  | some dialog =>
      have window := window_of_found tracked found
      simp only [Option.some.injEq, forall_eq']
      by_cases shown : dialog.shown = true
      · obtain ⟨changed, outcome, hidden, freed, sameBusy⟩ :=
          destroy_of_shown shown (window.mp shown)
        refine ⟨{ self with dialogs := self.dialogs.set index changed }, ?_, ?_, rfl, ?_⟩
        · simp only [outcome]
          rfl
        · refine tracked_set tracked found (window_closed hidden freed) (List.Sublist.refl _) ?_ _
          exact fun member => sameBusy.trans (busy_of_found tracked found member)
        · rw [forall_prop_of_true shown]
          exact awaited_free_iff found freed
      · simp only [PasswordDialog.destroy, if_neg shown]
        refine ⟨_, rfl, ?_, rfl, ?_⟩
        · exact tracked_set tracked found window (List.Sublist.refl _)
            (busy_of_found tracked found) _
        · rw [and_iff_left fun visible => absurd visible shown]
          exact awaited_set_iff found fun _ => rfl

/-- The step goes through and makes nothing worse or better. -/
def Neutral (self : PasswordDialogs) (result : Option PasswordDialogs) : Prop :=
  ∃ next, result = some next ∧ next.Tracked ∧ (next.Sound ↔ self.Sound)

theorem neutral_self (tracked : self.Tracked) : Neutral self (some self) :=
  ⟨self, rfl, tracked, Iff.rfl⟩

theorem neutral_opened (tracked : self.Tracked) (profile : SbvProfile) :
    Neutral self (self.handle (.opened profile)) := by
  have inRange : ∀ index ∈ self.requests, index < self.dialogs.length := by
    intro index member
    obtain ⟨dialog, found, _⟩ := tracked.busy index member
    exact (List.getElem?_eq_some_iff.mp found).1
  refine ⟨_, rfl, ?_, awaited_concat_iff inRange⟩
  refine { windows := ?_, requestsOnce := tracked.requestsOnce, busy := ?_ }
  · intro dialog member
    rcases List.mem_append.mp member with old | new
    · exact tracked.windows dialog old
    · rw [List.mem_singleton.mp new]
      exact iff_of_true rfl rfl
  · intro index member
    obtain ⟨dialog, found, busy⟩ := tracked.busy index member
    exact ⟨dialog, (List.getElem?_append_left (inRange index member)).trans found, busy⟩

theorem neutral_onConnectClicked (tracked : self.Tracked) (index : Nat) (password : CString) :
    Neutral self (self.onConnectClicked index password) := by
  unfold onConnectClicked
  split
  · exact neutral_self tracked
  next dialog found =>
    have window := window_of_found tracked found
    split
    next both =>
      rw [Bool.and_eq_true, Bool.not_eq_true'] at both
      have alive := window.mp both.1
      have used : dialog.data.use = some () := by
        rw [alive]
        rfl
      have idle : index ∉ self.requests := by
        intro member
        have busy := busy_of_found tracked found member
        rw [both.2] at busy
        cases busy
      rw [PasswordDialog.onConnectClicked, used]
      refine ⟨_, rfl, ?_, ?_⟩
      · refine { windows := ?_, requestsOnce := ?_, busy := ?_ }
        · intro other member
          rcases List.mem_or_eq_of_mem_set member with kept | rfl
          · exact tracked.windows other kept
          · exact window
        · rw [requests, List.map_append, List.map_singleton, ← List.concat_eq_append]
          exact List.Nodup.concat idle tracked.requestsOnce
        · intro other member
          simp only [getElem?_set_of_found found]
          split
          · exact ⟨_, rfl, rfl⟩
          next different =>
            rw [requests, List.map_append, List.mem_append] at member
            rcases member with old | new
            · exact tracked.busy other old
            · exact absurd (List.mem_singleton.mp new).symm different
      · rw [Sound, requests, List.map_append]
        have changes := @awaited_set_iff _ PasswordDialog.data self.dialogs
          (self.requests ++ [index]) index dialog
          { dialog with errorLabel := none, busy := true, pendingConn := some self.nextConn }
          found fun _ => rfl
        exact changes.trans (awaited_request_iff found alive)
    · exact neutral_self tracked

theorem onConnectDone_of_alive (shown : dialog.shown = true) (alive : dialog.data = .alive)
    (result : Except GError Unit) :
    ∃ changed, dialog.onConnectDone result = some changed ∧
      (changed.shown = true ↔ changed.data = .alive) := by
  have used : dialog.data.use = some () := by
    rw [alive]
    rfl
  unfold PasswordDialog.onConnectDone
  rw [used]
  cases result with
  | error error => exact ⟨_, rfl, iff_of_true shown alive⟩
  | ok done =>
      obtain ⟨changed, outcome, hidden, freed, _⟩ := destroy_of_shown shown alive
      exact ⟨changed, outcome, window_closed hidden freed⟩

/-- The completion fails exactly where the data of the dialog is freed. -/
theorem onConnectDone_cases (tracked : self.Tracked) {place : Nat} {connect : PasswordConnect}
    (inFlight : self.connecting[place]? = some connect) (result : Except GError Unit) :
    let rest := { self with connecting := self.connecting.eraseIdx place }
    ¬ self.Sound ∧ rest.onConnectDone connect result = none ∨
      ∃ next, rest.onConnectDone connect result = some next ∧ next.Tracked ∧
        (next.Sound ↔ self.Sound) ∧ next.connecting.length < self.connecting.length := by
  intro rest
  obtain ⟨inRange, _⟩ := List.getElem?_eq_some_iff.mp inFlight
  have placed : self.requests[place]? = some connect.dialog := by
    rw [requests, List.getElem?_map, inFlight]
    rfl
  have member : connect.dialog ∈ self.requests := List.mem_of_getElem? placed
  obtain ⟨dialog, found, _⟩ := tracked.busy connect.dialog member
  cases life : dialog.data with
  | freed =>
      refine .inl ⟨fun sound => ?_, ?_⟩
      · have alive := sound connect.dialog member dialog found
        rw [life] at alive
        cases alive
      · simp only [onConnectDone, rest, found, PasswordDialog.onConnectDone, life]
        rfl
  | alive =>
      have shown := (window_of_found tracked found).mpr life
      obtain ⟨changed, outcome, windowAfter⟩ := onConnectDone_of_alive shown life result
      have erased : (self.connecting.eraseIdx place).map PasswordConnect.dialog =
          self.requests.eraseIdx place := (List.eraseIdx_map _ _ _).symm
      have idle : connect.dialog ∉ (self.connecting.eraseIdx place).map PasswordConnect.dialog := by
        rw [mem_map_completed_iff tracked.requestsOnce inFlight]
        exact fun both => both.1 rfl
      refine .inr ⟨{ rest with
        dialogs := self.dialogs.set connect.dialog changed
        connected := self.handedOver connect.conn result }, ?_, ?_, ?_, ?_⟩
      · simp only [onConnectDone, rest, found, outcome]
        rfl
      · exact tracked_set tracked found windowAfter (List.eraseIdx_sublist _ _) (absurd · idle) _
      · rw [Sound, requests, erased]
        exact awaited_complete_iff tracked.requestsOnce placed found life
      · have shorter := List.length_eraseIdx_of_lt inRange
        show (self.connecting.eraseIdx place).length < _
        omega

theorem neutral_onCancelClicked (tracked : self.Tracked) (index : Nat) :
    Neutral self (self.onCancelClicked index) := by
  unfold onCancelClicked
  split
  · exact neutral_self tracked
  next dialog found =>
    split
    · exact neutral_self tracked
    next ready =>
      obtain ⟨next, outcome, trackedNext, _, same⟩ := close_spec tracked index
      refine ⟨next, outcome, trackedNext, same.trans (and_iff_left ?_)⟩
      exact fun _ _ _ member => ready (busy_of_found tracked found member)

theorem handle_connectDone (tracked : self.Tracked) (index : Nat)
    (result : Except GError Unit) :
    ¬ self.Sound ∧ self.handle (.connectDone index result) = none ∨
      Neutral self (self.handle (.connectDone index result)) := by
  rw [handle]
  split
  · exact .inr (neutral_self tracked)
  next connect found =>
    rcases onConnectDone_cases tracked found result with fails | ⟨next, outcome, rest⟩
    · exact .inl fails
    · exact .inr ⟨next, outcome, rest.1, rest.2.1⟩

theorem tracked_handle (tracked : self.Tracked) {event : Event} {next : PasswordDialogs}
    (outcome : self.handle event = some next) : next.Tracked ∧ (next.Sound → self.Sound) := by
  have of_neutral (neutral : Neutral self (self.handle event)) :
      next.Tracked ∧ (next.Sound → self.Sound) :=
    kept_of_unchanged neutral outcome
  cases event with
  | opened profile => exact of_neutral (neutral_opened tracked profile)
  | connectClicked index password =>
      exact of_neutral (neutral_onConnectClicked tracked index password)
  | cancelClicked index => exact of_neutral (neutral_onCancelClicked tracked index)
  | windowClosed index =>
      obtain ⟨other, same, trackedNext, _, sound⟩ := close_spec tracked index
      have reached : other = next := Option.some.inj (same.symm.trans outcome)
      rw [← reached]
      exact ⟨trackedNext, fun holds => (sound.mp holds).1⟩
  | connectDone index result =>
      rcases handle_connectDone tracked index result with ⟨_, fails⟩ | neutral
      · rw [fails] at outcome
        cases outcome
      · exact of_neutral neutral

theorem careful_iff (tracked : self.Tracked) (sound : self.Sound) (event : Event) :
    self.Careful event ↔ ∃ next, self.handle event = some next ∧ next.Sound := by
  have of_neutral (neutral : Neutral self (self.handle event)) :
      ∃ next, self.handle event = some next ∧ next.Sound :=
    sound_of_unchanged neutral sound
  cases event with
  | opened profile => exact iff_of_true trivial (of_neutral (neutral_opened tracked profile))
  | connectClicked index password =>
      exact iff_of_true trivial (of_neutral (neutral_onConnectClicked tracked index password))
  | cancelClicked index =>
      exact iff_of_true trivial (of_neutral (neutral_onCancelClicked tracked index))
  | windowClosed index =>
      obtain ⟨next, outcome, _, _, same⟩ := close_spec tracked index
      rw [Careful, handle, outcome]
      simp only [Option.some.injEq, exists_eq_left', same, and_iff_right sound]
  | connectDone index result =>
      refine iff_of_true trivial ?_
      rcases handle_connectDone tracked index result with ⟨unsound, _⟩ | neutral
      · exact absurd sound unsound
      · exact of_neutral neutral

theorem progress (tracked : self.Tracked) (something : self.connecting.length ≠ 0) :
    ∃ event, isCompletion event = true ∧
      ∀ next, self.handle event = some next → next.connecting.length < self.connecting.length := by
  obtain ⟨connect, rest, inFlight⟩ := List.exists_cons_of_length_pos (Nat.pos_of_ne_zero something)
  have found : self.connecting[0]? = some connect := by simp [inFlight]
  refine ⟨.connectDone 0 (.ok ()), rfl, ?_⟩
  intro next outcome
  simp only [handle, found] at outcome
  rcases onConnectDone_cases tracked found (.ok ()) with ⟨_, fails⟩ | ⟨other, same, counted⟩
  · rw [fails] at outcome
    cases outcome
  · rw [same] at outcome
    cases outcome
    exact counted.2.2

theorem foreseen :
    Foreseen handle Tracked Sound Careful (fun event => isCompletion event = true)
      (fun state => state.connecting.length) where
  keeps tracked outcome := (tracked_handle tracked outcome).1
  exact_step tracked sound := careful_iff tracked sound _
  persists tracked outcome := (tracked_handle tracked outcome).2
  completes := by
    intro state event completes
    cases event with
    | connectDone => trivial
    | windowClosed => cases completes
    | opened | connectClicked | cancelClicked => trivial
  settled := by
    intro state tracked settled index member
    rw [List.length_eq_zero_iff] at settled
    rw [requests, settled] at member
    cases member
  progress := progress

end PasswordDialogs

end Sambervise.Ui
