import Sambervise.Heap.Life
import Sambervise.Transition.Partial
import Sambervise.Ui.RemoveContexts

namespace Sambervise.Ui

open Text Model Backend Backend.Groups Heap Transition

/-! The dialog that adds a member to the selected group, beside the removal buttons of the
members it has. -/

/-- A window with the `AddMemberCtx` that its destruction frees. -/
structure AddMemberDialog where
  shown : Bool := true
  ctx : Life := .alive
  filterText : Option CString := none
  spinner : Bool := true
  users : List SbvUser := []
  selected : Option SbvUser := none
  addBtn : Bool := false
  deriving DecidableEq, Repr

structure AddDoneCtx where
  block : Life := .alive
  dialog : Nat
  conn : ConnId
  memberDn : CString
  memberName : CString
  data : MemberData
  deriving DecidableEq, Repr

structure MemberDialogs where
  members : MembersPanel := {}
  dialogs : List AddMemberDialog := []
  /-- The dialogs whose list of users is asked for. -/
  loading : List Nat := []
  adding : List AddDoneCtx := []
  deriving DecidableEq, Repr

namespace AddMemberDialog

def onSearchChanged (self : AddMemberDialog) (lower : CString) : Option AddMemberDialog := do
  self.ctx.use
  return { self with filterText := if lower = [] then none else some lower }

def onRowSelected (self : AddMemberDialog) (row : Option Nat) : Option AddMemberDialog := do
  self.ctx.use
  let selected := row.bind fun index => self.users[index]?
  return { self with selected, addBtn := selected.isSome }

def onUsersLoaded (self : AddMemberDialog) (result : Except GError (List SbvUser)) :
    Option AddMemberDialog := do
  self.ctx.use
  let self := { self with spinner := false }
  match result with
  | .error _ => return self
  | .ok users => return { self with users := self.users ++ users }

/-- A window that is destroyed already is taken to be left alone, though the pointer that a
completed addition has to it dangles. -/
def destroy (self : AddMemberDialog) : Option AddMemberDialog :=
  if self.shown then do
    let ctx ← self.ctx.free
    return { self with shown := false, ctx }
  else some self

/-- The friendly name of the user to add. -/
def friendlyName (user : SbvUser) : Option CString :=
  if orEmpty user.displayName = [] then user.cn else user.displayName

def addition (self : AddMemberDialog) (dialog : Nat) (members : MembersPanel) :
    Option AddDoneCtx := do
  let user ← self.selected
  let conn ← members.conn
  let group ← members.selectedGroup
  let memberDn ← user.dn
  return { dialog, conn, memberDn, memberName := (friendlyName user).getD memberDn,
           data := sbvGroupsAddMember group memberDn }

end AddMemberDialog

namespace MemberDialogs

inductive Event where
  | members (event : MembersPanel.Event)
  | addMemberBtnClicked
  /-- The text of the search entry in lower case. -/
  | searchChanged (dialog : Nat) (lower : CString)
  | userSelected (dialog : Nat) (row : Option Nat)
  | addBtnClicked (dialog : Nat)
  /-- With its Cancel button or by the window manager. -/
  | dialogClosed (dialog : Nat)
  /-- The list of users at this place among those asked for arrives. -/
  | usersLoaded (index : Nat) (result : Except GError (List SbvUser))
  /-- The addition at this place among those in flight completes. -/
  | addMemberDone (index : Nat) (result : Except GError Unit)

/-- What a widget of a dialog does, as long as the dialog is there. -/
def onDialog (self : MemberDialogs) (dialog : Nat)
    (handler : AddMemberDialog → Option AddMemberDialog) : Option MemberDialogs :=
  match self.dialogs[dialog]? with
  | none => some self
  | some shown => do
      let changed ← if shown.shown then handler shown else some shown
      return { self with dialogs := self.dialogs.set dialog changed }

def showAddMemberDialog (self : MemberDialogs) : MemberDialogs :=
  match self.members.conn with
  | none => self
  | some _ =>
      { self with
        dialogs := self.dialogs ++ [{}]
        loading := self.loading ++ [self.dialogs.length] }

def onAddBtnClicked (self : MemberDialogs) (dialog : Nat) : Option MemberDialogs :=
  match self.dialogs[dialog]? with
  | none => some self
  | some clicked =>
      if clicked.shown && clicked.addBtn then do
        clicked.ctx.use
        match clicked.addition dialog self.members with
        | none => return self
        | some added =>
            return { self with
              dialogs := self.dialogs.set dialog { clicked with addBtn := false }
              adding := self.adding ++ [added] }
      else some self

def onUsersLoaded (self : MemberDialogs) (dialog : Nat)
    (result : Except GError (List SbvUser)) : Option MemberDialogs :=
  match self.dialogs[dialog]? with
  | none => some self
  | some loaded => do
      let changed ← loaded.onUsersLoaded result
      return { self with dialogs := self.dialogs.set dialog changed }

def onAddMemberDone (self : MemberDialogs) (added : AddDoneCtx)
    (result : Except GError Unit) : Option MemberDialogs := do
  added.block.use
  let self ←
    match result with
    | .error error => some { self with members := { self.members with memberError := some error } }
    | .ok () => do
        let self ← self.onDialog added.dialog AddMemberDialog.destroy
        return { self with members := self.members.load added.conn }
  let _ ← added.block.free
  return self

def handle (self : MemberDialogs) : Event → Option MemberDialogs
  | .members event =>
      let members := self.members.step event
      if members.crashed then none else some { self with members }
  | .addMemberBtnClicked => some self.showAddMemberDialog
  | .searchChanged dialog lower => self.onDialog dialog (·.onSearchChanged lower)
  | .userSelected dialog row => self.onDialog dialog (·.onRowSelected row)
  | .addBtnClicked dialog => self.onAddBtnClicked dialog
  | .dialogClosed dialog => self.onDialog dialog AddMemberDialog.destroy
  | .usersLoaded index result =>
      match self.loading[index]? with
      | none => some self
      | some dialog =>
          onUsersLoaded { self with loading := self.loading.eraseIdx index } dialog result
  | .addMemberDone index result =>
      match self.adding[index]? with
      | none => some self
      | some added =>
          onAddMemberDone { self with adding := self.adding.eraseIdx index } added result

/-! What is kept track of -/

/-- The context of a dialog lives as long as its window, and nothing can be selected in a
dialog whose users are still asked for. -/
structure Tracked (state : MemberDialogs) : Prop where
  running : state.members.crashed = false
  windows : ∀ dialog ∈ state.dialogs, dialog.shown = true ↔ dialog.ctx = .alive
  loadsOnce : state.loading.Nodup
  loads : ∀ index ∈ state.loading, ∃ dialog, state.dialogs[index]? = some dialog ∧
    dialog.users = [] ∧ dialog.selected = none
  adds : ∀ added ∈ state.adding, added.block = .alive ∧ added.dialog ∉ state.loading ∧
    added.dialog < state.dialogs.length

/-- No removal in flight and no list of users asked for has a context that is freed. -/
structure Sound (state : MemberDialogs) : Prop where
  members : state.members.Owned
  loading : Awaited AddMemberDialog.ctx state.dialogs state.loading

/-- A removal button is used once, and no dialog is closed while its users are asked for. -/
def Careful (self : MemberDialogs) : Event → Prop
  | .members event => self.members.ClicksOnce event
  | .dialogClosed index =>
      ∀ dialog, self.dialogs[index]? = some dialog → dialog.shown = true → index ∉ self.loading
  | _ => True

def isCompletion : Event → Bool
  | .members event => MembersPanel.isCompletion event
  | .usersLoaded _ _ | .addMemberDone _ _ => true
  | _ => false

def pending (self : MemberDialogs) : Nat := self.members.removes.length + self.loading.length

variable {self : MemberDialogs} {index : Nat} {dialog changed : AddMemberDialog}

/-- The step goes through and makes nothing worse or better. -/
def Neutral (self : MemberDialogs) (result : Option MemberDialogs) : Prop :=
  ∃ next, result = some next ∧ next.Tracked ∧ (next.Sound ↔ self.Sound)

theorem neutral_self (tracked : self.Tracked) : Neutral self (some self) :=
  ⟨self, rfl, tracked, Iff.rfl⟩

/-! One dialog changes -/

theorem window_of_found (tracked : self.Tracked) (found : self.dialogs[index]? = some dialog) :
    dialog.shown = true ↔ dialog.ctx = .alive :=
  tracked.windows dialog (List.mem_of_getElem? found)

/-- Nothing can be selected in a dialog whose users are asked for. -/
theorem nothing_of_loading (tracked : self.Tracked)
    (found : self.dialogs[index]? = some dialog) (member : index ∈ self.loading) :
    dialog.users = [] ∧ dialog.selected = none := by
  obtain ⟨other, same, nothing⟩ := tracked.loads index member
  rw [found] at same
  cases same
  exact nothing

theorem tracked_set (tracked : self.Tracked) (found : self.dialogs[index]? = some dialog)
    (window : changed.shown = true ↔ changed.ctx = .alive)
    (loads : index ∈ self.loading → changed.users = [] ∧ changed.selected = none) :
    Tracked { self with dialogs := self.dialogs.set index changed } where
  running := tracked.running
  windows := by
    intro other member
    rcases List.mem_or_eq_of_mem_set member with kept | rfl
    · exact tracked.windows other kept
    · exact window
  loadsOnce := tracked.loadsOnce
  loads := by
    intro other member
    simp only [getElem?_set_of_found found]
    split
    next same =>
      exact ⟨changed, rfl, loads (same ▸ member)⟩
    · exact tracked.loads other member
  adds := by
    intro added member
    simp only [List.length_set]
    exact tracked.adds added member

theorem sound_iff : self.Sound ↔
    self.members.Owned ∧ Awaited AddMemberDialog.ctx self.dialogs self.loading :=
  ⟨fun sound => ⟨sound.1, sound.2⟩, fun both => ⟨both.1, both.2⟩⟩

theorem sound_congr {other : MemberDialogs} (members : other.members.Owned ↔ self.members.Owned)
    (dialogs : other.dialogs = self.dialogs) (loading : other.loading = self.loading) :
    other.Sound ↔ self.Sound := by
  rw [sound_iff, sound_iff, members, dialogs, loading]

theorem sound_set_iff (found : self.dialogs[index]? = some dialog)
    (same : index ∈ self.loading → changed.ctx = dialog.ctx) :
    Sound { self with dialogs := self.dialogs.set index changed } ↔ self.Sound := by
  rw [sound_iff, sound_iff, awaited_set_iff found same]

/-- A handler of a widget, which runs while the context is alive and leaves it so. -/
structure Handles (handler : AddMemberDialog → Option AddMemberDialog) : Prop where
  through : ∀ {dialog}, dialog.ctx = .alive → ∃ changed, handler dialog = some changed
  keeps : ∀ {dialog changed}, handler dialog = some changed →
    changed.shown = dialog.shown ∧ changed.ctx = dialog.ctx ∧ changed.users = dialog.users ∧
      (dialog.users = [] → dialog.selected = none → changed.selected = none)

theorem handles_onSearchChanged (lower : CString) :
    Handles (AddMemberDialog.onSearchChanged · lower) where
  through := by
    intro dialog alive
    simp [AddMemberDialog.onSearchChanged, alive, Life.use]
  keeps := by
    intro dialog changed outcome
    obtain ⟨_, _, result⟩ := Option.bind_eq_some_iff.mp outcome
    cases result
    exact ⟨rfl, rfl, rfl, fun _ nothing => nothing⟩

theorem handles_onRowSelected (row : Option Nat) :
    Handles (AddMemberDialog.onRowSelected · row) where
  through := by
    intro dialog alive
    simp [AddMemberDialog.onRowSelected, alive, Life.use]
  keeps := by
    intro dialog changed outcome
    obtain ⟨_, _, result⟩ := Option.bind_eq_some_iff.mp outcome
    cases result
    refine ⟨rfl, rfl, rfl, fun none _ => ?_⟩
    cases row with
    | none => rfl
    | some index => simp [none]

theorem neutral_onDialog (tracked : self.Tracked)
    {handler : AddMemberDialog → Option AddMemberDialog} (handles : Handles handler)
    (index : Nat) : Neutral self (self.onDialog index handler) := by
  unfold onDialog
  split
  · exact neutral_self tracked
  next dialog found =>
    have window := window_of_found tracked found
    by_cases shown : dialog.shown = true
    · obtain ⟨changed, outcome⟩ := handles.through (window.mp shown)
      obtain ⟨sameShown, sameCtx, sameUsers, sameSelected⟩ := handles.keeps outcome
      refine ⟨{ self with dialogs := self.dialogs.set index changed }, ?_, ?_, ?_⟩
      · rw [if_pos shown, outcome]
        rfl
      · refine tracked_set tracked found (by rw [sameShown, sameCtx]; exact window) ?_
        intro member
        obtain ⟨users, selected⟩ := nothing_of_loading tracked found member
        exact ⟨sameUsers.trans users, sameSelected users selected⟩
      · exact sound_set_iff found fun _ => sameCtx
    · rw [if_neg shown]
      refine ⟨_, rfl, ?_, sound_set_iff found fun _ => rfl⟩
      exact tracked_set tracked found window (nothing_of_loading tracked found)

/-! The events -/

theorem neutral_showAddMemberDialog (tracked : self.Tracked) :
    Neutral self (some self.showAddMemberDialog) := by
  unfold showAddMemberDialog
  split
  · exact neutral_self tracked
  · have bounded : ∀ index ∈ self.loading, index < self.dialogs.length := by
      intro index member
      obtain ⟨dialog, found, _⟩ := tracked.loads index member
      exact (List.getElem?_eq_some_iff.mp found).1
    have earlier {index : Nat} (member : index ∈ self.loading) :
        (self.dialogs ++ [({} : AddMemberDialog)])[index]? = self.dialogs[index]? :=
      List.getElem?_append_left (bounded index member)
    refine ⟨_, rfl, ?_, ?_⟩
    · refine
        { running := tracked.running, windows := ?_, loadsOnce := ?_, loads := ?_, adds := ?_ }
      · intro dialog member
        rcases List.mem_append.mp member with old | new
        · exact tracked.windows dialog old
        · rw [List.mem_singleton.mp new]
          exact iff_of_true rfl rfl
      · have fresh : self.dialogs.length ∉ self.loading := fun member => (bounded _ member).false
        show (self.loading ++ [self.dialogs.length]).Nodup
        rw [← List.concat_eq_append]
        exact List.Nodup.concat fresh tracked.loadsOnce
      · intro index member
        rcases List.mem_append.mp member with old | new
        · obtain ⟨dialog, found, empty⟩ := tracked.loads index old
          exact ⟨dialog, (earlier old).trans found, empty⟩
        · rw [List.mem_singleton.mp new]
          exact ⟨{}, List.getElem?_concat_length, rfl, rfl⟩
      · intro added member
        obtain ⟨alive, notLoading, inRange⟩ := tracked.adds added member
        refine ⟨alive, ?_, ?_⟩
        · rw [List.mem_append, not_or]
          exact ⟨notLoading, fun new => inRange.ne (List.mem_singleton.mp new)⟩
        · rw [List.length_append]
          exact Nat.lt_add_right _ inRange
    · rw [sound_iff, sound_iff,
        awaited_request_iff List.getElem?_concat_length rfl, awaited_concat_iff bounded]

theorem addition_eq_none (nothing : dialog.selected = none) (members : MembersPanel) :
    dialog.addition index members = none := by
  simp [AddMemberDialog.addition, nothing]

theorem addition_fresh {members : MembersPanel} {added : AddDoneCtx}
    (asked : dialog.addition index members = some added) :
    added.block = .alive ∧ added.dialog = index := by
  simp only [AddMemberDialog.addition, Option.bind_eq_bind, Option.bind_eq_some_iff,
    Option.pure_def, Option.some.injEq] at asked
  obtain ⟨_, _, _, _, _, _, _, _, rfl⟩ := asked
  exact ⟨rfl, rfl⟩

theorem neutral_onAddBtnClicked (tracked : self.Tracked) (index : Nat) :
    Neutral self (self.onAddBtnClicked index) := by
  unfold onAddBtnClicked
  split
  · exact neutral_self tracked
  next dialog found =>
    have window := window_of_found tracked found
    split
    next both =>
      rw [Bool.and_eq_true] at both
      have used : dialog.ctx.use = some () := by
        rw [window.mp both.1]
        rfl
      rw [used]
      cases asked : dialog.addition index self.members with
      | none => exact neutral_self tracked
      | some added =>
          have idle : index ∉ self.loading := by
            intro member
            have nothing := (nothing_of_loading tracked found member).2
            rw [addition_eq_none nothing] at asked
            cases asked
          obtain ⟨alive, here⟩ := addition_fresh asked
          have changed := @tracked_set self index dialog { dialog with addBtn := false } tracked
            found window (absurd · idle)
          refine ⟨_, rfl, ?_, ?_⟩
          · refine
              { running := changed.running, windows := changed.windows,
                loadsOnce := changed.loadsOnce, loads := changed.loads, adds := ?_ }
            intro other member
            rcases List.mem_append.mp member with old | new
            · exact changed.adds other old
            · rw [List.mem_singleton.mp new, here, List.length_set]
              exact ⟨alive, idle, (List.getElem?_eq_some_iff.mp found).1⟩
          · have same := @sound_set_iff self index dialog { dialog with addBtn := false } found
              (absurd · idle)
            rw [← same]
            exact sound_congr Iff.rfl rfl rfl
    · exact neutral_self tracked

theorem destroy_of_shown (shown : dialog.shown = true) (alive : dialog.ctx = .alive) :
    dialog.destroy = some { dialog with shown := false, ctx := .freed } := by
  rw [AddMemberDialog.destroy, if_pos shown, alive]
  rfl

/-- A dialog that is closed while its users are asked for is one whose context is freed too
early. -/
theorem onDialog_destroy (tracked : self.Tracked) (index : Nat) :
    ∃ next, self.onDialog index AddMemberDialog.destroy = some next ∧ next.Tracked ∧
      (next.Sound ↔ self.Sound ∧ ∀ dialog, self.dialogs[index]? = some dialog →
        dialog.shown = true → index ∉ self.loading) := by
  unfold onDialog
  cases found : self.dialogs[index]? with
  | none => exact ⟨self, rfl, tracked, (and_iff_left fun _ absent => nomatch absent).symm⟩
  | some dialog =>
      have window := window_of_found tracked found
      have loads := nothing_of_loading tracked found
      simp only [Option.some.injEq, forall_eq']
      by_cases shown : dialog.shown = true
      · rw [if_pos shown, destroy_of_shown shown (window.mp shown)]
        refine ⟨_, rfl, tracked_set tracked found (iff_of_false Bool.false_ne_true nofun) loads, ?_⟩
        rw [sound_iff, sound_iff, awaited_free_iff found rfl, and_assoc, forall_prop_of_true shown]
      · rw [if_neg shown]
        refine ⟨_, rfl, tracked_set tracked found window loads, ?_⟩
        rw [sound_set_iff found fun _ => rfl]
        exact (and_iff_left fun visible => absurd visible shown).symm

/-- One list of users less is asked for. -/
theorem tracked_loaded (tracked : self.Tracked) {place : Nat}
    (found : self.loading[place]? = some index) (inList : self.dialogs[index]? = some dialog)
    (sameShown : changed.shown = dialog.shown) (sameCtx : changed.ctx = dialog.ctx) :
    Tracked { self with
      loading := self.loading.eraseIdx place
      dialogs := self.dialogs.set index changed } := by
  refine
    { running := tracked.running, windows := ?_, loadsOnce := ?_, loads := ?_, adds := ?_ }
  · intro other member
    rcases List.mem_or_eq_of_mem_set member with kept | rfl
    · exact tracked.windows other kept
    · rw [sameShown, sameCtx]
      exact window_of_found tracked inList
  · exact tracked.loadsOnce.sublist (List.eraseIdx_sublist _ _)
  · intro other member
    obtain ⟨shown, there, empty⟩ := tracked.loads other (List.mem_of_mem_eraseIdx member)
    refine ⟨shown, ?_, empty⟩
    have different := ((mem_completed_iff tracked.loadsOnce found).mp member).1
    rw [getElem?_set_of_found inList, if_neg different.symm]
    exact there
  · intro added member
    obtain ⟨alive, notLoading, inDialogs⟩ := tracked.adds added member
    refine ⟨alive, fun later => notLoading (List.mem_of_mem_eraseIdx later), ?_⟩
    rw [List.length_set]
    exact inDialogs

theorem onUsersLoaded_of_alive (alive : dialog.ctx = .alive)
    (result : Except GError (List SbvUser)) :
    ∃ changed, dialog.onUsersLoaded result = some changed ∧ changed.shown = dialog.shown ∧
      changed.ctx = dialog.ctx := by
  have used : dialog.ctx.use = some () := by
    rw [alive]
    rfl
  rw [AddMemberDialog.onUsersLoaded, used]
  cases result with
  | error error => exact ⟨_, rfl, rfl, rfl⟩
  | ok users => exact ⟨_, rfl, rfl, rfl⟩

/-- The completion fails exactly where the context of the dialog is freed. -/
theorem onUsersLoaded_cases (tracked : self.Tracked) {place : Nat}
    (found : self.loading[place]? = some index) (result : Except GError (List SbvUser)) :
    let rest := { self with loading := self.loading.eraseIdx place }
    ¬ self.Sound ∧ rest.onUsersLoaded index result = none ∨
      ∃ next, rest.onUsersLoaded index result = some next ∧ next.Tracked ∧
        (next.Sound ↔ self.Sound) ∧ next.pending < self.pending := by
  intro rest
  obtain ⟨inRange, _⟩ := List.getElem?_eq_some_iff.mp found
  have member : index ∈ self.loading := List.mem_of_getElem? found
  obtain ⟨dialog, inList, _⟩ := tracked.loads index member
  have unfolded : rest.onUsersLoaded index result =
      (dialog.onUsersLoaded result).map fun changed =>
        { rest with dialogs := self.dialogs.set index changed } := by
    simp only [onUsersLoaded, rest, inList]
    cases dialog.onUsersLoaded result with
    | none => rfl
    | some changed => rfl
  cases life : dialog.ctx with
  | freed =>
      refine .inl ⟨fun sound => ?_, ?_⟩
      · have alive := sound.loading index member dialog inList
        rw [life] at alive
        cases alive
      · rw [unfolded, AddMemberDialog.onUsersLoaded, life]
        rfl
  | alive =>
      obtain ⟨changed, outcome, sameShown, sameCtx⟩ := onUsersLoaded_of_alive life result
      refine .inr ⟨{ rest with dialogs := self.dialogs.set index changed }, ?_, ?_, ?_, ?_⟩
      · rw [unfolded, outcome]
        rfl
      · exact tracked_loaded tracked found inList sameShown sameCtx
      · rw [sound_iff, sound_iff, awaited_complete_iff tracked.loadsOnce found inList life]
      · show self.members.removes.length + (self.loading.eraseIdx place).length < _
        have shorter := List.length_eraseIdx_of_lt inRange
        rw [pending, shorter]
        omega

theorem neutral_onAddMemberDone (tracked : self.Tracked) {place : Nat} {added : AddDoneCtx}
    (found : self.adding[place]? = some added) (result : Except GError Unit) :
    Neutral self (onAddMemberDone { self with adding := self.adding.eraseIdx place } added
      result) := by
  obtain ⟨alive, idle, _⟩ := tracked.adds added (List.mem_of_getElem? found)
  have rest : Tracked { self with adding := self.adding.eraseIdx place } :=
    { running := tracked.running
      windows := tracked.windows
      loadsOnce := tracked.loadsOnce
      loads := tracked.loads
      adds := fun other member => tracked.adds other (List.mem_of_mem_eraseIdx member) }
  unfold onAddMemberDone
  rw [alive]
  cases result with
  | error error =>
      refine ⟨_, rfl, ?_, ?_⟩
      · exact ⟨rest.1, rest.2, rest.3, rest.4, rest.5⟩
      · exact sound_congr (MembersPanel.owned_congr rfl rfl rfl) rfl rfl
  | ok done =>
      obtain ⟨next, outcome, trackedNext, same⟩ := onDialog_destroy rest added.dialog
      refine ⟨{ next with members := next.members.load added.conn }, ?_, ?_, ?_⟩
      · rw [outcome]
        rfl
      · exact ⟨trackedNext.1, trackedNext.2, trackedNext.3, trackedNext.4, trackedNext.5⟩
      · have kept : next.Sound ↔ self.Sound := by
          rw [same, and_iff_left fun _ _ _ => idle]
          exact sound_congr Iff.rfl rfl rfl
        rw [← kept]
        exact sound_congr (MembersPanel.owned_congr rfl rfl rfl) rfl rfl

theorem tracked_members (tracked : self.Tracked) {members : MembersPanel}
    (running : members.crashed = false) : Tracked { self with members } :=
  { running
    windows := tracked.windows
    loadsOnce := tracked.loadsOnce
    loads := tracked.loads
    adds := tracked.adds }

theorem exact_members (sound : self.Sound) (event : MembersPanel.Event) :
    self.members.ClicksOnce event ↔
      ∃ next, self.handle (.members event) = some next ∧ next.Sound := by
  rw [MembersPanel.clicksOnce_iff_owned sound.members, handle]
  constructor
  · intro owned
    refine ⟨_, if_neg (by simp [owned.running]), ?_⟩
    exact ⟨owned, sound.loading⟩
  · intro through
    obtain ⟨next, outcome, soundNext⟩ := through
    split at outcome
    · cases outcome
    · cases outcome
      exact soundNext.members

/-- What a step does that is not one of the removal buttons, a closed dialog or a list of
users that arrives. -/
theorem neutral_handle (tracked : self.Tracked) (event : Event)
    (other : match event with
      | .members _ | .dialogClosed _ | .usersLoaded _ _ => False
      | _ => True) : Neutral self (self.handle event) := by
  cases event with
  | members | dialogClosed | usersLoaded => cases other
  | addMemberBtnClicked => exact neutral_showAddMemberDialog tracked
  | searchChanged dialog lower =>
      exact neutral_onDialog tracked (handles_onSearchChanged lower) dialog
  | userSelected dialog row => exact neutral_onDialog tracked (handles_onRowSelected row) dialog
  | addBtnClicked dialog => exact neutral_onAddBtnClicked tracked dialog
  | addMemberDone index result =>
      rw [handle]
      split
      · exact neutral_self tracked
      next added found =>
        exact neutral_onAddMemberDone tracked found result

theorem handle_usersLoaded (tracked : self.Tracked) (index : Nat)
    (result : Except GError (List SbvUser)) :
    ¬ self.Sound ∧ self.handle (.usersLoaded index result) = none ∨
      Neutral self (self.handle (.usersLoaded index result)) := by
  rw [handle]
  split
  · exact .inr (neutral_self tracked)
  next dialog found =>
    rcases onUsersLoaded_cases tracked found result with fails | ⟨next, outcome, rest⟩
    · exact .inl fails
    · exact .inr ⟨next, outcome, rest.1, rest.2.1⟩

theorem tracked_handle (tracked : self.Tracked) {event : Event} {next : MemberDialogs}
    (outcome : self.handle event = some next) : next.Tracked ∧ (next.Sound → self.Sound) := by
  have of_neutral (neutral : Neutral self (self.handle event)) :
      next.Tracked ∧ (next.Sound → self.Sound) :=
    kept_of_unchanged neutral outcome
  cases event with
  | members event =>
      rw [handle] at outcome
      split at outcome
      · cases outcome
      next running =>
        cases outcome
        refine ⟨tracked_members tracked (by simpa using running), fun sound => ?_⟩
        exact ⟨MembersPanel.owned_of_step event sound.members, sound.loading⟩
  | dialogClosed index =>
      obtain ⟨other, same, trackedNext, sound⟩ := onDialog_destroy tracked index
      have reached : other = next := Option.some.inj (same.symm.trans outcome)
      rw [← reached]
      exact ⟨trackedNext, fun holds => (sound.mp holds).1⟩
  | usersLoaded index result =>
      rcases handle_usersLoaded tracked index result with ⟨_, fails⟩ | neutral
      · rw [fails] at outcome
        cases outcome
      · exact of_neutral neutral
  | addMemberBtnClicked | searchChanged | userSelected | addBtnClicked | addMemberDone =>
      exact of_neutral (neutral_handle tracked _ trivial)

theorem careful_iff (tracked : self.Tracked) (sound : self.Sound) (event : Event) :
    self.Careful event ↔ ∃ next, self.handle event = some next ∧ next.Sound := by
  cases event with
  | members event => exact exact_members sound event
  | dialogClosed index =>
      obtain ⟨next, outcome, _, same⟩ := onDialog_destroy tracked index
      rw [Careful, handle, outcome]
      simp only [Option.some.injEq, exists_eq_left', same, and_iff_right sound]
  | usersLoaded index result =>
      refine iff_of_true trivial ?_
      rcases handle_usersLoaded tracked index result with ⟨unsound, _⟩ | neutral
      · exact absurd sound unsound
      · exact sound_of_unchanged neutral sound
  | addMemberBtnClicked | searchChanged | userSelected | addBtnClicked | addMemberDone =>
      exact iff_of_true trivial (sound_of_unchanged (neutral_handle tracked _ trivial) sound)

theorem sound_of_settled (tracked : self.Tracked) (settled : self.pending = 0) : self.Sound := by
  obtain ⟨noRemovals, noLists⟩ := Nat.add_eq_zero_iff.mp settled
  rw [List.length_eq_zero_iff] at noRemovals noLists
  refine { members := { running := tracked.running, alive := ?_, distinct := ?_ }, loading := ?_ }
  · rw [noRemovals]
    exact nofun
  · rw [noRemovals]
    exact List.nodup_nil
  · rw [noLists]
    exact nofun

theorem progress (tracked : self.Tracked) (something : self.pending ≠ 0) :
    ∃ event, isCompletion event = true ∧
      ∀ next, self.handle event = some next → next.pending < self.pending := by
  cases removes : self.members.removes with
  | cons request rest =>
      refine ⟨.members (.removeDone 0 (.ok ())), rfl, ?_⟩
      intro next outcome
      rw [handle] at outcome
      split at outcome
      · cases outcome
      · cases outcome
        simp only [pending, MembersPanel.step, tracked.running, Bool.false_eq_true, if_false,
          MembersPanel.handle, removes, List.getElem?_cons_zero, List.eraseIdx_cons_zero,
          MembersPanel.removes_onRemoveDone, List.length_cons]
        omega
  | nil =>
      cases lists : self.loading with
      | nil => simp [pending, removes, lists] at something
      | cons dialog rest =>
          refine ⟨.usersLoaded 0 (.ok []), rfl, ?_⟩
          intro next outcome
          have found : self.loading[0]? = some dialog := by simp [lists]
          simp only [handle, found] at outcome
          rcases onUsersLoaded_cases tracked found (.ok []) with ⟨_, fails⟩ | ⟨other, same, counted⟩
          · rw [fails] at outcome
            cases outcome
          · rw [same] at outcome
            cases outcome
            exact counted.2.2

theorem foreseen :
    Foreseen handle Tracked Sound Careful (fun event => isCompletion event = true) pending where
  keeps tracked outcome := (tracked_handle tracked outcome).1
  exact_step tracked sound := careful_iff tracked sound _
  persists tracked outcome := (tracked_handle tracked outcome).2
  completes := by
    intro state event completes
    cases event with
    | members event =>
        cases event with
        | removeDone => trivial
        | load | rowSelected | removeClicked => cases completes
    | usersLoaded | addMemberDone => trivial
    | dialogClosed => cases completes
    | addMemberBtnClicked | searchChanged | userSelected | addBtnClicked => trivial
  settled := sound_of_settled
  progress := progress

end MemberDialogs

end Sambervise.Ui
