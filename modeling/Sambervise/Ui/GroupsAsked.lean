import Sambervise.Ui.GroupsPanel

namespace Sambervise.Ui

open Text Model Backend Backend.Groups Groups Transition

namespace GroupsPanel

/-! What the writes are for -/

/-- The two ways of asking in the detail pane, for the group whose details it shows, and
the three dialogs, for a group of the name of the one they were opened for. -/
inductive Meant : Groups.DispatchedWrite → Prop
  | save {conn : ConnId} {target : SbvGroup} {gid : GInt}
      (plain : 0 ≤ gid.toInt → sensitiveBuiltinName target.rid = none) :
      Meant
        { conn, target
          asked := .pane (some (detailOfGroup target))
          write := .setUnix (Groups.doRfcSave target gid) }
  | remove {conn : ConnId} {target : SbvGroup} {memberDn : CString}
      (member : memberDn ∈ target.members.getD []) :
      Meant
        { conn, target
          asked := .pane (some (detailOfGroup target))
          write := .removeMember (sbvGroupsRemoveMember target memberDn) }
  | saveAnyway {conn : ConnId} {target opened : SbvGroup} {builtin : String} {gid : GInt}
      (named : orEmpty opened.sam = orEmpty target.sam) :
      Meant
        { conn, target
          asked := .dialog { openedFor := some opened, content := .gidWarn builtin gid }
          write := .setUnix (Groups.doRfcSave target gid) }
  | add {target opened : SbvGroup} {window : Nat} {dialog : AddMemberDialog}
      {added : AddDoneCtx} {user : SbvUser}
      (named : orEmpty opened.sam = orEmpty target.sam)
      (selected : dialog.selected = some user) (dn : user.dn = some added.memberDn)
      (data : added.data = sbvGroupsAddMember target added.memberDn) :
      Meant
        { conn := added.conn, target
          asked := .dialog { openedFor := some opened, content := .addMember window dialog }
          write := .addMember added }
  | delete {conn : ConnId} {target opened : SbvGroup} {typed : CString}
      (named : orEmpty opened.sam = orEmpty target.sam) (something : typed ≠ [])
      (same : orEmpty target.sam = typed) :
      Meant
        { conn, target
          asked := .dialog { openedFor := some opened, content := .confirmDelete typed typed }
          write := .delete target.dn }

/-- What a dialog about a group relies on while it is open. -/
def Stands (self : GroupsPanel) (dialog : Dialog) : Prop :=
  match dialog.content with
  | .create _ => True
  | content =>
      self.pendingSelectSam = none ∧
        ∀ group, self.selectedGroup = some group → ∃ opened,
          dialog.openedFor = some opened ∧ orEmpty opened.sam = orEmpty group.sam ∧
            ∀ expectedSam typed, content = .confirmDelete expectedSam typed →
              expectedSam ≠ [] ∧ orEmpty opened.sam = expectedSam

structure Sound (panel : GroupsPanel) : Prop where
  shows : ∀ group, panel.selectedGroup = some group →
    panel.detail = some (detailOfGroup group)
  pending : panel.outerStack = .split → panel.pendingSelectSam = none
  stands : ∀ dialog, panel.dialog = some dialog → panel.Stands dialog
  meant : ∀ sent ∈ panel.dispatched, Meant sent

variable {self : GroupsPanel}

theorem sound_load (sound : self.Sound) (conn : ConnId) : (self.load conn).Sound where
  shows := sound.shows
  pending := nofun
  stands := sound.stands
  meant := sound.meant

theorem sound_close (sound : self.Sound) : Sound { self with dialog := none } where
  shows := sound.shows
  pending := sound.pending
  stands := by
    intro dialog opened
    cases opened
  meant := sound.meant

theorem sound_dispatch (sound : self.Sound) {conn : ConnId} {target : SbvGroup}
    {asked : Asked} {write : Groups.Write} (meant : Meant { conn, target, asked, write }) :
    (self.dispatch conn target asked write).Sound where
  shows := sound.shows
  pending := sound.pending
  stands := sound.stands
  meant := by
    intro sent member
    rcases List.mem_append.mp member with earlier | last
    · exact sound.meant sent earlier
    · rw [List.mem_singleton.mp last]
      exact meant

theorem reachable_iff : self.reachable = true ↔ self.outerStack = .split ∧ self.dialog = none := by
  simp [reachable]

theorem detailReachable_iff : self.detailReachable = true ↔
    self.reachable = true ∧ self.detailVisible = true := by
  rw [detailReachable, Bool.and_eq_true]

/-- A dialog is opened where nothing is to be selected by its name. -/
theorem sound_openDialog (sound : self.Sound) (reachable : self.reachable = true)
    {content : DialogContent}
    (expects : ∀ expectedSam typed, content = .confirmDelete expectedSam typed →
      expectedSam ≠ [] ∧ ∀ group, self.selectedGroup = some group →
        orEmpty group.sam = expectedSam) :
    (self.openDialog content).Sound where
  shows := sound.shows
  pending := sound.pending
  stands := by
    intro dialog opened
    cases opened
    have nothing := sound.pending (reachable_iff.mp reachable).1
    have stands : self.pendingSelectSam = none ∧
        ∀ group, self.selectedGroup = some group → ∃ opened,
          self.selectedGroup = some opened ∧ orEmpty opened.sam = orEmpty group.sam ∧
            ∀ expectedSam typed, content = .confirmDelete expectedSam typed →
              expectedSam ≠ [] ∧ orEmpty opened.sam = expectedSam := by
      refine ⟨nothing, fun group selected => ⟨group, selected, rfl, ?_⟩⟩
      intro expectedSam typed confirms
      obtain ⟨something, named⟩ := expects expectedSam typed confirms
      exact ⟨something, named group selected⟩
    cases content with
    | create conn => trivial
    | confirmDelete expectedSam typed => exact stands
    | gidWarn builtin pendingGid => exact stands
    | addMember window dialog => exact stands
  meant := sound.meant

/-! The list -/

theorem sam_of_reselected {groups : List SbvGroup} {group : SbvGroup}
    (found : self.reselected groups = some group) :
    self.targetSam = some (orEmpty group.sam) := by
  obtain ⟨sam, target, last⟩ := Option.bind_eq_some_iff.mp found
  have same := List.find?_some last
  rw [target, of_decide_eq_true same]

/-- A reload finds a group of the name of the one selected. -/
theorem named_of_reselected {groups : List SbvGroup} {group : SbvGroup}
    (nothing : self.pendingSelectSam = none) (found : self.reselected groups = some group) :
    ∃ before, self.selectedGroup = some before ∧ orEmpty before.sam = orEmpty group.sam := by
  have target := sam_of_reselected found
  rw [targetSam, nothing, Option.none_or] at target
  obtain ⟨before, selected, sam⟩ := Option.bind_eq_some_iff.mp target
  exact ⟨before, selected, by rw [sam]; rfl⟩

theorem stands_of_named {before after : GroupsPanel} {dialog : Dialog}
    (stands : before.Stands dialog)
    (nothing : before.pendingSelectSam = none → after.pendingSelectSam = none)
    (named : before.pendingSelectSam = none → ∀ group, after.selectedGroup = some group →
      ∃ old, before.selectedGroup = some old ∧ orEmpty old.sam = orEmpty group.sam) :
    after.Stands dialog := by
  unfold Stands at stands ⊢
  split
  · trivial
  next content other =>
    split at stands
    next conn created =>
      exact absurd created (other conn)
    · refine ⟨nothing stands.1, fun group selected => ?_⟩
      obtain ⟨old, oldSelected, oldNamed⟩ := named stands.1 group selected
      obtain ⟨opened, openedFor, openedNamed, expects⟩ := stands.2 old oldSelected
      exact ⟨opened, openedFor, openedNamed.trans oldNamed, expects⟩

theorem sound_onGroupsLoaded (sound : self.Sound)
    (result : Except GError (List SbvGroup)) : (self.onGroupsLoaded result).Sound := by
  cases result with
  | error error =>
      exact { shows := sound.shows, pending := nofun, stands := sound.stands, meant := sound.meant }
  | ok groups =>
      simp only [onGroupsLoaded]
      cases found : self.reselected groups with
      | none =>
          refine ⟨sound.shows, fun _ => rfl, fun dialog opened => ?_, sound.meant⟩
          refine stands_of_named (sound.stands dialog opened) (fun _ => rfl) ?_
          exact fun _ group selected => ⟨group, selected, rfl⟩
      | some row =>
          refine ⟨fun group selected => ?_, fun _ => rfl, fun dialog opened => ?_, sound.meant⟩
          · cases selected
            rfl
          · refine stands_of_named (sound.stands dialog opened) (fun _ => rfl) ?_
            intro nothing group selected
            cases selected
            exact named_of_reselected nothing found

theorem sound_onRowSelected (sound : self.Sound) (reachable : self.reachable = true)
    (row : Option SbvGroup) : (self.onRowSelected row).Sound := by
  cases row with
  | none => exact ⟨sound.shows, sound.pending, sound.stands, sound.meant⟩
  | some group =>
      refine ⟨fun other selected => ?_, sound.pending, fun dialog opened => ?_, sound.meant⟩
      · cases selected
        rfl
      · have before : self.dialog = some dialog := opened
        rw [(reachable_iff.mp reachable).2] at before
        cases before

/-! The writes -/

theorem sound_crashed (sound : self.Sound) : Sound { self with crashed := true } :=
  ⟨sound.shows, sound.pending, sound.stands, sound.meant⟩

theorem sound_doRfcSave (sound : self.Sound) {asked : Asked} {gid : GInt}
    (meant : ∀ conn group, self.selectedGroup = some group →
      Meant { conn, target := group, asked, write := .setUnix (Groups.doRfcSave group gid) }) :
    (self.doRfcSave asked gid).Sound := by
  unfold doRfcSave
  split
  next group conn selected connected =>
    refine sound_dispatch ?_ (meant conn group selected)
    exact ⟨sound.shows, sound.pending, sound.stands, sound.meant⟩
  · exact sound_crashed sound

theorem plain_of_sent {group : SbvGroup} {gidText : CString} {d : GroupUnixData}
    (sent : Groups.onRfcSaveClicked group gidText = .sent d) :
    0 ≤ d.gidNumber.toInt → sensitiveBuiltinName group.rid = none := by
  intro set
  simp only [Groups.onRfcSaveClicked] at sent
  split at sent
  · cases sent
  next builtin =>
    cases sent
    rwa [if_pos (by exact set)] at builtin

theorem sound_onRfcSaveClicked (sound : self.Sound) (reachable : self.reachable = true) :
    self.onRfcSaveClicked.Sound := by
  unfold onRfcSaveClicked
  split
  next group conn selected connected =>
    split
    · exact sound_openDialog sound reachable nofun
    next d sent =>
      refine sound_doRfcSave sound fun conn other same => ?_
      rw [selected] at same
      cases same
      rw [sound.shows group selected]
      exact .save (plain_of_sent sent)
  · exact sound

theorem sound_onRemoveClicked (sound : self.Sound) {row : Nat} {memberDn : CString}
    (found : (self.detail.elim [] Detail.members)[row]? = some memberDn) :
    (self.onRemoveClicked memberDn).Sound := by
  unfold onRemoveClicked
  split
  next group conn selected connected =>
    have detail := sound.shows group selected
    rw [detail] at found
    refine sound_dispatch ?_ ?_
    · exact ⟨sound.shows, sound.pending, sound.stands, sound.meant⟩
    · rw [detail]
      exact .remove (List.mem_of_getElem? found)
  · exact sound

theorem sound_showAddMemberDialog (sound : self.Sound) (reachable : self.reachable = true) :
    self.showAddMemberDialog.Sound := by
  unfold showAddMemberDialog
  split
  · exact sound
  · have opened : (self.openDialog (.addMember self.windows {})).Sound :=
      sound_openDialog sound reachable nofun
    exact ⟨opened.shows, opened.pending, opened.stands, opened.meant⟩

theorem sound_showGroupDeleteConfirm (sound : self.Sound) (reachable : self.reachable = true) :
    self.showGroupDeleteConfirm.Sound := by
  unfold showGroupDeleteConfirm
  split
  · exact sound
  next group selected =>
    split
    · exact sound
    next sam something =>
      refine sound_openDialog sound reachable fun expectedSam typed confirms => ?_
      cases confirms
      refine ⟨something, fun other same => ?_⟩
      rw [selected] at same
      cases same
      rfl

theorem sound_closeWindow (sound : self.Sound) (window : Nat) :
    (self.closeWindow window).Sound := by
  unfold closeWindow
  split
  · split
    · exact sound_close sound
    · exact sound
  · exact sound

/-! The completions -/

/-- A deleted group is not looked for again. -/
theorem sound_deselect (sound : self.Sound) :
    Sound { self with deleteBtn := true, selectedGroup := none } where
  shows := by
    intro group selected
    cases selected
  pending := sound.pending
  stands := by
    intro dialog opened
    refine stands_of_named (sound.stands dialog opened) (fun nothing => nothing) ?_
    intro _ group selected
    cases selected
  meant := sound.meant

theorem sound_onDone (sound : self.Sound) (sent : Groups.DispatchedWrite)
    (result : Except GError Unit) : (self.onDone sent result).Sound := by
  unfold onDone
  cases result with
  | error error =>
      split
      · exact ⟨sound.shows, sound.pending, sound.stands, sound.meant⟩
      · exact ⟨sound.shows, sound.pending, sound.stands, sound.meant⟩
      · exact ⟨sound.shows, sound.pending, sound.stands, sound.meant⟩
      · exact ⟨sound.shows, sound.pending, sound.stands, sound.meant⟩
  | ok done =>
      split
      · refine sound_load ?_ _
        exact ⟨sound.shows, sound.pending, sound.stands, sound.meant⟩
      · exact sound_load sound _
      · exact sound_load (sound_closeWindow sound _) _
      · exact sound_load (sound_deselect sound) _

/-! The widgets of a dialog -/

theorem stands_about {openedFor : Option SbvGroup} {content : DialogContent}
    (stands : self.Stands { openedFor, content }) (about : ∀ conn, content ≠ .create conn)
    {group : SbvGroup} (selected : self.selectedGroup = some group) :
    ∃ opened, openedFor = some opened ∧ orEmpty opened.sam = orEmpty group.sam ∧
      ∀ expectedSam typed, content = .confirmDelete expectedSam typed →
        expectedSam ≠ [] ∧ orEmpty opened.sam = expectedSam := by
  cases content with
  | create conn => exact absurd rfl (about conn)
  | confirmDelete expectedSam typed => exact stands.2 group selected
  | gidWarn builtin pendingGid => exact stands.2 group selected
  | addMember window dialog => exact stands.2 group selected

theorem sound_typed (sound : self.Sound) {openedFor : Option SbvGroup}
    {expectedSam typed : CString}
    (shown : self.dialog = some { openedFor, content := .confirmDelete expectedSam typed })
    (text : CString) :
    Sound { self with
      dialog := some { openedFor, content := .confirmDelete expectedSam text } } where
  shows := sound.shows
  pending := sound.pending
  stands := by
    intro dialog opened
    cases opened
    have stands := sound.stands _ shown
    refine ⟨stands.1, fun group selected => ?_⟩
    obtain ⟨opened, same, named, expects⟩ := stands.2 group selected
    refine ⟨opened, same, named, fun expected typed' confirms => ?_⟩
    cases confirms
    exact expects expectedSam typed rfl
  meant := sound.meant

theorem sound_addMember (sound : self.Sound) {openedFor : Option SbvGroup} {window : Nat}
    {dialog : AddMemberDialog}
    (shown : self.dialog = some { openedFor, content := .addMember window dialog })
    (changed : AddMemberDialog) :
    Sound { self with
      dialog := some { openedFor, content := .addMember window changed } } where
  shows := sound.shows
  pending := sound.pending
  stands := by
    intro dialog opened
    cases opened
    have stands := sound.stands _ shown
    refine ⟨stands.1, fun group selected => ?_⟩
    obtain ⟨opened, same, named, expects⟩ := stands.2 group selected
    exact ⟨opened, same, named, nofun⟩
  meant := sound.meant

theorem sound_onConfirmGroupDeleteClicked (sound : self.Sound)
    {openedFor : Option SbvGroup} {typed : CString}
    (shown : self.dialog = some { openedFor, content := .confirmDelete typed typed }) :
    (self.onConfirmGroupDeleteClicked
      { openedFor, content := .confirmDelete typed typed }).Sound := by
  unfold onConfirmGroupDeleteClicked
  split
  next conn group connected selected =>
    obtain ⟨opened, rfl, named, expects⟩ := stands_about (sound.stands _ shown) nofun selected
    obtain ⟨something, same⟩ := expects typed typed rfl
    have closed := sound_close sound
    refine sound_dispatch ?_ (.delete named something (named.symm.trans same))
    exact ⟨closed.shows, closed.pending, closed.stands, closed.meant⟩
  · exact sound_close sound

theorem sound_onGidWarnResponse (sound : self.Sound) {openedFor : Option SbvGroup}
    {builtin : String} {pendingGid : GInt}
    (shown : self.dialog = some { openedFor, content := .gidWarn builtin pendingGid })
    (response : CString) :
    (onGidWarnResponse { self with dialog := none }
      { openedFor, content := .gidWarn builtin pendingGid } pendingGid response).Sound := by
  unfold onGidWarnResponse
  split
  · refine sound_doRfcSave (sound_close sound) fun conn group selected => ?_
    obtain ⟨opened, rfl, named, _⟩ := stands_about (sound.stands _ shown) nofun selected
    exact .saveAnyway named
  · exact sound_close sound

theorem sound_onAddBtnClicked (sound : self.Sound) {openedFor : Option SbvGroup}
    {window : Nat} {dialog : AddMemberDialog}
    (shown : self.dialog = some { openedFor, content := .addMember window dialog }) :
    (self.onAddBtnClicked { openedFor, content := .addMember window dialog } window
      dialog).Sound := by
  unfold onAddBtnClicked
  split
  · exact sound
  next group selected =>
    split
    · exact sound
    next added addition =>
      obtain ⟨opened, rfl, named, _⟩ := stands_about (sound.stands _ shown) nofun selected
      refine sound_dispatch (sound_addMember sound shown _) ?_
      simp only [AddMemberDialog.addition, Option.bind_eq_bind, Option.bind_eq_some_iff] at addition
      obtain ⟨user, chosen, conn, connected, other, same, memberDn, dn, result⟩ := addition
      cases same
      cases result
      exact .add named chosen dn rfl

theorem sound_onGroupCreated (sound : self.Sound) (conn : ConnId) (newDn : CString) :
    (self.onGroupCreated conn newDn).Sound where
  shows := sound.shows
  pending := nofun
  stands := by
    intro dialog opened
    cases opened
  meant := sound.meant

theorem sound_onDialog (sound : self.Sound) {opened : Dialog}
    (shown : self.dialog = some opened) (event : Event) : (self.onDialog opened event).Sound := by
  obtain ⟨openedFor, content⟩ := opened
  cases event with
  | confirmTyped text =>
      cases content with
      | confirmDelete expectedSam typed => exact sound_typed sound shown text
      | create | gidWarn | addMember => exact sound
  | confirmClicked =>
      cases content with
      | confirmDelete expectedSam typed =>
          simp only [onDialog]
          split
          next same =>
            cases same
            exact sound_onConfirmGroupDeleteClicked sound shown
          · exact sound
      | create | gidWarn | addMember => exact sound
  | warnAnswered response =>
      cases content with
      | gidWarn builtin pendingGid => exact sound_onGidWarnResponse sound shown response
      | create | confirmDelete | addMember => exact sound
  | userSelected row =>
      cases content with
      | addMember window dialog =>
          simp only [onDialog]
          split
          · exact sound_crashed sound
          · exact sound_addMember sound shown _
      | create | confirmDelete | gidWarn => exact sound
  | addClicked =>
      cases content with
      | addMember window dialog =>
          simp only [onDialog]
          split
          · exact sound_onAddBtnClicked sound shown
          · exact sound
      | create | confirmDelete | gidWarn => exact sound
  | created newDn =>
      cases content with
      | create conn => exact sound_onGroupCreated sound conn newDn
      | confirmDelete | gidWarn | addMember => exact sound
  | dialogClosed => exact sound_close sound
  | load | listed | done | usersLoaded | rowSelected | gidChanged | rfcSaveClicked
  | removeClicked | addMemberClicked | addGroupClicked | deleteClicked => exact sound

theorem sound_onUsersLoaded (sound : self.Sound) (window : Nat)
    (result : Except GError (List SbvUser)) : (self.onUsersLoaded window result).Sound := by
  unfold onUsersLoaded
  split
  next openedFor other dialog shown =>
    split
    · split
      · exact sound_crashed sound
      · exact sound_addMember sound shown _
    · exact sound_crashed sound
  · exact sound_crashed sound

theorem sound_handle (sound : self.Sound) (event : Event) : (self.handle event).Sound := by
  cases event with
  | load conn => exact sound_load sound conn
  | listed index result =>
      simp only [handle]
      split
      · exact sound
      · apply sound_onGroupsLoaded
        exact ⟨sound.shows, sound.pending, sound.stands, sound.meant⟩
  | done index result =>
      simp only [handle]
      split
      · exact sound
      · apply sound_onDone
        exact ⟨sound.shows, sound.pending, sound.stands, sound.meant⟩
  | usersLoaded index result =>
      simp only [handle]
      split
      · exact sound
      · apply sound_onUsersLoaded
        exact ⟨sound.shows, sound.pending, sound.stands, sound.meant⟩
  | rowSelected row =>
      cases row with
      | none =>
          simp only [handle]
          split
          next reachable =>
            exact sound_onRowSelected sound reachable none
          · exact sound
      | some index =>
          simp only [handle]
          split
          · exact sound
          · split
            next group inRows reachable =>
              exact sound_onRowSelected sound reachable (some group)
            · exact sound
  | gidChanged text => exact ⟨sound.shows, sound.pending, sound.stands, sound.meant⟩
  | rfcSaveClicked =>
      simp only [handle, Bool.and_eq_true, detailReachable_iff]
      split
      next clickable =>
        exact sound_onRfcSaveClicked sound clickable.1.1
      · exact sound
  | removeClicked row =>
      simp only [handle]
      split
      · exact sound
      next memberDn found =>
        split
        · exact sound_onRemoveClicked sound found
        · exact sound
  | addMemberClicked =>
      simp only [handle, detailReachable_iff]
      split
      next clickable =>
        exact sound_showAddMemberDialog sound clickable.1
      · exact sound
  | addGroupClicked =>
      simp only [handle, onAddGroupBtnClicked]
      split
      next reachable =>
        split
        · exact sound
        · refine sound_openDialog sound reachable fun expectedSam typed same => ?_
          cases same
      · exact sound
  | deleteClicked =>
      simp only [handle, Bool.and_eq_true, detailReachable_iff]
      split
      next clickable =>
        exact sound_showGroupDeleteConfirm sound clickable.1.1
      · exact sound
  | confirmTyped _ | confirmClicked | warnAnswered _ | userSelected _ | addClicked | created _
  | dialogClosed =>
      simp only [handle]
      split
      · exact sound
      next opened shown =>
        exact sound_onDialog sound shown _

theorem sound_step (self : GroupsPanel) (event : Event) (sound : self.Sound) :
    (self.step event).Sound := by
  unfold step
  split
  · exact sound
  · exact sound_handle sound event

theorem sound_opened : ({} : GroupsPanel).Sound where
  shows := by
    intro group selected
    cases selected
  pending := fun _ => rfl
  stands := by
    intro dialog opened
    cases opened
  meant := by simp

/-- In every run of a new groups panel, whatever reloads, completions and connections come
in between, every write is for the group it was asked for, up to other groups of the same
name. -/
theorem groups_written_as_asked (events : List Event) :
    Throughout step (fun panel => ∀ sent ∈ panel.dispatched, Meant sent) {} events := by
  have throughout := throughout_of_step Sound sound_step events sound_opened
  exact throughout.mono fun _ sound => sound.meant

end GroupsPanel

end Sambervise.Ui
