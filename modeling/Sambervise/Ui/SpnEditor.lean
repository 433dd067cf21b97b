import Mathlib.Data.List.Perm.Subperm
import Sambervise.Transition.Run
import Sambervise.Ui.SpnMerge

namespace Sambervise.Ui.Computers

open Text Model Backend Transition

/-! The SPN editor of the computers panel: computers are selected and names added and
removed in any order, and nothing is saved. -/

def CaseDistinct (spns : List CString) : Prop := (spns.map asciiStrdown).Nodup

def ServiceHost (spn : CString) : Prop :=
  ∃ service host, service ≠ [] ∧ host ≠ [] ∧ 0x2F ∉ service ∧ spn = service ++ 0x2F :: host

def loadedSpns (selected : Option SbvComputer) : List CString :=
  (selected.bind SbvComputer.spn).getD []

/-- What holds of the form of the selected computer. -/
structure Edited (selected : Option SbvComputer) (form : Form) : Prop where
  loaded : CaseDistinct (loadedSpns selected)
  working : CaseDistinct form.workingSpns
  enabled : form.spnSaveBtn = true ↔
    workingSpns form ≠ { spn | spn ∈ loadedSpns selected } ∧
      selected.any uninitialized = false

/-! The names -/

theorem CaseDistinct.nodup {spns : List CString} (distinct : CaseDistinct spns) :
    spns.Nodup := List.Nodup.of_map _ distinct

theorem CaseDistinct.erase {spns : List CString} (distinct : CaseDistinct spns)
    (value : CString) : CaseDistinct (spns.erase value) :=
  distinct.sublist (List.erase_sublist.map asciiStrdown)

theorem CaseDistinct.concat {spns : List CString} (distinct : CaseDistinct spns)
    {typed : CString} (new : ¬ spns.any (asciiStrdown · = asciiStrdown typed) = true) :
    CaseDistinct (spns ++ [typed]) := by
  rw [CaseDistinct, List.map_append, List.map_singleton, List.nodup_append]
  refine ⟨distinct, List.nodup_singleton _, ?_⟩
  intro lower inSpns other last same
  obtain ⟨spn, member, rfl⟩ := List.mem_map.mp inSpns
  rw [List.mem_singleton.mp last] at same
  exact new (List.any_eq_true.mpr ⟨spn, member, decide_eq_true same⟩)

theorem serviceHost_of_wellFormed {typed : CString} (wellFormed : spnWellFormed typed = true) :
    ServiceHost typed := by
  simp only [spnWellFormed, Bool.and_eq_true, decide_eq_true_eq] at wellFormed
  obtain ⟨service, rest⟩ := wellFormed
  have split := @List.takeWhile_append_dropWhile _ (· ≠ 0x2F) typed
  cases after : typed.dropWhile (· ≠ 0x2F) with
  | nil =>
      rw [after] at rest
      cases rest
  | cons slash host =>
      have first := List.head?_dropWhile_not (· ≠ 0x2F) typed
      rw [after] at first
      have isSlash : slash = 0x2F := by simpa using first
      rw [after] at rest split
      subst isSlash
      refine ⟨_, host, service, ?_, ?_, split.symm⟩
      · intro nothing
        rw [nothing] at rest
        exact absurd rest (Nat.lt_irrefl 1)
      · intro member
        simpa using List.mem_takeWhile_imp member

/-- The test counts the names and looks the working ones up; between lists without
repetitions that compares the sets. -/
theorem spnDirty_iff {computer : SbvComputer} {working : List CString}
    (listed : (computer.spn.getD []).Nodup) (distinct : working.Nodup) :
    spnDirty computer working = true ↔
      { spn | spn ∈ working } ≠ { spn | spn ∈ computer.spn.getD [] } := by
  rw [← not_iff_not, not_not, Bool.not_eq_true]
  simp only [spnDirty, Bool.or_eq_false_iff, bne_eq_false_iff_eq, List.any_eq_false]
  constructor
  · intro clean
    obtain ⟨count, found⟩ := clean
    have subset : working ⊆ computer.spn.getD [] := by
      intro spn member
      simpa using found spn member
    have perm := (distinct.subperm subset).perm_of_length_le count.le
    ext spn
    exact perm.mem_iff
  · intro same
    have mem_iff (spn : CString) : spn ∈ working ↔ spn ∈ computer.spn.getD [] :=
      Set.ext_iff.mp same spn
    refine ⟨((List.perm_ext_iff_of_nodup distinct listed).mpr mem_iff).length_eq.symm, ?_⟩
    intro spn member
    simpa using (mem_iff spn).mp member

/-! The form -/

section Form

variable {selected : Option SbvComputer} {form : Form}

theorem edited_load (computer : SbvComputer) (listed : CaseDistinct (computer.spn.getD []))
    (form : Form) : Edited (some computer) (loadComputerIntoDetail computer form) where
  loaded := listed
  working := listed
  enabled := iff_of_false Bool.false_ne_true fun differ => differ.1 rfl

theorem edited_updateSpnDirty (loaded : CaseDistinct (loadedSpns selected))
    (working : CaseDistinct form.workingSpns) (isSome : selected.isSome = true) :
    Edited selected (updateSpnDirty selected form) := by
  cases selected with
  | none => cases isSome
  | some computer =>
      refine ⟨loaded, working, ?_⟩
      change (spnDirty computer form.workingSpns && !uninitialized computer) = true ↔ _
      rw [Bool.and_eq_true, spnDirty_iff loaded.nodup working.nodup, Bool.not_eq_true']
      rfl

theorem workingSpns_updateSpnDirty (selected : Option SbvComputer) (form : Form) :
    (updateSpnDirty selected form).workingSpns = form.workingSpns := by
  cases selected with
  | none => rfl
  | some computer => rfl

/-- Nothing but the names themselves counts. -/
theorem Edited.congr (edited : Edited selected form) {after : Form}
    (working : after.workingSpns = form.workingSpns)
    (enabled : after.spnSaveBtn = form.spnSaveBtn) : Edited selected after where
  loaded := edited.loaded
  working := working ▸ edited.working
  enabled := by
    rw [enabled, workingSpns, working]
    exact edited.enabled

inductive Adds (selected : Option SbvComputer) (form : Form) : Form → Prop
  | refused {after : Form} (working : after.workingSpns = form.workingSpns)
      (enabled : after.spnSaveBtn = form.spnSaveBtn) : Adds selected form after
  | added (typed : CString) (isSome : selected.isSome = true)
      (wellFormed : spnWellFormed typed = true)
      (new : ¬ form.workingSpns.any (asciiStrdown · = asciiStrdown typed) = true) :
      Adds selected form
        (updateSpnDirty selected
          { form with
            workingSpns := form.workingSpns ++ [typed]
            spnNew := []
            spnSaveError := none })

theorem adds_onSpnAddClicked (selected : Option SbvComputer) (form : Form) :
    Adds selected form (onSpnAddClicked selected form) := by
  unfold onSpnAddClicked
  split
  · exact .refused rfl rfl
  · dsimp only
    split
    · exact .refused rfl rfl
    · split
      · exact .refused rfl rfl
      · split
        · exact .refused rfl rfl
        next wellFormed =>
          rw [Bool.not_eq_true', Bool.not_eq_false] at wellFormed
          split
          · exact .refused rfl rfl
          next new =>
            exact .added form.spnNew rfl wellFormed new

theorem Edited.edit (edited : Edited selected form) (edit : Edit) :
    Edited selected (Computers.edit selected form edit) := by
  cases edit with
  | description text => exact edited.congr rfl rfl
  | dnsHostname text => exact edited.congr rfl rfl
  | enabled active => exact edited.congr rfl rfl
  | spnNew text =>
      simp only [Computers.edit]
      split
      · exact edited.congr rfl rfl
      · exact edited
  | spnAdd =>
      have adds := adds_onSpnAddClicked selected form
      change Edited selected (onSpnAddClicked selected form)
      generalize onSpnAddClicked selected form = after at adds
      cases adds with
      | refused working enabled => exact edited.congr working enabled
      | added typed isSome wellFormed new =>
          exact edited_updateSpnDirty edited.loaded (edited.working.concat new) isSome
  | spnRemove value =>
      simp only [Computers.edit]
      split
      next editable =>
        exact edited_updateSpnDirty edited.loaded (edited.working.erase value)
          (Option.isSome_of_any editable)
      · exact edited

end Form

/-! Runs of the panel -/

def selectedComputer (panel : ComputersPanel) : Option SbvComputer :=
  panel.selected.map Listed.obj

def listedDistinct (panel : ComputersPanel) : Prop :=
  ∀ row ∈ panel.rows, CaseDistinct (row.obj.spn.getD [])

/-- Nothing is sent, and what is listed has no name twice. -/
def Unsaved : AccountPanel.Event computersKind → Prop
  | .saveClicked | .buttonClicked _ | .confirmClicked => False
  | .listed _ (.ok computers) =>
      ∀ computer ∈ computers, CaseDistinct (SbvComputer.spn computer |>.getD [])
  | _ => True

/-- The lists are loaded, nothing is in flight, and the editor is as the selection left
it. -/
structure Loaded (panel : ComputersPanel) : Prop where
  idle : panel.inFlight = []
  rows : listedDistinct panel
  distinct : CaseDistinct (loadedSpns (selectedComputer panel))
  working : panel.form.workingSpns = loadedSpns (selectedComputer panel)
  button : panel.form.spnSaveBtn = false

/-- What a click on Add puts into the working list. -/
def addedBy (panel : ComputersPanel) : AccountPanel.Event computersKind → List CString
  | .edited .spnAdd =>
      (panel.step (.edited .spnAdd)).form.workingSpns.filter
        (!panel.form.workingSpns.contains ·)
  | _ => []

def added : ComputersPanel → List (AccountPanel.Event computersKind) → List CString
  | _, [] => []
  | panel, event :: rest => addedBy panel event ++ added (panel.step event) rest

structure Editor (panel : ComputersPanel) : Prop where
  idle : panel.inFlight = []
  rows : listedDistinct panel
  edited : Edited (selectedComputer panel) panel.form

section Runs

variable {panel : ComputersPanel}

theorem Loaded.editor (loaded : Loaded panel) : Editor panel := by
  refine ⟨loaded.idle, loaded.rows, loaded.distinct, ?_, ?_⟩
  · rw [loaded.working]
    exact loaded.distinct
  · have same : workingSpns panel.form =
        { spn | spn ∈ loadedSpns (selectedComputer panel) } :=
      congrArg (fun spns => { spn | spn ∈ spns }) loaded.working
    rw [loaded.button]
    exact iff_of_false Bool.false_ne_true fun differ => differ.1 same

theorem Editor.congr (editor : Editor panel) {after : ComputersPanel}
    (inFlight : after.inFlight = panel.inFlight) (rows : after.rows = panel.rows)
    (selected : after.selected = panel.selected) (form : after.form = panel.form) :
    Editor after where
  idle := inFlight.trans editor.idle
  rows := by
    rw [listedDistinct, rows]
    exact editor.rows
  edited := by
    rw [selectedComputer, selected, form]
    exact editor.edited

theorem Editor.select (editor : Editor panel) {row : Listed SbvComputer}
    (distinct : CaseDistinct (row.obj.spn.getD [])) :
    Editor (panel.loadIntoDetail row) where
  idle := editor.idle
  rows := editor.rows
  edited := edited_load row.obj distinct panel.form

theorem Editor.listed (editor : Editor panel) (source : ConnId) {computers : List SbvComputer}
    (distinct : ∀ computer ∈ computers, CaseDistinct (computer.spn.getD [])) :
    Editor (panel.onLoaded source (.ok computers)) := by
  have fresh (row : Listed SbvComputer) (member : row ∈ panel.newRows source computers) :
      CaseDistinct (row.obj.spn.getD []) := by
    have listed := List.mem_map_of_mem (f := Listed.obj) member
    exact distinct row.obj (panel.map_newRows source computers ▸ listed)
  have refilled : Editor { panel with toListPanel := panel.refill source computers } :=
    ⟨editor.idle, fresh, editor.edited⟩
  simp only [AccountPanel.onLoaded]
  split
  next row found =>
    exact refilled.select (fresh row (List.mem_of_find?_eq_some found))
  · exact refilled

theorem Editor.handle (editor : Editor panel) {event : AccountPanel.Event computersKind}
    (unsaved : Unsaved event) : Editor (panel.handle event) := by
  have handles := panel.handles_handle event
  cases event with
  | edited edit =>
      simp only [AccountPanel.handle]
      split
      · exact ⟨editor.idle, editor.rows, editor.edited.edit edit⟩
      · exact editor
  | saveClicked => exact unsaved.elim
  | buttonClicked button => exact unsaved.elim
  | confirmClicked => exact unsaved.elim
  | listed index result =>
      simp only [AccountPanel.handle]
      split
      · exact editor
      · have dropped : Editor { panel with listings := panel.listings.eraseIdx index } :=
          editor.congr rfl rfl rfl rfl
        cases result with
        | error error => exact dropped.congr rfl rfl rfl rfl
        | ok computers => exact dropped.listed _ unsaved
  | done index result =>
      simp only [AccountPanel.handle, editor.idle, List.getElem?_nil]
      exact editor
  | rowSelected row =>
      generalize panel.handle (.rowSelected row) = after at handles
      cases handles with
      | idle quiet => exact editor
      | hide => exact editor.congr rfl rfl rfl rfl
      | row split reachable inRows =>
          exact editor.select (editor.rows _ (List.mem_of_getElem? inRows))
  | load conn => exact editor.congr rfl rfl rfl rfl
  | addClicked =>
      generalize panel.handle .addClicked = after at handles
      cases handles with
      | idle quiet => exact editor
      | add conn => exact editor.congr rfl rfl rfl rfl
  | createClosed => exact editor.congr rfl rfl rfl rfl
  | created newDn =>
      generalize panel.handle (.created newDn) = after at handles
      cases handles with
      | idle quiet => exact editor
      | created newDn dialog => exact editor.congr rfl rfl rfl rfl
  | deleteClicked =>
      generalize panel.handle .deleteClicked = after at handles
      cases handles with
      | idle quiet => exact editor
      | confirm ctx reachable selected => exact editor.congr rfl rfl rfl rfl
  | confirmTyped text => exact editor.congr rfl rfl rfl rfl
  | confirmClosed => exact editor.congr rfl rfl rfl rfl

theorem Editor.step (editor : Editor panel) {event : AccountPanel.Event computersKind}
    (unsaved : Unsaved event) : Editor (panel.step event) := by
  unfold AccountPanel.step
  split
  · exact editor
  · exact editor.handle unsaved

theorem serviceHost_of_addedBy {event : AccountPanel.Event computersKind} {spn : CString}
    (member : spn ∈ addedBy panel event) : ServiceHost spn := by
  unfold addedBy at member
  split at member
  · obtain ⟨inWorking, new⟩ := List.mem_filter.mp member
    rw [Bool.not_eq_true', ← Bool.not_eq_true, List.contains_iff_mem] at new
    simp only [AccountPanel.step, AccountPanel.handle] at inWorking
    split at inWorking
    · exact absurd inWorking new
    · split at inWorking
      · have adds := adds_onSpnAddClicked (selectedComputer panel) panel.form
        change spn ∈ (onSpnAddClicked (selectedComputer panel) panel.form).workingSpns
          at inWorking
        generalize onSpnAddClicked (selectedComputer panel) panel.form = after
          at adds inWorking
        cases adds with
        | refused working enabled => exact absurd (working ▸ inWorking) new
        | added typed isSome wellFormed _ =>
            rw [workingSpns_updateSpnDirty] at inWorking
            rcases List.mem_append.mp inWorking with before | last
            · exact absurd before new
            · exact List.mem_singleton.mp last ▸ serviceHost_of_wellFormed wellFormed
      · exact absurd inWorking new
  · cases member

theorem serviceHost_of_added {events : List (AccountPanel.Event computersKind)}
    {spn : CString} (member : spn ∈ added panel events) : ServiceHost spn := by
  induction events generalizing panel with
  | nil => cases member
  | cons event rest ih =>
      rcases List.mem_append.mp member with first | later
      · exact serviceHost_of_addedBy first
      · exact ih later

/-- Whatever is selected, added and removed, in any order. -/
theorem spnEditor_sound (loaded : Loaded panel)
    {events : List (AccountPanel.Event computersKind)}
    (unsaved : ∀ event ∈ events, Unsaved event) :
    let after := run AccountPanel.step panel events
    CaseDistinct after.form.workingSpns ∧ (∀ spn ∈ added panel events, ServiceHost spn) ∧
      (after.form.spnSaveBtn = true ↔
        workingSpns after.form ≠ { spn | spn ∈ loadedSpns (selectedComputer after) } ∧
          (selectedComputer after).any uninitialized = false) := by
  have editor : Editor (run AccountPanel.step panel events) := by
    have start := loaded.editor
    clear loaded
    induction events generalizing panel with
    | nil => exact start
    | cons event rest ih =>
        obtain ⟨first, later⟩ := List.forall_mem_cons.mp unsaved
        exact ih later (start.step first)
  exact ⟨editor.edited.working, fun _ member => serviceHost_of_added member,
    editor.edited.enabled⟩

def kioskComputer : SbvComputer :=
  { dn := some (cstr "CN=kiosk"), spn := some [cstr "HOST/kiosk"], pwdLastSet := 1 }

def kioskPanel : ComputersPanel :=
  (@AccountPanel.opened computersKind ({} : Form)).panelLoad 0

/-- A computer is listed and selected, one name is added and another removed. -/
def kioskEvents : List (AccountPanel.Event computersKind) :=
  [ .listed 0 (.ok [kioskComputer]), .rowSelected (some 0),
    .edited (.spnNew (cstr "HTTP/kiosk")), .edited .spnAdd,
    .edited (.spnRemove (cstr "HOST/kiosk")) ]

theorem spnEditor_sound_kiosk :
    let after := run AccountPanel.step kioskPanel kioskEvents
    CaseDistinct after.form.workingSpns ∧
      (∀ spn ∈ added kioskPanel kioskEvents, ServiceHost spn) ∧
      (after.form.spnSaveBtn = true ↔
        workingSpns after.form ≠ { spn | spn ∈ loadedSpns (selectedComputer after) } ∧
          (selectedComputer after).any uninitialized = false) := by
  have loaded : Loaded kioskPanel :=
    ⟨rfl, fun _ member => absurd member List.not_mem_nil, List.nodup_nil, rfl, rfl⟩
  refine spnEditor_sound loaded ?_
  simp only [kioskEvents, List.forall_mem_cons]
  have distinct : CaseDistinct [cstr "HOST/kiosk"] := List.nodup_singleton _
  refine ⟨?_, trivial, trivial, trivial, trivial, ?_⟩
  · intro computer member
    rw [List.mem_singleton.mp member]
    exact distinct
  · exact fun _ member => absurd member List.not_mem_nil

example : (run AccountPanel.step kioskPanel kioskEvents).form.workingSpns =
    [cstr "HTTP/kiosk"] := by decide

end Runs

end Sambervise.Ui.Computers
