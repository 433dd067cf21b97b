import Sambervise.Transition.Run
import Sambervise.Ui.AccountPanel
import Sambervise.Ui.ContactsPanel

namespace Sambervise.Ui

open Text Model Backend Transition

/-! The contacts panel over its runs, and which contact a reload selects again. -/

/-- A contact as it is listed, with the identity of its entry, which the source does not
read. -/
structure ListedContact where
  objectGuid : Nat
  contact : SbvContact
  deriving DecidableEq, Repr

namespace Contacts

inductive Edit where
  | typed (entry : Entry) (text : CString)
  | typedProxy (text : CString)

def edit (form : Form) : Edit → Form
  | .typed entry text => { form with text := Function.update form.text entry text }
  | .typedProxy proxy => { form with proxy }

end Contacts

/-- The contacts panel, which has no flag to enable and no buttons of its own; rows are
found again by cn. -/
def contactsKind : AccountKind where
  Obj := ListedContact
  Form := Contacts.Form
  Edit := Contacts.Edit
  Button := Empty
  Attrs := Contacts.UpdateData
  Write := Empty
  listable := { dn := (·.contact.dn), key := (·.contact.cn) }
  enabled _ := true
  setEnabled object _ := object
  loadDetail object _ := Contacts.loadContactIntoDetail object.contact
  edit _ := Contacts.edit
  enabledCheck _ := true
  syncRules := id
  updateAttrs object := Contacts.onSaveClicked object.contact
  adopt _ := id
  click _ form button := (form, button.elim)
  writeDone write _ _ := write.elim
  dn_setEnabled _ _ := rfl
  dn_adopt _ _ := rfl

abbrev ContactsPanel := AccountPanel contactsKind

namespace ContactsPanel

/-- The row the admin selects, where the list can be reached. -/
def rowAt (self : ContactsPanel) (index : Nat) : Option (Listed ListedContact) :=
  if !self.crashed && (self.outerStack = .split && self.reachable) then self.rows[index]?
  else none

/-- The listing that completes, where it is one in flight. -/
def listingAt (self : ContactsPanel) (index : Nat) : Option ConnId :=
  if self.crashed then none else self.listings[index]?

end ContactsPanel

/-- An event of the panel, and the identity of the contact made where it is a create. -/
structure Happening where
  event : AccountPanel.Event contactsKind
  made : Nat := 0

/-- The panel, the contact the admin last selected or created, and the one behind
`pending_select_dn`. -/
structure WatchedContacts where
  panel : ContactsPanel
  chosen : Option Nat := none
  created : Option Nat := none

namespace WatchedContacts

def opened (form : Contacts.Form) : WatchedContacts := { panel := AccountPanel.opened form }

/-- The contact a reload should show. -/
def expected (self : WatchedContacts) : Option Nat :=
  if self.panel.pendingSelectDn.isSome then self.created else self.chosen

def step (self : WatchedContacts) (happening : Happening) : WatchedContacts :=
  let panel := self.panel.step happening.event
  match happening.event with
  | .rowSelected (some index) =>
      { self with
        panel
        chosen := ((self.panel.rowAt index).map (·.obj.objectGuid)).or self.chosen }
  | .created _ =>
      { self with
        panel
        created := if self.panel.createDialog.isSome then some happening.made else self.created }
  | .listed index (.ok _) =>
      { self with
        panel
        chosen :=
          if (self.panel.listingAt index).isSome && panel.shown then self.expected
          else self.chosen }
  | _ => { self with panel }

/-- The contact in the detail pane, where one is shown, is the one chosen. -/
def ShowsChosen (self : WatchedContacts) : Prop :=
  self.panel.shown = true →
    ∀ object ∈ self.panel.selected, self.chosen = some object.obj.objectGuid

instance (self : WatchedContacts) : Decidable self.ShowsChosen :=
  inferInstanceAs (Decidable (_ → ∀ object ∈ self.panel.selected, _))

/-- Where a listing completes, every contact in it that only bears the name looked for
comes after the contact expected, which bears it too. -/
def ListedFirst (self : WatchedContacts) (happening : Happening) : Prop :=
  match happening.event with
  | .listed index (.ok contacts) =>
      (self.panel.listingAt index).isSome →
        ∀ before other after, contacts = before ++ other :: after →
          self.panel.reselects other → self.expected ≠ some other.objectGuid →
            ∃ own ∈ before, self.panel.reselects own ∧ self.expected = some own.objectGuid
  | _ => True

end WatchedContacts

/-! What an event makes of the selection -/

namespace ContactsPanel

variable {self : ContactsPanel}

theorem selected_mutate {setter : contactsKind.Obj → contactsKind.Obj}
    (same : ∀ contact, setter contact = contact) :
    (self.mutate setter).selected = self.selected := by
  rw [ListPanel.mutate_selected]
  cases self.selected with
  | none => rfl
  | some object => rw [Option.map_some, same]

theorem selected_onUpdateAttrsDone (conn : ConnId) (ctx : SaveCtx contactsKind)
    (result : Except GError Unit) :
    (self.onUpdateAttrsDone conn ctx result).selected = self.selected := by
  have adopted : (self.mutate (contactsKind.adopt self.form)).selected = self.selected :=
    selected_mutate fun _ => rfl
  cases result with
  | error error => rfl
  | ok done =>
      simp only [AccountPanel.onUpdateAttrsDone]
      split
      · split
        · exact adopted
        · exact adopted
      · exact adopted

theorem selected_onDone (sent : DispatchedWrite contactsKind) (result : Except GError Unit) :
    ∀ object ∈ (self.onDone sent result).selected, object ∈ self.selected := by
  intro object selected
  unfold AccountPanel.onDone at selected
  split at selected
  next data ctx save =>
    exact (selected_onUpdateAttrsDone sent.conn ctx result) ▸ selected
  next data ctx enable =>
    cases result with
    | error error => exact selected
    | ok done =>
        have same : (self.mutate (contactsKind.setEnabled · ctx.newEnabled)).selected =
            self.selected := selected_mutate fun _ => rfl
        exact same ▸ selected
  · cases result with
    | error error => exact selected
    | ok done => cases selected
  next write other =>
    exact write.elim

/-- A row that the admin selects, or a listing that completes. -/
def Chooses : AccountPanel.Event contactsKind → Prop
  | .rowSelected (some _) => True
  | .listed _ (.ok _) => True
  | _ => False

theorem selected_of_not_chooses {event : AccountPanel.Event contactsKind}
    (quiet : ¬Chooses event) :
    ∀ object ∈ (self.step event).selected, object ∈ self.selected := by
  intro object selected
  unfold AccountPanel.step at selected
  split at selected
  · exact selected
  · have handles := self.handles_handle event
    generalize self.handle event = after at handles selected
    cases handles with
    | listed result listing =>
        cases result with
        | error error => exact selected
        | ok contacts => exact absurd trivial quiet
    | row split reachable inRows => exact absurd trivial quiet
    | @done index sent result inFlight =>
        exact @selected_onDone { self with inFlight := self.inFlight.eraseIdx index } sent result
          object selected
    | idle | load | hide | edit | save | click | button | add | createClosed | created
    | confirm | type | delete | drop | confirmClosed => exact selected

theorem selected_rowSelected (index : Nat) :
    (self.step (.rowSelected (some index))).selected =
      (self.rowAt index).or self.selected := by
  unfold AccountPanel.step rowAt
  cases crashed : self.crashed with
  | true => rfl
  | false =>
      simp only [AccountPanel.handle, Bool.not_false, Bool.true_and]
      cases decide (self.outerStack = .split) && self.reachable with
      | true =>
          cases self.rows[index]? with
          | none => rfl
          | some row => rfl
      | false =>
          cases self.rows[index]? with
          | none => rfl
          | some row => rfl

theorem step_unlisted {index : Nat} (unlisted : self.listingAt index = none)
    (contacts : List ListedContact) :
    self.step (.listed index (.ok contacts)) = self := by
  unfold listingAt at unlisted
  unfold AccountPanel.step
  split
  · rfl
  next running =>
    rw [if_neg running] at unlisted
    simp only [AccountPanel.handle, unlisted]

theorem step_listed {index : Nat} {source : ConnId} (listed : self.listingAt index = some source)
    (contacts : List ListedContact) :
    let after : ContactsPanel := self.step (.listed index (.ok contacts))
    after.selected = (self.reselected source contacts).or self.selected ∧
      after.shown = (self.reselected source contacts).isSome := by
  unfold listingAt at listed
  split at listed
  · cases listed
  next running =>
    rw [AccountPanel.step, if_neg running]
    simp only [AccountPanel.handle, listed, AccountPanel.onLoaded]
    rw [show ({ self with listings := self.listings.eraseIdx index } : ContactsPanel).reselected
      source contacts = self.reselected source contacts from rfl]
    cases found : self.reselected source contacts with
    | none => exact ⟨rfl, Bool.and_false _⟩
    | some row =>
        have split : (if contacts.isEmpty then OuterStack.empty else .split) = .split := by
          cases contacts with
          | nil => cases found
          | cons contact rest => rfl
        exact ⟨rfl, congrArg (fun stack => decide (stack = OuterStack.split) && true) split⟩

end ContactsPanel

/-! Reloads -/

theorem find?_forall_iff {α : Type} {p : α → Bool} {wanted : α → Prop} {objects : List α} :
    (∀ found ∈ objects.find? p, wanted found) ↔
      ∀ before other after, objects = before ++ other :: after → p other → ¬wanted other →
        ∃ own ∈ before, p own ∧ wanted own := by
  constructor
  · intro first before other after split bears unwanted
    subst split
    cases found : before.find? p with
    | none =>
        have next : (before ++ other :: after).find? p = some other := by
          rw [List.find?_append, found, List.find?_cons_of_pos bears]
          rfl
        exact absurd (first other next) unwanted
    | some own =>
        have earlier : (before ++ other :: after).find? p = some own := by
          rw [List.find?_append, found]
          rfl
        exact ⟨own, List.mem_of_find?_eq_some found, List.find?_some found, first own earlier⟩
  · intro behind found first
    obtain ⟨bears, before, after, split, earlier⟩ := List.find?_eq_some_iff_append.mp first
    by_contra unwanted
    obtain ⟨own, member, ownBears, _⟩ := behind before found after split bears unwanted
    simpa [ownBears] using earlier own member

namespace WatchedContacts

variable {self : WatchedContacts} {happening : Happening}

/-- The contact selected is the one chosen, also while it is not shown. -/
def Tracks (self : WatchedContacts) : Prop :=
  ∀ object ∈ self.panel.selected, self.chosen = some object.obj.objectGuid

theorem ShowsChosen.of_tracks (tracks : self.Tracks) : self.ShowsChosen := fun _ => tracks

theorem step_unlisted {index : Nat} {contacts : List ListedContact}
    (event : happening.event = .listed index (.ok contacts))
    (unlisted : self.panel.listingAt index = none) : self.step happening = self := by
  simp only [step, event, unlisted, ContactsPanel.step_unlisted unlisted]
  rfl

/-- What a reload that completes selects is the chosen contact just where the first that
bears the name is. -/
theorem tracks_listed {index : Nat} {contacts : List ListedContact}
    (event : happening.event = .listed index (.ok contacts)) {source : ConnId}
    (listed : self.panel.listingAt index = some source) (tracks : self.Tracks) :
    ((self.step happening).Tracks ↔ ∀ found ∈ contacts.find? self.panel.reselects,
        self.expected = some found.objectGuid) ∧
      ((self.step happening).ShowsChosen → (self.step happening).Tracks) := by
  obtain ⟨selected, shown⟩ := ContactsPanel.step_listed listed contacts
  rw [← ListPanel.map_reselected self.panel.toListPanel source contacts]
  have chosen : (self.step happening).chosen =
      if (self.panel.reselected source contacts).isSome then self.expected else self.chosen := by
    simp only [step, event, listed, shown]
    rfl
  have panel : (self.step happening).panel = self.panel.step (.listed index (.ok contacts)) := by
    simp only [step, event]
  unfold ShowsChosen Tracks
  rw [panel, chosen, selected, shown]
  cases found : self.panel.reselected source contacts with
  | none =>
      have kept : ∀ object ∈ self.panel.selected, self.chosen = some object.obj.objectGuid :=
        tracks
      simpa using kept
  | some row => simp

theorem tracks_of_not_chooses (quiet : ¬ContactsPanel.Chooses happening.event)
    (tracks : self.Tracks) : (self.step happening).Tracks := by
  have parts : (self.step happening).panel = self.panel.step happening.event ∧
      (self.step happening).chosen = self.chosen := by
    unfold step
    split
    next index event =>
      rw [event] at quiet
      exact absurd trivial quiet
    · exact ⟨rfl, rfl⟩
    next index contacts event =>
      rw [event] at quiet
      exact absurd trivial quiet
    · exact ⟨rfl, rfl⟩
  intro object selected
  rw [parts.1] at selected
  rw [parts.2]
  exact tracks object (ContactsPanel.selected_of_not_chooses quiet object selected)

theorem tracks_rowSelected {index : Nat} (event : happening.event = .rowSelected (some index))
    (tracks : self.Tracks) : (self.step happening).Tracks := by
  have panel : (self.step happening).panel = self.panel.step (.rowSelected (some index)) := by
    simp only [step, event]
  have chosen : (self.step happening).chosen =
      ((self.panel.rowAt index).map (·.obj.objectGuid)).or self.chosen := by
    simp only [step, event]
  intro object selected
  rw [panel, ContactsPanel.selected_rowSelected] at selected
  rw [chosen]
  cases row : self.panel.rowAt index with
  | none =>
      rw [row] at selected
      exact tracks object selected
  | some chosen =>
      rw [row] at selected
      cases selected
      rfl

theorem listedFirst_of_not_listed
    (other : ∀ index contacts, happening.event ≠ .listed index (.ok contacts)) :
    self.ListedFirst happening := by
  unfold ListedFirst
  split
  next index contacts event =>
    exact absurd event (other index contacts)
  · trivial

/-- One event keeps the selection on the chosen contact just where it is listed first, and
where it does not, the pane shows another. -/
theorem tracks_step (happening : Happening) (tracks : self.Tracks) :
    (self.ListedFirst happening ↔ (self.step happening).Tracks) ∧
      ((self.step happening).ShowsChosen → (self.step happening).Tracks) := by
  by_cases listing : ∃ index contacts, happening.event = .listed index (.ok contacts)
  · obtain ⟨index, contacts, event⟩ := listing
    cases listed : self.panel.listingAt index with
    | none =>
        rw [step_unlisted event listed]
        refine ⟨iff_of_true ?_ tracks, fun _ => tracks⟩
        simp only [ListedFirst, event, listed]
        intro inFlight
        cases inFlight
    | some source =>
        obtain ⟨first, shows⟩ := tracks_listed event listed tracks
        refine ⟨?_, shows⟩
        rw [first, find?_forall_iff]
        simp only [ListedFirst, event, listed, Option.isSome_some, forall_const]
  · have other (index : Nat) (contacts : List ListedContact) :
        happening.event ≠ .listed index (.ok contacts) :=
      fun event => listing ⟨index, contacts, event⟩
    have kept : (self.step happening).Tracks := by
      by_cases row : ∃ index, happening.event = .rowSelected (some index)
      · obtain ⟨index, event⟩ := row
        exact tracks_rowSelected event tracks
      · refine tracks_of_not_chooses (fun chooses => ?_) tracks
        unfold ContactsPanel.Chooses at chooses
        split at chooses
        next index event =>
          exact row ⟨index, event⟩
        next index contacts event =>
          exact other index contacts event
        · exact chooses
    exact ⟨iff_of_true (listedFirst_of_not_listed other) kept, fun _ => kept⟩

end WatchedContacts

open WatchedContacts

/-- Over every run of a new contacts panel: what the detail pane shows is the contact that
was selected or created last, exactly where at every reload no other contact under the
name looked for is listed in front of it. -/
theorem contactsReload_iff (form : Contacts.Form) (happenings : List Happening) :
    Along step ListedFirst (opened form) happenings ↔
      Throughout step ShowsChosen (opened form) happenings := by
  have initial : (opened form).Tracks := by
    intro object selected
    cases selected
  rw [along_iff_throughout Tracks (fun _ happening tracks => (tracks_step happening tracks).1)
    initial]
  exact ⟨Throughout.mono fun _ tracks => .of_tracks tracks,
    throughout_strengthen Tracks
      (fun _ happening tracks => (tracks_step happening tracks).2) initial⟩

/-- The second of two contacts of one name is saved, and the first is shown and would be
saved or deleted next. -/
theorem namesake_reselected :
    let ann (guid : Nat) (dn : String) : ListedContact :=
      { objectGuid := guid, contact := { dn := some (cstr dn), cn := some (cstr "Ann") } }
    let anns := [ann 1 "CN=Ann,OU=North", ann 2 "CN=Ann,OU=South"]
    let after := run step (opened {})
      [ { event := .load 0 }, { event := .listed 0 (.ok anns) },
        { event := .rowSelected (some 1) }, { event := .saveClicked },
        { event := .done 0 (.ok ()) }, { event := .listed 0 (.ok anns) } ]
    after.chosen = some 2 ∧ after.panel.shown = true ∧
      after.panel.selected.map (·.obj.objectGuid) = some 1 ∧ ¬after.ShowsChosen := by
  decide

end Sambervise.Ui
