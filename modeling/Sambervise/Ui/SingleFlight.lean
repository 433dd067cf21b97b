import Sambervise.Ui.ComputersPanel
import Sambervise.Ui.GroupMembers
import Sambervise.Ui.LdapPanel

namespace Sambervise.Ui

open Text Model Backend Transition

/-! The buttons that stand for a request in flight -/

namespace SbvLdapPanel

def outstanding (self : SbvLdapPanel) : Nat := self.modifies.length + self.refreshes.length

def SingleFlight (self : SbvLdapPanel) : Prop := self.outstanding ≤ 1

instance (self : SbvLdapPanel) : Decidable self.SingleFlight :=
  inferInstanceAs (Decidable (_ ≤ _))

/-- Save is clicked with something to send while nothing is outstanding. -/
def SavesAlone (self : SbvLdapPanel) : Event → Prop
  | .saveClicked =>
      self.detailVisible = true → self.saveBtn = true → self.conn.isSome = true →
        self.loadedDn.isSome = true → saveMods self.table self.attrRows ≠ [] →
          self.outstanding = 0
  | _ => True

theorem outstanding_onSaveClicked_iff (self : SbvLdapPanel) (flight : self.SingleFlight) :
    (self.conn.isSome = true → self.loadedDn.isSome = true →
        saveMods self.table self.attrRows ≠ [] → self.outstanding = 0) ↔
      self.onSaveClicked.SingleFlight := by
  unfold onSaveClicked
  cases connected : self.conn with
  | none => exact iff_of_true (absurd · Bool.false_ne_true) flight
  | some conn =>
      cases loaded : self.loadedDn with
      | none => exact iff_of_true (fun _ => (absurd · Bool.false_ne_true)) flight
      | some dn =>
          simp only [Option.isSome_some, forall_const]
          split
          next nothing =>
            exact iff_of_true (fun something => absurd nothing something) flight
          next something =>
            have something : ¬ saveMods self.table self.attrRows = [] := something
            simp only [SingleFlight, outstanding, ne_eq, something, not_false_eq_true,
              forall_const, List.length_append, List.length_singleton]
            omega

theorem outstanding_onSaveDone (self : SbvLdapPanel) (result : Except GError Unit) :
    (self.onSaveDone result).outstanding ≤ self.outstanding + 1 := by
  unfold onSaveDone
  cases result with
  | error error => exact Nat.le_succ self.outstanding
  | ok done =>
      dsimp only
      split
      · simp only [outstanding, List.length_append, List.length_singleton]
        omega
      · exact Nat.le_succ self.outstanding

theorem outstanding_refreshed (self : SbvLdapPanel) (dn : CString)
    (result : Except GError AttrTable) :
    (self.onAttrsRefreshedAfterSave dn result).outstanding = self.outstanding := by
  cases result with
  | error error => rfl
  | ok attrs => rfl

theorem savesAlone_iff_step (self : SbvLdapPanel) (event : Event)
    (flight : self.SingleFlight) :
    self.SavesAlone event ↔ (self.step event).SingleFlight := by
  cases event with
  | selectionChanged node =>
      refine iff_of_true trivial ?_
      cases node with
      | none => exact flight
      | some node => exact flight
  | edited edit =>
      refine iff_of_true trivial ?_
      simp only [step]
      split
      · exact flight
      · exact flight
  | saveClicked =>
      simp only [SavesAlone, step]
      cases visible : self.detailVisible with
      | false => exact iff_of_true (absurd · Bool.false_ne_true) flight
      | true =>
          cases sensitive : self.saveBtn with
          | false => exact iff_of_true (fun _ => (absurd · Bool.false_ne_true)) flight
          | true =>
              simp only [forall_const, Bool.and_self, if_true]
              exact outstanding_onSaveClicked_iff self flight
  | modifyDone index result =>
      refine iff_of_true trivial ?_
      simp only [step]
      split
      · exact flight
      next request found =>
        have below := (List.getElem?_eq_some_iff.mp found).1
        have most := outstanding_onSaveDone
          { self with modifies := self.modifies.eraseIdx index } result
        simp only [SingleFlight, outstanding] at flight most ⊢
        rw [List.length_eraseIdx_of_lt below] at most
        omega
  | refreshDone index result =>
      refine iff_of_true trivial ?_
      simp only [step]
      split
      · exact flight
      · rw [SingleFlight, outstanding_refreshed]
        have fewer := List.length_eraseIdx_le self.refreshes index
        simp only [SingleFlight, outstanding] at flight ⊢
        omega

end SbvLdapPanel

namespace ComputersPanel

def spnSaves (self : ComputersPanel) : List (DispatchedWrite computersKind) :=
  self.inFlight.filter fun sent => match sent.write with
    | .other _ => true
    | .updateAttrs _ _ | .setEnabled _ _ | .delete _ _ => false

def SingleFlight (self : ComputersPanel) : Prop := (spnSaves self).length ≤ 1

instance (self : ComputersPanel) : Decidable (SingleFlight self) :=
  inferInstanceAs (Decidable (_ ≤ _))

def SavesAlone (self : ComputersPanel) : AccountPanel.Event computersKind → Prop
  | .buttonClicked _ =>
      self.crashed = false → self.detailReachable = true → self.conn.isSome = true →
        ∀ object ∈ self.selected, self.form.spnSaveBtn = true →
          Computers.uninitialized object.obj = false → spnSaves self = []
  | _ => True

theorem spnSaves_dispatch (self : ComputersPanel) (conn : ConnId)
    (target : Listed computersKind.Obj) (write : AccountWrite computersKind) :
    spnSaves (self.dispatch conn target write) =
      spnSaves self ++ match write with
        | .other _ => [{ conn, target, write }]
        | .updateAttrs _ _ | .setEnabled _ _ | .delete _ _ => [] := by
  unfold spnSaves AccountPanel.dispatch
  cases write with
  | updateAttrs | setEnabled | delete | other => simp

theorem spnSaves_onUpdateAttrsDone (self : ComputersPanel) (conn : ConnId)
    (ctx : SaveCtx computersKind) (result : Except GError Unit) :
    spnSaves (self.onUpdateAttrsDone conn ctx result) = spnSaves self := by
  unfold AccountPanel.onUpdateAttrsDone
  cases result with
  | error error => rfl
  | ok done =>
      dsimp only
      split
      · split
        · rfl
        · rw [spnSaves_dispatch, List.append_nil]
          rfl
      · rfl

theorem spnSaves_onDone (self : ComputersPanel) (sent : DispatchedWrite computersKind)
    (result : Except GError Unit) : spnSaves (self.onDone sent result) = spnSaves self := by
  unfold AccountPanel.onDone
  split
  · exact spnSaves_onUpdateAttrsDone self sent.conn _ result
  · cases result with
    | error error => rfl
    | ok done => rfl
  · cases result with
    | error error => rfl
    | ok done => rfl
  · cases result with
    | error error => rfl
    | ok done => rfl

/-- Only the button adds to the saves in flight. -/
theorem spnSaves_handle (self : ComputersPanel) {event : AccountPanel.Event computersKind}
    (other : ∀ button, event ≠ .buttonClicked button) :
    (spnSaves (self.handle event)).Sublist (spnSaves self) := by
  have handles := self.handles_handle event
  generalize self.handle event = after at handles
  cases handles with
  | listed result listing =>
      obtain ⟨_, _, _, inFlight, _⟩ := AccountPanel.onLoaded_frame _ _ result
      rw [spnSaves, inFlight]
      exact List.Sublist.refl (spnSaves self)
  | done result found =>
      rw [spnSaves_onDone]
      exact (List.eraseIdx_sublist self.inFlight _).filter _
  | save | delete =>
      rw [spnSaves_dispatch, List.append_nil]
      exact List.Sublist.refl (spnSaves self)
  | click button | button button => exact absurd rfl (other button)
  | idle | load | hide | row | edit | add | createClosed | created | confirm | type | drop
  | confirmClosed => exact List.Sublist.refl (spnSaves self)

theorem isSome_onSpnSaveClicked (computer : SbvComputer) (form : Computers.Form) :
    (Computers.onSpnSaveClicked computer form).2.isSome = true ↔
      form.spnSaveBtn = true ∧ Computers.uninitialized computer = false := by
  unfold Computers.onSpnSaveClicked
  split
  next closed =>
    rw [Bool.or_eq_true, Bool.not_eq_true'] at closed
    refine iff_of_false Bool.false_ne_true (fun opened => ?_)
    rw [opened.1, opened.2] at closed
    simp at closed
  next opened =>
    rw [Bool.or_eq_true, not_or, Bool.not_eq_true', Bool.not_eq_true, Bool.not_eq_false] at opened
    exact iff_of_true rfl opened

theorem onButtonClicked_iff (self : ComputersPanel) (flight : SingleFlight self) :
    (self.conn.isSome = true → ∀ object ∈ self.selected, self.form.spnSaveBtn = true →
        Computers.uninitialized object.obj = false → spnSaves self = []) ↔
      SingleFlight (self.onButtonClicked ()) := by
  unfold AccountPanel.onButtonClicked
  cases selected : self.selected with
  | none => exact iff_of_true (fun _ _ member => by cases member) flight
  | some object =>
      cases connected : self.conn with
      | none => exact iff_of_true (absurd · Bool.false_ne_true) flight
      | some conn =>
          simp only [Option.isSome_some, forall_const, Option.mem_some_iff, forall_eq']
          have opens := isSome_onSpnSaveClicked object.obj self.form
          split
          next form clicked =>
            rw [show Computers.onSpnSaveClicked object.obj self.form = (form, none) from
              clicked] at opens
            refine iff_of_true (fun sensitive ready => ?_) flight
            exact absurd (opens.mpr ⟨sensitive, ready⟩) Bool.false_ne_true
          next form write clicked =>
            rw [show Computers.onSpnSaveClicked object.obj self.form = (form, some write) from
              clicked] at opens
            have opened := opens.mp rfl
            rw [forall_prop_of_true opened.1, forall_prop_of_true opened.2, SingleFlight,
              spnSaves_dispatch, List.length_append, List.length_singleton,
              ← List.length_eq_zero_iff]
            exact Nat.le_zero.symm.trans (Nat.add_le_add_iff_right).symm

theorem savesAlone_iff_handle {self : ComputersPanel} (alive : self.crashed = false)
    (flight : SingleFlight self) (event : AccountPanel.Event computersKind) :
    SavesAlone self event ↔ SingleFlight (self.handle event) := by
  cases event with
  | buttonClicked button =>
      simp only [SavesAlone, alive, true_imp_iff, AccountPanel.handle]
      cases reachable : self.detailReachable with
      | false => exact iff_of_true (absurd · Bool.false_ne_true) flight
      | true =>
          rw [if_pos rfl, forall_prop_of_true rfl]
          exact onButtonClicked_iff self flight
  | load | listed | done | rowSelected | edited | saveClicked | addClicked | createClosed
  | created | deleteClicked | confirmTyped | confirmClicked | confirmClosed =>
      refine iff_of_true trivial (Nat.le_trans ?_ flight)
      exact (spnSaves_handle self (fun _ same => by cases same)).length_le

theorem savesAlone_iff_step (self : ComputersPanel) (event : AccountPanel.Event computersKind)
    (flight : SingleFlight self) : SavesAlone self event ↔ SingleFlight (self.step event) := by
  unfold AccountPanel.step
  split
  next dead =>
    refine iff_of_true ?_ flight
    cases event with
    | buttonClicked button =>
        intro alive
        rw [dead] at alive
        cases alive
    | load | listed | done | rowSelected | edited | saveClicked | addClicked | createClosed
    | created | deleteClicked | confirmTyped | confirmClicked | confirmClosed => trivial
  next alive =>
    rw [Bool.not_eq_true] at alive
    exact savesAlone_iff_handle alive flight event

end ComputersPanel

/-- Over every run of the three panels: none of their buttons dispatches a request before
the one before it has completed, exactly where none is clicked, while it can be and with
something to send, with a request of its own outstanding. -/
theorem singleFlight_throughout_iff (conn : ConnId) (form : Computers.Form)
    (saves : List SbvLdapPanel.Event) (names : List (AccountPanel.Event computersKind))
    (removals : List MembersPanel.Event) :
    let computers : ComputersPanel := .opened form
    (Along SbvLdapPanel.step SbvLdapPanel.SavesAlone (.loaded conn) saves ↔
        Throughout SbvLdapPanel.step SbvLdapPanel.SingleFlight (.loaded conn) saves) ∧
      (Along AccountPanel.step ComputersPanel.SavesAlone computers names ↔
        Throughout AccountPanel.step ComputersPanel.SingleFlight computers names) ∧
      (Along MembersPanel.step MembersPanel.AsksOnce {} removals ↔
        Throughout MembersPanel.step MembersPanel.SingleFlight {} removals) := by
  refine ⟨?_, ?_, ?_⟩
  · apply along_iff_throughout SbvLdapPanel.SingleFlight SbvLdapPanel.savesAlone_iff_step
    exact Nat.zero_le 1
  · apply along_iff_throughout ComputersPanel.SingleFlight ComputersPanel.savesAlone_iff_step
    exact Nat.zero_le 1
  · apply along_iff_throughout MembersPanel.SingleFlight MembersPanel.asksOnce_iff_step
    exact List.Pairwise.nil

/-- Save is clicked again before the read that follows a save: the new attribute is added
twice. A name is added while the names are saved: they are saved once more. A removal is
clicked twice: the member is removed twice. -/
theorem sent_twice :
    let node : SbvLdapNode :=
      { dn := cstr "CN=x"
        attrs := some { attrs := collectAttrs [], readFrom := some (cstr "CN=x") }
        read := by simp }
    let saves : List SbvLdapPanel.Event :=
      [ .selectionChanged (some node), .edited .newAttrClicked,
        .edited (.nameChanged 0 (cstr "mail")), .edited (.valueChanged 0 (cstr "x@d")),
        .saveClicked, .modifyDone 0 (.ok ()), .saveClicked ]
    let computer : SbvComputer := { dn := some (cstr "CN=pc"), pwdLastSet := 1 }
    let names : List (AccountPanel.Event computersKind) :=
      [ .load 0, .listed 0 (.ok [computer]), .rowSelected (some 0),
        .edited (.spnNew (cstr "HOST/pc")), .edited .spnAdd, .buttonClicked (),
        .edited (.spnNew (cstr "HTTP/pc")), .edited .spnAdd, .buttonClicked () ]
    let group : SbvGroup := { dn := some (cstr "CN=staff"), members := some [cstr "CN=a"] }
    let removals : List MembersPanel.Event :=
      [.load 0, .rowSelected (some group), .removeClicked 0, .removeClicked 0]
    let request : ModifyData :=
      { dn := cstr "CN=x", mods := [{ op := .add, attr := cstr "mail", values := [cstr "x@d"] }] }
    let removal : RemoveRequest :=
      { ctx := 0, conn := 0, data := Groups.sbvGroupsRemoveMember group (cstr "CN=a") }
    let panel : ComputersPanel := run AccountPanel.step (.opened {}) names
    (run SbvLdapPanel.step (.loaded 0) saves).dispatched.map Dispatched.request =
        [request, request] ∧
      ¬ (run SbvLdapPanel.step (.loaded 0) saves).SingleFlight ∧
      (ComputersPanel.spnSaves panel).length = 2 ∧ ¬ ComputersPanel.SingleFlight panel ∧
      (run MembersPanel.step {} removals).removes = [removal, removal] ∧
      ¬ (run MembersPanel.step {} removals).SingleFlight := by
  decide

end Sambervise.Ui
