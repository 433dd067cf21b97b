import Sambervise.Backend.CnUpdate
import Sambervise.Transition.Run
import Sambervise.Ui.UsersPanel

namespace Sambervise.Ui.Users

open Text Ldap Model Backend Transition

/-! A save in the users panel from the click to what the server has in the end: the
panel together with the session its workers run on. -/

structure System (calendar : GDateTimeUtc) where
  panel : UsersPanel calendar
  /-- The session behind the connection of the panel. -/
  session : Session

variable {calendar : GDateTimeUtc}

namespace System

variable (convert : CString → Except GError (List UInt8))

def worker : AccountWrite (usersKind calendar) → LdapM (Except GError Unit)
  | .updateAttrs data _ => Users.updateAttrsThread data
  | .setEnabled data _ => Users.setEnabledThread data
  | .delete dn _ => Users.deleteUserThread dn
  | .other (.resetPw d) => Users.resetPwThread convert d
  | .other (.setPasswordFlags d) => Users.setPwFlagsThread d
  | .other (.setUnixAttrs d) => Users.setUnixAttrsThread d

def ui (self : System calendar) (event : AccountPanel.Event (usersKind calendar)) :
    System calendar :=
  { self with panel := self.panel.step event }

/-- The write at this place among those in flight is run, and its callback called. -/
def perform (self : System calendar) (index : Nat) : System calendar :=
  match self.panel.inFlight[index]? with
  | none => self
  | some sent =>
      let reply := worker convert sent.write self.session
      { panel := self.panel.step (.done index reply.1), session := reply.2 }

/-- One click on Save, and the writes it sends: at most two, one after the other. -/
def save (self : System calendar) : System calendar :=
  let index := self.panel.inFlight.length
  ((self.ui .saveClicked).perform convert index).perform convert index

end System

/-! What the form shows of an entry -/

def filled (text : CString) : List CString := if text = [] then [] else [text]

/-- The entries of the form a save writes by a modification. -/
def modified : List (String × Entry) :=
  [("displayName", .display), ("givenName", .given), ("sn", .sn), ("mail", .email)]

def ShowsNames (form : Form) (attrs : Attributes) : Prop :=
  ∀ field ∈ modified, attrs.values (cstr field.1) = filled (form.text field.2)

/-- The ACCOUNTDISABLE bit of an account, as the checkbox shows it. -/
def accountEnabled (attrs : Attributes) : Option Bool :=
  (firstValue attrs "userAccountControl").map fun value =>
    strtoll value &&& uacAccountDisable = 0

structure ShowsAccount (form : Form) (attrs : Attributes) : Prop where
  cn : attrs.values cnType = filled (form.text .cn)
  names : ShowsNames form attrs
  enabled : accountEnabled attrs = some (form.active .enabled)

section Attributes

variable {user : SbvUser} {form : Form} {entry : Ldap.Entry}

theorem mods_updateAttrs :
    (updateAttrs user form).mods =
      modified.map fun field => replaceMod field.1 (filled (form.text field.2)) := rfl

theorem replace_of_mem_mods {mod : LdapMod} (member : mod ∈ (updateAttrs user form).mods) :
    mod.op = .replace := by
  rw [mods_updateAttrs, List.mem_map] at member
  obtain ⟨field, _, rfl⟩ := member
  rfl

theorem values_replaced_other {type : CString}
    (other : ∀ field ∈ modified, asciiStrdown type ≠ asciiStrdown (cstr field.1)) :
    (replaced entry (updateAttrs user form).mods).attrs.values type =
      entry.attrs.values type := by
  apply values_replaced_of_ne
  intro mod member
  rw [mods_updateAttrs, List.mem_map] at member
  obtain ⟨field, inForm, rfl⟩ := member
  exact other field inForm

theorem showsNames_replaced :
    ShowsNames form (replaced entry (updateAttrs user form).mods).attrs := by
  intro field member
  have distinct :
      ((updateAttrs user form).mods.map fun mod => asciiStrdown mod.type).Nodup := by
    show (modified.map fun field => asciiStrdown (cstr field.1)).Nodup
    decide
  exact values_replaced_of_mem distinct
    (mods_updateAttrs ▸ List.mem_map_of_mem member :
      replaceMod field.1 (filled (form.text field.2)) ∈ (updateAttrs user form).mods) entry

theorem cn_notMem_modified :
    ∀ field ∈ modified, asciiStrdown (cstr field.1) ≠ asciiStrdown cnType := by decide

theorem uac_notMem_modified :
    ∀ field ∈ modified,
      asciiStrdown (cstr field.1) ≠ asciiStrdown (cstr "userAccountControl") := by decide

theorem showsNames_congr {first second : Attributes}
    (same : ∀ field ∈ modified, first.values (cstr field.1) = second.values (cstr field.1)) :
    ShowsNames form first ↔ ShowsNames form second := by
  constructor
  · intro shown field member
    rw [← same field member, shown field member]
  · intro shown field member
    rw [same field member, shown field member]

theorem accountEnabled_congr {first second : Attributes}
    (same : first.values (cstr "userAccountControl") =
      second.values (cstr "userAccountControl")) :
    accountEnabled first = accountEnabled second := by
  simp only [accountEnabled, firstValue, same]

theorem accountEnabled_written (attrs : Attributes) (enabled : Bool) (uac : GInt64) :
    accountEnabled (attrs.set (cstr "userAccountControl")
      [formatInt64 (uacWithEnabled enabled uac)]) = some enabled := by
  simp only [accountEnabled, firstValue, Attributes.values_set_self, List.head?_cons,
    Option.map_some, untilNul_formatInt64, strtoll_formatInt64, uacWithEnabled_disable]

theorem showsAccount_written (attrs : Attributes) (uac : GInt64) :
    ShowsAccount form (attrs.set (cstr "userAccountControl")
        [formatInt64 (uacWithEnabled (form.active .enabled) uac)]) ↔
      attrs.values cnType = filled (form.text .cn) ∧ ShowsNames form attrs := by
  have cnKept := attrs.values_set_of_ne
    (show asciiStrdown cnType ≠ asciiStrdown (cstr "userAccountControl") by decide)
    [formatInt64 (uacWithEnabled (form.active .enabled) uac)]
  have namesKept := @showsNames_congr form _ attrs fun field member =>
    attrs.values_set_of_ne (uac_notMem_modified field member)
      [formatInt64 (uacWithEnabled (form.active .enabled) uac)]
  constructor
  · intro account
    exact ⟨cnKept ▸ account.cn, namesKept.mp account.names⟩
  · intro shown
    exact ⟨cnKept ▸ shown.1, namesKept.mpr shown.2, accountEnabled_written attrs _ uac⟩

end Attributes

/-! The steps of a save -/

structure CanSave (panel : UsersPanel calendar) (user : Listed SbvUser) : Prop where
  running : panel.crashed = false
  reachable : panel.detailReachable = true
  sensitive : panel.saveBtn = true
  selected : panel.selected = some user
  connected : panel.conn.isSome = true

structure Reported (before after : UsersPanel calendar) : Prop where
  running : after.crashed = false
  noError : after.saveError = none
  sensitive : after.saveBtn = true
  finished : after.inFlight = before.inFlight

namespace System

section Save

variable {convert : CString → Except GError (List UInt8)} {self : System calendar}
  {user : Listed SbvUser}

def update (self : System calendar) (user : Listed SbvUser) : Users.UpdateAttrsData :=
  updateAttrs user.obj (syncRules self.panel.form)

def newEnabled (self : System calendar) : Bool :=
  (syncRules self.panel.form).active .enabled

def changesEnabled (self : System calendar) (user : Listed SbvUser) : Bool :=
  self.newEnabled != user.obj.enabled

def enableChange (self : System calendar) (user : Listed SbvUser) : SetEnabledData :=
  { dn := user.obj.dn, enabled := self.newEnabled }

theorem perform_last {before : List (DispatchedWrite (usersKind calendar))}
    {sent : DispatchedWrite (usersKind calendar)} (running : self.panel.crashed = false)
    (inFlight : self.panel.inFlight = before ++ [sent]) :
    self.perform convert before.length =
      { panel :=
          AccountPanel.onDone { self.panel with inFlight := before } sent
            (worker convert sent.write self.session).1
        session := (worker convert sent.write self.session).2 } := by
  have found : self.panel.inFlight[before.length]? = some sent := by
    rw [inFlight, List.getElem?_concat_length]
  have others : self.panel.inFlight.eraseIdx before.length = before := by
    rw [inFlight, List.eraseIdx_append_of_length_le (Nat.le_refl _)]
    simp
  simp only [perform, found, AccountPanel.step, running, AccountPanel.handle, others]
  rfl

theorem perform_done {index : Nat} (done : self.panel.inFlight.length ≤ index) :
    self.perform convert index = self := by
  simp only [perform, List.getElem?_eq_none done]

def saveOf (self : System calendar) (user : Listed SbvUser) (conn : ConnId) :
    DispatchedWrite (usersKind calendar) :=
  { conn
    target := user
    write :=
      .updateAttrs (self.update user)
        { needEnabledChange := self.changesEnabled user
          newEnabled := self.newEnabled
          startedOn := user } }

/-- The panel while the attribute update runs, without the update itself. -/
def saving (self : System calendar) (user : Listed SbvUser) (conn : ConnId) :
    UsersPanel calendar :=
  { self.panel with
    saveError := none
    saveBtn := false
    form := syncRules self.panel.form
    dispatched := self.panel.dispatched ++ [self.saveOf user conn] }

theorem ui_saveClicked (ready : CanSave self.panel user) :
    ∃ conn,
      self.ui .saveClicked =
        { self with
          panel :=
            { self.saving user conn with
              inFlight := self.panel.inFlight ++ [self.saveOf user conn] } } := by
  obtain ⟨conn, connected⟩ := Option.isSome_iff_exists.mp ready.connected
  refine ⟨conn, ?_⟩
  rw [ui, AccountPanel.step, if_neg (by simp [ready.running])]
  simp only [AccountPanel.handle, ready.reachable, ready.sensitive,
    AccountPanel.onSaveClicked, ready.selected, connected]
  rfl

theorem save_of_canSave (ready : CanSave self.panel user) :
    ∃ conn,
      let reply := Users.updateAttrsThread (self.update user) self.session
      self.save convert =
        perform convert
          { panel := (self.saving user conn).onDone (self.saveOf user conn) reply.1
            session := reply.2 }
          self.panel.inFlight.length := by
  obtain ⟨conn, clicked⟩ := ui_saveClicked ready
  refine ⟨conn, ?_⟩
  have running : (self.saving user conn).crashed = false := ready.running
  rw [save, clicked]
  exact congrArg (perform convert · self.panel.inFlight.length) (perform_last running rfl)

theorem save_failed (ready : CanSave self.panel user) {error : GError}
    (failed : (Users.updateAttrsThread (self.update user) self.session).1 = .error error) :
    (self.save convert).panel.saveError = some error := by
  obtain ⟨conn, done⟩ := save_of_canSave ready
  rw [done, failed, perform_done (by exact Nat.le_refl _)]
  rfl

theorem save_unchanged (ready : CanSave self.panel user)
    (same : self.changesEnabled user = false)
    (updated : (Users.updateAttrsThread (self.update user) self.session).1 = .ok ()) :
    Reported self.panel (self.save convert).panel ∧
      (self.save convert).panel.form = syncRules self.panel.form ∧
      (self.save convert).session =
        (Users.updateAttrsThread (self.update user) self.session).2 := by
  obtain ⟨conn, done⟩ := @save_of_canSave _ convert _ _ ready
  have running : self.panel.crashed = false := ready.running
  have after : (self.saving user conn).onDone (self.saveOf user conn) (.ok ()) =
      AccountPanel.panelLoad
        { (self.saving user conn).mutateSelected (adopt (syncRules self.panel.form)) with
          saveBtn := true }
        conn := by
    simp only [AccountPanel.onDone, saveOf, AccountPanel.onUpdateAttrsDone, same]
    rfl
  rw [done, updated, perform_done, after]
  · exact ⟨⟨running, rfl, rfl, rfl⟩, rfl, rfl⟩
  · rw [after]
    exact Nat.le_refl _

def enableOf (self : System calendar) (user : Listed SbvUser) (conn : ConnId) :
    DispatchedWrite (usersKind calendar) :=
  { conn
    target := { user with obj := adopt (syncRules self.panel.form) user.obj }
    write :=
      .setEnabled (self.enableChange user)
        { needEnabledChange := true
          newEnabled := self.newEnabled
          startedOn := user } }

def adopted (self : System calendar) (user : Listed SbvUser) (conn : ConnId) :
    UsersPanel calendar :=
  (self.saving user conn).mutateSelected
    ((usersKind calendar).adopt (self.saving user conn).form)

/-- The panel while the enable change runs, without the change itself. -/
def enabling (self : System calendar) (user : Listed SbvUser) (conn : ConnId) :
    UsersPanel calendar :=
  { self.adopted user conn with
    dispatched := (self.adopted user conn).dispatched ++ [self.enableOf user conn] }

theorem save_changed (ready : CanSave self.panel user)
    (change : self.changesEnabled user = true)
    (updated : (Users.updateAttrsThread (self.update user) self.session).1 = .ok ()) :
    ∃ conn,
      let reply := Users.setEnabledThread (self.enableChange user)
        (Users.updateAttrsThread (self.update user) self.session).2
      self.save convert =
        { panel := (self.enabling user conn).onDone (self.enableOf user conn) reply.1
          session := reply.2 } := by
  obtain ⟨conn, done⟩ := @save_of_canSave _ convert _ _ ready
  have running : (self.adopted user conn).crashed = false := ready.running
  have selected : (self.adopted user conn).selected =
      some { user with obj := adopt (syncRules self.panel.form) user.obj } := by
    have mutated := (self.saving user conn).mutate_selected
      ((usersKind calendar).adopt (self.saving user conn).form)
    rw [show (self.saving user conn).selected = some user from ready.selected] at mutated
    exact mutated
  have after : (self.saving user conn).onDone (self.saveOf user conn) (.ok ()) =
      { self.enabling user conn with
        inFlight := self.panel.inFlight ++ [self.enableOf user conn] } := by
    rw [adopted] at selected
    simp only [AccountPanel.onDone, saveOf, AccountPanel.onUpdateAttrsDone, change, if_true,
      selected]
    rfl
  refine ⟨conn, done.trans ?_⟩
  rw [updated, after]
  exact perform_last running rfl

theorem save_changed_ok (ready : CanSave self.panel user)
    (change : self.changesEnabled user = true)
    (updated : (Users.updateAttrsThread (self.update user) self.session).1 = .ok ())
    (enabled : (Users.setEnabledThread (self.enableChange user)
      (Users.updateAttrsThread (self.update user) self.session).2).1 = .ok ()) :
    Reported self.panel (self.save convert).panel ∧
      (self.save convert).panel.form = syncRules self.panel.form ∧
      (self.save convert).session =
        (Users.setEnabledThread (self.enableChange user)
          (Users.updateAttrsThread (self.update user) self.session).2).2 := by
  obtain ⟨conn, done⟩ := @save_changed _ convert _ _ ready change updated
  have running : self.panel.crashed = false := ready.running
  rw [done, enabled]
  exact ⟨⟨running, rfl, rfl, rfl⟩, rfl, rfl⟩

theorem save_changed_failed (ready : CanSave self.panel user)
    (change : self.changesEnabled user = true)
    (updated : (Users.updateAttrsThread (self.update user) self.session).1 = .ok ())
    {error : GError}
    (failed : (Users.setEnabledThread (self.enableChange user)
      (Users.updateAttrsThread (self.update user) self.session).2).1 = .error error) :
    (self.save convert).panel.saveError = some error := by
  obtain ⟨conn, done⟩ := @save_changed _ convert _ _ ready change updated
  rw [done, failed]
  rfl

end Save

/-! What a save leaves on the server -/

/-- The save was reported as done, and the same entry shows what the form shows. -/
structure Saved (before after : System calendar) (guid : Nat) : Prop where
  reported : Reported before.panel after.panel
  stored : ∃ attrs,
    after.session.directory.Holds guid attrs ∧ ShowsAccount after.panel.form attrs

def cn (self : System calendar) : CString := (syncRules self.panel.form).text .cn

/-- A save about to start: its user is an entry named by a `cn`, the new name is free,
and the server carries out what it can. -/
structure Starts (system : System calendar) (user : Listed SbvUser) (old : AttributeValue)
    (parent : DistinguishedName) (entry : Ldap.Entry) : Prop where
  ready : CanSave system.panel user
  named : system.panel.form.text .cn ≠ []
  serving : system.session.On system.session.rule system.session.directory
  unique : system.session.directory.UniqueGuids
  found : system.session.directory.find system.session.rule (orEmpty user.obj.dn) =
    .ok (namedByCn old parent, entry)
  free : renamedTo system.session.rule system.cn parent = namedByCn old parent ∨
    system.session.directory (renamedTo system.session.rule system.cn parent) = none

/-- What a save needs to reach the entry with every step. -/
structure Reaches (system : System calendar) (user : Listed SbvUser) (old : AttributeValue)
    (parent : DistinguishedName) (entry : Ldap.Entry) : Prop where
  plain : needsNoEscaping system.cn = true
  names : FirstCommaSeparates (orEmpty user.obj.dn) ∨
    TakenElsewhere system.session.rule system.session.directory (namedByCn old parent)
        (orEmpty user.obj.dn) system.cn ∧
      ShowsNames (syncRules system.panel.form) entry.attrs
  enabled : if system.changesEnabled user then
      renamedTo system.session.rule system.cn parent = namedByCn old parent
    else accountEnabled entry.attrs = some system.newEnabled

section Saved

variable {convert : CString → Except GError (List UInt8)} {self : System calendar}
  {user : Listed SbvUser} {old : AttributeValue} {parent : DistinguishedName}
  {entry : Ldap.Entry}

theorem syncRules_cn_ne_nil {form : Form} (named : form.text .cn ≠ []) :
    (syncRules form).text .cn ≠ [] := by
  unfold syncRules
  dsimp only
  split
  · intro nothing
    have blank : cstr " " ≠ [] := by decide
    simp [Form.setText, blank] at nothing
  · split
    · exact named
    · exact named

def updated (self : System calendar) (user : Listed SbvUser) : Except ResultCode Directory :=
  renamedThenModified self.session.rule self.session.directory (orEmpty user.obj.dn) self.cn
    (self.update user).mods

theorem update_ok (starts : self.Starts user old parent entry) {after : Directory}
    (done : self.updated user = .ok after) :
    (Users.updateAttrsThread (self.update user) self.session).1 = .ok () ∧
      (Users.updateAttrsThread (self.update user) self.session).2.On self.session.rule after :=
  renameThenModify_ok starts.serving (syncRules_cn_ne_nil starts.named)
    (by simp [update, mods_updateAttrs, modified]) done

theorem update_error (starts : self.Starts user old parent entry) {rc : ResultCode}
    (failed : self.updated user = .error rc) :
    ∃ error, (Users.updateAttrsThread (self.update user) self.session).1 = .error error :=
  renameThenModify_error starts.serving (syncRules_cn_ne_nil starts.named)
    (by simp [update, mods_updateAttrs, modified]) (fun _ member => replace_of_mem_mods member)
    failed

theorem filled_cn (starts : self.Starts user old parent entry) : filled self.cn = [self.cn] :=
  if_neg (syncRules_cn_ne_nil starts.named)

theorem saved_iff_shows (reported : Reported self.panel (self.save convert).panel)
    (form : (self.save convert).panel.form = syncRules self.panel.form)
    (unique : (self.save convert).session.directory.UniqueGuids) {name : DistinguishedName}
    {guid : Nat} {attrs : Attributes}
    (held : (self.save convert).session.directory name = some { objectGuid := guid, attrs }) :
    Saved self (self.save convert) guid ↔ ShowsAccount (syncRules self.panel.form) attrs := by
  rw [← form]
  constructor
  · intro saved
    obtain ⟨other, present, shown⟩ := saved.stored
    rwa [(unique.holds_iff held).mp present] at shown
  · intro shown
    exact ⟨reported, attrs, ⟨name, held⟩, shown⟩

section Updated

variable (starts : self.Starts user old parent entry) {after : Directory}
  (done : self.updated user = .ok after)
include starts done

section Renames

variable {target : DistinguishedName} {renewed : Ldap.Entry}
  (renames : Renames (namedByCn old parent) target renewed after)
  (same : renewed.objectGuid = entry.objectGuid)
include renames same

theorem saved_unchanged_iff (unchanged : self.changesEnabled user = false) :
    Saved self (self.save convert) entry.objectGuid ↔
      ShowsAccount (syncRules self.panel.form) renewed.attrs := by
  obtain ⟨success, on⟩ := update_ok starts done
  obtain ⟨reported, form, session⟩ :=
    @save_unchanged _ convert _ _ starts.ready unchanged success
  have directory : (self.save convert).session.directory = after := by
    rw [session, on.directory]
  rw [← same]
  apply saved_iff_shows reported form
  · exact directory ▸ renames.unique
  · rw [directory, renames.moved]

/-- The enable change reaches the entry where the rename left it its name. -/
theorem saved_changed_iff (changed : self.changesEnabled user = true) :
    Saved self (self.save convert) entry.objectGuid ↔
      target = namedByCn old parent ∧ renewed.attrs.values cnType = filled self.cn ∧
        ShowsNames (syncRules self.panel.form) renewed.attrs := by
  obtain ⟨success, on⟩ := update_ok starts done
  have named := (Directory.find_ok_iff.mp starts.found).1
  rcases renames.find_old named with ⟨kept, reached⟩ | ⟨moved, rc, missing⟩
  · obtain ⟨written, becomes⟩ :=
      @setEnabledFrom_carriedOut Users.uacNormalAccount (self.enableChange user) _ _ _
        (on.serves 2) (by rw [on.rule, on.directory]; exact reached)
    obtain ⟨reported, form, session⟩ :=
      @save_changed_ok _ convert _ _ starts.ready changed success written
    obtain ⟨uac, stored⟩ : ∃ uac, (self.save convert).session.directory =
        Function.update after (namedByCn old parent)
          (some { renewed with
            attrs := renewed.attrs.set (cstr "userAccountControl")
              [formatInt64 (uacWithEnabled self.newEnabled uac)] }) := by
      rw [on.directory] at becomes
      exact ⟨_, (congrArg Session.directory session).trans becomes.directory⟩
    have before : after (namedByCn old parent) = some renewed := kept ▸ renames.moved
    have unique : (self.save convert).session.directory.UniqueGuids := by
      rw [stored]
      exact renames.unique.update before rfl
    have held := (congrFun stored (namedByCn old parent)).trans (Function.update_self ..)
    rw [← same, saved_iff_shows reported form unique held]
    refine (showsAccount_written renewed.attrs uac).trans ?_
    exact (and_iff_right kept).symm
  · obtain ⟨error, failed⟩ :=
      @setEnabledFrom_missing Users.uacNormalAccount (self.enableChange user) _ _ _ on _
        missing
    have refused := @save_changed_failed _ convert _ _ starts.ready changed success _ failed
    constructor
    · intro saved
      rw [saved.reported.noError] at refused
      cases refused
    · intro reaches
      exact absurd reaches.1 moved

theorem saved_iff_of_renames :
    Saved self (self.save convert) entry.objectGuid ↔
      renewed.attrs.values cnType = filled self.cn ∧
        ShowsNames (syncRules self.panel.form) renewed.attrs ∧
        if self.changesEnabled user then target = namedByCn old parent
        else accountEnabled renewed.attrs = some self.newEnabled := by
  cases change : self.changesEnabled user with
  | false =>
      rw [saved_unchanged_iff starts done renames same change]
      constructor
      · intro account
        exact ⟨account.cn, account.names, account.enabled⟩
      · intro shown
        exact ⟨shown.1, shown.2.1, shown.2.2⟩
  | true =>
      rw [saved_changed_iff starts done renames same change]
      constructor
      · intro reaches
        exact ⟨reaches.2.1, reaches.2.2, reaches.1⟩
      · intro shown
        exact ⟨shown.2.2, shown.1, shown.2.1⟩

end Renames

/-- A new name that needs an escape is never the `cn` the form shows. -/
theorem not_saved_escaped (escapes : needsNoEscaping self.cn = false) :
    ¬ Saved self (self.save convert) entry.objectGuid := by
  obtain ⟨rdn, other, parsed, _, _, renames⟩ := renames_of_ok starts.found
    (fun _ member => replace_of_mem_mods member) starts.unique done
  have wrong : (renamedEntry old rdn entry).attrs.values cnType ≠ [self.cn] :=
    values_renamedEntry_escaped escapes parsed
  intro saved
  split at renames
  · have shown := ((saved_iff_of_renames starts done renames rfl).mp saved).1
    rw [values_replaced_other (by decide), filled_cn starts] at shown
    exact wrong shown
  · have shown := ((saved_iff_of_renames starts done renames rfl).mp saved).1
    rw [filled_cn starts] at shown
    exact wrong shown

theorem saved_iff_of_plain (plain : needsNoEscaping self.cn = true) :
    Saved self (self.save convert) entry.objectGuid ↔
      self.Reaches user old parent entry := by
  obtain ⟨renewed, renames, which⟩ := renames_of_plain starts.found
    (fun _ member => replace_of_mem_mods member) starts.unique plain done
  have cnShown : (withCn self.cn entry).attrs.values cnType = filled self.cn :=
    (values_withCn_self self.cn entry).trans (filled_cn starts).symm
  have bitKept : (withCn self.cn entry).attrs.values (cstr "userAccountControl") =
      entry.attrs.values (cstr "userAccountControl") :=
    values_withCn_of_ne (by decide) self.cn entry
  rcases which with ⟨separates, rfl⟩ | ⟨misled, taken, rfl⟩
  · have cnKept :
        (replaced (withCn self.cn entry) (self.update user).mods).attrs.values cnType =
          filled self.cn :=
      (values_replaced_other (by decide)).trans cnShown
    have enabled := accountEnabled_congr
      ((values_replaced_other (by decide)).trans bitKept :
        (replaced (withCn self.cn entry) (self.update user).mods).attrs.values _ = _)
    rw [saved_iff_of_renames starts done renames rfl, enabled]
    constructor
    · intro shown
      exact ⟨plain, .inl separates, shown.2.2⟩
    · intro reaches
      exact ⟨cnKept, showsNames_replaced, reaches.enabled⟩
  · -- the modification went to another entry: the names must have been right already
    have names : ShowsNames (syncRules self.panel.form) (withCn self.cn entry).attrs ↔
        ShowsNames (syncRules self.panel.form) entry.attrs := by
      apply showsNames_congr
      intro field member
      exact values_withCn_of_ne (cn_notMem_modified field member) self.cn entry
    rw [saved_iff_of_renames starts done renames rfl, accountEnabled_congr bitKept, names]
    constructor
    · intro shown
      exact ⟨plain, .inr ⟨taken, shown.2.1⟩, shown.2.2⟩
    · intro reaches
      exact ⟨cnShown, (reaches.names.resolve_left misled).2, reaches.enabled⟩

end Updated

/-- One click on Save leaves the entry with the names the form shows and the
ACCOUNTDISABLE bit of the checkbox, and says so, exactly where each of its steps reaches
the entry. -/
theorem saved_iff (starts : self.Starts user old parent entry) :
    Saved self (self.save convert) entry.objectGuid ↔
      self.Reaches user old parent entry := by
  cases done : self.updated user with
  | error rc =>
      constructor
      · intro saved
        obtain ⟨error, failed⟩ := update_error starts done
        have refused := @save_failed _ convert _ _ starts.ready _ failed
        rw [saved.reported.noError] at refused
        cases refused
      · intro reaches
        obtain ⟨after, through⟩ := ok_of_plain starts.found
          (fun _ member => replace_of_mem_mods member) reaches.plain starts.free
          (reaches.names.imp_right And.left)
        cases done.symm.trans through
  | ok after =>
      cases plain : needsNoEscaping self.cn with
      | true => exact saved_iff_of_plain starts done plain
      | false =>
          constructor
          · intro saved
            exact absurd saved (not_saved_escaped starts done plain)
          · intro reaches
            rw [reaches.plain] at plain
            cases plain

end Saved

/-! One user in one container -/

def staff (cn : String) : DistinguishedName :=
  namedByCn (.string (cstr cn)) [[{ type := cstr "ou", value := .string (cstr "Staff") }]]

def staffEntry : Ldap.Entry :=
  { objectGuid := 1
    attrs := Attributes.set (fun _ => []) (cstr "userAccountControl") [cstr "512"] }

def staffSession : Session :=
  .opened id fun name => if name = staff "a" then some staffEntry else none

def staffUser : Listed SbvUser :=
  { id := 0
    listedOver := 0
    obj :=
      { dn := some (cstr "CN=a,OU=Staff"), sam := some (cstr "a"), cn := some (cstr "a") } }

def staffSystem (edits : List Edit) : System noCalendar :=
  { panel :=
      run (@AccountPanel.step (usersKind noCalendar)) (AccountPanel.opened {})
        ([ .load 0, .listed 0 (.ok [staffUser.obj]), .rowSelected (some 0) ] ++
          edits.map AccountPanel.Event.edited)
    session := staffSession }

theorem staff_unique : staffSession.directory.UniqueGuids := .single (staff "a") staffEntry

theorem staff_found :
    staffSession.directory.find staffSession.rule (orEmpty staffUser.obj.dn) =
      .ok (staff "a", staffEntry) := Directory.find_single staffEntry (by decide)

theorem staff_starts {edits : List Edit}
    (ready : CanSave (staffSystem edits).panel staffUser)
    (named : (staffSystem edits).panel.form.text .cn ≠ [])
    (free : renamedTo id (staffSystem edits).cn (staff "a").tail ≠ staff "a") :
    (staffSystem edits).Starts staffUser (.string (cstr "a")) (staff "a").tail staffEntry where
  ready := ready
  named := named
  serving := ⟨rfl, fun _ member => (nomatch member), rfl, rfl⟩
  unique := staff_unique
  found := staff_found
  free := .inr (if_neg free)

theorem saved_iff_renamed :
    Saved (staffSystem [.typed .cn (cstr "b")])
      ((staffSystem [.typed .cn (cstr "b")]).save fun text => .ok text) 1 :=
  (saved_iff (staff_starts ⟨rfl, rfl, rfl, rfl, rfl⟩ (by decide) (by decide))).mpr
    ⟨by decide, .inl ⟨by decide, closed_of_notMem (by decide)⟩, by decide⟩

/-- A new name and a changed checkbox in one save: the enable change still goes to the
old name, and nothing is there any more. -/
theorem save_renamed_and_disabled :
    let system := staffSystem [.typed .cn (cstr "b"), .toggled .enabled false]
    system.Starts staffUser (.string (cstr "a")) (staff "a").tail staffEntry ∧
      needsNoEscaping (system.panel.form.text .cn) = true ∧
      ¬ Saved system (system.save fun text => .ok text) 1 := by
  refine ⟨staff_starts ⟨rfl, rfl, rfl, rfl, rfl⟩ (by decide) (by decide), by decide, ?_⟩
  intro saved
  exact absurd saved.reported.noError (by decide)

end System

end Sambervise.Ui.Users
