import Sambervise.Backend.FieldSave
import Sambervise.Ui.ContactsPanel
import Sambervise.Ui.UsersSave

namespace Sambervise.Ui

open Text Ldap Model Backend

/-! The three saves that write a whole form: Save of the users and of the contacts panel,
and the Save of the Unix attributes. -/

def savedFields {E : Type} (table : List (String × E × (CString → List CString)))
    (loaded typed sent : E → CString) : List Backend.Field :=
  table.map fun field =>
    { type := cstr field.1
      untouched := typed field.2.1 = loaded field.2.1
      written := some (field.2.2 (sent field.2.1)) }

/-- The name is written by a rename, if at all. -/
def nameField (loaded typed : CString) : Backend.Field :=
  { type := cnType, untouched := typed = loaded, written := none }

def numberValues (text : CString) : List CString :=
  let number := Users.numberOfText text
  if 0 ≤ number.toInt then [formatInt number.toInt] else []

def usersTable : List (String × Users.Entry × (CString → List CString)) :=
  Users.modified.map fun field => (field.1, field.2, Users.filled)

/-- The Save of the users panel; the sync rules come between the form and what is sent. -/
def usersSave (user : SbvUser) (loaded form : Users.Form) : FieldSave :=
  { dn := orEmpty user.dn
    cn := (Users.syncRules form).text .cn
    fields :=
      nameField (loaded.text .cn) (form.text .cn) ::
        savedFields usersTable loaded.text form.text (Users.syncRules form).text
    distinct := by
      show (cnType :: Users.modified.map fun field => cstr field.1).map asciiStrdown |>.Nodup
      decide }

def contactsTable : List (String × Contacts.Entry × (CString → List CString)) :=
  [ ("displayName", .display, Users.filled), ("givenName", .given, Users.filled),
    ("sn", .sn, Users.filled), ("description", .description, Users.filled),
    ("mail", .mail, Users.filled), ("telephoneNumber", .tel, Users.filled),
    ("mobile", .mobile, Users.filled), ("facsimileTelephoneNumber", .fax, Users.filled),
    ("physicalDeliveryOfficeName", .office, Users.filled),
    ("streetAddress", .street, Users.filled), ("l", .locality, Users.filled),
    ("st", .state, Users.filled), ("postalCode", .postal, Users.filled),
    ("co", .country, Users.filled) ]

def contactsSave (contact : SbvContact) (loaded form : Contacts.Form) : FieldSave :=
  { dn := orEmpty contact.dn
    cn := orEmpty (Contacts.onSaveClicked contact form).cn
    fields :=
      nameField (loaded.text .cn) (form.text .cn) ::
        (savedFields contactsTable loaded.text form.text form.text ++
          [ { type := cstr "proxyAddresses"
              untouched := form.proxy = loaded.proxy
              written := some (Contacts.linesToStrv form.proxy) } ])
    distinct := by
      show (cnType :: (contactsTable.map fun field => cstr field.1) ++
        [cstr "proxyAddresses"]).map asciiStrdown |>.Nodup
      decide }

def unixTable : List (String × Users.Entry × (CString → List CString)) :=
  [ ("uidNumber", .rfcUid, numberValues), ("gidNumber", .rfcGid, numberValues),
    ("loginShell", .rfcShell, Users.filled), ("unixHomeDirectory", .rfcHome, Users.filled),
    ("gecos", .rfcGecos, Users.filled) ]

def unixSave (user : SbvUser) (loaded form : Users.Form) : FieldSave :=
  { dn := orEmpty user.dn
    cn := []
    fields := savedFields unixTable loaded.text form.text form.text
    distinct := by
      show (unixTable.map fun field => cstr field.1).map asciiStrdown |>.Nodup
      decide }

section Threads

variable {session : Session}

theorem mods_usersSave (user : SbvUser) (loaded form : Users.Form) :
    (usersSave user loaded form).mods =
      (Users.updateAttrs user (Users.syncRules form)).mods := rfl

theorem mods_contactsSave (contact : SbvContact) (loaded form : Contacts.Form) :
    (contactsSave contact loaded form).mods =
      (Contacts.onSaveClicked contact form).mods := by
  simp only [Contacts.UpdateData.mods, Contacts.onSaveClicked, addMod, List.append_assoc,
    List.singleton_append]
  rfl

theorem directory_updateAttrsThread (user : SbvUser) (loaded form : Users.Form) :
    (Users.updateAttrsThread (Users.updateAttrs user (Users.syncRules form))
        session).2.directory = (usersSave user loaded form).run session := by
  have something : (usersSave user loaded form).mods ≠ [] := by
    rw [mods_usersSave]
    simp [Users.mods_updateAttrs, Users.modified]
  rw [← FieldSave.directory_renameThenModify something, mods_usersSave]
  rfl

theorem directory_contactsUpdate (contact : SbvContact) (loaded form : Contacts.Form) :
    (Contacts.updateThread (Contacts.onSaveClicked contact form) session).2.directory =
      (contactsSave contact loaded form).run session := by
  have something : (contactsSave contact loaded form).mods ≠ [] :=
    List.cons_ne_nil (replaceMod "displayName" (Users.filled (form.text .display))) _
  rw [← FieldSave.directory_renameThenModify something, mods_contactsSave]
  rfl

theorem directory_setUnixAttrsThread (user : SbvUser) (loaded form : Users.Form)
    {d : Users.UnixAttrsData}
    (clicked : (Users.onRfcSaveClicked user form).2 = some (.setUnixAttrs d)) :
    (Users.setUnixAttrsThread d session).2.directory =
      (unixSave user loaded form).run session := by
  cases clicked
  exact @FieldSave.directory_setUnixFrom (unixSave user loaded form) session rfl

end Threads

/-! The click on Save of the users panel -/

section Users

variable {calendar : Users.GDateTimeUtc} {convert : CString → Except GError (List UInt8)}
  {self : Users.System calendar} {user : Listed SbvUser}

open Users in
/-- The session the click leaves: that of the update, or of an enable change after it. -/
theorem session_save (ready : CanSave self.panel user) :
    (self.save convert).session =
        (Users.updateAttrsThread (self.update user) self.session).2 ∨
      (self.save convert).session =
        (Users.setEnabledThread (self.enableChange user)
          (Users.updateAttrsThread (self.update user) self.session).2).2 := by
  cases updated : (Users.updateAttrsThread (self.update user) self.session).1 with
  | error error =>
      obtain ⟨conn, done⟩ := @System.save_of_canSave _ convert _ _ ready
      rw [done, updated, System.perform_done (by exact Nat.le_refl _)]
      exact .inl rfl
  | ok nothing =>
      cases change : self.changesEnabled user with
      | false =>
          obtain ⟨_, _, session⟩ := @System.save_unchanged _ convert _ _ ready change updated
          exact .inl session
      | true =>
          obtain ⟨conn, done⟩ := @System.save_changed _ convert _ _ ready change updated
          exact .inr (congrArg Users.System.session done)

theorem uac_notMem_usersSave (loaded form : Users.Form) :
    ∀ field ∈ (usersSave user.obj loaded form).fields,
      asciiStrdown field.type ≠ asciiStrdown (cstr "userAccountControl") := by
  have apart : ∀ type ∈ cnType :: Users.modified.map fun field => cstr field.1,
      asciiStrdown type ≠ asciiStrdown (cstr "userAccountControl") := by decide
  intro field member
  exact apart field.type (List.mem_map_of_mem member :
    field.type ∈ (usersSave user.obj loaded form).fields.map Backend.Field.type)

theorem usersSave_keeps_iff (ready : Users.CanSave self.panel user)
    (unique : self.session.directory.UniqueGuids) (loaded : Users.Form) :
    let save := usersSave user.obj loaded self.panel.form
    save.Keeps self.session (self.save convert).session ↔ save.WritesCurrent self.session := by
  intro save
  have updated := FieldSave.keeps_iff unique
    (directory_updateAttrsThread user.obj loaded self.panel.form)
  rcases @session_save _ convert _ _ ready with session | session
  · rw [session]
    exact updated
  · rw [session, ← updated]
    exact FieldSave.keeps_setEnabledFrom (uac_notMem_usersSave loaded self.panel.form)

end Users

/-! One click on Save in any of the three forms -/

/-- Where the server tells the entries apart, the form was loaded from the selected object
(`start` is what the panel showed before that), and the click is taken. -/
inductive FormClick where
  | users (calendar : Users.GDateTimeUtc) (convert : CString → Except GError (List UInt8))
      (self : Users.System calendar) (user : Listed SbvUser) (start : Users.Form)
      (unique : self.session.directory.UniqueGuids) (ready : Users.CanSave self.panel user)
  | contacts (contact : SbvContact) (form : Contacts.Form) (session : Session)
      (unique : session.directory.UniqueGuids)
  | unix (calendar : Users.GDateTimeUtc) (user : SbvUser) (start form : Users.Form)
      (session : Session) (unique : session.directory.UniqueGuids) (d : Users.UnixAttrsData)
      (clicked : (Users.onRfcSaveClicked user form).2 = some (.setUnixAttrs d))

namespace FormClick

/-- The session when the save starts, with all that other clients have done by then. -/
def before : FormClick → Session
  | .users _ _ self .. => self.session
  | .contacts _ _ session _ => session
  | .unix _ _ _ _ session .. => session

def after : FormClick → Session
  | .users _ convert self .. => (self.save convert).session
  | .contacts contact form session _ =>
      (Contacts.updateThread (Contacts.onSaveClicked contact form) session).2
  | .unix _ _ _ _ session _ d _ => (Users.setUnixAttrsThread d session).2

def save : FormClick → FieldSave
  | .users calendar _ self user start .. =>
      usersSave user.obj (Users.loadUserIntoDetail calendar user.obj start) self.panel.form
  | .contacts contact form .. =>
      contactsSave contact (Contacts.loadContactIntoDetail contact) form
  | .unix calendar user start form .. =>
      unixSave user (Users.loadUserIntoDetail calendar user start) form

/-- A save leaves the fields nobody touched with the values the server has, exactly where
what it sends for them are these values. -/
theorem keepsUntouched_iff (click : FormClick) :
    click.save.Keeps click.before click.after ↔ click.save.WritesCurrent click.before := by
  cases click with
  | users calendar convert self user start unique ready =>
      exact usersSave_keeps_iff ready unique _
  | contacts contact form session unique =>
      exact FieldSave.keeps_iff unique (directory_contactsUpdate contact _ form)
  | unix calendar user start form session unique d clicked =>
      exact FieldSave.keeps_iff unique (directory_setUnixAttrsThread user _ form clicked)

/-! A contact that has two descriptions, of which the form shows the first -/

def friendName : DistinguishedName :=
  [[{ type := cstr "cn", value := .string (cstr "pal") }]]

def friendEntry : Ldap.Entry :=
  { objectGuid := 1
    attrs := Attributes.set (fun _ => []) (cstr "description") [cstr "old", cstr "dear"] }

def friendSession : Session :=
  .opened id fun name => if name = friendName then some friendEntry else none

def friendContact : SbvContact :=
  { dn := some (cstr "CN=pal"), description := some (cstr "old") }

theorem friend_unique : friendSession.directory.UniqueGuids := .single friendName friendEntry

/-- Nothing is touched at all, and the second description is gone. -/
theorem description_lost :
    ¬ ∀ click : FormClick, click.save.Keeps click.before click.after := by
  intro claim
  let form := Contacts.loadContactIntoDetail friendContact
  have kept := claim (.contacts friendContact form friendSession friend_unique)
  have current := (FieldSave.keeps_iff friend_unique
    (directory_contactsUpdate friendContact _ form)).mp kept
  have found : friendSession.directory.find friendSession.rule (cstr "CN=pal") =
      .ok (friendName, friendEntry) := Directory.find_single friendEntry (by decide)
  have shown : { type := cstr "description", untouched := true, written := some [cstr "old"] } ∈
      (contactsSave friendContact form form).fields := by decide
  have same := (current friendName friendEntry found).written rfl _ shown rfl _ rfl
  have second : cstr "dear" ∈ friendEntry.attrs.values (cstr "description") := by
    rw [friendEntry, Attributes.values_set_self]
    exact List.mem_cons_of_mem _ List.mem_cons_self
  have unsent : cstr "dear" ∉ [cstr "old"] := by decide
  exact unsent ((same (cstr "dear")).mp second)

end FormClick

end Sambervise.Ui
