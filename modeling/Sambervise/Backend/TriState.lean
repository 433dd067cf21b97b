import Sambervise.Backend.FieldSave
import Sambervise.Backend.ModArrays
import Sambervise.Backend.Updates

namespace Sambervise.Backend

open Text Ldap Model

/-! The three updates whose fields may each be NULL, empty, or have a value. -/

inductive FieldValue where
  | text (value : Option CString)
  | vector (values : Option (List CString))
  deriving DecidableEq, Repr

namespace FieldValue

def isNull : FieldValue → Bool
  | .text value => value.isNone
  | .vector values => values.isNone

/-- What an attribute that had the values `before` has after the update. -/
def Leaves (before after : List CString) : FieldValue → Prop
  | .text none => after = before
  | .text (some []) => after = []
  | .text (some value) => after = [value]
  | .vector none => after = before
  | .vector (some values) => after = values

def written : FieldValue → Option (List CString)
  | .text value => value.map fun text => if text = [] then [] else [text]
  | .vector values => values

theorem isNull_iff (value : FieldValue) : value.isNull = true ↔ value.written = none := by
  cases value with
  | text value => simp [isNull, written]
  | vector values => simp [isNull, written]

theorem leaves_of_written {value : FieldValue} {before after : List CString}
    (given : ∀ values, value.written = some values → after = values)
    (null : value.written = none → after = before) : value.Leaves before after := by
  match value with
  | .text none => exact null rfl
  | .text (some []) => exact given [] rfl
  | .text (some (first :: rest)) => exact given [first :: rest] rfl
  | .vector none => exact null rfl
  | .vector (some values) => exact given values rfl

end FieldValue

inductive AttrUpdate where
  | user (d : Users.UpdateAttrsData)
  | computer (d : Computers.UpdateAttrsData)
  | contact (d : Contacts.UpdateData)
  deriving DecidableEq, Repr

namespace AttrUpdate

def perform : AttrUpdate → LdapM (Except GError Unit)
  | .user d => Users.updateAttrsThread d
  | .computer d => Computers.updateAttrsThread d
  | .contact d => Contacts.updateThread d

def dn : AttrUpdate → CString
  | .user d => orEmpty d.dn
  | .computer d => orEmpty d.dn
  | .contact d => orEmpty d.dn

/-- An update of a computer has no name. -/
def cn : AttrUpdate → Option CString
  | .user d => d.cn
  | .computer _ => none
  | .contact d => d.cn

def mods : AttrUpdate → List LdapMod
  | .user d => d.mods
  | .computer d => d.mods
  | .contact d => d.mods

def modArrays : AttrUpdate → Option ModArrays
  | .user d => d.modArrays
  | .computer d => d.modArrays
  | .contact d => d.modArrays

def texts (scalars : List (String × Option CString)) : List (String × FieldValue) :=
  scalars.map fun field => (field.1, .text field.2)

def fields : AttrUpdate → List (String × FieldValue)
  | .user d => texts d.scalars
  | .computer d => texts d.scalars
  | .contact d => texts d.scalars ++ [("proxyAddresses", .vector d.proxyAddresses)]

def allNull (update : AttrUpdate) : Bool := update.fields.all fun field => field.2.isNull

structure TriState (update : AttrUpdate) (before after : Attributes) : Prop where
  fields : ∀ field ∈ update.fields,
    field.2.Leaves (before.values (cstr field.1)) (after.values (cstr field.1))
  others : ∀ type, (∀ field ∈ update.fields,
    asciiStrdown type ≠ asciiStrdown (cstr field.1)) → after.values type = before.values type

/-- What a run of the worker does: nothing is sent where no field has a value, and where
the server does not refuse it the entry has the values asked for. -/
structure Updates (update : AttrUpdate) (session : Session) : Prop where
  sent : (update.perform session).2.sent = session.sent ++
    if session.ld = true ∧ update.allNull = false then [.modify update.dn update.mods]
    else []
  ok : (update.perform session).1 = .ok () ↔
    session.ld = true ∧ (update.allNull = true ∨ ¬ session.Misses update.dn)
  effect : (update.perform session).1 = .ok () → update.allNull = false →
    ∃ name entry attrs, session.directory.find session.rule update.dn = .ok (name, entry) ∧
      (update.perform session).2.directory =
        Function.update session.directory name (some { entry with attrs }) ∧
      update.TriState entry.attrs attrs
  nothing : (update.perform session).1 ≠ .ok () ∨ update.allNull = true →
    (update.perform session).2.directory = session.directory

/-! The modifications of an update -/

section Mods

def fieldOf (field : String × FieldValue) : Backend.Field :=
  { type := cstr field.1, untouched := false, written := field.2.written }

variable (update : AttrUpdate)

def save : FieldSave :=
  { dn := update.dn
    cn := []
    fields := update.fields.map fieldOf
    distinct := by
      cases update with
      | user d =>
          show (["displayName", "givenName", "sn", "mail"].map fun type =>
            asciiStrdown (cstr type)).Nodup
          decide
      | computer d =>
          show (["description", "dNSHostName"].map fun type =>
            asciiStrdown (cstr type)).Nodup
          decide
      | contact d =>
          show (["displayName", "givenName", "sn", "description", "mail",
            "telephoneNumber", "mobile", "facsimileTelephoneNumber",
            "physicalDeliveryOfficeName", "streetAddress", "l", "st", "postalCode", "co",
            "proxyAddresses"].map fun type => asciiStrdown (cstr type)).Nodup
          decide }

theorem flatMap_addMod (scalars : List (String × Option CString)) :
    (scalars.flatMap fun field => addMod field.1 field.2) =
      ((texts scalars).map fieldOf).filterMap Field.mod := by
  induction scalars with
  | nil => rfl
  | cons field rest ih =>
      obtain ⟨type, value⟩ := field
      cases value with
      | none => exact ih
      | some value =>
          rw [List.flatMap_cons, ih]
          rfl

theorem mods_user (d : Users.UpdateAttrsData) :
    d.mods = d.scalars.flatMap fun field => addMod field.1 field.2 := by
  simp [Users.UpdateAttrsData.mods, Users.UpdateAttrsData.scalars]

theorem mods_computer (d : Computers.UpdateAttrsData) :
    d.mods = d.scalars.flatMap fun field => addMod field.1 field.2 := by
  simp [Computers.UpdateAttrsData.mods, Computers.UpdateAttrsData.scalars]

theorem mods_contact (d : Contacts.UpdateData) :
    d.mods = (d.scalars.flatMap fun field => addMod field.1 field.2) ++
      (d.proxyAddresses.map (replaceMod "proxyAddresses")).toList := by
  cases proxies : d.proxyAddresses with
  | none => simp [Contacts.UpdateData.mods, Contacts.UpdateData.scalars, proxies]
  | some values => simp [Contacts.UpdateData.mods, Contacts.UpdateData.scalars, proxies]

theorem mods_save : update.save.mods = update.mods := by
  cases update with
  | user d => exact ((mods_user d).trans (flatMap_addMod d.scalars)).symm
  | computer d => exact ((mods_computer d).trans (flatMap_addMod d.scalars)).symm
  | contact d =>
      refine Eq.trans ?_ (mods_contact d).symm
      change ((texts d.scalars ++
        [("proxyAddresses", FieldValue.vector d.proxyAddresses)]).map fieldOf).filterMap
          Field.mod = _
      rw [flatMap_addMod, List.map_append, List.filterMap_append]
      cases d.proxyAddresses with
      | none => rfl
      | some values => rfl

theorem filledWith_mods : ModArrays.FilledWith update.modArrays update.mods := by
  cases update with
  | user d =>
      rw [mods, mods_user]
      exact ModArrays.filled_addMods d.scalars
  | computer d =>
      rw [mods, mods_computer]
      exact ModArrays.filled_addMods d.scalars
  | contact d =>
      have fits : d.scalars.length < 16 := by
        show 14 < 16
        decide
      rw [mods, mods_contact]
      exact ModArrays.filled_addStrMods fits d.proxyAddresses

end Mods

variable {update : AttrUpdate} {session : Session}

theorem mods_eq_nil_iff : update.mods = [] ↔ update.allNull = true := by
  rw [← mods_save, FieldSave.mods, List.filterMap_eq_nil_iff, allNull, List.all_eq_true]
  simp only [save, List.forall_mem_map, fieldOf, Field.mod, Option.map_eq_none_iff,
    FieldValue.isNull_iff]

theorem triState_replaceAll (attrs : Attributes) :
    update.TriState attrs (Directory.replaceAll attrs update.mods) := by
  rw [← mods_save]
  constructor
  · intro field member
    have inSave : fieldOf field ∈ update.save.fields := List.mem_map_of_mem member
    refine FieldValue.leaves_of_written ?_ ?_
    · exact fun values written => FieldSave.values_of_written inSave written attrs
    · exact fun unwritten => FieldSave.values_of_unwritten inSave unwritten attrs
  · intro type elsewhere
    refine values_replaced_of_ne ?_ { objectGuid := 0, attrs }
    intro mod inMods
    obtain ⟨field, inFields, isMod⟩ := List.mem_filterMap.mp inMods
    obtain ⟨named, member, rfl⟩ := List.mem_map.mp inFields
    obtain ⟨_, _, rfl⟩ := Option.map_eq_some_iff.mp isMod
    exact elsewhere named member

theorem replace_of_mem_mods {mod : LdapMod} (member : mod ∈ update.mods) :
    mod.op = .replace :=
  FieldSave.replace_of_mem_mods (mods_save update ▸ member)

/-! A run of the worker -/

theorem perform_unnamed (unnamed : update.cn = none) :
    update.perform = underLock (modifyUpdated update.dn update.mods) := by
  have renames (dn : CString) (mods : List LdapMod) :
      renameThenModify dn [] mods = underLock (modifyUpdated dn mods) := by
    rw [renameThenModify_eq, if_pos rfl]
  cases update with
  | user d =>
      change d.cn = none at unnamed
      rw [perform, Users.updateAttrsThread, unnamed]
      exact renames _ _
  | computer d => rfl
  | contact d =>
      change d.cn = none at unnamed
      rw [perform, Contacts.updateThread, unnamed]
      exact renames _ _

/-- The modification on a session that has a handle. -/
structure Modifies (update : AttrUpdate) (session : Session) : Prop where
  ok : (modifyUpdated update.dn update.mods session).1 = .ok () ↔
    update.allNull = true ∨ ¬ session.Misses update.dn
  effect : (modifyUpdated update.dn update.mods session).1 = .ok () → update.allNull = false →
    ∃ name entry attrs, session.directory.find session.rule update.dn = .ok (name, entry) ∧
      (modifyUpdated update.dn update.mods session).2.directory =
        Function.update session.directory name (some { entry with attrs }) ∧
      update.TriState entry.attrs attrs
  nothing : (modifyUpdated update.dn update.mods session).1 ≠ .ok () ∨
      update.allNull = true →
    (modifyUpdated update.dn update.mods session).2.directory = session.directory

theorem modifyUpdated_modifies (update : AttrUpdate) (session : Session) :
    update.Modifies session := by
  by_cases null : update.mods = []
  · have allNull := mods_eq_nil_iff.mp null
    have run : modifyUpdated update.dn update.mods session = (.ok (), session) := by
      rw [modifyUpdated, if_pos null]
      rfl
    constructor
    · rw [run]
      exact iff_of_true rfl (.inl allNull)
    · intro _ some
      rw [allNull] at some
      cases some
    · exact fun _ => by rw [run]
  · have notNull : ¬ update.allNull = true := mt mods_eq_nil_iff.mpr null
    by_cases misses : session.Misses update.dn
    · obtain ⟨⟨error, failed⟩, kept⟩ := Update.modifyUpdated_misses null misses
      constructor
      · rw [failed]
        refine iff_of_false (fun same => by cases same) ?_
        exact not_or.mpr ⟨notNull, not_not.mpr misses⟩
      · intro ok
        rw [failed] at ok
        cases ok
      · exact fun _ => kept
    · have done := Update.modifyUpdated_ok
        (fun mod member => @replace_of_mem_mods update mod member) (.inr misses)
      constructor
      · exact iff_of_true done (.inr misses)
      · intro _ _
        rw [Session.Misses, not_or, Bool.not_eq_false] at misses
        cases found : session.directory.find session.rule update.dn with
        | error rc => exact absurd ⟨rc, found⟩ misses.2
        | ok held =>
            refine ⟨held.1, held.2, _, rfl, ?_, triState_replaceAll held.2.attrs⟩
            rw [modifyUpdated_apply null,
              modifyExt_replaces misses.1 (fun _ => replace_of_mem_mods) found]
      · intro none
        exact absurd (none.resolve_left (not_not.mpr done)) notNull

/-- Every combination of NULL, empty and non-empty fields. -/
theorem updates_fields (unnamed : update.cn = none) (session : Session) :
    ModArrays.FilledWith update.modArrays update.mods ∧ update.Updates session := by
  refine ⟨filledWith_mods update, ?_⟩
  have run := congrFun (perform_unnamed unnamed) session
  rw [underLock_apply] at run
  cases connected : session.ld with
  | false =>
      rw [if_neg (by simp [connected])] at run
      constructor
      · rw [run, if_neg (by simp [connected]), List.append_nil]
      · simp [run, connected]
      · intro ok
        rw [run] at ok
        cases ok
      · exact fun _ => by rw [run]
  | true =>
      rw [if_pos connected] at run
      have modifies := modifyUpdated_modifies update
        { session with acquired := session.acquired + 1 }
      constructor
      · rw [run]
        refine Update.sent_modifyUpdated.trans ?_
        simp only [connected, mods_eq_nil_iff]
        cases update.allNull with
        | false => rfl
        | true => rfl
      · rw [run]
        exact modifies.ok.trans (by simp [connected, Session.Misses, Session.outcome])
      · rw [run]
        exact modifies.effect
      · rw [run]
        exact modifies.nothing

/-- The description is cleared, and the DNS name stays. -/
def clearsDescription : AttrUpdate :=
  .computer
    { dn := some (cstr "CN=kiosk,DC=lan")
      description := some []
      dnsHostname := none }

/-- A server with one computer, which has both. -/
def kioskSession : Session :=
  .opened id fun name =>
    if denotes id (cstr "CN=kiosk,DC=lan") = some name then
      some
        { objectGuid := 1
          attrs := (Attributes.set (fun _ => []) (cstr "description") [cstr "hall"]).set
            (cstr "dNSHostName") [cstr "kiosk.lan"] }
    else none

theorem updates_fields_kiosk :
    ModArrays.FilledWith clearsDescription.modArrays clearsDescription.mods ∧
      clearsDescription.Updates kioskSession ∧
      (clearsDescription.perform kioskSession).1 = .ok () :=
  have fields := updates_fields rfl kioskSession
  ⟨fields.1, fields.2, rfl⟩

end AttrUpdate

end Sambervise.Backend
