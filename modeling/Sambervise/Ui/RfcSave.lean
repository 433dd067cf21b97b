import Sambervise.Backend.Groups
import Sambervise.Ui.CollisionLabel

namespace Sambervise.Ui

open Text Ldap Model Backend

/-! Saving the Unix ids of the two panels: from the texts of the entries to the request
that the server gets. -/

namespace Groups

def doRfcSave (group : SbvGroup) (gid : GInt) : Groups.GroupUnixData :=
  Groups.sbvGroupsSetUnixAttrs group gid

def sensitiveBuiltinName (rid : GInt64) : Option String :=
  if rid = 512 then some "Domain Admins"
  else if rid = 518 then some "Schema Admins"
  else if rid = 519 then some "Enterprise Admins"
  else none

inductive RfcSave where
  | sent (d : Groups.GroupUnixData)
  | warned (builtin : String) (pendingGid : GInt)
  deriving DecidableEq, Repr

def onRfcSaveClicked (group : SbvGroup) (gidText : CString) : RfcSave :=
  let gid := Users.numberOfText gidText
  let builtin := if 0 ≤ gid.toInt then sensitiveBuiltinName group.rid else none
  match builtin with
  | some builtin => .warned builtin gid
  | none => .sent (doRfcSave group gid)

def onGidWarnResponse (group : SbvGroup) (pendingGid : GInt) (response : CString) :
    Option Groups.GroupUnixData :=
  if response = cstr "save" then some (doRfcSave group pendingGid) else none

end Groups

/-- A click on Save, for one of the entries it reads; in the groups panel with the answer
to a warning, should there be one. -/
inductive IdSave where
  | usersUid (user : SbvUser) (form : Users.Form)
  | usersGid (user : SbvUser) (form : Users.Form)
  | groupsGid (group : SbvGroup) (gidText response : CString)

namespace IdSave

def entry : IdSave → IdEntry
  | .usersUid _ _ => .usersUid
  | .usersGid _ _ => .usersGid
  | .groupsGid _ _ _ => .groupsGid

def text : IdSave → CString
  | .usersUid _ form => form.text .rfcUid
  | .usersGid _ form => form.text .rfcGid
  | .groupsGid _ gidText _ => gidText

def users (user : SbvUser) (form : Users.Form) : LdapM (Except GError Unit) :=
  match (Users.onRfcSaveClicked user form).2 with
  | some (.setUnixAttrs d) => Users.setUnixAttrsThread d
  | _ => return .ok ()

def groups (group : SbvGroup) (gidText response : CString) : LdapM (Except GError Unit) :=
  match Groups.onRfcSaveClicked group gidText with
  | .sent d => Groups.setGroupUnixThread d
  | .warned _ pendingGid =>
      match Groups.onGidWarnResponse group pendingGid response with
      | some d => Groups.setGroupUnixThread d
      | none => return .ok ()

def perform : IdSave → LdapM (Except GError Unit)
  | .usersUid user form | .usersGid user form => users user form
  | .groupsGid group gidText response => groups group gidText response

def sentBy (save : IdSave) (session : Session) : List Request :=
  (save.perform session).2.sent.drop session.sent.length

/-- The admin takes back the save of a built-in group when warned. -/
def declined : IdSave → Bool
  | .groupsGid group gidText response =>
      decide (0 ≤ (Users.numberOfText gidText).toInt) &&
        (Groups.sensitiveBuiltinName group.rid).isSome && decide (response ≠ cstr "save")
  | _ => false

/-- What is written to the attribute of the entry is the one id that the text is the
numeral of and that the collision check asks about. -/
def WritesTyped (save : IdSave) (session : Session) : Prop :=
  ∀ dn mods, .modify dn mods ∈ save.sentBy session →
    ∀ mod ∈ mods, mod.type = cstr save.entry.kind.attrName →
      ∃ id, mod.values = [formatNat id] ∧ IsNumeral save.text id ∧
        ∀ selected, (save.entry.fire selected save.text).value.toInt = id

def savedValues (text : CString) : List CString :=
  let number := Users.numberOfText text
  if 0 ≤ number.toInt then [formatInt number.toInt] else []

section Sent

variable {session : Session}

theorem setUnixAttrsThread_eq (d : Users.UnixAttrsData) :
    Users.setUnixAttrsThread d = setUnixFrom (orEmpty d.dn) d.mods := rfl

theorem drop_sent_setUnixFrom (connected : session.ld = true) (dn : CString)
    (mods : List LdapMod) :
    (setUnixFrom dn mods session).2.sent.drop session.sent.length = [.modify dn mods] := by
  rw [sent_setUnixFrom connected, List.drop_left]

theorem drop_sent_setUnixAttrsThread (connected : session.ld = true)
    (d : Users.UnixAttrsData) :
    (Users.setUnixAttrsThread d session).2.sent.drop session.sent.length =
      [.modify (orEmpty d.dn) d.mods] := by
  rw [setUnixAttrsThread_eq, drop_sent_setUnixFrom connected]

theorem mem_and_type_iff {mods : List LdapMod} {target : LdapMod}
    (distinct : (mods.map LdapMod.type).Nodup) (member : target ∈ mods) (mod : LdapMod) :
    mod ∈ mods ∧ mod.type = target.type ↔ mod = target := by
  constructor
  · intro both
    obtain ⟨other, same⟩ := both
    exact List.inj_on_of_nodup_map distinct other member same
  · intro equal
    subst equal
    exact ⟨member, rfl⟩

theorem distinct_unixMods (d : Users.UnixAttrsData) : (d.mods.map LdapMod.type).Nodup := by
  show [cstr "uidNumber", cstr "gidNumber", cstr "loginShell", cstr "unixHomeDirectory",
    cstr "gecos"].Nodup
  decide

theorem groups_apply (group : SbvGroup) (gidText response : CString) :
    groups group gidText response =
      if (IdSave.groupsGid group gidText response).declined then return .ok ()
      else Groups.setGroupUnixThread (Groups.doRfcSave group (Users.numberOfText gidText)) := by
  unfold groups declined Groups.onRfcSaveClicked
  by_cases set : 0 ≤ (Users.numberOfText gidText).toInt
  · cases builtin : Groups.sensitiveBuiltinName group.rid with
    | none => simp [set, builtin]
    | some name =>
        by_cases saves : response = cstr "save"
        · simp [set, builtin, saves, Groups.onGidWarnResponse]
        · simp [set, builtin, saves, Groups.onGidWarnResponse]
  · simp [set]

/-- Unless the admin takes it back a save sends one request, which replaces the values of
the entry's attribute. -/
theorem sentBy_eq (connected : session.ld = true) (save : IdSave) :
    save.declined = true ∧ save.sentBy session = [] ∨
      save.declined = false ∧ ∃ dn mods, save.sentBy session = [.modify dn mods] ∧
        ∀ mod, mod ∈ mods ∧ mod.type = cstr save.entry.kind.attrName ↔
          mod = replaceMod save.entry.kind.attrName (savedValues save.text) := by
  cases save with
  | usersUid user form =>
      refine .inr ⟨rfl, _, _, drop_sent_setUnixAttrsThread connected _, ?_⟩
      exact mem_and_type_iff (distinct_unixMods _) List.mem_cons_self
  | usersGid user form =>
      refine .inr ⟨rfl, _, _, drop_sent_setUnixAttrsThread connected _, ?_⟩
      exact mem_and_type_iff (distinct_unixMods _)
        (List.mem_cons_of_mem _ List.mem_cons_self)
  | groupsGid group gidText response =>
      cases declines : (IdSave.groupsGid group gidText response).declined with
      | true =>
          refine .inl ⟨rfl, ?_⟩
          rw [sentBy, perform, groups_apply, if_pos declines]
          exact List.drop_length
      | false =>
          refine .inr ⟨rfl, ?_⟩
          rw [sentBy, perform, groups_apply, if_neg (by simp [declines])]
          refine ⟨_, _, drop_sent_setUnixFrom connected _ _, ?_⟩
          have distinct : ((Groups.doRfcSave group (Users.numberOfText gidText)).mods.map
              LdapMod.type).Nodup := List.nodup_singleton _
          exact mem_and_type_iff distinct List.mem_cons_self

end Sent

def IsGIntNumeral (text : CString) : Prop :=
  ∃ id, IsNumeral text id ∧ (id : Int) < 2 ^ 31

theorem savedValues_of_isNumeral {text : CString} {id : Nat} (numeral : IsNumeral text id)
    (small : (id : Int) < 2 ^ 31) :
    savedValues text = [formatNat id] ∧ (strtoll text).toInt = id := by
  have read : (strtoll text).toInt = id := by
    rw [strtoll, readInt_of_isNumeral numeral, toInt_saturate (by omega) (by omega)]
  have number : (Users.numberOfText text).toInt = id := by
    have natural : (strtoll text).toNat = id := by
      have sign := BitVec.toInt_eq_toNat_cond (strtoll text)
      have bound := (strtoll text).isLt
      split at sign
      · omega
      · omega
    rw [Users.numberOfText, if_neg numeral.1, BitVec.toInt_setWidth, natural,
      Int.bmod_eq_of_le (by omega) (by omega)]
  refine ⟨?_, read⟩
  rw [savedValues, number, if_pos (by omega)]
  rfl

theorem isGIntNumeral_of_savedValues {text : CString} {id : Nat} (numeral : IsNumeral text id)
    (saved : savedValues text = [formatNat id]) : IsGIntNumeral text := by
  refine ⟨id, numeral, ?_⟩
  unfold savedValues at saved
  dsimp only at saved
  split at saved
  · have same : (Users.numberOfText text).toInt = id :=
      formatInt_injective (List.cons.inj saved).1
    have below : (Users.numberOfText text).toInt < 2 ^ 31 := BitVec.toInt_lt
    omega
  · cases saved

/-- A save writes what was typed and checked exactly where the text is a numeral of an id
that fits a `gint`, or the admin takes the save back. -/
theorem writesTyped_iff {session : Session} (connected : session.ld = true) (save : IdSave) :
    save.WritesTyped session ↔ save.declined = true ∨ IsGIntNumeral save.text := by
  rcases sentBy_eq connected save with ⟨declined, nothing⟩ | ⟨saved, dn, mods, sent, only⟩
  · simp [WritesTyped, nothing, declined]
  · simp only [WritesTyped, sent, List.mem_singleton, saved, Bool.false_eq_true, false_or]
    constructor
    · intro writes
      obtain ⟨member, type⟩ := (only _).mpr rfl
      obtain ⟨id, values, numeral, _⟩ := writes dn mods rfl _ member type
      exact isGIntNumeral_of_savedValues numeral values
    · rintro ⟨id, numeral, small⟩ _ _ same mod member type
      obtain ⟨rfl, rfl⟩ := Request.modify.inj same
      obtain ⟨values, read⟩ := savedValues_of_isNumeral numeral small
      refine ⟨id, ?_, numeral, fun selected => ?_⟩
      · rw [(only mod).mp ⟨member, type⟩]
        exact values
      · rw [CheckedEntry.fire_value, read]

def labGroup : SbvGroup := { dn := some (cstr "CN=staff,DC=lab") }

theorem writesTyped_iff_lab :
    let save := IdSave.groupsGid labGroup (cstr "0010000") []
    save.WritesTyped (Session.opened id fun _ => none) ↔
      save.declined = true ∨ IsGIntNumeral save.text :=
  writesTyped_iff rfl (.groupsGid labGroup (cstr "0010000") [])

theorem not_isGIntNumeral_of_large {text : CString} (large : 2 ^ 31 ≤ readDigits text) :
    ¬ IsGIntNumeral text := by
  intro both
  obtain ⟨id, ⟨_, _, read⟩, small⟩ := both
  omega

/-- The text 4294967296 is saved as the id 0, and the one after the largest `gint`
deletes the attribute. -/
theorem saved_as_root :
    let typed (text : String) := IdSave.usersUid {} (Users.Form.setText {} .rfcUid (cstr text))
    let session := Session.opened id fun _ => none
    (savedValues (typed "4294967296").text = [cstr "0"] ∧
        ¬ (typed "4294967296").WritesTyped session) ∧
      savedValues (typed "2147483648").text = [] ∧
        ¬ (typed "2147483648").WritesTyped session := by
  refine ⟨⟨by decide +kernel, ?_⟩, by decide +kernel, ?_⟩
  · intro writes
    obtain ⟨id, values, numeral, _⟩ :=
      writes [] _ List.mem_cons_self _ List.mem_cons_self rfl
    exact not_isGIntNumeral_of_large (by decide) (isGIntNumeral_of_savedValues numeral values)
  · intro writes
    obtain ⟨id, values, numeral, _⟩ :=
      writes [] _ List.mem_cons_self _ List.mem_cons_self rfl
    exact not_isGIntNumeral_of_large (by decide) (isGIntNumeral_of_savedValues numeral values)

end IdSave

end Sambervise.Ui
