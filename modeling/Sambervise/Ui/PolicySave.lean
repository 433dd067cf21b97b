import Sambervise.Ui.ExpiryDate
import Sambervise.Ui.UsersSave

namespace Sambervise.Ui.Users

open Text Ldap Model Backend Calendar Transition

/-! A user selected and the policy section saved as it is then shown: the expiry is
written as the day it lies on, and pwdLastSet as one of its two requests. -/

/-- The values of an entry the policy section is about. -/
structure Policy where
  uac : GInt64
  pwdLastSet : GInt64
  accountExpires : GInt64

namespace Policy

structure HeldBy (policy : Policy) (attrs : Attributes) : Prop where
  uac : attrs.values (cstr "userAccountControl") = [formatInt64 policy.uac]
  pwdLastSet : attrs.values (cstr "pwdLastSet") = [formatInt64 policy.pwdLastSet]
  accountExpires : attrs.values (cstr "accountExpires") = [formatInt64 policy.accountExpires]

def never (policy : Policy) : Prop :=
  policy.accountExpires = 0 ∨ policy.accountExpires = maxInt64

/-- The second the account expires in, since the start of 1970. -/
def second (policy : Policy) : Int :=
  policy.accountExpires.toInt.tdiv 10000000 - 11644473600

/-- What a save leaves of it that writes this expiry; -1 stands for the current time. -/
def resaved (policy : Policy) (accountExpires : GInt64) : Policy :=
  { uac := policy.uac
    pwdLastSet := if policy.pwdLastSet = 0 then 0 else -1
    accountExpires }

end Policy

def policyTypes : List String := ["userAccountControl", "pwdLastSet", "accountExpires"]

/-! What is shown of a policy -/

theorem uacWithNeverExpires_shown (uac : GInt64) :
    Users.uacWithNeverExpires (uac &&& 0x10000 ≠ 0) uac = uac := by
  have flag : Users.uacDontExpirePasswd = BitVec.twoPow 64 16 := by decide
  have read := BitVec.and_twoPow uac 16
  have shown : decide (uac &&& 0x10000 ≠ 0) = uac.getLsbD 16 := by
    rw [show (0x10000 : GInt64) = BitVec.twoPow 64 16 by decide, read]
    cases uac.getLsbD 16 with
    | true => decide
    | false => decide
  rw [shown, Users.uacWithNeverExpires, flag]
  cases bit : uac.getLsbD 16 with
  | true =>
      ext i inside
      rw [if_pos rfl, BitVec.getElem_or, BitVec.getElem_twoPow]
      by_cases here : i = 16
      · rw [← here, BitVec.getLsbD_eq_getElem inside] at bit
        rw [bit, Bool.true_or]
      · simp [here]
  | false =>
      ext i inside
      rw [if_neg (by decide), BitVec.getElem_and, BitVec.getElem_not, BitVec.getElem_twoPow]
      by_cases here : i = 16
      · rw [← here, BitVec.getLsbD_eq_getElem inside] at bit
        rw [bit, Bool.false_and]
      · simp [here]

section Shown

variable {policy : Policy} {attrs : Attributes}

theorem firstValue_formatInt64 {type : String} {value : GInt64}
    (held : attrs.values (cstr type) = [formatInt64 value]) :
    firstValue attrs type = some (formatInt64 value) := by
  simp [firstValue, held, untilNul_formatInt64]

theorem userOfEntry_policy (held : policy.HeldBy attrs) :
    (Users.userOfEntry attrs).uac = policy.uac ∧
      (Users.userOfEntry attrs).pwdLastSet = policy.pwdLastSet ∧
      (Users.userOfEntry attrs).accountExpires =
        if policy.accountExpires = 0 then maxInt64 else policy.accountExpires := by
  unfold Users.userOfEntry
  simp only [firstValue_formatInt64 held.uac, firstValue_formatInt64 held.pwdLastSet,
    firstValue_formatInt64 held.accountExpires, strtoll_formatInt64]
  exact ⟨trivial, trivial, trivial⟩

theorem second_toInt (policy : Policy) :
    (policy.accountExpires.sdiv winTicksPerSec - winEpochOffset).toInt = policy.second := by
  have quotient : (policy.accountExpires.sdiv winTicksPerSec).toInt =
      policy.accountExpires.toInt.tdiv 10000000 :=
    BitVec.toInt_sdiv_of_ne_or_ne _ _ (.inr (by decide))
  have above := BitVec.le_toInt policy.accountExpires
  have below := @BitVec.toInt_lt _ policy.accountExpires
  rw [BitVec.toInt_sub, quotient, show winEpochOffset.toInt = 11644473600 from rfl]
  have size : (policy.accountExpires.toInt.tdiv 10000000).natAbs =
      policy.accountExpires.toInt.natAbs / 10000000 := Int.natAbs_tdiv _ _
  exact Int.bmod_eq_of_le (by omega) (by omega)

end Shown

/-! Selecting and saving -/

/-- A row of the panel shows a user who can be selected, and saved once selected. -/
structure Lists {calendar : GDateTimeUtc} (panel : UsersPanel calendar) (row : Nat)
    (user : Listed SbvUser) (conn : ConnId) : Prop where
  running : panel.crashed = false
  split : panel.outerStack = .split
  reachable : panel.reachable = true
  sensitive : panel.form.savePolicyBtn = true
  inRows : panel.rows[row]? = some user
  connected : panel.conn = some conn

namespace System

section SavePolicy

variable {calendar : GDateTimeUtc} {convert : CString → Except GError (List UInt8)}
  {self : System calendar} {row : Nat} {user : Listed SbvUser} {conn : ConnId}
  {policy : Policy} {dn : DistinguishedName} {entry : Ldap.Entry}

def chosen (self : System calendar) (row : Nat) : System calendar :=
  self.ui (.rowSelected (some row))

/-- The user of a row selected, the policy section saved, and the write sent run. -/
def resavePolicy (convert : CString → Except GError (List UInt8)) (self : System calendar)
    (row : Nat) : System calendar :=
  ((self.chosen row).ui (.buttonClicked .savePolicy)).perform convert
    self.panel.inFlight.length

/-- The save left this policy in the entry, and whatever else is there as it was. -/
structure Resaved (before after : Directory) (dn : DistinguishedName) (entry : Ldap.Entry)
    (policy : Policy) : Prop where
  written : ∃ attrs, after = Function.update before dn (some { entry with attrs }) ∧
    policy.HeldBy attrs ∧
    ∀ type, (∀ name ∈ policyTypes, asciiStrdown type ≠ asciiStrdown (cstr name)) →
      attrs.values type = entry.attrs.values type

theorem chosen_ready (lists : Lists self.panel row user conn) :
    CanSavePolicy (self.chosen row).panel user conn ∧
      (self.chosen row).panel.form =
        loadUserIntoDetail calendar user.obj self.panel.form ∧
      (self.chosen row).panel.inFlight = self.panel.inFlight ∧
      (self.chosen row).session = self.session := by
  have panel : (self.chosen row).panel =
      self.panel.loadIntoDetail user := by
    rw [chosen, ui, AccountPanel.step, if_neg (by simp [lists.running])]
    simp only [AccountPanel.handle, lists.inRows]
    exact if_pos (by simp [lists.split, lists.reachable])
  have reachable : (self.panel.loadIntoDetail user).detailReachable = true := by
    have split := lists.split
    have open_ := lists.reachable
    simp only [AccountPanel.reachable] at open_
    simp [AccountPanel.loadIntoDetail, AccountPanel.detailReachable, ListPanel.shown,
      ListPanel.select, AccountPanel.reachable, split, open_]
  rw [panel]
  exact ⟨⟨lists.running, reachable, lists.sensitive, rfl, lists.connected⟩, rfl, rfl, rfl⟩

def resaveMods (policy : Policy) (time : GInt64) : List LdapMod :=
  [ replaceMod "userAccountControl" [formatInt64 policy.uac],
    replaceMod "pwdLastSet" [formatInt64 (if policy.pwdLastSet = 0 then 0 else -1)],
    replaceMod "accountExpires" [formatInt64 time] ]

theorem mods_shown (listed : user.obj = Users.userOfEntry entry.attrs)
    (held : policy.HeldBy entry.attrs) {form before : Form}
    (loaded : form = loadUserIntoDetail calendar user.obj before) (time : GInt64) :
    (Users.sbvUsersSetPasswordFlags user.obj (form.active .forceChange)
        (form.active .neverExpires) time).mods =
      resaveMods policy time := by
  obtain ⟨uac, pwdLastSet, _⟩ := userOfEntry_policy held
  rw [← listed] at uac pwdLastSet
  have force : cstr (if decide (policy.pwdLastSet = 0) then "0" else "-1") =
      formatInt64 (if policy.pwdLastSet = 0 then 0 else -1) := by
    by_cases zero : policy.pwdLastSet = 0
    · simp only [zero, decide_true, if_true]
      decide
    · simp only [zero, decide_false, if_false, Bool.false_eq_true]
      decide
  simp only [loaded, Users.SetPwFlagsData.mods, Users.sbvUsersSetPasswordFlags,
    loadUserIntoDetail, uac, pwdLastSet, uacWithNeverExpires_shown, force, resaveMods]

theorem resaved_replaced (policy : Policy) (entry : Ldap.Entry) (time : GInt64) :
    (policy.resaved time).HeldBy (replaced entry (resaveMods policy time)).attrs ∧
      ∀ type, (∀ name ∈ policyTypes, asciiStrdown type ≠ asciiStrdown (cstr name)) →
        (replaced entry (resaveMods policy time)).attrs.values type =
          entry.attrs.values type := by
  have distinct :
      ((resaveMods policy time).map fun mod => asciiStrdown mod.type).Nodup := by
    show (policyTypes.map fun name => asciiStrdown (cstr name)).Nodup
    decide
  constructor
  · exact
      { uac := values_replaced_of_mem distinct (.head _) entry
        pwdLastSet := values_replaced_of_mem distinct (.tail _ (.head _)) entry
        accountExpires :=
          values_replaced_of_mem distinct (.tail _ (.tail _ (.head _))) entry }
  · intro type other
    apply values_replaced_of_ne
    intro mod member
    have types : (resaveMods policy time).map (·.type) = policyTypes.map cstr := rfl
    obtain ⟨name, named, same⟩ := List.mem_map.mp (types ▸ List.mem_map_of_mem member)
    exact same ▸ other name named

theorem resavePolicy_session (lists : Lists self.panel row user conn) {time : GInt64}
    (sent : Sent (self.chosen row).panel
      ((self.chosen row).panel.step (.buttonClicked .savePolicy))
      (policyWrite (self.chosen row).panel user conn time)) :
    (self.resavePolicy convert row).session =
      (Users.setPwFlagsThread (Users.sbvUsersSetPasswordFlags user.obj
        ((self.chosen row).panel.form.active .forceChange)
        ((self.chosen row).panel.form.active .neverExpires) time) self.session).2 := by
  obtain ⟨_, _, inFlight, session⟩ := chosen_ready lists
  have performed := @perform_last calendar convert
    ((self.chosen row).ui (.buttonClicked .savePolicy)) _ _ sent.running sent.inFlight
  rw [inFlight] at performed
  rw [resavePolicy, performed, ← session]
  rfl

theorem resaved_of_sent (lists : Lists self.panel row user conn)
    (found : self.session.directory.find self.session.rule (orEmpty user.obj.dn) =
      .ok (dn, entry))
    (listed : user.obj = Users.userOfEntry entry.attrs) (held : policy.HeldBy entry.attrs)
    {time : GInt64}
    (sent : Sent (self.chosen row).panel
      ((self.chosen row).panel.step (.buttonClicked .savePolicy))
      (policyWrite (self.chosen row).panel user conn time))
    (serves : self.session.serves 1 = true) :
    Resaved self.session.directory (self.resavePolicy convert row).session.directory dn entry
      (policy.resaved time) := by
  obtain ⟨_, form, _, _⟩ := chosen_ready lists
  obtain ⟨_, becomes⟩ := @Users.setPwFlagsThread_carriedOut
    (Users.sbvUsersSetPasswordFlags user.obj ((self.chosen row).panel.form.active .forceChange)
      ((self.chosen row).panel.form.active .neverExpires) time) _ _ _ serves found
  have directory := becomes.directory
  rw [mods_shown listed held form time] at directory
  obtain ⟨holds, others⟩ := resaved_replaced policy entry time
  exact ⟨⟨_, resavePolicy_session lists sent ▸ directory, holds, others⟩⟩

theorem unchanged_of_refused (lists : Lists self.panel row user conn) {time : GInt64}
    (sent : Sent (self.chosen row).panel
      ((self.chosen row).panel.step (.buttonClicked .savePolicy))
      (policyWrite (self.chosen row).panel user conn time))
    (refused : self.session.serves 1 = false) :
    (self.resavePolicy convert row).session.directory = self.session.directory := by
  rw [resavePolicy_session lists sent]
  exact (Users.setPwFlagsThread_refused refused).2.directory

theorem unchanged_of_invalidDate (lists : Lists self.panel row user conn)
    (refused : InvalidDate (self.chosen row).panel
      ((self.chosen row).panel.step (.buttonClicked .savePolicy))) :
    (self.resavePolicy convert row).session.directory = self.session.directory := by
  obtain ⟨_, _, inFlight, session⟩ := chosen_ready lists
  have nothing : ((self.chosen row).ui (.buttonClicked .savePolicy)).panel.inFlight.length ≤
      self.panel.inFlight.length :=
    Nat.le_of_eq (congrArg List.length (refused.inFlight.trans inFlight))
  rw [resavePolicy, perform_done nothing, ← session]
  rfl

theorem active_never (listed : user.obj = Users.userOfEntry entry.attrs)
    (held : policy.HeldBy entry.attrs) (before : Form) :
    (loadUserIntoDetail calendar user.obj before).active .acctNeverExpires = true ↔
      policy.never := by
  have shown := (userOfEntry_policy held).2.2
  rw [← listed] at shown
  show decide (user.obj.accountExpires = maxInt64 ∨ user.obj.accountExpires = 0) = true ↔ _
  rw [decide_eq_true_eq, shown, Policy.never]
  by_cases zero : policy.accountExpires = 0
  · rw [if_pos zero]
    exact iff_of_true (.inl rfl) (.inl zero)
  · rw [if_neg zero, or_comm]

theorem text_shown (law : calendar.Lawful) (listed : user.obj = Users.userOfEntry entry.attrs)
    (held : policy.HeldBy entry.attrs) (before : Form) (expires : ¬policy.never) {date : Date}
    (inRange : date.year ≤ 9999) (covers : date.Covers policy.second) :
    ∃ shown : Date, ReadAs shown
        ((loadUserIntoDetail calendar user.obj before).text .expiresDate) ∧
      filetime shown = filetime date := by
  have nonzero : policy.accountExpires ≠ 0 := fun zero => expires (.inl zero)
  have value := (userOfEntry_policy held).2.2
  rw [← listed, if_neg nonzero] at value
  have text : (loadUserIntoDetail calendar user.obj before).text .expiresDate =
      (calendar.formatDay
        (policy.accountExpires.sdiv winTicksPerSec - winEpochOffset)).getD
        (before.text .expiresDate) := by
    show (if user.obj.accountExpires = maxInt64 ∨ user.obj.accountExpires = 0 then []
      else (calendar.formatDay _).getD _) = _
    rw [value, if_neg (fun never => expires never.symm)]
  rw [text]
  rw [← second_toInt] at covers
  cases formatted : calendar.formatDay
      (policy.accountExpires.sdiv winTicksPerSec - winEpochOffset) with
  | none => exact absurd (law.formatDay_none _ formatted date covers) (by omega)
  | some shown =>
      obtain ⟨written, early, also, year, month, day, rfl, parts⟩ :=
        law.formatDay_some _ shown formatted
      exact ⟨written, parts.readAs early,
        congrArg (fun midnight => (midnight + 11644473600) * 10000000)
          (also.midnight_eq covers)⟩

/-- An expiry is left as the midnight of its day, never as never, and of pwdLastSet only
whether it is 0. -/
theorem resaved_policy (law : calendar.Lawful) (lists : Lists self.panel row user conn)
    (found : self.session.directory.find self.session.rule (orEmpty user.obj.dn) =
      .ok (dn, entry))
    (listed : user.obj = Users.userOfEntry entry.attrs) (held : policy.HeldBy entry.attrs) :
    let before := self.session.directory
    let after := (self.resavePolicy convert row).session.directory
    (policy.never → self.session.serves 1 →
        Resaved before after dn entry (policy.resaved maxInt64)) ∧
      (∀ date : Date, ¬policy.never → date.year ≤ 9999 → date.Covers policy.second →
        self.session.serves 1 →
          ∃ time : GInt64, time.toInt = filetime date ∧
            Resaved before after dn entry (policy.resaved time)) ∧
      (after = before ∨ ∃ time, Resaved before after dn entry (policy.resaved time)) := by
  dsimp only
  obtain ⟨ready, form, _, _⟩ := chosen_ready lists
  have never := @active_never calendar _ _ _ listed held self.panel.form
  rw [← form] at never
  refine ⟨?_, ?_, ?_⟩
  · intro isNever
    exact resaved_of_sent lists found listed held
      (sent_savePolicy ready (if_pos (never.mpr isNever)) (.inl (never.mpr isNever)))
  · intro date expires inRange covers serves
    obtain ⟨shown, read, same⟩ :=
      text_shown law listed held self.panel.form expires inRange covers
    rw [← form] at read
    have sent := sent_savePolicy ready (if_neg fun active => expires (never.mp active))
      (.inr (.inl (dateEntryToFiletime_ne_max law read)))
    exact ⟨_, (dateEntryToFiletime_of_readAs law read).trans same,
      resaved_of_sent lists found listed held sent serves⟩
  · rcases sent_or_invalidDate ready with ⟨time, sent⟩ | invalid
    · cases serves : self.session.serves 1 with
      | true => exact .inr ⟨time, resaved_of_sent lists found listed held sent serves⟩
      | false => exact .inl (unchanged_of_refused lists sent serves)
    · exact .inl (unchanged_of_invalidDate lists invalid)

end SavePolicy

/-- A user whose account expires in the afternoon of 2024-02-29. -/
def expiringEntry : Ldap.Entry :=
  { objectGuid := 1
    attrs :=
      Directory.replaceAll (fun _ => [])
        [ replaceMod "distinguishedName" [cstr "CN=a,OU=Staff"],
          replaceMod "userAccountControl" [cstr "512"],
          replaceMod "pwdLastSet" [cstr "133500000000000000"],
          replaceMod "accountExpires" [cstr "133536852000000000"] ] }

def expiringPolicy : Policy :=
  { uac := 512, pwdLastSet := 133500000000000000, accountExpires := 133536852000000000 }

def expiringUser : Listed SbvUser :=
  { id := 0, listedOver := 0, obj := Users.userOfEntry expiringEntry.attrs }

def expiringSystem : System gregorian :=
  { panel :=
      run (@AccountPanel.step (usersKind gregorian)) (AccountPanel.opened {})
        [.load 0, .listed 0 (.ok [expiringUser.obj])]
    session := .opened id fun name => if name = staff "a" then some expiringEntry else none }

theorem expiring_held : expiringPolicy.HeldBy expiringEntry.attrs where
  uac := by decide +kernel
  pwdLastSet := by decide +kernel
  accountExpires := by decide +kernel

theorem resaved_policy_expiring :
    ∃ time : GInt64, time.toInt = 133536384000000000 ∧
      Resaved expiringSystem.session.directory
        (expiringSystem.resavePolicy (fun text => .ok text) 0).session.directory (staff "a")
        expiringEntry (expiringPolicy.resaved time) := by
  have found : expiringSystem.session.directory.find expiringSystem.session.rule
      (orEmpty expiringUser.obj.dn) = .ok (staff "a", expiringEntry) :=
    Directory.find_single expiringEntry (by decide)
  have lists : Lists expiringSystem.panel 0 expiringUser 0 := ⟨rfl, rfl, rfl, rfl, rfl, rfl⟩
  have resaved := @resaved_policy gregorian (fun text => .ok text) expiringSystem 0 expiringUser
    0 expiringPolicy (staff "a") expiringEntry gregorian_lawful lists found rfl expiring_held
  rw [← show filetime leapDay = 133536384000000000 by decide]
  exact resaved.2.1 leapDay (by unfold Policy.never; decide) (by decide)
    (by unfold Date.Covers; decide) rfl

/-- The time of the day is lost, and the password taken for one set just now. -/
theorem resave_loses_time :
    let held (directory : Directory) := (directory (staff "a")).map fun entry =>
      (entry.attrs.values (cstr "pwdLastSet"), entry.attrs.values (cstr "accountExpires"))
    held expiringSystem.session.directory =
        some ([cstr "133500000000000000"], [cstr "133536852000000000"]) ∧
      held (expiringSystem.resavePolicy (fun text => .ok text) 0).session.directory =
        some ([cstr "-1"], [cstr "133536384000000000"]) := by
  decide +kernel

end System

end Sambervise.Ui.Users
