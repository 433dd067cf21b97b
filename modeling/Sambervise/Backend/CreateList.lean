import Sambervise.Backend.CnUpdate
import Sambervise.Backend.Creation
import Sambervise.Backend.Identities

namespace Sambervise.Backend

open Text Ldap Model Transition

/-! What the lists show of an entry that one of the create dialogs has made. -/

/-! The attributes of the new entry -/

/-- What is read of an optional string, which is sent only where there is one. -/
def readBack (text : CString) : Option CString := if text = [] then none else some (untilNul text)

/-- The attributes of an entry to which a server adds none of its own. -/
def freshAttrs (mods : List LdapMod) : Attributes := Directory.replaceAll (fun _ => []) mods

theorem listed_user (d : Users.CreateUserData) :
    Users.userOfEntry (freshAttrs d.mods) =
      { sam := some (untilNul d.sam)
        cn := some (untilNul d.cn)
        givenName := readBack d.givenName
        sn := readBack d.sn
        enabled := false
        uac := 514 } := by
  unfold Users.CreateUserData.mods optionalMod readBack
  split_ifs <;> rfl

theorem listed_computer (d : Computers.CreateComputerData) :
    Computers.computerOfEntry (freshAttrs d.mods) =
      { sam := some (untilNul (d.cn ++ cstr "$"))
        cn := some (untilNul d.cn)
        dnsHostname := readBack d.dnsHostname
        description := readBack d.description
        enabled := false
        uac := 4098 } := by
  unfold Computers.CreateComputerData.mods optionalMod readBack
  split_ifs <;> rfl

theorem listed_group (d : Groups.CreateGroupData) :
    Groups.groupOfEntry (freshAttrs d.mods) =
      { sam := some (untilNul d.sam)
        description := readBack d.description
        groupType := d.groupType } := by
  have type : (strtoll (untilNul (formatInt d.groupType.toInt))).setWidth 32 = d.groupType := by
    rw [untilNul_formatInt, setWidth_strtoll_formatInt]
  conv_rhs => rw [← type]
  unfold Groups.CreateGroupData.mods optionalMod readBack
  split_ifs <;> rfl

theorem listed_contact (d : Contacts.CreateData) :
    Contacts.contactOfEntry (freshAttrs d.mods) =
      { cn := some (untilNul d.cn)
        givenName := readBack d.givenName
        sn := readBack d.sn
        mail := readBack d.mail
        telephoneNumber := readBack d.telephoneNumber } := by
  unfold Contacts.CreateData.mods optionalMod readBack
  split_ifs <;> rfl

theorem applyMods_of_add {mods : List LdapMod} (adds : ∀ mod ∈ mods, mod.op = .add)
    (distinct : (mods.map fun mod => asciiStrdown mod.type).Nodup) (attrs : Attributes)
    (fresh : ∀ mod ∈ mods, attrs.values mod.type = []) :
    applyMods attrs mods = .ok (Directory.replaceAll attrs mods) := by
  induction mods generalizing attrs with
  | nil => rfl
  | cons mod rest ih =>
      rw [List.map_cons, List.nodup_cons] at distinct
      have first : applyMod attrs mod = .ok (attrs.set mod.type mod.values) := by
        simp [applyMod, adds mod List.mem_cons_self, fresh mod List.mem_cons_self]
      have later := ih (fun other member => adds other (List.mem_cons_of_mem _ member))
        distinct.2 (attrs.set mod.type mod.values) fun other member => by
          rw [attrs.values_set_of_ne fun same => ?_]
          · exact fresh other (List.mem_cons_of_mem _ member)
          · exact distinct.1 (List.mem_map.mpr ⟨other, member, same⟩)
      rw [applyMods, List.foldlM_cons, first]
      exact later

/-- Modifications that add values to attributes of these types, one after another. -/
structure AddsTo (types : List String) (mods : List LdapMod) : Prop where
  adds : ∀ mod ∈ mods, mod.op = .add
  sublist : (mods.map fun mod => asciiStrdown mod.type).Sublist
    (types.map fun type => asciiStrdown (cstr type))

namespace AddsTo

theorem plainMod (type : String) (values : List CString) :
    AddsTo [type] [plainMod type values] :=
  ⟨fun mod member => by rw [List.mem_singleton.mp member]; rfl, .refl _⟩

theorem optionalMod (type : String) (text : CString) :
    AddsTo [type] (optionalMod type text) := by
  unfold Backend.optionalMod
  split
  · exact ⟨nofun, List.nil_sublist _⟩
  · exact plainMod type [text]

theorem append {first second : List String} {front back : List LdapMod}
    (here : AddsTo first front) (there : AddsTo second back) :
    AddsTo (first ++ second) (front ++ back) where
  adds mod member := (List.mem_append.mp member).elim (here.adds mod) (there.adds mod)
  sublist := by
    rw [List.map_append, List.map_append]
    exact here.sublist.append there.sublist

end AddsTo

namespace Creation

/-- The attributes an entry of this kind may be created with. -/
def types : Creation → List String
  | user _ =>
      ["objectClass", "cn", "sAMAccountName", "userAccountControl", "givenName", "sn"]
  | group _ => ["objectClass", "sAMAccountName", "groupType", "description"]
  | computer _ =>
      ["objectClass", "cn", "sAMAccountName", "userAccountControl", "dNSHostName",
        "description"]
  | contact _ => ["objectClass", "cn", "givenName", "sn", "mail", "telephoneNumber"]

theorem addsTo_mods (creation : Creation) : AddsTo creation.types creation.mods := by
  have plain := AddsTo.plainMod
  cases creation with
  | user d =>
      exact (((plain _ _).append ((plain _ _).append ((plain _ _).append
        (plain _ _)))).append (.optionalMod _ _)).append (.optionalMod _ _)
  | group d =>
      exact ((plain _ _).append ((plain _ _).append (plain _ _))).append (.optionalMod _ _)
  | computer d =>
      exact (((plain _ _).append ((plain _ _).append ((plain _ _).append
        (plain _ _)))).append (.optionalMod _ _)).append (.optionalMod _ _)
  | contact d =>
      exact (((((plain _ _).append (plain _ _)).append (.optionalMod _ _)).append
        (.optionalMod _ _)).append (.optionalMod _ _)).append (.optionalMod _ _)

theorem nodup_types (creation : Creation) :
    (creation.types.map fun type => asciiStrdown (cstr type)).Nodup := by
  cases creation with
  | user d => dsimp only [types]; decide
  | group d => dsimp only [types]; decide
  | computer d => dsimp only [types]; decide
  | contact d => dsimp only [types]; decide

theorem applyMods_mods (creation : Creation) :
    applyMods (fun _ => []) creation.mods = .ok (freshAttrs creation.mods) :=
  applyMods_of_add creation.addsTo_mods.adds
    (creation.addsTo_mods.sublist.nodup creation.nodup_types) _ fun _ _ => rfl

/-! Creating an entry, and what anyone does after that -/

def worker : Creation → Worker
  | user d => .usersCreate d
  | group d => .groupsCreate d
  | computer d => .computersCreate d
  | contact d => .contactsCreate d

/-- The strings that were typed. -/
def texts : Creation → List CString
  | user d => [d.sam, d.cn, d.givenName, d.sn]
  | group d => [d.sam, d.description]
  | computer d => [d.cn, d.dnsHostname, d.description]
  | contact d => [d.cn, d.givenName, d.sn, d.mail, d.telephoneNumber]

def typed (text : CString) : Option CString := if text = [] then none else some text

/-- What was typed is what a list makes of an entry that has the attributes. -/
def Listed (attrs : Attributes) : Creation → Prop
  | user d =>
      let user := Users.userOfEntry attrs
      user.sam = some d.sam ∧ user.cn = some d.cn ∧ user.givenName = typed d.givenName ∧
        user.sn = typed d.sn ∧ user.enabled = false ∧ user.uac = 514
  | group d =>
      let group := Groups.groupOfEntry attrs
      group.sam = some d.sam ∧ group.description = typed d.description ∧
        group.groupType = d.groupType
  | computer d =>
      let computer := Computers.computerOfEntry attrs
      computer.sam = some (d.cn ++ cstr "$") ∧ computer.cn = some d.cn ∧
        computer.dnsHostname = typed d.dnsHostname ∧
        computer.description = typed d.description ∧ computer.enabled = false ∧
        computer.uac = 4098
  | contact d =>
      let contact := Contacts.contactOfEntry attrs
      contact.cn = some d.cn ∧ contact.givenName = typed d.givenName ∧
        contact.sn = typed d.sn ∧ contact.mail = typed d.mail ∧
        contact.telephoneNumber = typed d.telephoneNumber

theorem readBack_of_plain {text : CString} (plain : 0 ∉ text) : readBack text = typed text := by
  rw [readBack, typed, untilNul_of_notMem plain]

theorem listed_fresh (creation : Creation) (plain : ∀ text ∈ creation.texts, 0 ∉ text) :
    creation.Listed (freshAttrs creation.mods) := by
  cases creation with
  | user d =>
      simp only [texts, List.forall_mem_cons] at plain
      obtain ⟨sam, cn, givenName, sn, _⟩ := plain
      simp only [Listed, mods, listed_user]
      simp only [untilNul_of_notMem sam, untilNul_of_notMem cn, readBack_of_plain givenName,
        readBack_of_plain sn, and_self]
  | group d =>
      simp only [texts, List.forall_mem_cons] at plain
      obtain ⟨sam, description, _⟩ := plain
      simp only [Listed, mods, listed_group]
      simp only [untilNul_of_notMem sam, readBack_of_plain description, and_self]
  | computer d =>
      simp only [texts, List.forall_mem_cons] at plain
      obtain ⟨cn, dnsHostname, description, _⟩ := plain
      have account : 0 ∉ d.cn ++ cstr "$" := by simpa using ⟨cn, by decide⟩
      simp only [Listed, mods, listed_computer]
      simp only [untilNul_of_notMem account, untilNul_of_notMem cn,
        readBack_of_plain dnsHostname, readBack_of_plain description, and_self]
  | contact d =>
      simp only [texts, List.forall_mem_cons] at plain
      obtain ⟨cn, givenName, sn, mail, telephoneNumber, _⟩ := plain
      simp only [Listed, mods, listed_contact]
      simp only [untilNul_of_notMem cn, readBack_of_plain givenName, readBack_of_plain sn,
        readBack_of_plain mail, readBack_of_plain telephoneNumber, and_self]

/-- Only the first values of the attributes it may be created with say what is listed. -/
theorem listed_congr {first second : Attributes} {creation : Creation}
    (same : ∀ type ∈ creation.types, firstValue first type = firstValue second type)
    (listed : creation.Listed second) : creation.Listed first := by
  cases creation with
  | user d =>
      simp only [types, List.forall_mem_cons] at same
      simp only [Listed, Users.userOfEntry_eq, same] at listed ⊢
      exact listed
  | group d =>
      simp only [types, List.forall_mem_cons] at same
      simp only [Listed, Groups.groupOfEntry, same] at listed ⊢
      exact listed
  | computer d =>
      simp only [types, List.forall_mem_cons] at same
      simp only [Listed, Computers.computerOfEntry_eq, same] at listed ⊢
      exact listed
  | contact d =>
      simp only [types, List.forall_mem_cons] at same
      simp only [Listed, Contacts.contactOfEntry, same] at listed ⊢
      exact listed

/-! The name that the server adds -/

theorem values_cn_fresh (creation : Creation) (member : "cn" ∈ creation.types) :
    (freshAttrs creation.mods).values (cstr "cn") = [creation.name] := by
  cases creation with
  | user d =>
      dsimp only [mods]
      unfold Users.CreateUserData.mods optionalMod
      split_ifs <;> rfl
  | group d =>
      dsimp only [types] at member
      exact absurd member (by decide)
  | computer d =>
      dsimp only [mods]
      unfold Computers.CreateComputerData.mods optionalMod
      split_ifs <;> rfl
  | contact d =>
      dsimp only [mods]
      unfold Contacts.CreateData.mods optionalMod
      split_ifs <;> rfl

/-- The common name is among what was asked for, or is not listed. -/
theorem firstValue_namedAttrs (creation : Creation) (rule : MatchingRule) (dn : CString)
    {assertion : AttributeTypeAndValue} (cn : assertion.type = cstr "CN") {type : String}
    (member : type ∈ creation.types) :
    firstValue (Directory.namedAttrs rule dn assertion (freshAttrs creation.mods)) type =
      firstValue (freshAttrs creation.mods) type := by
  have spelled : asciiStrdown (cstr type) ≠ asciiStrdown (cstr "distinguishedName") ∧
      (asciiStrdown (cstr type) = asciiStrdown (cstr "CN") → type = "cn") := by
    revert type
    cases creation with
    | user d => dsimp only [types]; decide
    | group d => dsimp only [types]; decide
    | computer d => dsimp only [types]; decide
    | contact d => dsimp only [types]; decide
  obtain ⟨noName, spelled⟩ := spelled
  rw [firstValue, firstValue]
  by_cases named : asciiStrdown (cstr type) = asciiStrdown assertion.type
  · rw [cn] at named
    have same := spelled named
    subst same
    rw [Directory.head?_namedAttrs rule dn assertion _ noName]
    rw [values_cn_fresh creation member]
    exact List.cons_ne_nil _ _
  · rw [Directory.values_namedAttrs rule dn assertion _ noName named]

/-! The server's part -/

variable {creation : Creation} {session : Session} {dn : CString}

theorem perform_refused (refused : creation.accepted = false) :
    ∃ error, (creation.perform session).1 = .error error := by
  cases creation with
  | user d =>
      simp only [accepted, decide_eq_false_iff_not, not_and_or, not_not] at refused
      exact ⟨_, by rw [perform, Users.sbvUsersCreate, if_pos refused]; rfl⟩
  | group d =>
      simp only [accepted, decide_eq_false_iff_not, not_and_or, not_not] at refused
      exact ⟨_, by rw [perform, Groups.sbvGroupsCreate, if_pos refused]; rfl⟩
  | computer d =>
      simp only [accepted, decide_eq_false_iff_not, not_and_or, not_not] at refused
      exact ⟨_, by rw [perform, Computers.sbvComputersCreate, if_pos refused]; rfl⟩
  | contact d =>
      simp only [accepted, decide_eq_false_iff_not, not_and_or, not_not] at refused
      exact ⟨_, by rw [perform, Contacts.sbvContactsCreate, if_pos refused]; rfl⟩

theorem leaves_worker (accepted : creation.accepted = true) :
    (creation.perform session).2 = creation.worker.leaves session := by
  rw [perform_accepted accepted]
  cases creation with
  | user d | group d | computer d | contact d => rfl

theorem addEntry_apply (connected : session.ld = true) (dn : CString) (mods : List LdapMod) :
    addEntry dn mods session =
      let reply := send (.add dn mods) session
      (if reply.1.1 = ldapSuccess then .ok dn
        else .error (ldapError "Create failed: " reply.1.1),
        { reply.2 with
          acquired := session.acquired + 1
          released := session.released + 1 }) := by
  have reply := send_lock (.add dn mods) session (session.acquired + 1) session.released
  have same : addEntry dn mods session =
      let reply := send (.add dn mods)
        { session with acquired := session.acquired + 1, released := session.released }
      (if reply.1.1 = ldapSuccess then .ok dn
        else .error (ldapError "Create failed: " reply.1.1),
        { reply.2 with released := reply.2.released + 1 }) := by
    rw [addEntry_eq, underLock_apply, if_pos connected]
    rfl
  rw [same, reply]

/-- Where an entry is reported to be created, it is there, under a name that was free. -/
theorem created_entry (created : (creation.perform session).1 = .ok dn) :
    creation.accepted = true ∧ dn = cnDn creation.name creation.containerDn ∧
      ∃ assertion parent, parseDn dn = some ([assertion] :: parent) ∧
        session.directory (DistinguishedName.normalize session.rule ([assertion] :: parent)) =
          none ∧
        (creation.perform session).2.directory =
          Function.update session.directory
            (DistinguishedName.normalize session.rule ([assertion] :: parent))
            (some
              { objectGuid := session.nextGuid
                attrs := Directory.namedAttrs session.rule dn assertion
                  (freshAttrs creation.mods) }) := by
  cases accepted : creation.accepted with
  | false =>
      obtain ⟨error, same⟩ : ∃ error, (creation.perform session).1 = .error error :=
        perform_refused accepted
      rw [same] at created
      cases created
  | true =>
      rw [perform_accepted accepted] at created ⊢
      cases connected : session.ld with
      | false =>
          rw [addEntry_eq, underLock_apply, if_neg (by simp [connected])] at created
          cases created
      | true =>
          rw [addEntry_apply connected] at created ⊢
          dsimp only at created ⊢
          split at created
          next success =>
            cases created
            obtain ⟨reply, answer⟩ := answer_of_success success
            have changes := changes_of_answer answer
            generalize (send _ session).2.directory = directory at changes ⊢
            cases changes with
            | add parsed vacant applied =>
                rw [creation.applyMods_mods] at applied
                cases applied
                exact ⟨rfl, rfl, _, _, parsed, vacant, rfl⟩
          · cases created

/-- What the list makes of the new entry as the server keeps it. -/
theorem listed_named {assertion : AttributeTypeAndValue} {parent : DistinguishedName}
    (parsed : parseDn (cnDn creation.name creation.containerDn) =
      some ([assertion] :: parent))
    (plain : ∀ text ∈ creation.texts, 0 ∉ text) (rule : MatchingRule) (dn : CString) :
    creation.Listed (Directory.namedAttrs rule dn assertion (freshAttrs creation.mods)) :=
  listed_congr
    (fun _ member => firstValue_namedAttrs creation rule dn (type_of_cnDn parsed) member)
    (creation.listed_fresh plain)

/-- Whatever tasks and other clients do to other entries, the new one is listed as it was
typed, as long as it exists. -/
theorem listed_after (sound : session.Sound) (created : (creation.perform session).1 = .ok dn)
    (plain : ∀ text ∈ creation.texts, 0 ∉ text) {turns : List Turn}
    (untouched : Along Turn.leaves
      (fun session' turn => turn.Spares session.nextGuid (fun _ => True) session')
      (creation.perform session).2 turns) {attrs : Attributes}
    (held : (run Turn.leaves (creation.perform session).2 turns).directory.Holds
      session.nextGuid attrs) : creation.Listed attrs := by
  obtain ⟨accepted, rfl, assertion, parent, parsed, vacant, same⟩ := created_entry created
  have sound' : (creation.perform session).2.Sound := by
    rw [leaves_worker accepted]
    exact Turn.sound sound (.task creation.worker)
  have there := congrFun same (DistinguishedName.normalize session.rule ([assertion] :: parent))
  rw [Function.update_self] at there
  have known := sound'.issued
    (DistinguishedName.normalize session.rule ([assertion] :: parent)) session.nextGuid
    (by simp [Directory.guids, there])
  obtain ⟨old, found, values⟩ := (Turn.descends_run known untouched).inherits attrs held
  rw [(sound'.unique.holds_iff there).mp found] at values
  refine listed_congr (fun type _ => ?_)
    (listed_named parsed plain session.rule (cnDn creation.name creation.containerDn))
  rw [firstValue, firstValue, values _ trivial]

end Creation

/-- An object that one of the create operations reports is in the directory under the DN
it reports, which was free, and under an objectGUID of its own. Whatever tasks and other
clients do after that: as long as nobody writes to this entry, and as long as it exists,
though it may have moved along with a container, the panel's list shows of it what was typed
into the dialog, with the account disabled and the group type as chosen. -/
theorem created_listed (creation : Creation) (session : Session) (sound : session.Sound)
    (dn : CString) (created : (creation.perform session).1 = .ok dn)
    (plain : ∀ text ∈ creation.texts, 0 ∉ text) (turns : List Turn)
    (untouched : Along Turn.leaves
      (fun session' turn => turn.Spares session.nextGuid (fun _ => True) session')
      (creation.perform session).2 turns) :
    session.directory.lookup session.rule dn = none ∧
      (∃ entry, (creation.perform session).2.directory.lookup session.rule dn = some entry ∧
        entry.objectGuid = session.nextGuid ∧ creation.Listed entry.attrs) ∧
      ∀ attrs,
        (run Turn.leaves (creation.perform session).2 turns).directory.Holds
          session.nextGuid attrs → creation.Listed attrs := by
  have after {attrs : Attributes} := @Creation.listed_after creation session dn sound created
    plain turns untouched attrs
  obtain ⟨accepted, rfl, assertion, parent, parsed, vacant, same⟩ :=
    Creation.created_entry created
  have listed := Creation.listed_named parsed plain session.rule
    (cnDn creation.name creation.containerDn)
  refine ⟨?_, ⟨{
      objectGuid := session.nextGuid
      attrs := Directory.namedAttrs session.rule _ assertion (freshAttrs creation.mods)
    }, ?_, rfl, listed⟩, fun attrs held => after held⟩
  · rw [Directory.lookup, denotes, parsed]
    exact vacant
  · rw [Directory.lookup, denotes, parsed, same]
    exact Function.update_self ..

theorem created_listed_contact :
    let creation : Creation :=
      .contact { cn := cstr "ada", mail := cstr "ada@x", containerDn := cstr "OU=a" }
    ∃ entry,
      (creation.perform { staffSession with directory := fun _ => none }).2.directory.lookup
          id (cstr "CN=ada,OU=a") = some entry ∧
        entry.objectGuid = 2 ∧ creation.Listed entry.attrs :=
  (created_listed (.contact { cn := cstr "ada", mail := cstr "ada@x", containerDn := cstr "OU=a" })
    { staffSession with directory := fun _ => none }
    ⟨nofun, nofun⟩ (cstr "CN=ada,OU=a") rfl (by decide) [.foreign (.delete (cstr "OU=b"))]
    ⟨fun _ _ => id, trivial⟩).2.1

end Sambervise.Backend
