import Sambervise.Backend.CnUpdate
import Sambervise.Backend.Contacts
import Sambervise.Backend.Users

namespace Sambervise.Backend

open Text Ldap Model

/-! The two updates that rename an entry before they modify it -/

inductive Update where
  | user (d : Users.UpdateAttrsData)
  | contact (d : Contacts.UpdateData)
  deriving DecidableEq, Repr

namespace Update

def perform : Update → LdapM (Except GError Unit)
  | .user d => Users.updateAttrsThread d
  | .contact d => Contacts.updateThread d

def dn : Update → CString
  | .user d => orEmpty d.dn
  | .contact d => orEmpty d.dn

def cn : Update → CString
  | .user d => orEmpty d.cn
  | .contact d => orEmpty d.cn

def mods : Update → List LdapMod
  | .user d => d.mods
  | .contact d => d.mods

theorem perform_eq (update : Update) :
    update.perform = renameThenModify update.dn update.cn update.mods := by
  cases update with
  | user d => rfl
  | contact d => rfl

theorem replace_of_mem_addMod {type : String} {value : Option CString} {mod : LdapMod}
    (member : mod ∈ addMod type value) : mod.op = .replace := by
  cases value with
  | none => cases member
  | some value =>
      rw [List.mem_singleton.mp member]
      rfl

theorem replace_of_mem_mods {update : Update} {mod : LdapMod} (member : mod ∈ update.mods) :
    mod.op = .replace := by
  cases update with
  | user d =>
      simp only [mods, Users.UpdateAttrsData.mods, List.mem_append] at member
      rcases member with ((member | member) | member) | member
      all_goals exact replace_of_mem_addMod member
  | contact d =>
      rcases List.mem_append.mp member with scalar | proxies
      · simp only [List.mem_append, or_assoc] at scalar
        rcases scalar with member | member | member | member | member | member | member |
          member | member | member | member | member | member | member
        all_goals exact replace_of_mem_addMod member
      · revert proxies
        cases d.proxyAddresses with
        | none => exact fun proxies => nomatch proxies
        | some values =>
            intro proxies
            rw [List.mem_singleton.mp proxies]
            rfl

/-! The modification of an update -/

section Modification

variable {session : Session} {target : CString} {mods : List LdapMod}

theorem sent_modifyUpdated :
    (modifyUpdated target mods session).2.sent =
      session.sent ++ if mods = [] then [] else [.modify target mods] := by
  by_cases nothing : mods = []
  · rw [modifyUpdated, if_pos nothing, if_pos nothing, List.append_nil]
    rfl
  · rw [modifyUpdated_apply nothing, if_neg nothing]
    exact sent_send (.modify target mods) session

theorem modifyUpdated_misses (something : mods ≠ []) (misses : session.Misses target) :
    (∃ error, (modifyUpdated target mods session).1 = .error error) ∧
      (modifyUpdated target mods session).2.directory = session.directory := by
  obtain ⟨rc, failure, reply⟩ := modifyExt_misses misses mods
  rw [modifyUpdated_apply something, reply, checked, if_neg failure]
  exact ⟨⟨_, rfl⟩, rfl⟩

theorem modifyUpdated_ok (replaces : ∀ mod ∈ mods, mod.op = .replace)
    (reaches : mods = [] ∨ ¬ session.Misses target) :
    (modifyUpdated target mods session).1 = .ok () := by
  by_cases nothing : mods = []
  · rw [modifyUpdated, if_pos nothing]
    rfl
  · have found := reaches.resolve_left nothing
    rw [Session.Misses, not_or, Bool.not_eq_false] at found
    cases named : session.directory.find session.rule target with
    | error rc => exact absurd ⟨rc, named⟩ found.2
    | ok held =>
        rw [modifyUpdated_apply nothing, modifyExt_replaces found.1 replaces named]
        rfl

theorem modifyUpdated_error (replaces : ∀ mod ∈ mods, mod.op = .replace) {error : GError}
    (failed : (modifyUpdated target mods session).1 = .error error) :
    mods ≠ [] ∧ session.Misses target := by
  by_contra otherwise
  rw [not_and_or, not_not] at otherwise
  rw [modifyUpdated_ok replaces otherwise] at failed
  cases failed

theorem modifyUpdated_success (replaces : ∀ mod ∈ mods, mod.op = .replace)
    (something : mods ≠ []) (success : (modifyUpdated target mods session).1 = .ok ()) :
    ∃ name entry, session.directory.find session.rule target = .ok (name, entry) ∧
      (modifyUpdated target mods session).2.directory =
        Function.update session.directory name (some (replaced entry mods)) := by
  rw [modifyUpdated_apply something, checked] at success
  rw [modifyUpdated_apply something]
  refine modifyExt_success replaces ?_
  by_contra failure
  rw [if_neg failure] at success
  cases success

end Modification

/-! The two steps of an update -/

section Steps

variable {session : Session} {dn cn : CString} {mods : List LdapMod}

def renamedSession (session : Session) (dn cn : CString) (moved : Directory) : Session :=
  { Session.asked { session with acquired := session.acquired + 1 }
      (.rename dn (cnRdn cn)) with
    directory := moved }

theorem renameThenModify_renamed {moved : Directory} (connected : session.ld = true)
    (named : cn ≠ []) (carried : session.outcome.carriedOut = true)
    (renamed : session.directory.rename session.rule dn (cnRdn cn) = .ok moved) :
    renameThenModify dn cn mods session =
      let modified := modifyUpdated (effectiveDn dn cn) mods
        (renamedSession session dn cn moved)
      (modified.1, { modified.2 with released := modified.2.released + 1 }) := by
  rw [renameThenModify_apply connected named,
    renameSync_carriedOut (by exact carried) (by exact renamed)]
  rfl

theorem renameThenModify_unrenamed (connected : session.ld = true) (named : cn ≠ [])
    (failed : session.outcome.carriedOut = false ∨
      ∃ rc, session.directory.rename session.rule dn (cnRdn cn) = .error rc) :
    (∃ error, (renameThenModify dn cn mods session).1 = .error error) ∧
      (renameThenModify dn cn mods session).2.directory = session.directory := by
  have unrenamed : (Session.outcome
      { session with acquired := session.acquired + 1 }).carriedOut = false ∨
      ∃ rc, session.directory.rename session.rule dn (cnRdn cn) = .error rc := failed
  obtain ⟨rc, failure, reply⟩ := renameSync_failed unrenamed
  rw [renameThenModify_apply connected named, reply]
  dsimp only
  rw [if_neg failure]
  exact ⟨⟨_, rfl⟩, rfl⟩

theorem renameThenModify_unnamed (connected : session.ld = true) (unnamed : cn = []) :
    renameThenModify dn cn mods session =
      let modified := modifyUpdated dn mods
        { session with acquired := session.acquired + 1 }
      (modified.1, { modified.2 with released := modified.2.released + 1 }) := by
  rw [renameThenModify_eq, underLock_apply, if_pos connected, if_pos unnamed]
  rfl

end Steps

/-! The entry an update modifies -/

/-- The name the modification goes to. -/
def target (update : Update) : CString :=
  if update.cn = [] then update.dn else effectiveDn update.dn update.cn

/-- The directory the modification meets. -/
def Reaches (update : Update) (session : Session) (middle : Directory) : Prop :=
  if update.cn = [] then middle = session.directory
  else session.directory.rename session.rule update.dn (cnRdn update.cn) = .ok middle

/-- An update that reports success has carried its modification out on the entry that
its target names. -/
theorem perform_success {update : Update} {session : Session} (something : update.mods ≠ [])
    (success : (update.perform session).1 = .ok ()) :
    ∃ middle name entry, update.Reaches session middle ∧
      middle.find session.rule update.target = .ok (name, entry) ∧
      (update.perform session).2.directory =
        Function.update middle name (some (replaced entry update.mods)) := by
  rw [perform_eq] at success ⊢
  cases connected : session.ld with
  | false =>
      rw [renameThenModify_eq] at success
      exact absurd success (underLock_disconnected connected ()).1
  | true =>
      by_cases named : update.cn = []
      · rw [renameThenModify_unnamed connected named] at success ⊢
        obtain ⟨name, entry, found, after⟩ :=
          modifyUpdated_success (fun _ => replace_of_mem_mods) something success
        refine ⟨session.directory, name, entry, ?_, ?_, after⟩
        · rw [Reaches, if_pos named]
        · rw [target, if_pos named]
          exact found
      · by_cases failed : session.outcome.carriedOut = false ∨
            ∃ rc, session.directory.rename session.rule update.dn (cnRdn update.cn) = .error rc
        · obtain ⟨⟨error, failure⟩, _⟩ := renameThenModify_unrenamed connected named failed
          rw [failure] at success
          cases success
        · rw [not_or, Bool.not_eq_false] at failed
          cases renamed : session.directory.rename session.rule update.dn
              (cnRdn update.cn) with
          | error rc => exact absurd ⟨rc, renamed⟩ failed.2
          | ok middle =>
              rw [renameThenModify_renamed connected named failed.1 renamed] at success ⊢
              obtain ⟨name, entry, found, after⟩ :=
                modifyUpdated_success (fun _ => replace_of_mem_mods) something success
              refine ⟨middle, name, entry, ?_, ?_, after⟩
              · rw [Reaches, if_neg named, renamed]
              · rw [target, if_neg named]
                exact found

/-! The entry after the rename -/

def sentBy (update : Update) (session : Session) : List Request :=
  (update.perform session).2.sent.drop session.sent.length

theorem sentBy_renamed {update : Update} {session : Session} {moved : Directory}
    (connected : session.ld = true) (named : update.cn ≠ [])
    (carried : session.outcome.carriedOut = true)
    (renamed : session.directory.rename session.rule update.dn (cnRdn update.cn) =
      .ok moved) :
    update.sentBy session =
      .rename update.dn (cnRdn update.cn) ::
        if update.mods = [] then []
        else [.modify (effectiveDn update.dn update.cn) update.mods] := by
  rw [sentBy, perform_eq, renameThenModify_renamed connected named carried renamed]
  dsimp only
  rw [sent_modifyUpdated]
  simp [renamedSession, Session.asked]

/-- The target is the name `CN=cn` under the parent, and there the renamed entry is. -/
structure Tracks (rule : MatchingRule) (cn : CString) (parent : DistinguishedName)
    (guid : Nat) (moved : Directory) (target : CString) : Prop where
  names : parseDn target = some ([{ type := cstr "CN", value := .string cn }] :: parent)
  reaches : ∃ name entry,
    moved.find rule target = .ok (name, entry) ∧ entry.objectGuid = guid

section Tracking

variable {update : Update} {session : Session} {old : RelativeDn}
  {parent name : DistinguishedName} {entry : Entry} {moved : Directory}

theorem tracks_effectiveDn (parsed : parseDn update.dn = some (old :: parent))
    (found : session.directory.find session.rule update.dn = .ok (name, entry))
    (renamed : session.directory.rename session.rule update.dn (cnRdn update.cn) =
      .ok moved)
    (separates : FirstCommaSeparates update.dn)
    (plain : needsNoEscaping update.cn = true) :
    Tracks session.rule update.cn parent entry.objectGuid moved
      (effectiveDn update.dn update.cn) := by
  have sibling := parseDn_sibling keystring_cn plain separates parsed
  have named := (Directory.find_ok_iff.mp found).1
  rw [denotes, parsed, Option.map_some, Option.some.injEq] at named
  subst named
  obtain ⟨rdn, relative, rfl⟩ := Directory.rename_ok found renamed
  cases (parseDn_relative keystring_cn plain).symm.trans relative
  have names : parseDn (effectiveDn update.dn update.cn) =
      some ([{ type := cstr "CN", value := .string update.cn }] :: parent) := by
    rw [effectiveDn, cnDn_eq]
    exact sibling
  have denoted := congrArg (Option.map (DistinguishedName.normalize session.rule)) names
  exact ⟨names, _, _, Directory.find_ok_iff.mpr ⟨denoted, Directory.renamed_target⟩, rfl⟩

theorem plain_of_tracks (parsed : parseDn update.dn = some (old :: parent))
    {rule : MatchingRule} {guid : Nat}
    (tracks : Tracks rule update.cn parent guid moved (effectiveDn update.dn update.cn)) :
    FirstCommaSeparates update.dn ∧ needsNoEscaping update.cn = true := by
  have child := tracks.names
  rw [effectiveDn, cnDn_eq] at child
  have plain := plain_of_child keystring_cn child
  refine ⟨?_, plain⟩
  by_contra misled
  have nonempty : update.dn ≠ [] := by
    intro empty
    rw [empty] at parsed
    cases parsed
  have longer := length_parseDn_sibling keystring_cn plain misled nonempty parsed child
  simp at longer

/-- After its rename an update modifies the renamed entry, under `CN=cn` in the old
entry's parent, exactly where the first comma of the old DN ends the leftmost part and
the new cn needs no RFC 4514 escape. -/
theorem rename_tracked_iff (update : Update) {session : Session} {old : RelativeDn}
    {parent name : DistinguishedName} {entry : Entry} {moved : Directory}
    (parsed : parseDn update.dn = some (old :: parent))
    (found : session.directory.find session.rule update.dn = .ok (name, entry))
    (connected : session.ld = true) (named : update.cn ≠ [])
    (carried : session.outcome.carriedOut = true)
    (renamed : session.directory.rename session.rule update.dn (cnRdn update.cn) =
      .ok moved) :
    (∀ target mods, .modify target mods ∈ update.sentBy session →
        Tracks session.rule update.cn parent entry.objectGuid moved target) ↔
      update.mods = [] ∨
        FirstCommaSeparates update.dn ∧ needsNoEscaping update.cn = true := by
  rw [sentBy_renamed connected named carried renamed]
  constructor
  · intro tracked
    by_cases nothing : update.mods = []
    · exact .inl nothing
    · refine .inr (plain_of_tracks parsed (tracked _ update.mods ?_))
      rw [if_neg nothing]
      exact List.mem_cons_of_mem _ List.mem_cons_self
  · intro reaches target mods member
    rcases List.mem_cons.mp member with impossible | modified
    · cases impossible
    · split at modified
      · cases modified
      next something =>
        obtain ⟨separates, plain⟩ := reaches.resolve_left something
        cases List.mem_singleton.mp modified
        exact tracks_effectiveDn parsed found renamed separates plain

end Tracking

/-! All or nothing -/

structure HalfDone (update : Update) (session : Session) (name : DistinguishedName)
    (entry : Entry) : Prop where
  connected : session.ld = true
  named : update.cn ≠ []
  carried : session.outcome.carriedOut = true
  something : update.mods ≠ []
  renamed : ∃ moved,
    session.directory.rename session.rule update.dn (cnRdn update.cn) = .ok moved ∧
      moved name ≠ some entry ∧
      (renamedSession session update.dn update.cn moved).Misses
        (effectiveDn update.dn update.cn)

/-- Where an update reports a failure the entry is as it was before, exactly unless the
rename came through and the modification did not. -/
theorem unchanged_on_failure_iff (update : Update) {session : Session}
    {name : DistinguishedName} {entry : Entry}
    (found : session.directory.find session.rule update.dn = .ok (name, entry)) :
    ((∃ error, (update.perform session).1 = .error error) →
        (update.perform session).2.directory name = some entry) ↔
      ¬ update.HalfDone session name entry := by
  have held := (Directory.find_ok_iff.mp found).2
  rw [perform_eq]
  constructor
  · rintro unchanged ⟨connected, named, carried, something, moved, renamed, changed, misses⟩
    rw [renameThenModify_renamed connected named carried renamed] at unchanged
    obtain ⟨failed, kept⟩ := modifyUpdated_misses something misses
    apply changed
    rw [← unchanged failed]
    exact (congrFun kept name).symm
  · rintro notHalf ⟨error, failed⟩
    cases connected : session.ld with
    | false =>
        rw [renameThenModify_eq, (underLock_disconnected connected ()).2.directory, held]
    | true =>
        by_cases named : update.cn = []
        · rw [renameThenModify_unnamed connected named] at failed ⊢
          obtain ⟨something, misses⟩ :=
            modifyUpdated_error (fun _ => replace_of_mem_mods) failed
          exact (congrFun (modifyUpdated_misses something misses).2 name).trans held
        · cases carried : session.outcome.carriedOut with
          | false => rw [(renameThenModify_unrenamed connected named (.inl carried)).2, held]
          | true =>
              cases renamed : session.directory.rename session.rule update.dn
                  (cnRdn update.cn) with
              | error rc =>
                  rw [(renameThenModify_unrenamed connected named (.inr ⟨rc, renamed⟩)).2, held]
              | ok moved =>
                  rw [renameThenModify_renamed connected named carried renamed] at failed ⊢
                  obtain ⟨something, misses⟩ :=
                    modifyUpdated_error (fun _ => replace_of_mem_mods) failed
                  by_contra changed
                  have kept := congrFun (modifyUpdated_misses something misses).2 name
                  exact notHalf ⟨connected, named, carried, something, moved, renamed,
                    fun same => changed (kept.trans same), misses⟩

/-! One contact in one container -/

def labDn (cn : CString) : DistinguishedName :=
  [[{ type := cstr "cn", value := .string cn }],
    [{ type := cstr "ou", value := .string (cstr "Lab") }]]

def labEntry : Entry := { objectGuid := 1, attrs := fun _ => [] }

def labSession (cn : CString) (outcomes : List Outcome) : Session :=
  { Session.opened id fun name => if name = labDn cn then some labEntry else none with
    outcomes }

def labUpdate (dn cn : String) : Update :=
  .user (Users.sbvUsersUpdateAttrs { dn := some (cstr dn) } (cstr cn) (cstr "x") [] [] [])

theorem labUpdate_found (cn : CString) (outcomes : List Outcome) {dn : String} (new : String)
    (named : denotes id (cstr dn) = some (labDn cn)) :
    (labSession cn outcomes).directory.find id (labUpdate dn new).dn =
      .ok (labDn cn, labEntry) := Directory.find_single labEntry named

theorem labSession_vacant (cn : CString) (outcomes : List Outcome) {name : DistinguishedName}
    (other : name ≠ labDn cn) : (labSession cn outcomes).directory name = none := if_neg other

theorem rename_tracked_iff_lab :
    ∃ moved,
      (∀ target mods,
          .modify target mods ∈
              (labUpdate "CN=a,OU=Lab" "b").sentBy (labSession (cstr "a") []) →
            Tracks id (cstr "b") [[{ type := cstr "OU", value := .string (cstr "Lab") }]] 1
              moved target) ↔
        (labUpdate "CN=a,OU=Lab" "b").mods = [] ∨
          FirstCommaSeparates (cstr "CN=a,OU=Lab") ∧ needsNoEscaping (cstr "b") = true := by
  have found := labUpdate_found (cstr "a") [] "b"
    (show denotes id (cstr "CN=a,OU=Lab") = some (labDn (cstr "a")) by decide)
  have vacant := labSession_vacant (cstr "a") []
    (show RelativeDn.normalize id [{ type := cstr "CN", value := .string (cstr "b") }] ::
        (labDn (cstr "a")).tail ≠ labDn (cstr "a") by decide)
  have renamed := Directory.rename_of_find found
    (show parseDn (cstr "CN=b") = some [[{ type := cstr "CN", value := .string (cstr "b") }]] by
      decide) (.inr vacant)
  have parsed : parseDn (cstr "CN=a,OU=Lab") =
      some ([{ type := cstr "CN", value := .string (cstr "a") }] ::
        [[{ type := cstr "OU", value := .string (cstr "Lab") }]]) := by decide
  exact ⟨_, @rename_tracked_iff (labUpdate "CN=a,OU=Lab" "b") (labSession (cstr "a") []) _ _ _ _ _
    parsed found rfl (by decide) rfl renamed⟩

/-- The text after the first comma, which is an escaped one, is taken for the parent. -/
theorem rename_misdirected :
    let update := labUpdate "CN=Smith\\, John,OU=Lab" "b"
    let session := labSession (cstr "Smith, John") []
    parseDn update.dn = some
        [[{ type := cstr "CN", value := .string (cstr "Smith, John") }],
          [{ type := cstr "OU", value := .string (cstr "Lab") }]] ∧
      ((update.perform session).2.directory (labDn (cstr "b"))).isSome = true ∧
      update.sentBy session =
        [.rename update.dn (cstr "CN=b"), .modify (cstr "CN=b, John,OU=Lab") update.mods] ∧
      parseDn (cstr "CN=b, John,OU=Lab") = none := by
  decide

theorem unchanged_on_failure_iff_lab :
    ((∃ error, ((labUpdate "CN=a,OU=Lab" "a").perform
          (labSession (cstr "a") [.refused 50 (by decide)])).1 = .error error) →
        ((labUpdate "CN=a,OU=Lab" "a").perform
          (labSession (cstr "a") [.refused 50 (by decide)])).2.directory (labDn (cstr "a")) =
          some labEntry) ↔
      ¬ (labUpdate "CN=a,OU=Lab" "a").HalfDone
        (labSession (cstr "a") [.refused 50 (by decide)]) (labDn (cstr "a")) labEntry :=
  unchanged_on_failure_iff (labUpdate "CN=a,OU=Lab" "a")
    (labUpdate_found (cstr "a") [.refused 50 (by decide)] "a"
      (show denotes id (cstr "CN=a,OU=Lab") = some (labDn (cstr "a")) by decide))

/-- The rename goes through, the modification is refused, and the entry is gone from
the name that the panel still has for it. -/
theorem renamed_and_refused :
    let update := labUpdate "CN=a,OU=Lab" "b"
    let session := labSession (cstr "a") [.served, .refused 50 (by decide)]
    (session.directory (labDn (cstr "a"))).isSome = true ∧
      (update.perform session).1 = .error (ldapError "Attribute update failed: " 50) ∧
      ((update.perform session).2.directory (labDn (cstr "a"))).isNone = true :=
  ⟨by decide, rfl, by decide⟩

end Update

end Sambervise.Backend
