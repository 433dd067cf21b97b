import Sambervise.Ldap.Rename
import Sambervise.Ldap.Service

namespace Sambervise.Ldap

open Text Transition

/-! Which entry is which while requests come in: an objectGUID is given out once, and
stays with its entry through every rename. -/

/-! What a request that succeeds does to the directory -/

namespace Directory

variable {rule : MatchingRule} {directory after : Directory}

theorem modify_ok {string : CString} {mods : List LdapMod}
    (done : directory.modify rule string mods = .ok after) :
    ∃ name entry attrs, directory.find rule string = .ok (name, entry) ∧
      applyMods entry.attrs mods = .ok attrs ∧
      after = Function.update directory name (some { entry with attrs }) := by
  cases found : directory.find rule string with
  | error rc =>
      rw [modify_of_missing found] at done
      cases done
  | ok held =>
      obtain ⟨name, entry⟩ := held
      simp only [modify, found, bind, Except.bind] at done
      cases applied : applyMods entry.attrs mods with
      | error rc =>
          rw [applied] at done
          cases done
      | ok attrs =>
          rw [applied] at done
          cases done
          exact ⟨name, entry, attrs, rfl, applied, rfl⟩

theorem add_ok {string : CString} {guid : Nat} {mods : List LdapMod}
    (done : directory.add rule string guid mods = .ok after) :
    ∃ assertion parent attrs, parseDn string = some ([assertion] :: parent) ∧
      directory (DistinguishedName.normalize rule ([assertion] :: parent)) = none ∧
      applyMods (fun _ => []) mods = .ok attrs ∧
      after = Function.update directory
        (DistinguishedName.normalize rule ([assertion] :: parent))
        (some { objectGuid := guid, attrs := namedAttrs rule string assertion attrs }) := by
  unfold add at done
  split at done
  · cases done
  next assertion parent parsed =>
    dsimp only at done
    split at done
    · cases done
    next vacant =>
      cases applied : applyMods (fun _ => []) mods with
      | error rc =>
          rw [applied] at done
          cases done
      | ok attrs =>
          rw [applied] at done
          cases done
          exact ⟨assertion, parent, attrs, parsed, vacant, rfl, rfl⟩
  · cases done

theorem add_error {string : CString} {guid : Nat} {mods : List LdapMod} {rc : ResultCode}
    (failed : directory.add rule string guid mods = .error rc) :
    rc ≠ ldapSuccess ∨ applyMods (fun _ => []) mods = .error rc := by
  unfold add at failed
  split at failed
  · cases failed
    exact .inl (by decide)
  next assertion parent parsed =>
    dsimp only at failed
    split at failed
    · cases failed
      exact .inl (by decide)
    · cases applied : applyMods (fun _ => []) mods with
      | error code =>
          rw [applied] at failed
          cases failed
          exact .inr rfl
      | ok attrs =>
          rw [applied] at failed
          cases failed
  · cases failed
    exact .inl (by decide)

theorem delete_ok {string : CString} (done : directory.delete rule string = .ok after) :
    ∃ name entry, directory.find rule string = .ok (name, entry) ∧
      after = Function.update directory name none := by
  cases found : directory.find rule string with
  | error rc =>
      simp only [delete, found, bind, Except.bind] at done
      cases done
  | ok held =>
      simp only [delete, found, bind, Except.bind] at done
      cases done
      exact ⟨held.1, held.2, rfl, rfl⟩

theorem rename_done {string newRdn : CString}
    (done : directory.rename rule string newRdn = .ok after) :
    ∃ old parent entry rdn, directory.find rule string = .ok (old :: parent, entry) ∧
      parseDn newRdn = some [rdn] ∧
      after = directory.renamed (old :: parent) (rdn.normalize rule :: parent)
        { entry with attrs := renameAttrs old rdn entry.attrs } := by
  cases found : directory.find rule string with
  | error rc =>
      simp only [rename, found, bind, Except.bind] at done
      cases done
  | ok held =>
      obtain ⟨name, entry⟩ := held
      cases name with
      | nil =>
          simp only [rename, found, bind, Except.bind] at done
          split at done
          next same => cases same
          · cases done
      | cons old parent =>
          obtain ⟨rdn, parsed, same⟩ := rename_ok found done
          exact ⟨old, parent, entry, rdn, rfl, parsed, same⟩

/-- Each entry of a renamed subtree was there before, and only the one renamed has other
attributes than before. -/
theorem renamed_inherits {name target : DistinguishedName} {entry : Entry}
    {other : DistinguishedName} {held : Entry}
    (found : directory.renamed name target entry other = some held) :
    held = entry ∨ ∃ origin, directory origin = some held := by
  by_cases here : other = target
  · rw [here, renamed_target] at found
    exact .inl (Option.some.inj found).symm
  · rw [renamed_of_ne here, moved] at found
    split at found
    · exact .inr ⟨_, found⟩
    · split at found
      · cases found
      · exact .inr ⟨other, found⟩

end Directory

/-! The codes of what the directory does not allow -/

theorem applyMods_error {attrs : Attributes} {mods : List LdapMod} {rc : ResultCode}
    (failed : applyMods attrs mods = .error rc) : rc ≠ ldapSuccess := by
  induction mods generalizing attrs with
  | nil => cases failed
  | cons mod rest ih =>
      rw [applyMods, List.foldlM_cons] at failed
      cases first : applyMod attrs mod with
      | ok next =>
          rw [first] at failed
          exact ih failed
      | error code =>
          rw [first] at failed
          cases failed
          dsimp only [applyMod] at first
          split at first
          · cases first
          · split at first
            · cases first
              decide
            · cases first
          · split at first
            · cases first
              decide
            · split at first
              · cases first
              · cases first

theorem map_eq_error {ε α β : Type*} {result : Except ε α} {make : α → β} {failure : ε}
    (mapped : result.map make = .error failure) : result = .error failure := by
  cases result with
  | error other => exact congrArg Except.error (Except.error.inj mapped)
  | ok value => cases mapped

theorem answer_error {session : Session} {request : Request} {rc : ResultCode}
    (failed : session.answer request = .error rc) : rc ≠ ldapSuccess := by
  unfold Session.answer at failed
  cases request with
  | search base => exact Directory.find_error (map_eq_error failed)
  | query _ | whoami => cases failed
  | rename dn newRdn => exact Directory.rename_error (map_eq_error failed)
  | modify dn mods =>
      have failed := map_eq_error failed
      cases found : session.directory.find session.rule dn with
      | error code =>
          rw [Directory.modify_of_missing found] at failed
          cases failed
          exact Directory.find_error found
      | ok held =>
          simp only [Directory.modify, found, bind, Except.bind] at failed
          cases applied : applyMods held.2.attrs mods with
          | error code =>
              rw [applied] at failed
              cases failed
              exact applyMods_error applied
          | ok attrs =>
              rw [applied] at failed
              cases failed
  | add dn mods =>
      rcases Directory.add_error (map_eq_error failed) with other | unapplied
      · exact other
      · exact applyMods_error unapplied
  | delete dn =>
      have failed := map_eq_error failed
      cases found : session.directory.find session.rule dn with
      | error code =>
          simp only [Directory.delete, found, bind, Except.bind] at failed
          cases failed
          exact Directory.find_error found
      | ok held =>
          simp only [Directory.delete, found, bind, Except.bind] at failed
          cases failed

theorem answer_of_success {request : Request} {session : Session}
    (success : (send request session).1.1 = ldapSuccess) :
    ∃ attrs, session.answer request = .ok (attrs, (send request session).2.directory) := by
  cases carried : session.outcome.carriedOut with
  | false =>
      obtain ⟨rc, failure, reply⟩ := @send_refused request session carried
      rw [reply] at success
      exact absurd success failure
  | true =>
      cases answer : session.answer request with
      | error rc =>
          rw [send_unanswered carried answer] at success
          exact absurd success (answer_error answer)
      | ok found =>
          rw [send_carriedOut carried answer]
          exact ⟨found.1, rfl⟩

/-! The attributes that a request leaves alone -/

/-- A modification sets the one attribute it is about. -/
theorem applyMod_ok {mod : LdapMod} {attrs after : Attributes}
    (applied : applyMod attrs mod = .ok after) :
    ∃ values, after = attrs.set mod.type values := by
  dsimp only [applyMod] at applied
  split at applied
  · cases applied
    exact ⟨_, rfl⟩
  · split at applied
    · cases applied
    · cases applied
      exact ⟨_, rfl⟩
  · split at applied
    · cases applied
    · split at applied
      · cases applied
        exact ⟨_, rfl⟩
      · cases applied
        exact ⟨_, rfl⟩

theorem values_applyMods {type : CString} {mods : List LdapMod} {attrs after : Attributes}
    (applied : applyMods attrs mods = .ok after)
    (spared : ∀ mod ∈ mods, asciiStrdown mod.type ≠ asciiStrdown type) :
    after.values type = attrs.values type := by
  induction mods generalizing attrs with
  | nil =>
      cases applied
      rfl
  | cons mod rest ih =>
      rw [applyMods, List.foldlM_cons] at applied
      cases first : applyMod attrs mod with
      | error rc =>
          rw [first] at applied
          cases applied
      | ok next =>
          rw [first] at applied
          obtain ⟨values, rfl⟩ := applyMod_ok first
          rw [ih applied fun mod member => spared mod (List.mem_cons_of_mem _ member)]
          exact attrs.values_set_of_ne (spared mod List.mem_cons_self).symm values

theorem values_foldl_set {type : CString} {values : AttributeTypeAndValue → List (List UInt8)}
    {rdn : RelativeDn} (attrs : Attributes)
    (spared : ∀ assertion ∈ rdn, asciiStrdown assertion.type ≠ asciiStrdown type) :
    (rdn.foldl (fun attrs assertion => attrs.set assertion.type (values assertion))
      attrs).values type = attrs.values type := by
  induction rdn generalizing attrs with
  | nil => rfl
  | cons assertion rest ih =>
      rw [List.foldl_cons, ih _ fun other member => spared other (List.mem_cons_of_mem _ member)]
      exact attrs.values_set_of_ne (spared assertion List.mem_cons_self).symm _

theorem values_renameAttrs {type : CString} {old new : RelativeDn} (attrs : Attributes)
    (sparedOld : ∀ assertion ∈ old, asciiStrdown assertion.type ≠ asciiStrdown type)
    (sparedNew : ∀ assertion ∈ new, asciiStrdown assertion.type ≠ asciiStrdown type) :
    (Directory.renameAttrs old new attrs).values type = attrs.values type := by
  unfold Directory.renameAttrs
  rw [values_foldl_set _ sparedNew, values_foldl_set _ sparedOld]

/-! One request -/

/-- What the directory is after a request that succeeds. -/
inductive Request.Changes (session : Session) : Request → Directory → Prop
  | search (base : CString) : Changes session (.search base) session.directory
  | query (request : SearchRequest) : Changes session (.query request) session.directory
  | whoami : Changes session .whoami session.directory
  | modify {dn : CString} {mods : List LdapMod} {name : DistinguishedName} {entry : Entry}
      {attrs : Attributes} (found : session.directory.find session.rule dn = .ok (name, entry))
      (applied : applyMods entry.attrs mods = .ok attrs) :
      Changes session (.modify dn mods)
        (Function.update session.directory name (some { entry with attrs }))
  | rename {dn newRdn : CString} {old rdn : RelativeDn} {parent : DistinguishedName}
      {entry : Entry}
      (found : session.directory.find session.rule dn = .ok (old :: parent, entry))
      (parsed : parseDn newRdn = some [rdn]) :
      Changes session (.rename dn newRdn)
        (session.directory.renamed (old :: parent) (rdn.normalize session.rule :: parent)
          { entry with attrs := Directory.renameAttrs old rdn entry.attrs })
  | add {dn : CString} {mods : List LdapMod} {assertion : AttributeTypeAndValue}
      {parent : DistinguishedName} {attrs : Attributes}
      (parsed : parseDn dn = some ([assertion] :: parent))
      (vacant : session.directory
        (DistinguishedName.normalize session.rule ([assertion] :: parent)) = none)
      (applied : applyMods (fun _ => []) mods = .ok attrs) :
      Changes session (.add dn mods)
        (Function.update session.directory
          (DistinguishedName.normalize session.rule ([assertion] :: parent))
          (some
            { objectGuid := session.nextGuid
              attrs := Directory.namedAttrs session.rule dn assertion attrs }))
  | delete {dn : CString} {name : DistinguishedName} {entry : Entry}
      (found : session.directory.find session.rule dn = .ok (name, entry)) :
      Changes session (.delete dn) (Function.update session.directory name none)

theorem map_eq_ok {ε α β : Type*} {result : Except ε α} {make : α → β} {made : β}
    (mapped : result.map make = .ok made) : ∃ value, result = .ok value ∧ make value = made := by
  cases result with
  | error failure => cases mapped
  | ok value => exact ⟨value, rfl, Except.ok.inj mapped⟩

theorem changes_of_answer {session : Session} {request : Request}
    {attrs : Option Attributes} {directory : Directory}
    (answer : session.answer request = .ok (attrs, directory)) :
    request.Changes session directory := by
  unfold Session.answer at answer
  cases request with
  | search base =>
      obtain ⟨found, _, same⟩ := map_eq_ok answer
      cases same
      exact .search base
  | query request =>
      cases answer
      exact .query request
  | whoami =>
      cases answer
      exact .whoami
  | modify dn mods =>
      obtain ⟨after, done, same⟩ := map_eq_ok answer
      cases same
      obtain ⟨name, entry, attrs, found, applied, rfl⟩ := Directory.modify_ok done
      exact .modify found applied
  | rename dn newRdn =>
      obtain ⟨after, done, same⟩ := map_eq_ok answer
      cases same
      obtain ⟨old, parent, entry, rdn, found, parsed, rfl⟩ := Directory.rename_done done
      exact .rename found parsed
  | add dn mods =>
      obtain ⟨after, done, same⟩ := map_eq_ok answer
      cases same
      obtain ⟨assertion, parent, attrs, parsed, vacant, applied, rfl⟩ := Directory.add_ok done
      exact .add parsed vacant applied
  | delete dn =>
      obtain ⟨after, done, same⟩ := map_eq_ok answer
      cases same
      obtain ⟨name, entry, found, rfl⟩ := Directory.delete_ok done
      exact .delete found

theorem Session.Answers.changes {before after : Session} {request : Request}
    (answers : before.Answers request after) :
    after.directory = before.directory ∨ request.Changes before after.directory := by
  rcases answers.directory with same | ⟨attrs, answer⟩
  · exact .inl same
  · exact .inr (changes_of_answer answer)

theorem eq_or_of_update {directory : Directory} {name other : DistinguishedName}
    {entry held : Entry}
    (found : Function.update directory name (some entry) other = some held) :
    held = entry ∨ directory other = some held := by
  by_cases here : other = name
  · rw [here, Function.update_self] at found
    exact .inl (Option.some.inj found).symm
  · rw [Function.update_of_ne here] at found
    exact .inr found

theorem of_update_none {directory : Directory} {name other : DistinguishedName}
    {held : Entry} (found : Function.update directory name none other = some held) :
    directory other = some held := by
  by_cases here : other = name
  · rw [here, Function.update_self] at found
    cases found
  · rwa [Function.update_of_ne here] at found

namespace Directory

variable {directory : Directory}

theorem guids_update_other {name other : DistinguishedName} (entry : Option Entry)
    (elsewhere : other ≠ name) :
    guids (Function.update directory name entry) other = directory.guids other := by
  rw [guids, Function.update_of_ne elsewhere]
  rfl

theorem UniqueGuids.insert (unique : directory.UniqueGuids) {name : DistinguishedName}
    {entry : Entry} (fresh : ∀ other, directory.guids other ≠ some entry.objectGuid) :
    UniqueGuids (Function.update directory name (some entry)) := by
  have here : guids (Function.update directory name (some entry)) name =
      some entry.objectGuid := by
    rw [guids, Function.update_self]
    rfl
  have only {other : DistinguishedName}
      (found : guids (Function.update directory name (some entry)) other =
        some entry.objectGuid) : other = name := by
    by_contra elsewhere
    rw [guids_update_other _ elsewhere] at found
    exact fresh other found
  intro guid first second atFirst atSecond
  by_cases new : guid = entry.objectGuid
  · subst new
    rw [only atFirst, only atSecond]
  · have older {other : DistinguishedName}
        (found : guids (Function.update directory name (some entry)) other = some guid) :
        directory.guids other = some guid := by
      rw [← guids_update_other (some entry) fun same => ?_]
      · exact found
      · rw [same, here, Option.some.injEq] at found
        exact new found.symm
    exact unique guid first second (older atFirst) (older atSecond)

theorem UniqueGuids.erase (unique : directory.UniqueGuids) (name : DistinguishedName) :
    UniqueGuids (Function.update directory name none) := by
  have kept {other : DistinguishedName} {guid : Nat}
      (found : guids (Function.update directory name none) other = some guid) :
      directory.guids other = some guid := by
    obtain ⟨entry, held, same⟩ := Option.map_eq_some_iff.mp found
    rw [guids, of_update_none held]
    exact congrArg some same
  intro guid first second atFirst atSecond
  exact unique guid first second (kept atFirst) (kept atSecond)

end Directory

/-- Objects are told apart by their objectGUID, and none has one that is still to come. -/
structure Session.Sound (session : Session) : Prop where
  unique : session.directory.UniqueGuids
  issued : ∀ name guid, session.directory.guids name = some guid → guid < session.nextGuid

/-- The request writes this attribute of the entry with this objectGUID: one of its
modifications does, or the type is one of the old or of the new relative name. -/
def Request.Touches (session : Session) (guid : Nat) (type : CString) : Request → Prop
  | .modify dn mods =>
      ∃ name entry, session.directory.find session.rule dn = .ok (name, entry) ∧
        entry.objectGuid = guid ∧ ∃ mod ∈ mods, asciiStrdown mod.type = asciiStrdown type
  | .rename dn newRdn =>
      ∃ old parent entry rdn,
        session.directory.find session.rule dn = .ok (old :: parent, entry) ∧
          entry.objectGuid = guid ∧ parseDn newRdn = some [rdn] ∧
          ∃ assertion ∈ old ++ rdn, asciiStrdown assertion.type = asciiStrdown type
  | .search _ | .query _ | .whoami | .add _ _ | .delete _ => False

section Answers

variable {before after : Session} {request : Request} (answers : before.Answers request after)
include answers

/-- Every entry after a request is one from before, with the attributes that the request
does not touch, or the one the request adds. -/
theorem Session.Answers.inherits {guid : Nat} {attrs : Attributes}
    (held : after.directory.Holds guid attrs) :
    guid = before.nextGuid ∨
      ∃ old, before.directory.Holds guid old ∧
        ∀ type, ¬ request.Touches before guid type → attrs.values type = old.values type := by
  have kept {origin : DistinguishedName}
      (same : before.directory origin = some { objectGuid := guid, attrs }) :
      ∃ old, before.directory.Holds guid old ∧
        ∀ type, ¬ request.Touches before guid type →
          attrs.values type = old.values type := ⟨attrs, ⟨origin, same⟩, fun _ _ => rfl⟩
  obtain ⟨place, held⟩ := held
  rcases answers.changes with same | changes
  · exact .inr (kept (by rw [← same, held]))
  · generalize after.directory = directory at held changes
    cases changes with
    | search _ | query _ | whoami => exact .inr (kept held)
    | @modify dn mods name entry written found applied =>
        rcases eq_or_of_update held with here | elsewhere
        · obtain ⟨rfl, rfl⟩ := Entry.mk.inj here
          refine .inr ⟨entry.attrs, ⟨name, (Directory.find_ok_iff.mp found).2⟩, ?_⟩
          intro type untouched
          refine values_applyMods applied fun mod member same => untouched ?_
          exact ⟨name, entry, found, rfl, mod, member, same⟩
        · exact .inr (kept elsewhere)
    | @rename dn newRdn old rdn parent entry found parsed =>
        rcases Directory.renamed_inherits held with here | ⟨origin, elsewhere⟩
        · obtain ⟨rfl, rfl⟩ := Entry.mk.inj here
          refine .inr ⟨entry.attrs, ⟨_, (Directory.find_ok_iff.mp found).2⟩, ?_⟩
          intro type untouched
          have spared (assertion : AttributeTypeAndValue) (member : assertion ∈ old ++ rdn) :
              asciiStrdown assertion.type ≠ asciiStrdown type := fun same =>
            untouched ⟨old, parent, entry, rdn, found, rfl, parsed, assertion, member, same⟩
          exact values_renameAttrs entry.attrs
            (fun assertion member => spared assertion (List.mem_append_left _ member))
            fun assertion member => spared assertion (List.mem_append_right _ member)
        · exact .inr (kept elsewhere)
    | add parsed vacant applied =>
        rcases eq_or_of_update held with here | elsewhere
        · exact .inl (Entry.mk.inj here).1
        · exact .inr (kept elsewhere)
    | delete found => exact .inr (kept (of_update_none held))

/-- An entry that was not there before a request is one the request adds. -/
theorem Session.Answers.adds {guid : Nat} {attrs : Attributes}
    (absent : ∀ old, ¬ before.directory.Holds guid old)
    (held : after.directory.Holds guid attrs) : ∃ dn mods, request = .add dn mods := by
  obtain ⟨place, held⟩ := held
  rcases answers.changes with same | changes
  · exact absurd ⟨place, by rw [← same, held]⟩ (absent attrs)
  · generalize after.directory = directory at held changes
    cases changes with
    | search _ | query _ | whoami => exact absurd ⟨place, held⟩ (absent attrs)
    | @modify dn mods name entry written found applied =>
        rcases eq_or_of_update held with here | elsewhere
        · obtain ⟨rfl, rfl⟩ := Entry.mk.inj here
          exact absurd ⟨name, (Directory.find_ok_iff.mp found).2⟩ (absent entry.attrs)
        · exact absurd ⟨place, elsewhere⟩ (absent attrs)
    | @rename dn newRdn old rdn parent entry found parsed =>
        rcases Directory.renamed_inherits held with here | ⟨origin, elsewhere⟩
        · obtain ⟨rfl, rfl⟩ := Entry.mk.inj here
          exact absurd ⟨_, (Directory.find_ok_iff.mp found).2⟩ (absent entry.attrs)
        · exact absurd ⟨origin, elsewhere⟩ (absent attrs)
    | @add dn mods assertion parent written parsed vacant applied => exact ⟨dn, mods, rfl⟩
    | delete found => exact absurd ⟨place, of_update_none held⟩ (absent attrs)

theorem Session.Answers.sound (sound : before.Sound) : after.Sound := by
  have older {name : DistinguishedName} {guid : Nat}
      (found : before.directory.guids name = some guid) : guid < before.nextGuid + 1 :=
    Nat.lt_succ_of_lt (sound.issued name guid found)
  constructor
  · rcases answers.changes with same | changes
    · rw [same]
      exact sound.unique
    · generalize after.directory = directory at changes
      cases changes with
      | search _ | query _ | whoami => exact sound.unique
      | modify found applied =>
          exact sound.unique.update (Directory.find_ok_iff.mp found).2 rfl
      | rename found parsed =>
          exact sound.unique.renamed (Directory.find_ok_iff.mp found).2 rfl
      | add parsed vacant applied =>
          refine sound.unique.insert fun other taken => ?_
          exact absurd (sound.issued other _ taken) (lt_irrefl _)
      | delete found => exact sound.unique.erase _
  · intro name guid found
    rw [answers.nextGuid]
    obtain ⟨entry, held, rfl⟩ := Option.map_eq_some_iff.mp found
    rcases answers.inherits ⟨name, held⟩ with fresh | ⟨old, ⟨origin, there⟩, _⟩
    · rw [fresh]
      exact Nat.lt_succ_self _
    · exact older (show before.directory.guids origin = _ by simp [Directory.guids, there])

end Answers

/-! Many requests -/

/-- An entry of this objectGUID is the one that was there at first, and the attributes
that are spared have the values they had then. -/
structure Session.Descends (origin : Session) (guid : Nat) (spared : CString → Prop)
    (session : Session) : Prop where
  later : origin.nextGuid ≤ session.nextGuid
  inherits : ∀ attrs, session.directory.Holds guid attrs →
    ∃ old, origin.directory.Holds guid old ∧
      ∀ type, spared type → attrs.values type = old.values type

namespace Session.Descends

variable {origin before after : Session} {guid : Nat} {spared : CString → Prop}

theorem refl (origin : Session) (guid : Nat) (spared : CString → Prop) :
    origin.Descends guid spared origin :=
  ⟨le_refl _, fun attrs held => ⟨attrs, held, fun _ _ => rfl⟩⟩

theorem answer (descends : origin.Descends guid spared before)
    (known : guid < origin.nextGuid) {request : Request}
    (answers : before.Answers request after)
    (untouched : ∀ type, spared type → ¬ request.Touches before guid type) :
    origin.Descends guid spared after := by
  constructor
  · rw [answers.nextGuid]
    exact Nat.le_succ_of_le descends.later
  · intro attrs held
    rcases answers.inherits held with fresh | ⟨middle, found, same⟩
    · rw [fresh] at known
      exact absurd known (Nat.not_lt.mpr descends.later)
    · obtain ⟨old, first, same'⟩ := descends.inherits middle found
      refine ⟨old, first, fun type kept => ?_⟩
      rw [same type (untouched type kept), same' type kept]

theorem run (descends : origin.Descends guid spared before)
    (known : guid < origin.nextGuid) {requests : List Request}
    (untouched : Along Session.step
      (fun session request => ∀ type, spared type → ¬ request.Touches session guid type)
      before requests) :
    origin.Descends guid spared (Transition.run Session.step before requests) :=
  (throughout_of_along (origin.Descends guid spared)
    (fun session request holds within =>
      holds.answer known (session.answers_step request) within)
    descends untouched).last

end Session.Descends

theorem Session.Sound.run {session : Session} (sound : session.Sound)
    (requests : List Request) : (Transition.run Session.step session requests).Sound :=
  run_of_step Session.Sound
    (fun session request holds => (session.answers_step request).sound holds) requests sound

end Sambervise.Ldap
