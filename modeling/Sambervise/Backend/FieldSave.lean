import Sambervise.Backend.CnUpdate

namespace Sambervise.Backend

open Text Ldap Model

/-! What a save of several fields leaves of the entry it is about, against the values that
the server had at the moment of the save. -/

/-- One field of a form: whether it still holds the text that was loaded into it, and the
values the modification gives its attribute, where it names it. -/
structure Field where
  type : CString
  untouched : Bool
  written : Option (List CString)
  deriving DecidableEq, Repr

def Field.mod (field : Field) : Option LdapMod :=
  field.written.map fun values => { op := .replace, type := field.type, values }

/-- Each attribute has one field; no new name is sent where `cn` is empty. -/
structure FieldSave where
  dn : CString
  cn : CString
  fields : List Field
  distinct : (fields.map fun field => asciiStrdown field.type).Nodup

/-- A modification after a rename is carried out on the renamed entry, or that entry is
left as it is. -/
theorem modifyExt_of_renames {session : Session} {name target : DistinguishedName}
    {entry : Entry} (renames : Renames name target entry session.directory)
    {mods : List LdapMod} (replaces : ∀ mod ∈ mods, mod.op = .replace) (dn : CString) :
    (session.outcome.carriedOut = true ∧ denotes session.rule dn = some target) ∧
        Renames name target (replaced entry mods) (modifyExt dn mods session).2.directory ∨
      ¬ (session.outcome.carriedOut = true ∧ denotes session.rule dn = some target) ∧
        Renames name target entry (modifyExt dn mods session).2.directory := by
  by_cases misses : session.Misses dn
  · obtain ⟨rc, _, reply⟩ := modifyExt_misses misses mods
    refine .inr ⟨?_, by rw [reply]; exact renames⟩
    intro reached
    rcases misses with refused | missing
    · simp [reached.1] at refused
    · obtain ⟨_, missing⟩ := missing
      have found := Directory.find_ok_iff.mpr ⟨reached.2, renames.moved⟩
      cases found.symm.trans missing
  · rw [Session.Misses, not_or, Bool.not_eq_false] at misses
    cases found : session.directory.find session.rule dn with
    | error rc => exact absurd ⟨rc, found⟩ misses.2
    | ok here =>
        obtain ⟨denoted, held⟩ := Directory.find_ok_iff.mp found
        have after := renames.update held mods
        rw [modifyExt_replaces misses.1 replaces found]
        by_cases same : here.1 = target
        · rw [if_pos same] at after
          exact .inl ⟨⟨misses.1, same ▸ denoted⟩, after⟩
        · rw [if_neg same] at after
          refine .inr ⟨?_, after⟩
          intro reached
          exact same (Option.some.inj (denoted.symm.trans reached.2))

namespace FieldSave

variable (save : FieldSave)

def mods : List LdapMod := save.fields.filterMap Field.mod

def Renames (session : Session) (rdn : RelativeDn) : Prop :=
  save.cn ≠ [] ∧ session.serves 1 = true ∧ parseDn (cnRdn save.cn) = some [rdn] ∧
    ∃ moved, session.directory.rename session.rule save.dn (cnRdn save.cn) = .ok moved

/-- The modification is carried out on the entry of this name, wherever that is then. -/
def Modifies (session : Session) (name : DistinguishedName) : Prop :=
  if save.cn = [] then session.serves 1 = true
  else ∃ rdn, save.Renames session rdn ∧ session.serves 2 = true ∧
    denotes session.rule (effectiveDn save.dn save.cn) =
      some (rdn.normalize session.rule :: name.tail)

inductive Leaves (session : Session) (name : DistinguishedName) (attrs : Attributes) :
    Attributes → Prop
  | nothing (kept : ∀ rdn, ¬ save.Renames session rdn)
      (missed : ¬ save.Modifies session name) : Leaves session name attrs attrs
  | modified (kept : ∀ rdn, ¬ save.Renames session rdn)
      (reached : save.Modifies session name) :
      Leaves session name attrs (Directory.replaceAll attrs save.mods)
  | renamed (rdn : RelativeDn) (renames : save.Renames session rdn)
      (missed : ¬ save.Modifies session name) :
      Leaves session name attrs (Directory.renameAttrs (name.headD []) rdn attrs)
  | both (rdn : RelativeDn) (renames : save.Renames session rdn)
      (reached : save.Modifies session name) :
      Leaves session name attrs
        (Directory.replaceAll (Directory.renameAttrs (name.headD []) rdn attrs) save.mods)

/-- The entry the DN of the listing names has, after the save, the same set of values as
before for every field that was not touched. -/
def Keeps (before after : Session) : Prop :=
  ∀ name entry, before.directory.find before.rule save.dn = .ok (name, entry) →
    ∃ attrs, after.directory.Holds entry.objectGuid attrs ∧
      ∀ field ∈ save.fields, field.untouched = true →
        attrs.HoldsValues field.type (entry.attrs.values field.type)

/-- Every untouched field that the modification names stands for the values the entry has,
and the new name says of the others what the entry says. -/
structure Current (session : Session) (name : DistinguishedName) (attrs : Attributes) :
    Prop where
  written : save.Modifies session name → ∀ field ∈ save.fields, field.untouched = true →
    ∀ values, field.written = some values → attrs.HoldsValues field.type values
  named : ∀ rdn, save.Renames session rdn → ∀ field ∈ save.fields,
    field.untouched = true → ¬ (save.Modifies session name ∧ field.written.isSome = true) →
      (Directory.renameAttrs (name.headD []) rdn attrs).HoldsValues field.type
        (attrs.values field.type)

def WritesCurrent (session : Session) : Prop :=
  ∀ name entry, session.directory.find session.rule save.dn = .ok (name, entry) →
    save.Current session name entry.attrs

variable {save}

/-! What a save leaves of the values of a field -/

theorem distinct_mods : (save.mods.map fun mod => asciiStrdown mod.type).Nodup := by
  have apart := save.distinct
  rw [List.Nodup, List.pairwise_map] at apart ⊢
  refine apart.filterMap Field.mod ?_
  intro first second different mod fromFirst other fromSecond
  obtain ⟨_, _, rfl⟩ := Option.map_eq_some_iff.mp fromFirst
  obtain ⟨_, _, rfl⟩ := Option.map_eq_some_iff.mp fromSecond
  exact different

theorem replace_of_mem_mods {mod : LdapMod} (member : mod ∈ save.mods) :
    mod.op = .replace := by
  obtain ⟨field, _, isMod⟩ := List.mem_filterMap.mp member
  obtain ⟨_, _, rfl⟩ := Option.map_eq_some_iff.mp isMod
  rfl

section Values

variable {field : Field} (member : field ∈ save.fields)
include member

theorem values_of_written {values : List CString} (written : field.written = some values)
    (attrs : Attributes) :
    (Directory.replaceAll attrs save.mods).values field.type = values := by
  have isMod : { op := .replace, type := field.type, values } ∈ save.mods :=
    List.mem_filterMap.mpr ⟨field, member, by rw [Field.mod, written]; rfl⟩
  exact values_replaced_of_mem distinct_mods isMod { objectGuid := 0, attrs }

theorem values_of_unwritten (unwritten : field.written = none) (attrs : Attributes) :
    (Directory.replaceAll attrs save.mods).values field.type = attrs.values field.type := by
  refine values_replaced_of_ne ?_ { objectGuid := 0, attrs }
  intro mod inMods same
  obtain ⟨other, inFields, isMod⟩ := List.mem_filterMap.mp inMods
  obtain ⟨values, written, rfl⟩ := Option.map_eq_some_iff.mp isMod
  have equal : field = other := List.inj_on_of_nodup_map save.distinct member inFields same
  rw [equal, written] at unwritten
  cases unwritten

end Values

section Left

variable {session : Session} {name : DistinguishedName} {attrs left : Attributes}

theorem renames_unique {first second : RelativeDn} (atFirst : save.Renames session first)
    (atSecond : save.Renames session second) : first = second := by
  have same := atFirst.2.2.1.symm.trans atSecond.2.2.1
  exact (List.cons.inj (Option.some.inj same)).1

theorem holdsValues_replaceAll {field : Field} (member : field ∈ save.fields)
    (base : Attributes) :
    (Directory.replaceAll base save.mods).HoldsValues field.type (attrs.values field.type) ↔
      (∀ values, field.written = some values → attrs.HoldsValues field.type values) ∧
        (field.written.isSome = false →
          base.HoldsValues field.type (attrs.values field.type)) := by
  cases written : field.written with
  | none =>
      rw [Attributes.HoldsValues, values_of_unwritten member written]
      simp [Attributes.HoldsValues]
  | some values =>
      rw [Attributes.HoldsValues, values_of_written member written]
      simp [Attributes.HoldsValues, iff_comm]

/-- The untouched fields keep their values exactly where the save writes what is there. -/
theorem kept_iff_current (leaves : save.Leaves session name attrs left) :
    (∀ field ∈ save.fields, field.untouched = true →
        left.HoldsValues field.type (attrs.values field.type)) ↔
      save.Current session name attrs := by
  cases leaves with
  | nothing kept missed =>
      refine iff_of_true (fun _ _ _ _ => Iff.rfl) ⟨?_, ?_⟩
      · exact fun reached => absurd reached missed
      · exact fun rdn renames => absurd renames (kept rdn)
  | modified kept reached =>
      constructor
      · intro same
        refine ⟨?_, fun rdn renames => absurd renames (kept rdn)⟩
        intro _ field member untouched
        exact ((holdsValues_replaceAll member attrs).mp (same field member untouched)).1
      · intro current field member untouched
        refine (holdsValues_replaceAll member attrs).mpr ⟨?_, fun _ _ => Iff.rfl⟩
        exact current.written reached field member untouched
  | renamed rdn renames missed =>
      constructor
      · intro same
        refine ⟨fun reached => absurd reached missed, ?_⟩
        intro other also field member untouched _
        rw [renames_unique also renames]
        exact same field member untouched
      · intro current field member untouched
        exact current.named rdn renames field member untouched (missed ·.1)
  | both rdn renames reached =>
      constructor
      · intro same
        refine ⟨?_, ?_⟩
        · intro _ field member untouched
          exact ((holdsValues_replaceAll member _).mp (same field member untouched)).1
        · intro other also field member untouched unwritten
          rw [renames_unique also renames]
          refine ((holdsValues_replaceAll member _).mp (same field member untouched)).2 ?_
          simpa [reached] using unwritten
      · intro current field member untouched
        refine (holdsValues_replaceAll member _).mpr ⟨?_, ?_⟩
        · exact current.written reached field member untouched
        · intro unwritten
          exact current.named rdn renames field member untouched (by simp [unwritten])

end Left

/-! What the requests of a save leave of the directory -/

def run (save : FieldSave) (session : Session) : Directory :=
  if session.ld = false then session.directory
  else if save.cn = [] then (modifyExt save.dn save.mods session).2.directory
  else
    let renamed := renameSync save.dn (cnRdn save.cn) session
    if renamed.1 = ldapSuccess then
      (modifyExt (effectiveDn save.dn save.cn) save.mods renamed.2).2.directory
    else session.directory

def LeavesEntry (save : FieldSave) (session : Session) (name : DistinguishedName)
    (entry : Entry) : Prop :=
  ∃ left, save.Leaves session name entry.attrs left ∧
    ∀ attrs, (save.run session).Holds entry.objectGuid attrs ↔ attrs = left

section Run

variable {session : Session}

theorem directory_modifyUpdated (dn : CString) {mods : List LdapMod} (something : mods ≠ [])
    (acquired : Nat) :
    (modifyUpdated dn mods { session with acquired }).2.directory =
      (modifyExt dn mods session).2.directory := by
  rw [modifyUpdated_apply something, modifyExt_apply, send_acquire, modifyExt_apply]

theorem directory_setUnixFrom (unnamed : save.cn = []) :
    (setUnixFrom save.dn save.mods session).2.directory = save.run session := by
  cases connected : session.ld with
  | false =>
      rw [run, if_pos connected, setUnixFrom_disconnected connected]
  | true =>
      rw [run, if_neg (by simp [connected]), if_pos unnamed, setUnixFrom_apply connected,
        modifyExt_apply, send_acquire, modifyExt_apply]

theorem directory_renameThenModify (something : save.mods ≠ []) :
    (renameThenModify save.dn save.cn save.mods session).2.directory = save.run session := by
  cases connected : session.ld with
  | false =>
      rw [run, if_pos connected, renameThenModify_eq]
      exact (underLock_disconnected connected ()).2.directory
  | true =>
      rw [run, if_neg (by simp [connected])]
      by_cases unnamed : save.cn = []
      · rw [if_pos unnamed, renameThenModify_eq, underLock_apply, if_pos connected,
          if_pos unnamed]
        exact directory_modifyUpdated save.dn something _
      · rw [if_neg unnamed, renameThenModify_apply connected unnamed, renameSync_apply,
          send_acquire, renameSync_apply]
        dsimp only
        by_cases renamed : (send (.rename save.dn (cnRdn save.cn)) session).1.1 = ldapSuccess
        · rw [if_pos renamed, if_pos renamed]
          exact directory_modifyUpdated _ something _
        · rw [if_neg renamed, if_neg renamed]
          exact directory_send_failed renamed

theorem not_renames_of_unnamed (unnamed : save.cn = []) (rdn : RelativeDn) :
    ¬ save.Renames session rdn := fun renames => renames.1 unnamed

variable {name : DistinguishedName} {entry : Entry}

theorem modifies_iff_of_renames {rdn : RelativeDn} (renames : save.Renames session rdn) :
    save.Modifies session name ↔
      (session.outcomes.tail.headD .served).carriedOut = true ∧
        denotes session.rule (effectiveDn save.dn save.cn) =
          some (rdn.normalize session.rule :: name.tail) := by
  have served : session.serves 2 = true ↔
      (session.outcomes.tail.headD .served).carriedOut = true := by
    obtain ⟨connected, carried⟩ := Session.serves_one_iff.mp renames.2.1
    rw [Session.serves_two_iff, and_iff_right connected, and_iff_right carried]
  rw [Modifies, if_neg renames.1]
  constructor
  · intro modifies
    obtain ⟨other, also, serves, named⟩ := modifies
    rw [renames_unique also renames] at named
    exact ⟨served.mp serves, named⟩
  · intro reached
    exact ⟨rdn, renames, served.mpr reached.1, reached.2⟩

theorem not_modifies_of_kept (named : save.cn ≠ [])
    (kept : ∀ rdn, ¬ save.Renames session rdn) : ¬ save.Modifies session name := by
  intro reached
  rw [Modifies, if_neg named] at reached
  obtain ⟨rdn, renames, _⟩ := reached
  exact kept rdn renames

theorem rename_of_nil {newRdn : CString} {moved : Directory}
    (found : session.directory.find session.rule save.dn = .ok ([], entry)) :
    session.directory.rename session.rule save.dn newRdn ≠ .ok moved := by
  intro renamed
  simp only [Directory.rename, found, bind, Except.bind] at renamed
  split at renamed
  next same =>
    cases same
  · cases renamed

section Found

variable (unique : session.directory.UniqueGuids)
  (found : session.directory.find session.rule save.dn = .ok (name, entry))
include unique found

theorem leaves_of_unchanged (kept : ∀ rdn, ¬ save.Renames session rdn)
    (missed : ¬ save.Modifies session name)
    (unchanged : save.run session = session.directory) :
    save.LeavesEntry session name entry := by
  refine ⟨entry.attrs, .nothing kept missed, ?_⟩
  intro attrs
  rw [unchanged]
  exact unique.holds_iff (Directory.find_ok_iff.mp found).2

theorem leaves_run_unnamed (connected : session.ld = true) (unnamed : save.cn = []) :
    save.LeavesEntry session name entry := by
  have asks : save.run session = (modifyExt save.dn save.mods session).2.directory := by
    rw [run, if_neg (by simp [connected]), if_pos unnamed]
  cases carried : session.outcome.carriedOut with
  | false =>
      refine leaves_of_unchanged unique found (not_renames_of_unnamed unnamed) ?_ ?_
      · rw [Modifies, if_pos unnamed, Session.serves_one_iff, carried]
        simp
      · obtain ⟨rc, _, reply⟩ := modifyExt_refused save.dn save.mods carried
        rw [asks, reply]
        rfl
  | true =>
      have held := (Directory.find_ok_iff.mp found).2
      refine ⟨_, .modified (not_renames_of_unnamed unnamed) ?_, ?_⟩
      · rw [Modifies, if_pos unnamed, Session.serves_one_iff]
        exact ⟨connected, carried⟩
      · intro attrs
        rw [asks, modifyExt_replaces carried (fun _ => replace_of_mem_mods) found]
        have apart : Directory.UniqueGuids (Function.update session.directory name
            (some (replaced entry save.mods))) := unique.update held rfl
        exact apart.holds_iff (Function.update_self ..)

/-- Where the entry is renamed, what the modification finds under the DN put together for
it decides. -/
theorem leaves_run_renamed (connected : session.ld = true) (named : save.cn ≠ [])
    (carried : session.outcome.carriedOut = true) {moved : Directory}
    (renamed : session.directory.rename session.rule save.dn (cnRdn save.cn) = .ok moved) :
    save.LeavesEntry session name entry := by
  cases name with
  | nil => exact absurd renamed (rename_of_nil found)
  | cons old parent =>
      obtain ⟨rdn, parsed, rfl⟩ := Directory.rename_ok found renamed
      have renames : save.Renames session rdn :=
        ⟨named, Session.serves_one_iff.mpr ⟨connected, carried⟩, parsed, _, renamed⟩
      have held := (Directory.find_ok_iff.mp found).2
      let renewed : Entry := { entry with attrs := Directory.renameAttrs old rdn entry.attrs }
      let target := rdn.normalize session.rule :: parent
      let second : Session :=
        { session.asked (.rename save.dn (cnRdn save.cn)) with
          directory := session.directory.renamed (old :: parent) target renewed }
      have atTarget : Backend.Renames (old :: parent) target renewed second.directory :=
        renames_renamed unique held rfl rfl
      have asks : save.run session =
          (modifyExt (effectiveDn save.dn save.cn) save.mods second).2.directory := by
        rw [run, if_neg (by simp [connected]), if_neg named,
          renameSync_carriedOut carried renamed]
        exact if_pos rfl
      have modifies := @modifies_iff_of_renames save session (old :: parent) rdn renames
      rw [LeavesEntry, asks]
      rcases modifyExt_of_renames atTarget (fun _ => replace_of_mem_mods)
        (effectiveDn save.dn save.cn) with ⟨reached, after⟩ | ⟨missed, after⟩
      · refine ⟨_, .both rdn renames (modifies.mpr reached), ?_⟩
        exact fun attrs => after.unique.holds_iff after.moved
      · refine ⟨_, .renamed rdn renames (missed <| modifies.mp ·), ?_⟩
        exact fun attrs => after.unique.holds_iff after.moved

theorem leaves_run : save.LeavesEntry session name entry := by
  cases connected : session.ld with
  | false =>
      have kept : ∀ rdn, ¬ save.Renames session rdn := by
        intro rdn renames
        have open_ := (Session.serves_one_iff.mp renames.2.1).1
        simp [connected] at open_
      refine leaves_of_unchanged unique found kept ?_ (if_pos connected)
      by_cases unnamed : save.cn = []
      · rw [Modifies, if_pos unnamed, Session.serves_one_iff, connected]
        simp
      · exact not_modifies_of_kept unnamed kept
  | true =>
      by_cases unnamed : save.cn = []
      · exact leaves_run_unnamed unique found connected unnamed
      · by_cases failed : session.outcome.carriedOut = false ∨
            ∃ rc, session.directory.rename session.rule save.dn (cnRdn save.cn) = .error rc
        · have kept : ∀ rdn, ¬ save.Renames session rdn := by
            intro rdn renames
            obtain ⟨_, serves, _, moved, renamed⟩ := renames
            rcases failed with refused | impossible
            · simp [(Session.serves_one_iff.mp serves).2] at refused
            · obtain ⟨rc, refused⟩ := impossible
              cases renamed.symm.trans refused
          refine leaves_of_unchanged unique found kept (not_modifies_of_kept unnamed kept) ?_
          obtain ⟨rc, failure, reply⟩ := renameSync_failed failed
          rw [run, if_neg (by simp [connected]), if_neg unnamed, reply]
          exact if_neg failure
        · rw [not_or, Bool.not_eq_false] at failed
          cases renamed : session.directory.rename session.rule save.dn (cnRdn save.cn) with
          | error rc => exact absurd ⟨rc, renamed⟩ failed.2
          | ok moved =>
              exact leaves_run_renamed unique found connected unnamed failed.1 renamed

end Found

end Run

/-- A save keeps the untouched fields exactly where all it writes for them is there
already. -/
theorem keeps_iff {before after : Session} (unique : before.directory.UniqueGuids)
    (left : after.directory = save.run before) :
    save.Keeps before after ↔ save.WritesCurrent before := by
  refine forall_congr' fun name => forall_congr' fun entry => forall_congr' fun found => ?_
  obtain ⟨attrs, leaves, holds⟩ := leaves_run unique found
  rw [← kept_iff_current leaves, left]
  constructor
  · intro kept
    obtain ⟨other, held, same⟩ := kept
    rwa [(holds other).mp held] at same
  · intro same
    exact ⟨attrs, (holds attrs).mpr rfl, same⟩

/-! An enable change that follows -/

section SetEnabled

variable {session : Session} {fallback : GInt64} {d : SetEnabledData}

/-- The enable change writes one attribute of one entry, or nothing. -/
theorem directory_setEnabledFrom :
    (setEnabledFrom fallback d session).2.directory = session.directory ∨
      ∃ name entry uac, session.directory name = some entry ∧
        (setEnabledFrom fallback d session).2.directory =
          Function.update session.directory name
            (some
              { entry with
                attrs := entry.attrs.set (cstr "userAccountControl") [formatInt64 uac] }) := by
  cases found : session.directory.find session.rule (orEmpty d.dn) with
  | error rc =>
      refine .inl ?_
      cases connected : session.ld with
      | false =>
          rw [setEnabledFrom_eq]
          exact (underLock_disconnected connected ()).2.directory
      | true =>
          have failed :=
            @searchBase_missing { session with acquired := session.acquired + 1 } _ rc found
          rw [setEnabledFrom_apply connected]
          dsimp only
          rw [if_neg failed]
          exact directory_send_failed failed
  | ok held =>
      cases serves : session.serves 2 with
      | false => exact .inl (setEnabledFrom_refused serves found).2.directory
      | true =>
          exact .inr ⟨_, _, _, (Directory.find_ok_iff.mp found).2,
            (setEnabledFrom_carriedOut serves found).2.directory⟩

theorem exists_holds_setEnabledFrom {P : Attributes → Prop}
    (invariant : ∀ attrs uac,
      P (attrs.set (cstr "userAccountControl") [formatInt64 uac]) ↔ P attrs) (guid : Nat) :
    (∃ attrs, (setEnabledFrom fallback d session).2.directory.Holds guid attrs ∧ P attrs) ↔
      ∃ attrs, session.directory.Holds guid attrs ∧ P attrs := by
  rcases @directory_setEnabledFrom session fallback d with same | ⟨name, entry, uac, held, after⟩
  · rw [same]
  · rw [after]
    constructor
    · intro kept
      obtain ⟨attrs, ⟨other, holds⟩, satisfies⟩ := kept
      by_cases here : other = name
      · rw [here, Function.update_self] at holds
        cases holds
        exact ⟨entry.attrs, ⟨name, held⟩, (invariant _ uac).mp satisfies⟩
      · rw [Function.update_of_ne here] at holds
        exact ⟨attrs, ⟨other, holds⟩, satisfies⟩
    · intro kept
      obtain ⟨attrs, ⟨other, holds⟩, satisfies⟩ := kept
      by_cases here : other = name
      · rw [here, held] at holds
        cases holds
        exact ⟨_, ⟨name, Function.update_self ..⟩, (invariant _ uac).mpr satisfies⟩
      · exact ⟨attrs, ⟨other, by rw [Function.update_of_ne here, holds]⟩, satisfies⟩

theorem keeps_setEnabledFrom {before : Session}
    (others : ∀ field ∈ save.fields,
      asciiStrdown field.type ≠ asciiStrdown (cstr "userAccountControl")) :
    save.Keeps before (setEnabledFrom fallback d session).2 ↔ save.Keeps before session := by
  refine forall_congr' fun _ => forall_congr' fun entry => forall_congr' fun _ => ?_
  apply exists_holds_setEnabledFrom
  intro attrs uac
  refine forall_congr' fun field => forall_congr' fun member => forall_congr' fun _ => ?_
  rw [Attributes.HoldsValues, attrs.values_set_of_ne (others field member),
    Attributes.HoldsValues]

end SetEnabled

end FieldSave

end Sambervise.Backend
