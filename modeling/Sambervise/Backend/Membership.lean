import Sambervise.Backend.Identities
import Sambervise.Transition.SetHistory

namespace Sambervise.Backend

open Text Ldap Model Transition

/-! The members of a group, while several administrators edit them at once. -/

def memberType : CString := cstr "member"

def memberMod (d : Groups.MemberData) : LdapMod :=
  { op := d.ldapOp, type := memberType, values := [d.memberDn] }

/-- What `modify_member_thread` asks for. -/
def memberRequest (d : Groups.MemberData) : Request :=
  .modify (orEmpty d.groupDn) [memberMod d]

inductive MemberTurn where
  /-- `sbv_groups_add_member` and `sbv_groups_remove_member` -/
  | edit (d : Groups.MemberData)
  /-- the same from another instance of the program -/
  | edited (d : Groups.MemberData)
  | other (turn : Turn)

/-- The entry of this objectGUID is the one the string names. -/
def Names (guid : Nat) (session : Session) (dn : CString) : Bool :=
  match session.directory.find session.rule dn with
  | .ok (_, entry) => entry.objectGuid == guid
  | .error _ => false

def editOf (d : Groups.MemberData) : Option (SetEdit (List UInt8)) :=
  match d.ldapOp with
  | .add => some (.insert d.memberDn)
  | .delete => some (.erase d.memberDn)
  | .replace => none

namespace MemberTurn

def turn : MemberTurn → Turn
  | edit d => .task (.groupsModifyMember d)
  | edited d => .foreign (memberRequest d)
  | other turn => turn

def leaves (session : Session) (turn : MemberTurn) : Session := turn.turn.leaves session

/-- The edit of the group's members that whoever asked for it was told has succeeded. -/
def done (guid : Nat) (session : Session) : MemberTurn → Option (SetEdit (List UInt8))
  | edit d =>
      if Names guid session (orEmpty d.groupDn) ∧ (Worker.groupsModifyMember d).reports session
      then editOf d else none
  | edited d =>
      if Names guid session (orEmpty d.groupDn) ∧ (session.answer (memberRequest d)).isOk
      then editOf d else none
  | other _ => none

/-- What is not such an edit leaves the attribute alone. -/
def Orderly (guid : Nat) (session : Session) : MemberTurn → Prop
  | edit d | edited d => d.ldapOp ≠ .replace
  | other turn => turn.Spares guid (· = memberType) session

/-- The edits of one group's members in the order they were carried out. -/
def history (guid : Nat) : Session → List MemberTurn → List (SetEdit (List UInt8))
  | _, [] => []
  | session, turn :: rest =>
      (turn.done guid session).toList ++ history guid (turn.leaves session) rest

end MemberTurn

/-! One edit -/

def valueSet (attrs : Attributes) : Set (List UInt8) :=
  {value | value ∈ attrs.values memberType}

/-- The second list of values comes from the first by the edit, if there is one. -/
structure Edits (edit : Option (SetEdit (List UInt8))) (before after : Attributes) : Prop where
  fits : ∀ one ∈ edit, one.Fits (valueSet before)
  becomes : valueSet after = edit.elim (valueSet before) (·.apply (valueSet before))
  nodup : (before.values memberType).Nodup → (after.values memberType).Nodup

theorem Edits.none {before after : Attributes}
    (same : after.values memberType = before.values memberType) : Edits none before after where
  fits := nofun
  becomes := by simp [valueSet, same]
  nodup := by simp [same]

/-- The server adds no value twice, and removes none that is not there. -/
theorem applied_member {d : Groups.MemberData} {attrs after : Attributes}
    (applied : applyMods attrs [memberMod d] = .ok after) (proper : d.ldapOp ≠ .replace) :
    d.ldapOp = .add ∧ d.memberDn ∉ attrs.values memberType ∧
        after = attrs.set memberType (attrs.values memberType ++ [d.memberDn]) ∨
      d.ldapOp = .delete ∧ d.memberDn ∈ attrs.values memberType ∧
        after = attrs.set memberType ((attrs.values memberType).filter (· ≠ d.memberDn)) := by
  obtain ⟨groupDn, memberDn, op⟩ := d
  simp only [applyMods, List.foldlM_cons, List.foldlM_nil, bind_pure] at applied
  cases op with
  | replace => exact absurd rfl proper
  | add =>
      dsimp only [applyMod, memberMod] at applied
      split at applied
      · cases applied
      next fresh =>
        cases applied
        exact .inl ⟨rfl, by simpa using fresh, rfl⟩
  | delete =>
      dsimp only [applyMod, memberMod] at applied
      split at applied
      · cases applied
      next there =>
        rw [if_neg (List.cons_ne_nil _ _)] at applied
        cases applied
        simp only [not_or, Bool.not_eq_true] at there
        refine .inr ⟨rfl, by simpa using there.2, ?_⟩
        simp

theorem edits_of_applied {d : Groups.MemberData} {attrs after : Attributes}
    (applied : applyMods attrs [memberMod d] = .ok after) (proper : d.ldapOp ≠ .replace) :
    Edits (editOf d) attrs after := by
  rcases applied_member applied proper with ⟨adds, absent, rfl⟩ | ⟨removes, present, rfl⟩
  · rw [editOf, adds]
    constructor
    · intro edit member
      cases member
      exact absent
    · ext value
      simp [valueSet, SetEdit.apply, or_comm]
    · intro nodup
      rw [Attributes.values_set_self]
      exact nodup.append (List.nodup_singleton _) (by simpa using absent)
  · rw [editOf, removes]
    constructor
    · intro edit member
      cases member
      exact present
    · ext value
      simp [valueSet, SetEdit.apply]
    · intro nodup
      rw [Attributes.values_set_self]
      exact nodup.filter _

/-! One turn -/

section Turn

variable {guid : Nat} {session after : Session} {attrs attrs' : Attributes}
  {d : Groups.MemberData}

theorem Names.of_find {dn : CString} {name : DistinguishedName} {entry : Entry}
    (found : session.directory.find session.rule dn = .ok (name, entry)) :
    Names guid session dn = (entry.objectGuid == guid) := by
  rw [Names, found]

theorem edits_of_answer (unique : session.directory.UniqueGuids)
    (unique' : after.directory.UniqueGuids) (held : session.directory.Holds guid attrs)
    (held' : after.directory.Holds guid attrs') (proper : d.ldapOp ≠ .replace)
    {reply : Option Attributes}
    (answer : session.answer (memberRequest d) = .ok (reply, after.directory)) :
    Edits (if Names guid session (orEmpty d.groupDn) then editOf d else none)
      attrs attrs' := by
  obtain ⟨name, held⟩ := held
  have changes := changes_of_answer answer
  generalize after.directory = directory at changes unique' held'
  cases changes with
  | @modify _ _ place entry written found applied =>
      rw [Names.of_find found]
      have there := (Directory.find_ok_iff.mp found).2
      by_cases same : entry.objectGuid = guid
      · subst same
        rw [beq_self_eq_true, if_pos rfl]
        have old : entry.attrs = attrs :=
          (unique.holds_iff held).mp ⟨place, there⟩
        have new : attrs' = written :=
          (unique'.holds_iff (Function.update_self ..)).mp held'
        rw [new, ← old]
        exact edits_of_applied applied proper
      · rw [if_neg (by simpa using same)]
        obtain ⟨origin, held'⟩ := held'
        rcases eq_or_of_update held' with here | elsewhere
        · exact absurd (Entry.mk.inj here).1.symm same
        · refine Edits.none ?_
          rw [(unique.holds_iff held).mp ⟨origin, elsewhere⟩]

theorem edits_of_same (unique : session.directory.UniqueGuids)
    (held : session.directory.Holds guid attrs) (held' : after.directory.Holds guid attrs')
    (same : after.directory = session.directory) : Edits none attrs attrs' := by
  obtain ⟨name, held⟩ := held
  rw [same] at held'
  refine Edits.none ?_
  rw [(unique.holds_iff held).mp held']

/-- The worker is told of success exactly where the server has made the change. -/
theorem modifyMember_leaves (d : Groups.MemberData) (session : Session) :
    if (Worker.groupsModifyMember d).reports session then
      ∃ reply, session.answer (memberRequest d) =
        .ok (reply, ((Worker.groupsModifyMember d).leaves session).directory)
    else ((Worker.groupsModifyMember d).leaves session).directory = session.directory := by
  obtain ⟨leaves, reports⟩ := (Worker.groupsModifyMember d).follows_script session
  rw [reports trivial, Session.eq_of_unlocked leaves Session.directory fun _ => rfl,
    Worker.script]
  cases connected : session.ld with
  | false => rfl
  | true =>
      change if (once (memberRequest d)).completes Session.serve session then
          ∃ reply, session.answer (memberRequest d) =
            .ok (reply, ((once (memberRequest d)).follow Session.serve session).directory)
        else ((once (memberRequest d)).follow Session.serve session).directory =
          session.directory
      rw [follow_once]
      split
      next completed =>
        exact answer_of_success (completes_once.mp completed)
      next failed =>
        exact directory_send_failed fun success => failed (completes_once.mpr success)

theorem MemberTurn.edits (sound : session.Sound) {turn : MemberTurn}
    (orderly : turn.Orderly guid session) (held : session.directory.Holds guid attrs)
    (held' : (turn.leaves session).directory.Holds guid attrs') :
    Edits (turn.done guid session) attrs attrs' := by
  have unique := sound.unique
  have unique' := (turn.turn.sound sound).unique
  cases turn with
  | edit d =>
      have outcome := modifyMember_leaves d session
      split at outcome
      next reported =>
        obtain ⟨reply, answer⟩ := outcome
        simp only [done, reported, and_true]
        exact edits_of_answer unique unique' held held' orderly answer
      next failed =>
        simp only [done, failed, Bool.false_eq_true, and_false, if_false]
        exact edits_of_same unique held held' outcome
  | edited d =>
      cases answer : session.answer (memberRequest d) with
      | ok found =>
          have answered : session.answer (memberRequest d) =
              .ok (found.1, (leaves session (edited d)).directory) := by
            simp only [leaves, turn, Turn.leaves, Session.foreign, answer]
          simp only [done, answer, Except.isOk, Except.toBool, and_true]
          exact edits_of_answer unique unique' held held' orderly answered
      | error rc =>
          simp only [done, answer, Except.isOk, Except.toBool, Bool.false_eq_true, and_false,
            if_false]
          refine edits_of_same unique held held' ?_
          simp only [leaves, turn, Turn.leaves, Session.foreign, answer]
  | other turn =>
      obtain ⟨name, here⟩ := held
      have known : guid < session.nextGuid :=
        sound.issued name guid (by simp [Directory.guids, here])
      have descends := (Session.Descends.refl session guid (· = memberType))
      obtain ⟨old, found, same⟩ :=
        (Turn.descends descends known orderly).inherits attrs' held'
      refine Edits.none ?_
      rw [same memberType rfl, (unique.holds_iff here).mp found]

end Turn

/-! Many turns -/

section Run

variable {guid : Nat} {session : Session} {turns : List MemberTurn} {after : Attributes}

theorem MemberTurn.run_turns (session : Session) (turns : List MemberTurn) :
    run MemberTurn.leaves session turns =
      run Turn.leaves session (turns.map MemberTurn.turn) := by
  induction turns generalizing session with
  | nil => rfl
  | cons turn rest ih => exact ih (turn.leaves session)

/-- The edits that were carried out lead from the values before to those after. -/
theorem history_leads (sound : session.Sound) {before : Attributes}
    (held : session.directory.Holds guid before)
    (orderly : Along MemberTurn.leaves (fun session turn => turn.Orderly guid session)
      session turns)
    (held' : (run MemberTurn.leaves session turns).directory.Holds guid after) :
    Along SetEdit.apply (fun members edit => edit.Fits members) (valueSet before)
        (MemberTurn.history guid session turns) ∧
      run SetEdit.apply (valueSet before) (MemberTurn.history guid session turns) =
        valueSet after ∧
      ((before.values memberType).Nodup → (after.values memberType).Nodup) := by
  induction turns generalizing session before with
  | nil =>
      obtain ⟨name, here⟩ := held
      have same : after = before := (sound.unique.holds_iff here).mp held'
      rw [same]
      exact ⟨trivial, rfl, id⟩
  | cons turn rest ih =>
      rw [run_cons] at held'
      have sound' : (turn.leaves session).Sound := turn.turn.sound sound
      obtain ⟨middle, between⟩ : ∃ middle, (turn.leaves session).directory.Holds guid middle := by
        rw [MemberTurn.run_turns] at held'
        exact Turn.holds_between sound held held'
      have edits := turn.edits sound orderly.1 held between
      obtain ⟨fits, leads, nodup⟩ := ih sound' between orderly.2 held'
      rw [MemberTurn.history]
      cases done : turn.done guid session with
      | none =>
          rw [done] at edits
          have same : valueSet middle = valueSet before := edits.becomes
          rw [same] at fits leads
          exact ⟨fits, leads, fun first => nodup (edits.nodup first)⟩
      | some edit =>
          rw [done] at edits
          have same : valueSet middle = edit.apply (valueSet before) := edits.becomes
          rw [same] at fits leads
          exact ⟨⟨edits.fits edit rfl, fits⟩, leads, fun first => nodup (edits.nodup first)⟩

end Run

/-- While any number of instances of the program add and remove members of a group, and
whatever else is done by anyone leaves that attribute alone: the edits that were reported
to have succeeded, in order, are the history of a set, in which each adds a member that is
missing or removes one that is there. So none is lost and none counts twice: the last one
of each value decides whether it is a member in the end, the edits of one value add and
remove it by turns, and no value is ever listed twice. -/
theorem membership_history (session : Session) (sound : session.Sound) (guid : Nat)
    (turns : List MemberTurn)
    (orderly : Along MemberTurn.leaves (fun session turn => turn.Orderly guid session)
      session turns) (before after : Attributes)
    (held : session.directory.Holds guid before)
    (held' : (run MemberTurn.leaves session turns).directory.Holds guid after) :
    let edits := MemberTurn.history guid session turns
    Along SetEdit.apply (fun members edit => edit.Fits members) (valueSet before) edits ∧
      run SetEdit.apply (valueSet before) edits = valueSet after ∧
      (∀ value, (SetEdit.ofValue value edits).IsChain (· ≠ ·) ∧
        (value ∈ after.values memberType ↔
          match (SetEdit.ofValue value edits).getLast? with
          | some inserted => inserted = true
          | none => value ∈ before.values memberType)) ∧
      ((before.values memberType).Nodup → (after.values memberType).Nodup) := by
  obtain ⟨fits, leads, nodup⟩ := history_leads sound held orderly held'
  refine ⟨fits, leads, fun value => ⟨(SetEdit.isChain_ofValue value fits).1, ?_⟩, nodup⟩
  have decided := SetEdit.mem_run_iff (valueSet before)
    (MemberTurn.history guid session turns) value
  rw [leads] at decided
  exact decided

theorem membership_history_staff :
    let add : Groups.MemberData :=
      { groupDn := some (cstr "CN=staff"), memberDn := cstr "CN=ada", ldapOp := .add }
    run SetEdit.apply (valueSet fun _ => [])
        (MemberTurn.history 1 staffSession [.edit add, .edited add]) =
      valueSet (Attributes.set (fun _ => []) memberType [cstr "CN=ada"]) :=
  (membership_history staffSession staffSession_sound 1
    [.edit { groupDn := some (cstr "CN=staff"), memberDn := cstr "CN=ada", ldapOp := .add },
      .edited { groupDn := some (cstr "CN=staff"), memberDn := cstr "CN=ada", ldapOp := .add }]
    ⟨ModOp.noConfusion, ModOp.noConfusion, trivial⟩ _ _ ⟨staffDn, rfl⟩ ⟨staffDn, rfl⟩).2.1

end Sambervise.Backend
