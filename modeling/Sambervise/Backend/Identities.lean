import Sambervise.Backend.Footprint
import Sambervise.Ldap.Identity

namespace Sambervise.Backend

open Text Ldap Model Transition

/-! What becomes of the entries of a directory while the program's tasks and other
clients take turns at it. -/

inductive Turn where
  | task (worker : Worker)
  | foreign (request : Request)

namespace Turn

def leaves (session : Session) : Turn → Session
  | task worker => worker.leaves session
  | foreign request => session.foreign request

/-- The turn writes none of these attributes of the entry with this objectGUID. -/
def Spares (guid : Nat) (spared : CString → Prop) (session : Session) : Turn → Prop
  | task worker =>
      Along Session.step
        (fun session request => ∀ type, spared type → ¬ request.Touches session guid type)
        session ((worker.script session).asked Session.serve session)
  | foreign request => ∀ type, spared type → ¬ request.Touches session guid type

variable {origin session : Session} {guid : Nat} {spared : CString → Prop}

theorem unlocked_task (worker : Worker) (session : Session) :
    (leaves session (task worker)).unlocked =
      (run Session.step session
        ((worker.script session).asked Session.serve session)).unlocked := by
  rw [leaves, (worker.follows_script session).1, Script.follow_eq_run]
  rfl

theorem descends (descends : origin.Descends guid spared session)
    (known : guid < origin.nextGuid) {turn : Turn} (spares : turn.Spares guid spared session) :
    origin.Descends guid spared (turn.leaves session) := by
  cases turn with
  | task worker =>
      have followed := descends.run known spares
      have same := unlocked_task worker session
      exact ⟨Session.eq_of_unlocked same Session.nextGuid (fun _ => rfl) ▸ followed.later,
        Session.eq_of_unlocked same Session.directory (fun _ => rfl) ▸ followed.inherits⟩
  | foreign request => exact descends.answer known (session.answers_foreign request) spares

theorem sound (sound : session.Sound) (turn : Turn) : (turn.leaves session).Sound := by
  cases turn with
  | task worker =>
      have followed := sound.run ((worker.script session).asked Session.serve session)
      have same := unlocked_task worker session
      have directory := Session.eq_of_unlocked same Session.directory fun _ => rfl
      have nextGuid := Session.eq_of_unlocked same Session.nextGuid fun _ => rfl
      exact ⟨directory ▸ followed.unique, directory ▸ nextGuid ▸ followed.issued⟩
  | foreign request => exact (session.answers_foreign request).sound sound

/-- No turn asks that nothing be spared. -/
theorem spares_nothing (guid : Nat) (session : Session) (turn : Turn) :
    turn.Spares guid (fun _ => False) session := by
  cases turn with
  | task worker =>
      exact along_of_forall (fun _ _ _ none => none.elim) session _
  | foreign request => exact fun _ none => none.elim

theorem descends_run (known : guid < session.nextGuid) {turns : List Turn}
    (along : Along leaves (fun session turn => turn.Spares guid spared session)
      session turns) :
    session.Descends guid spared (run leaves session turns) :=
  (throughout_of_along (session.Descends guid spared)
    (fun _ _ holds spares => Turn.descends holds known spares)
    (.refl session guid spared) along).last

/-- An entry is always one from before, whatever is written into it. -/
theorem holds_before (known : guid < session.nextGuid) {turns : List Turn}
    {attrs : Attributes} (held : (run leaves session turns).directory.Holds guid attrs) :
    ∃ before, session.directory.Holds guid before := by
  have along : Along leaves (fun session turn => turn.Spares guid (fun _ => False) session)
      session turns := along_of_forall (spares_nothing guid) session turns
  obtain ⟨before, first, _⟩ := (descends_run known along).inherits attrs held
  exact ⟨before, first⟩

/-- An entry that is there before a turn and at the end of a run is there after the turn. -/
theorem holds_between (sound : session.Sound) {turn : Turn} {turns : List Turn}
    {before after : Attributes} (held : session.directory.Holds guid before)
    (held' : (run leaves (turn.leaves session) turns).directory.Holds guid after) :
    ∃ middle, (turn.leaves session).directory.Holds guid middle := by
  obtain ⟨name, here⟩ := held
  have known : guid < session.nextGuid :=
    sound.issued name guid (by simp [Directory.guids, here])
  have later := (descends (.refl session guid _) known (spares_nothing guid session turn)).later
  exact holds_before (lt_of_lt_of_le known later) held'

end Turn

/-! Who has written an attribute, and who has added an entry -/

namespace Turn

/-- The turn writes the attribute of the entry with this objectGUID. A task does it with one
of its own requests, in the state that the requests before it have left. -/
def Writes (guid : Nat) (type : CString) (session : Session) : Turn → Prop
  | task worker => ∃ front request back,
      (worker.script session).asked Session.serve session = front ++ request :: back ∧
        worker.Asks session.baseDn request ∧
          request.Touches (run Session.step session front) guid type
  | foreign request => request.Touches session guid type

/-- The turn may add entries: a task that creates one, or another client that does. -/
def Adds : Turn → Prop
  | task worker => worker.Creates
  | foreign request => ∃ dn mods, request = .add dn mods

variable {session : Session} {guid : Nat}

theorem writes_of_not_spares {type : CString} {turn : Turn}
    (written : ¬ turn.Spares guid (· = type) session) : turn.Writes guid type session := by
  cases turn with
  | task worker =>
      obtain ⟨front, request, back, asked, failed⟩ := exists_of_not_along written
      have touched : request.Touches (run Session.step session front) guid type := by
        simpa using failed
      have member : request ∈ (worker.script session).asked Session.serve session := by
        simp [asked]
      have asks := (worker.all_script session).of_mem_asked Session.serve member
      exact ⟨front, request, back, asked, asks, touched⟩
  | foreign request => simpa [Spares, Writes] using written

theorem adds_of_absent {turn : Turn} {attrs : Attributes}
    (absent : ∀ old, ¬ session.directory.Holds guid old)
    (held : (turn.leaves session).directory.Holds guid attrs) : turn.Adds := by
  cases turn with
  | foreign request => exact (session.answers_foreign request).adds absent held
  | task worker =>
      have same := Session.eq_of_unlocked (unlocked_task worker session) Session.directory
        fun _ => rfl
      rw [same] at held
      obtain ⟨front, request, back, asked, before, after⟩ :=
        exists_of_not_first (fun state : Session => ∃ attrs, state.directory.Holds guid attrs)
          (not_exists.mpr absent) ⟨attrs, held⟩
      obtain ⟨first, present⟩ := after
      rw [run_append] at present
      obtain ⟨dn, mods, rfl⟩ := (Session.answers_step _ request).adds
        (not_exists.mp before) present
      have member : Request.add dn mods ∈
          (worker.script session).asked Session.serve session := by simp [asked]
      exact ((worker.all_script session).of_mem_asked Session.serve member).1

end Turn

/-- Whatever the program's tasks and other clients do in whatever order: an entry whose
attribute has other values in the end was written by one of the turns, with a request that
found that entry, and a task's is one of its own, and an entry that was not there at first
was added by one of the turns. -/
theorem changes_accounted (session : Session) (sound : session.Sound) (turns : List Turn)
    (guid : Nat) (attrs : Attributes)
    (held : (run Turn.leaves session turns).directory.Holds guid attrs) :
    (∀ before, session.directory.Holds guid before →
        ∀ type, attrs.values type ≠ before.values type →
          ∃ front turn back, turns = front ++ turn :: back ∧
            turn.Writes guid type (run Turn.leaves session front)) ∧
      ((∀ before, ¬ session.directory.Holds guid before) →
        ∃ front turn back, turns = front ++ turn :: back ∧ turn.Adds) := by
  constructor
  · intro before first type changed
    obtain ⟨name, here⟩ := first
    have known := sound.issued name guid (by simp [Directory.guids, here])
    have fails : ¬ Along Turn.leaves
        (fun session turn => turn.Spares guid (· = type) session) session turns := by
      intro along
      obtain ⟨old, found, same⟩ := (Turn.descends_run known along).inherits attrs held
      apply changed
      rw [same type rfl, (sound.unique.holds_iff here).mp found]
    obtain ⟨front, turn, back, parts, written⟩ := exists_of_not_along fails
    exact ⟨front, turn, back, parts, Turn.writes_of_not_spares written⟩
  · intro absent
    obtain ⟨front, turn, back, parts, before, after⟩ :=
      exists_of_not_first (fun state : Session => ∃ attrs, state.directory.Holds guid attrs)
        (not_exists.mpr absent) ⟨attrs, held⟩
    obtain ⟨first, present⟩ := after
    rw [run_append] at present
    exact ⟨front, turn, back, parts,
      Turn.adds_of_absent (not_exists.mp before) present⟩

def staffDn : DistinguishedName := [[{ type := cstr "cn", value := .string (cstr "staff") }]]

/-- A server with one group. -/
def staffSession : Session :=
  { Session.opened id fun name =>
      if name = staffDn then some { objectGuid := 1, attrs := fun _ => [] } else none with
    nextGuid := 2 }

theorem staffSession_sound : staffSession.Sound where
  unique := Directory.UniqueGuids.single staffDn _
  issued := by
    intro name guid found
    obtain ⟨entry, held, rfl⟩ := Option.map_eq_some_iff.mp found
    dsimp only [staffSession, Session.opened] at held
    split at held
    · cases held
      decide
    · cases held

theorem changes_accounted_staff :
    let turns : List Turn :=
      [.task (.groupsSetUnixAttrs { dn := some (cstr "CN=staff"), gidNumber := 10000 }),
        .foreign (.rename (cstr "CN=staff") (cstr "CN=team"))]
    ∃ front turn back, turns = front ++ turn :: back ∧
      turn.Writes 1 (cstr "gidNumber") (run Turn.leaves staffSession front) := by
  intro turns
  have held : ∃ attrs, (run Turn.leaves staffSession turns).directory.Holds 1 attrs ∧
      attrs.values (cstr "gidNumber") = [cstr "10000"] :=
    ⟨_, ⟨[[{ type := cstr "cn", value := .string (cstr "team") }]], rfl⟩, by decide⟩
  obtain ⟨attrs, held, saved⟩ := held
  refine (changes_accounted staffSession staffSession_sound turns 1 attrs held).1
    (fun _ => []) ⟨staffDn, rfl⟩ (cstr "gidNumber") ?_
  rw [saved]
  exact List.cons_ne_nil _ _

end Sambervise.Backend
