import Sambervise.Backend.Connection

namespace Sambervise.Backend

open Text Ldap Model

/-! What a connect does to the connection and to the handles of the library -/

/-- A connection within the process: handles are numbered as they are made, and the one
that the connection holds is not unbound. -/
structure HeldConnection where
  library : Libldap
  conn : SbvConnection
  made : ∀ id ∈ library.unbound, id < library.nextHandle
  current : ∀ ld ∈ conn.ld, ld.id < library.nextHandle ∧ ld.id ∉ library.unbound

def sbvConnectionDisconnect (library : Libldap) (self : SbvConnection) :
    Libldap × SbvConnection :=
  match self.ld with
  | some ld => (library.unbind ld, { self with ld := none, connected := false })
  | none => (library, { self with connected := false })

def timesUnbound (library : Libldap) (id : Nat) : Nat := library.unbound.count id

/-- The connection is as it was, and of all handles exactly those made since were unbound,
once each. -/
structure Refused (before : HeldConnection) (library : Libldap) (conn : SbvConnection) :
    Prop where
  same : conn = before.conn
  new : ∀ id, before.library.nextHandle ≤ id → id < library.nextHandle →
    timesUnbound library id = 1
  others : ∀ id, ¬ (before.library.nextHandle ≤ id ∧ id < library.nextHandle) →
    timesUnbound library id = timesUnbound before.library id

/-- The connection is bound with the profile over a new handle, which is not unbound, and
of all handles exactly the previous one was unbound, once. -/
structure Replaced (before : HeldConnection) (profile : SbvProfile) (library : Libldap)
    (conn : SbvConnection) : Prop where
  fields : conn.host = profile.host ∧ conn.port = profile.port ∧ conn.baseDn = profile.baseDn ∧
    conn.profile = some profile ∧ conn.connected = true
  new : ∃ ld, conn.ld = some ld ∧ ld.id = before.library.nextHandle ∧
    timesUnbound library ld.id = 0
  previous : ∀ ld, before.conn.ld = some ld → timesUnbound library ld.id = 1
  others : ∀ id, (∀ ld, before.conn.ld = some ld → ld.id ≠ id) →
    timesUnbound library id = timesUnbound before.library id

theorem timesUnbound_unbind (library : Libldap) (handle : LdapHandle) (id : Nat) :
    timesUnbound (library.unbind handle) id =
      timesUnbound library id + if handle.id = id then 1 else 0 := by
  rw [timesUnbound, Libldap.unbind, List.count_append, List.count_singleton]
  simp only [beq_iff_eq]
  rfl

section Open

variable (library : Libldap) (uri : CString) (skipCert : Bool)

theorem openHandle_id : (library.openHandle uri skipCert).1.id = library.nextHandle := by
  cases skipCert with
  | true => rfl
  | false => rfl

theorem openHandle_nextHandle :
    (library.openHandle uri skipCert).2.nextHandle = library.nextHandle + 1 := by
  cases skipCert with
  | true => rfl
  | false => rfl

theorem openHandle_unbound :
    (library.openHandle uri skipCert).2.unbound = library.unbound := by
  cases skipCert with
  | true => rfl
  | false => rfl

end Open

namespace HeldConnection

variable (self : HeldConnection)

theorem timesUnbound_new {id : Nat} (new : self.library.nextHandle ≤ id) :
    timesUnbound self.library id = 0 :=
  List.count_eq_zero_of_not_mem fun member => absurd (self.made id member) (by omega)

theorem timesUnbound_current {ld : LdapHandle} (current : self.conn.ld = some ld) :
    timesUnbound self.library ld.id = 0 :=
  List.count_eq_zero_of_not_mem (self.current ld current).2

/-- A handle that was opened and is unbound at once. -/
theorem refused_unbind (uri : CString) (skipCert : Bool) :
    Refused self
      ((self.library.openHandle uri skipCert).2.unbind (self.library.openHandle uri skipCert).1)
      self.conn where
  same := rfl
  new := by
    intro id new old
    have next := openHandle_nextHandle self.library uri skipCert
    have same : id = self.library.nextHandle := by
      have bound : id < (self.library.openHandle uri skipCert).2.nextHandle := old
      omega
    rw [timesUnbound_unbind, openHandle_id, if_pos same.symm, timesUnbound, openHandle_unbound]
    exact congrArg (· + 1) (self.timesUnbound_new new)
  others := by
    intro id old
    have next := openHandle_nextHandle self.library uri skipCert
    have different : self.library.nextHandle ≠ id := by
      intro same
      refine old ⟨same.le, ?_⟩
      rw [Libldap.unbind, next, same]
      exact Nat.lt_succ_self id
    rw [timesUnbound_unbind, openHandle_id, if_neg different, timesUnbound, openHandle_unbound]
    rfl

theorem refused_same : Refused self self.library self.conn where
  same := rfl
  new := fun id new old => absurd old (by omega)
  others := fun _ _ => rfl

/-- The library after a connect that was bound, with the handle it opened. -/
theorem replaced_bound (profile : SbvProfile) (uri : CString) (skipCert : Bool) :
    let opened := self.library.openHandle uri skipCert
    Replaced self profile
      (match self.conn.ld with
        | some previous => opened.2.unbind previous
        | none => opened.2)
      { ld := some opened.1, host := profile.host, baseDn := profile.baseDn,
        port := profile.port, connected := true, profile := some profile } := by
  intro opened
  have unbound : ∀ id, timesUnbound opened.2 id = timesUnbound self.library id := by
    intro id
    rw [timesUnbound, openHandle_unbound]
    rfl
  have fresh : timesUnbound opened.2 opened.1.id = 0 := by
    rw [unbound, openHandle_id]
    exact self.timesUnbound_new le_rfl
  refine { fields := ⟨rfl, rfl, rfl, rfl, rfl⟩, new := ?_, previous := ?_, others := ?_ }
  · refine ⟨opened.1, rfl, openHandle_id self.library uri skipCert, ?_⟩
    split
    next previous held =>
      have old := (self.current previous held).1
      rw [timesUnbound_unbind, fresh, openHandle_id, if_neg old.ne]
    · exact fresh
  · intro ld held
    rw [held]
    dsimp only
    rw [timesUnbound_unbind, unbound, if_pos rfl, self.timesUnbound_current held]
  · intro id other
    split
    next previous held =>
      rw [timesUnbound_unbind, unbound, if_neg (other previous held)]
      rfl
    · exact unbound id

end HeldConnection

/-- Whatever of its steps fails: a connect that is refused leaves the connection alone and
unbinds the handle it opened, and one that is bound, as it is exactly where no step fails,
puts its handle in place of the previous one. -/
theorem connectThread_atomic (before : HeldConnection) (replies : ConnectReplies)
    (data : ConnectData) :
    let outcome := connectThread replies data before.library before.conn
    (outcome.1 = .ok () ↔ replies.bound data.profile = true) ∧
      (outcome.1 = .ok () → Replaced before data.profile outcome.2.1 outcome.2.2) ∧
        ((∃ error, outcome.1 = .error error) → Refused before outcome.2.1 outcome.2.2) := by
  refine ⟨connectThread_bound replies data before.library before.conn, ?_⟩
  unfold connectThread
  dsimp only
  split
  · exact ⟨nofun, fun _ => before.refused_same⟩
  · split
    · exact ⟨nofun, fun _ => before.refused_unbind _ _⟩
    · split
      · exact ⟨nofun, fun _ => before.refused_unbind _ _⟩
      · exact ⟨fun _ => before.replaced_bound _ _ _, fun failed => nomatch failed⟩

/-! What a connection does keeps its handle alive -/

namespace HeldConnection

/-- A new connection. -/
def opened (library : Libldap) (made : ∀ id ∈ library.unbound, id < library.nextHandle) :
    HeldConnection :=
  { library, conn := {}, made, current := nofun }

theorem notMem_of_timesUnbound {library : Libldap} {id : Nat}
    (never : timesUnbound library id = 0) : id ∉ library.unbound :=
  List.count_eq_zero.mp never

theorem nextHandle_connectThread (replies : ConnectReplies) (data : ConnectData)
    (library : Libldap) (self : SbvConnection) :
    library.nextHandle ≤ (connectThread replies data library self).2.1.nextHandle ∧
      ((connectThread replies data library self).1 = .ok () →
        library.nextHandle < (connectThread replies data library self).2.1.nextHandle) := by
  have next := openHandle_nextHandle library
    (serverUri data.profile.useLdaps data.profile.host data.profile.port) data.profile.skipCert
  unfold connectThread
  dsimp only
  split
  · exact ⟨le_rfl, nofun⟩
  · split
    · exact ⟨next ▸ Nat.le_succ _, nofun⟩
    · split
      · exact ⟨next ▸ Nat.le_succ _, nofun⟩
      · split
        · exact ⟨next ▸ Nat.le_succ _, fun _ => next ▸ Nat.lt_succ_self _⟩
        · exact ⟨next ▸ Nat.le_succ _, fun _ => next ▸ Nat.lt_succ_self _⟩

variable (self : HeldConnection)

theorem replaced_or_refused (replies : ConnectReplies) (data : ConnectData) :
    let outcome := connectThread replies data self.library self.conn
    outcome.1 = .ok () ∧ Replaced self data.profile outcome.2.1 outcome.2.2 ∨
      Refused self outcome.2.1 outcome.2.2 := by
  unfold connectThread
  dsimp only
  split
  · exact .inr self.refused_same
  · split
    · exact .inr (self.refused_unbind _ _)
    · split
      · exact .inr (self.refused_unbind _ _)
      · exact .inl ⟨rfl, self.replaced_bound _ _ _⟩

theorem unbound_after {library : Libldap} (grown : self.library.nextHandle ≤ library.nextHandle)
    (later : ∀ id, library.nextHandle ≤ id →
      timesUnbound library id = timesUnbound self.library id) :
    ∀ id ∈ library.unbound, id < library.nextHandle := by
  intro id member
  by_contra outside
  have never := (later id (by omega)).trans (self.timesUnbound_new (by omega))
  exact notMem_of_timesUnbound never member

def connect (replies : ConnectReplies) (data : ConnectData) : HeldConnection where
  library := (connectThread replies data self.library self.conn).2.1
  conn := (connectThread replies data self.library self.conn).2.2
  made := by
    obtain ⟨grown, _⟩ := nextHandle_connectThread replies data self.library self.conn
    apply self.unbound_after grown
    intro id outside
    rcases self.replaced_or_refused replies data with ⟨_, replaced⟩ | refused
    · refine replaced.others id fun ld held same => ?_
      have old := (self.current ld held).1
      omega
    · exact refused.others id (by omega)
  current := by
    obtain ⟨grown, opened⟩ := nextHandle_connectThread replies data self.library self.conn
    intro ld held
    rcases self.replaced_or_refused replies data with ⟨bound, replaced⟩ | refused
    · obtain ⟨new, holds, id, never⟩ := replaced.new
      have same : new = ld := Option.some.inj (holds.symm.trans held)
      rw [← same]
      exact ⟨id ▸ opened bound, notMem_of_timesUnbound never⟩
    · have before : self.conn.ld = some ld := refused.same ▸ held
      obtain ⟨old, _⟩ := self.current ld before
      refine ⟨by omega, notMem_of_timesUnbound ?_⟩
      rw [refused.others ld.id (by omega), self.timesUnbound_current before]

/-- A disconnect unbinds the handle that is held, once, and holds none. -/
theorem disconnect_unbinds :
    let outcome := sbvConnectionDisconnect self.library self.conn
    outcome.2.ld = none ∧ outcome.2.connected = false ∧
      (∀ ld, self.conn.ld = some ld → timesUnbound outcome.1 ld.id = 1) ∧
        ∀ id ∈ outcome.1.unbound, id < outcome.1.nextHandle := by
  unfold sbvConnectionDisconnect
  cases held : self.conn.ld with
  | none => exact ⟨rfl, rfl, nofun, self.made⟩
  | some ld =>
      refine ⟨rfl, rfl, ?_, ?_⟩
      · intro other same
        cases same
        rw [timesUnbound_unbind, if_pos rfl, self.timesUnbound_current held]
      · intro id member
        rcases List.mem_append.mp member with earlier | last
        · exact self.made id earlier
        · rw [List.mem_singleton.mp last]
          exact (self.current ld held).1

def disconnect : HeldConnection where
  library := (sbvConnectionDisconnect self.library self.conn).1
  conn := (sbvConnectionDisconnect self.library self.conn).2
  made := self.disconnect_unbinds.2.2.2
  current := by
    have none := self.disconnect_unbinds.1
    intro ld held
    rw [none] at held
    cases held

end HeldConnection

end Sambervise.Backend
