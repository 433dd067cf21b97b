import Sambervise.Ldap.Directory

namespace Sambervise.Ldap

open Text

/-! One client's session with a server: the handle and its lock, the requests
sent, and how the server deals with each of them. -/

inductive SearchScope where
  | base
  | oneLevel
  | subtree
  deriving DecidableEq, Repr

/-- The arguments of `ldap_search_ext_s`; no limit is `LDAP_NO_LIMIT`. -/
structure SearchRequest where
  base : Option CString
  scope : SearchScope
  filter : CString
  attrs : List CString
  sizeLimit : Option Nat := none
  deriving DecidableEq, Repr

inductive Request where
  /-- One entry is read. -/
  | search (base : CString)
  /-- A search whose answer is a parameter of the worker that makes it. -/
  | query (request : SearchRequest)
  | whoami
  | modify (dn : CString) (mods : List LdapMod)
  | rename (dn newRdn : CString)
  | add (dn : CString) (mods : List LdapMod)
  | delete (dn : CString)
  deriving DecidableEq, Repr

/-- What the server does with one request: it carries it out, or refuses it for
reasons of its own and changes nothing; of an entry it reads it may keep back the
values, or the entry itself. -/
inductive Outcome where
  | served
  | refused (rc : ResultCode) (failure : rc ≠ ldapSuccess)
  | withheldValues
  | withheldEntry

structure Session where
  ld : Bool
  acquired : Nat
  released : Nat
  baseDn : Option CString
  rule : MatchingRule
  directory : Directory
  nextGuid : Nat
  /-- How the coming requests go; past the end of the list they are served. -/
  outcomes : List Outcome
  sent : List Request

def Session.opened (rule : MatchingRule) (directory : Directory) : Session :=
  { ld := true
    acquired := 0
    released := 0
    baseDn := none
    rule
    directory
    nextGuid := 0
    outcomes := []
    sent := [] }

abbrev LdapM := StateM Session

def acquireLdap : LdapM Bool := fun session =>
  (session.ld, { session with acquired := session.acquired + 1 })

def releaseLdap : LdapM Unit := fun session =>
  ((), { session with released := session.released + 1 })

def Session.answer (session : Session) (request : Request) :
    Except ResultCode (Option Attributes × Directory) :=
  let directory := session.directory
  match request with
  | .search base =>
      (directory.find session.rule base).map fun found =>
        (some found.2.attrs, directory)
  | .query _ | .whoami => .ok (none, directory)
  | .modify dn mods => (directory.modify session.rule dn mods).map (none, ·)
  | .rename dn newRdn => (directory.rename session.rule dn newRdn).map (none, ·)
  | .add dn mods =>
      (directory.add session.rule dn session.nextGuid mods).map (none, ·)
  | .delete dn => (directory.delete session.rule dn).map (none, ·)

def Outcome.visible : Outcome → Option Attributes → Option Attributes
  | .withheldValues, some _ => some fun _ => []
  | .withheldEntry, _ => none
  | _, attrs => attrs

def Outcome.withholds : Outcome → Bool
  | .withheldValues | .withheldEntry => true
  | _ => false

def Outcome.carriedOut : Outcome → Bool
  | .refused _ _ => false
  | _ => true

def Session.outcome (session : Session) : Outcome := session.outcomes.headD .served

def allCarriedOut : Nat → List Outcome → Bool
  | 0, _ => true
  | count + 1, outcomes =>
      (outcomes.headD .served).carriedOut && allCarriedOut count outcomes.tail

/-- There is a handle, and the server carries out the next `count` requests. -/
def Session.serves (session : Session) (count : Nat) : Bool :=
  session.ld && allCarriedOut count session.outcomes

theorem Session.serves_one_iff {session : Session} :
    session.serves 1 = true ↔ session.ld = true ∧ session.outcome.carriedOut = true := by
  simp only [serves, allCarriedOut, outcome, Bool.and_true, Bool.and_eq_true]

theorem Session.serves_two_iff {session : Session} :
    session.serves 2 = true ↔
      session.ld = true ∧ session.outcome.carriedOut = true ∧
        (session.outcomes.tail.headD .served).carriedOut = true := by
  simp only [serves, allCarriedOut, outcome, Bool.and_true, Bool.and_eq_true]

def Session.asked (session : Session) (request : Request) : Session :=
  { session with
    outcomes := session.outcomes.tail
    sent := session.sent ++ [request]
    nextGuid := session.nextGuid + 1 }

/-- One synchronous request: the result code, and for a search the attributes of
the entry in the answer. -/
def send (request : Request) : LdapM (ResultCode × Option Attributes) := fun session =>
  let asked := session.asked request
  match session.outcome with
  | .refused rc _ => ((rc, none), asked)
  | outcome =>
      match session.answer request with
      | .error rc => ((rc, none), asked)
      | .ok (attrs, directory) =>
          ((ldapSuccess, outcome.visible attrs), { asked with directory })

def searchBase (base : CString) : LdapM (ResultCode × Option Attributes) :=
  send (.search base)

def modifyExt (dn : CString) (mods : List LdapMod) : LdapM ResultCode :=
  Prod.fst <$> send (.modify dn mods)

def renameSync (dn newRdn : CString) : LdapM ResultCode :=
  Prod.fst <$> send (.rename dn newRdn)

def addExt (dn : CString) (mods : List LdapMod) : LdapM ResultCode :=
  Prod.fst <$> send (.add dn mods)

def deleteExt (dn : CString) : LdapM ResultCode :=
  Prod.fst <$> send (.delete dn)

/-! What a request leaves as it was, and what it adds. -/

theorem send_refused {request : Request} {session : Session}
    (refused : session.outcome.carriedOut = false) :
    ∃ rc, rc ≠ ldapSuccess ∧
      send request session = ((rc, none), session.asked request) := by
  unfold send
  cases outcome : session.outcome with
  | refused rc failure => exact ⟨rc, failure, rfl⟩
  | served | withheldValues | withheldEntry => simp [outcome, Outcome.carriedOut] at refused

theorem send_carriedOut {request : Request} {session : Session}
    (carried : session.outcome.carriedOut = true) {attrs : Option Attributes}
    {directory : Directory} (answer : session.answer request = .ok (attrs, directory)) :
    send request session =
      ((ldapSuccess, session.outcome.visible attrs),
        { session.asked request with directory }) := by
  unfold send
  cases outcome : session.outcome with
  | refused rc failure => simp [outcome, Outcome.carriedOut] at carried
  | served | withheldValues | withheldEntry => simp [answer]

theorem sent_send (request : Request) (session : Session) :
    (send request session).2.sent = session.sent ++ [request] := by
  unfold send
  split
  · rfl
  · split
    · rfl
    · rfl

theorem send_connection (request : Request) (session : Session) :
    (send request session).2.ld = session.ld ∧
      (send request session).2.baseDn = session.baseDn := by
  unfold send
  split
  · exact ⟨rfl, rfl⟩
  · split
    · exact ⟨rfl, rfl⟩
    · exact ⟨rfl, rfl⟩

theorem rule_send (request : Request) (session : Session) :
    (send request session).2.rule = session.rule := by
  unfold send
  split
  · rfl
  · split
    · rfl
    · rfl

theorem send_acquire (request : Request) (session : Session) (acquired : Nat) :
    send request { session with acquired } =
      ((send request session).1, { (send request session).2 with acquired }) := by
  have answer : Session.answer { session with acquired } request = session.answer request := by
    cases request with
    | search | query | whoami | modify | rename | add | delete => rfl
  have outcome : Session.outcome { session with acquired } = session.outcome := rfl
  unfold send
  rw [answer, outcome]
  cases session.outcome with
  | refused rc failure => rfl
  | served | withheldValues | withheldEntry =>
      cases session.answer request with
      | error rc => rfl
      | ok found => rfl

/-- After `before`, the same server and handle with the directory given. -/
structure Session.Becomes (before : Session) (directory : Directory) (after : Session) :
    Prop where
  ld : after.ld = before.ld
  rule : after.rule = before.rule
  directory : after.directory = directory

theorem modifyExt_apply (dn : CString) (mods : List LdapMod) (session : Session) :
    modifyExt dn mods session =
      ((send (.modify dn mods) session).1.1, (send (.modify dn mods) session).2) := rfl

theorem modifyExt_refused {session : Session} (dn : CString) (mods : List LdapMod)
    (refused : session.outcome.carriedOut = false) :
    ∃ rc, rc ≠ ldapSuccess ∧
      modifyExt dn mods session = (rc, session.asked (.modify dn mods)) := by
  obtain ⟨rc, failure, sent⟩ : ∃ rc, rc ≠ ldapSuccess ∧
      send (.modify dn mods) session = ((rc, none), session.asked (.modify dn mods)) :=
    send_refused refused
  exact ⟨rc, failure, by rw [modifyExt_apply, sent]⟩

theorem modifyExt_replaces {session : Session} {string : CString} {mods : List LdapMod}
    (carried : session.outcome.carriedOut = true)
    (replaces : ∀ mod ∈ mods, mod.op = .replace)
    {dn : DistinguishedName} {entry : Entry}
    (found : session.directory.find session.rule string = .ok (dn, entry)) :
    modifyExt string mods session =
      (ldapSuccess,
        { session.asked (.modify string mods) with
          directory := Function.update session.directory dn
            (some { entry with attrs := Directory.replaceAll entry.attrs mods }) }) := by
  have answer : session.answer (.modify string mods) =
      .ok (none, Function.update session.directory dn
        (some { entry with attrs := Directory.replaceAll entry.attrs mods })) := by
    simp [Session.answer, Directory.modify_of_find found replaces, Except.map]
  rw [modifyExt_apply, send_carriedOut carried answer]

theorem searchBase_carriedOut {session : Session} {string : CString}
    (carried : session.outcome.carriedOut = true)
    {dn : DistinguishedName} {entry : Entry}
    (found : session.directory.find session.rule string = .ok (dn, entry)) :
    searchBase string session =
      ((ldapSuccess, session.outcome.visible (some entry.attrs)),
        session.asked (.search string)) := by
  have answer : session.answer (.search string) =
      .ok (some entry.attrs, session.directory) := by
    simp [Session.answer, found, Except.map]
  exact send_carriedOut carried answer

theorem renameSync_apply (dn newRdn : CString) (session : Session) :
    renameSync dn newRdn session =
      ((send (.rename dn newRdn) session).1.1, (send (.rename dn newRdn) session).2) := rfl

theorem renameSync_carriedOut {session : Session} {dn newRdn : CString} {after : Directory}
    (carried : session.outcome.carriedOut = true)
    (renamed : session.directory.rename session.rule dn newRdn = .ok after) :
    renameSync dn newRdn session =
      (ldapSuccess, { session.asked (.rename dn newRdn) with directory := after }) := by
  have answer : session.answer (.rename dn newRdn) = .ok (none, after) := by
    simp [Session.answer, renamed, Except.map]
  rw [renameSync_apply, send_carriedOut carried answer]

theorem send_unanswered {request : Request} {session : Session} {rc : ResultCode}
    (carried : session.outcome.carriedOut = true) (answer : session.answer request = .error rc) :
    send request session = ((rc, none), session.asked request) := by
  unfold send
  cases outcome : session.outcome with
  | refused rc failure => simp [outcome, Outcome.carriedOut] at carried
  | served | withheldValues | withheldEntry => simp [answer]

/-- A request that fails changes nothing in the directory. -/
theorem directory_send_failed {request : Request} {session : Session}
    (failed : (send request session).1.1 ≠ ldapSuccess) :
    (send request session).2.directory = session.directory := by
  cases carried : session.outcome.carriedOut with
  | false =>
      obtain ⟨rc, _, reply⟩ := @send_refused request session carried
      rw [reply]
      rfl
  | true =>
      cases answer : session.answer request with
      | error rc =>
          rw [send_unanswered carried answer]
          rfl
      | ok found =>
          rw [send_carriedOut carried answer] at failed
          exact absurd rfl failed

theorem searchBase_missing {session : Session} {string : CString} {rc : ResultCode}
    (missing : session.directory.find session.rule string = .error rc) :
    (searchBase string session).1.1 ≠ ldapSuccess := by
  cases carried : session.outcome.carriedOut with
  | false =>
      obtain ⟨code, failure, reply⟩ := @send_refused (.search string) session carried
      rw [searchBase, reply]
      exact failure
  | true =>
      have answer : session.answer (.search string) = .error rc := by
        simp [Session.answer, missing, Except.map]
      rw [searchBase, send_unanswered carried answer]
      exact Directory.find_error missing

/-- The server refuses the next request, or has no entry of this name for it. -/
def Session.Misses (session : Session) (string : CString) : Prop :=
  session.outcome.carriedOut = false ∨
    ∃ rc, session.directory.find session.rule string = .error rc

theorem modifyExt_misses {session : Session} {string : CString} (misses : session.Misses string)
    (mods : List LdapMod) :
    ∃ rc, rc ≠ ldapSuccess ∧
      modifyExt string mods session = (rc, session.asked (.modify string mods)) := by
  cases carried : session.outcome.carriedOut with
  | false => exact modifyExt_refused string mods carried
  | true =>
      obtain ⟨rc, missing⟩ := misses.resolve_left (by simp [carried])
      have answer : session.answer (.modify string mods) = .error rc := by
        simp [Session.answer, Directory.modify_of_missing missing, Except.map]
      refine ⟨rc, Directory.find_error missing, ?_⟩
      rw [modifyExt_apply, send_unanswered carried answer]

/-- A rename that is refused, or that the directory does not allow, changes nothing. -/
theorem renameSync_failed {session : Session} {dn newRdn : CString}
    (failed : session.outcome.carriedOut = false ∨
      ∃ rc, session.directory.rename session.rule dn newRdn = .error rc) :
    ∃ rc, rc ≠ ldapSuccess ∧
      renameSync dn newRdn session = (rc, session.asked (.rename dn newRdn)) := by
  cases carried : session.outcome.carriedOut with
  | false =>
      obtain ⟨rc, failure, reply⟩ := @send_refused (.rename dn newRdn) session carried
      exact ⟨rc, failure, by rw [renameSync_apply, reply]⟩
  | true =>
      obtain ⟨rc, refused⟩ := failed.resolve_left (by simp [carried])
      have answer : session.answer (.rename dn newRdn) = .error rc := by
        simp [Session.answer, refused, Except.map]
      refine ⟨rc, Directory.rename_error refused, ?_⟩
      rw [renameSync_apply, send_unanswered carried answer]

/-- A modification that succeeds is carried out on the entry found. -/
theorem modifyExt_success {session : Session} {string : CString} {mods : List LdapMod}
    (replaces : ∀ mod ∈ mods, mod.op = .replace)
    (success : (modifyExt string mods session).1 = ldapSuccess) :
    ∃ dn entry, session.directory.find session.rule string = .ok (dn, entry) ∧
      (modifyExt string mods session).2.directory =
        Function.update session.directory dn
          (some { entry with attrs := Directory.replaceAll entry.attrs mods }) := by
  have reaches : ¬ session.Misses string := by
    intro misses
    obtain ⟨rc, failure, reply⟩ := modifyExt_misses misses mods
    rw [reply] at success
    exact failure success
  rw [Session.Misses, not_or, Bool.not_eq_false] at reaches
  cases found : session.directory.find session.rule string with
  | error rc => exact absurd ⟨rc, found⟩ reaches.2
  | ok held =>
      refine ⟨held.1, held.2, rfl, ?_⟩
      rw [modifyExt_replaces reaches.1 replaces found]

/-! A session on which every request that can succeed does -/

structure Session.On (session : Session) (rule : MatchingRule) (directory : Directory) :
    Prop where
  connected : session.ld = true
  carriesOut : ∀ outcome ∈ session.outcomes, outcome.carriedOut = true
  rule : session.rule = rule
  directory : session.directory = directory

namespace Session.On

variable {session : Session} {rule : MatchingRule} {directory : Directory}

theorem allCarriedOut {outcomes : List Outcome}
    (all : ∀ outcome ∈ outcomes, outcome.carriedOut = true) (count : Nat) :
    Ldap.allCarriedOut count outcomes = true := by
  induction count generalizing outcomes with
  | zero => rfl
  | succ count ih =>
      cases outcomes with
      | nil => simpa [Ldap.allCarriedOut, Outcome.carriedOut] using ih all
      | cons outcome rest =>
          have later := ih fun other member => all other (List.mem_cons_of_mem _ member)
          simp [Ldap.allCarriedOut, all outcome List.mem_cons_self, later]

theorem serves (on : session.On rule directory) (count : Nat) :
    session.serves count = true := by
  rw [Session.serves, on.connected, allCarriedOut on.carriesOut]
  rfl

theorem outcome (on : session.On rule directory) : session.outcome.carriedOut = true := by
  have one := allCarriedOut on.carriesOut 1
  simpa [Ldap.allCarriedOut, Session.outcome] using one

theorem acquire (on : session.On rule directory) (acquired : Nat) :
    Session.On { session with acquired } rule directory :=
  ⟨on.connected, on.carriesOut, on.rule, on.directory⟩

theorem release (on : session.On rule directory) (released : Nat) :
    Session.On { session with released } rule directory :=
  ⟨on.connected, on.carriesOut, on.rule, on.directory⟩

theorem send_ok (on : session.On rule directory) {request : Request}
    {attrs : Option Attributes} {after : Directory}
    (answer : session.answer request = .ok (attrs, after)) :
    (send request session).1.1 = ldapSuccess ∧ (send request session).2.On rule after := by
  rw [send_carriedOut on.outcome answer]
  exact ⟨rfl, on.connected, fun outcome member =>
    on.carriesOut outcome (List.mem_of_mem_tail member), on.rule, rfl⟩

theorem send_error (on : session.On rule directory) {request : Request} {rc : ResultCode}
    (answer : session.answer request = .error rc) :
    (send request session).1.1 = rc := by
  rw [send_unanswered on.outcome answer]

theorem renameSync_ok (on : session.On rule directory) {dn newRdn : CString}
    {after : Directory} (renamed : directory.rename rule dn newRdn = .ok after) :
    (renameSync dn newRdn session).1 = ldapSuccess ∧
      (renameSync dn newRdn session).2.On rule after := by
  have answer : session.answer (.rename dn newRdn) = .ok (none, after) := by
    simp [Session.answer, on.rule, on.directory, renamed, Except.map]
  exact on.send_ok answer

theorem renameSync_error (on : session.On rule directory) {dn newRdn : CString}
    {rc : ResultCode} (failed : directory.rename rule dn newRdn = .error rc) :
    (renameSync dn newRdn session).1 = rc := by
  have answer : session.answer (.rename dn newRdn) = .error rc := by
    simp [Session.answer, on.rule, on.directory, failed, Except.map]
  exact on.send_error answer

theorem modifyExt_ok (on : session.On rule directory) {dn : CString} {mods : List LdapMod}
    {after : Directory} (modified : directory.modify rule dn mods = .ok after) :
    (modifyExt dn mods session).1 = ldapSuccess ∧
      (modifyExt dn mods session).2.On rule after := by
  have answer : session.answer (.modify dn mods) = .ok (none, after) := by
    simp [Session.answer, on.rule, on.directory, modified, Except.map]
  exact on.send_ok answer

theorem modifyExt_error (on : session.On rule directory) {dn : CString}
    {mods : List LdapMod} {rc : ResultCode}
    (failed : directory.modify rule dn mods = .error rc) :
    (modifyExt dn mods session).1 = rc := by
  have answer : session.answer (.modify dn mods) = .error rc := by
    simp [Session.answer, on.rule, on.directory, failed, Except.map]
  exact on.send_error answer

theorem searchBase_error (on : session.On rule directory) {dn : CString} {rc : ResultCode}
    (failed : directory.find rule dn = .error rc) : (searchBase dn session).1.1 = rc := by
  have answer : session.answer (.search dn) = .error rc := by
    simp [Session.answer, on.rule, on.directory, failed, Except.map]
  exact on.send_error answer

end Session.On

end Sambervise.Ldap
