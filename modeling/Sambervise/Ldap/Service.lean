import Sambervise.Ldap.Session
import Sambervise.Transition.Script

namespace Sambervise.Ldap

open Text Transition

/-! The server as a service that one request after another is put to. -/

abbrev Task := Script Request (Option Attributes)

/-- One request: a reply where it succeeds, and for a search the attributes in it. -/
def Session.serve (request : Request) (session : Session) :
    Option (Option Attributes) × Session :=
  let (reply, after) := send request session
  (if reply.1 = ldapSuccess then some reply.2 else none, after)

theorem Session.serve_succeeded {request : Request} {session : Session}
    (success : (send request session).1.1 = ldapSuccess) :
    session.serve request = (some (send request session).1.2, (send request session).2) :=
  Prod.ext (if_pos success) rfl

theorem Session.serve_failed {request : Request} {session : Session}
    (failure : (send request session).1.1 ≠ ldapSuccess) :
    session.serve request = (none, (send request session).2) :=
  Prod.ext (if_neg failure) rfl

def Session.step (session : Session) (request : Request) : Session :=
  Script.served Session.serve session request

theorem Session.step_eq (session : Session) (request : Request) :
    session.step request = (send request session).2 := rfl

theorem Session.sent_step (session : Session) (request : Request) :
    (session.step request).sent = session.sent ++ [request] := sent_send request session

theorem Session.sent_run (session : Session) (requests : List Request) :
    (run Session.step session requests).sent = session.sent ++ requests := by
  induction requests generalizing session with
  | nil => exact (List.append_nil _).symm
  | cons request rest ih =>
      rw [run_cons, ih, session.sent_step, List.append_assoc, List.singleton_append]

theorem Session.rule_step (session : Session) (request : Request) :
    (session.step request).rule = session.rule := rule_send request session

theorem Session.nextGuid_step (session : Session) (request : Request) :
    (session.step request).nextGuid = session.nextGuid + 1 := by
  rw [Session.step_eq]
  unfold send
  split
  · rfl
  · split
    · rfl
    · rfl

/-- What a request does to the directory: nothing, or what the server answers it with. -/
theorem Session.directory_step (session : Session) (request : Request) :
    (session.step request).directory = session.directory ∨
      ∃ attrs directory, session.answer request = .ok (attrs, directory) ∧
        (session.step request).directory = directory := by
  rw [Session.step_eq]
  unfold send
  split
  · exact .inl rfl
  · split
    · exact .inl rfl
    next attrs directory answer =>
      exact .inr ⟨attrs, directory, answer, rfl⟩

/-- After `before`, the server has dealt with the request in one way or another. -/
structure Session.Answers (before : Session) (request : Request) (after : Session) :
    Prop where
  rule : after.rule = before.rule
  nextGuid : after.nextGuid = before.nextGuid + 1
  directory : after.directory = before.directory ∨
    ∃ attrs, before.answer request = .ok (attrs, after.directory)

theorem Session.answers_step (session : Session) (request : Request) :
    session.Answers request (session.step request) := by
  refine ⟨session.rule_step request, session.nextGuid_step request, ?_⟩
  rcases session.directory_step request with same | ⟨attrs, directory, answer, same⟩
  · exact .inl same
  · exact .inr ⟨attrs, by rw [same, answer]⟩

/-- A request that another client puts to the same server. -/
def Session.foreign (session : Session) (request : Request) : Session :=
  { session with
    directory :=
      match session.answer request with
      | .error _ => session.directory
      | .ok (_, directory) => directory
    nextGuid := session.nextGuid + 1 }

theorem Session.answers_foreign (session : Session) (request : Request) :
    session.Answers request (session.foreign request) := by
  refine ⟨rfl, rfl, ?_⟩
  unfold Session.foreign
  cases answer : session.answer request with
  | error rc => exact .inl rfl
  | ok found => exact .inr ⟨found.1, rfl⟩

/-! The lock is not the server's business -/

/-- The session without the counts of its lock. -/
def Session.unlocked (session : Session) : Session :=
  { session with acquired := 0, released := 0 }

theorem Session.eq_of_unlocked {α : Type*} {session other : Session}
    (same : session.unlocked = other.unlocked) (read : Session → α)
    (free : ∀ session, read session.unlocked = read session) : read session = read other := by
  rw [← free session, ← free other, same]

theorem send_lock (request : Request) (session : Session) (acquired released : Nat) :
    send request { session with acquired, released } =
      ((send request session).1, { (send request session).2 with acquired, released }) := by
  have answer :
      Session.answer { session with acquired, released } request = session.answer request := by
    cases request with
    | search | query | whoami | modify | rename | add | delete => rfl
  have outcome : Session.outcome { session with acquired, released } = session.outcome := rfl
  unfold send
  rw [answer, outcome]
  cases session.outcome with
  | refused rc failure => rfl
  | served | withheldValues | withheldEntry =>
      cases session.answer request with
      | error rc => rfl
      | ok found => rfl

theorem serve_lock (request : Request) (session : Session) (acquired released : Nat) :
    Session.serve request { session with acquired, released } =
      ((session.serve request).1, { (session.serve request).2 with acquired, released }) := by
  unfold Session.serve
  rw [send_lock]
  rfl

theorem follow_lock (task : Task) (session : Session) (acquired released : Nat) :
    task.follow Session.serve { session with acquired, released } =
      { task.follow Session.serve session with acquired, released } := by
  induction task generalizing session with
  | done | giveUp => rfl
  | ask request next ih =>
      rw [Script.follow, Script.follow, serve_lock]
      cases session.serve request with
      | mk reply after =>
          cases reply with
          | none => rfl
          | some reply => exact ih reply after

theorem completes_lock (task : Task) (session : Session) (acquired released : Nat) :
    task.completes Session.serve { session with acquired, released } =
      task.completes Session.serve session := by
  induction task generalizing session with
  | done | giveUp => rfl
  | ask request next ih =>
      rw [Script.completes, Script.completes, serve_lock]
      cases session.serve request with
      | mk reply after =>
          cases reply with
          | none => rfl
          | some reply => exact ih reply after

end Sambervise.Ldap
