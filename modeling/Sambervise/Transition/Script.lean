import Mathlib.Data.List.Forall2
import Sambervise.Transition.Run

namespace Sambervise.Transition

universe u v w

/-! Clients of a service that ask for one thing after another and stop at the first
request that fails. What a client asks for next may depend on the replies it got. -/

inductive Script (Request : Type u) (Reply : Type v) where
  | done
  | giveUp
  | ask (request : Request) (next : Reply → Script Request Reply)

namespace Script

variable {Request : Type u} {Reply : Type v} {State : Type w}

/-- The requests of the script are all of the kind given. -/
def All (allowed : Request → Prop) : Script Request Reply → Prop
  | done | giveUp => True
  | ask request next => allowed request ∧ ∀ reply, (next reply).All allowed

/-- No way through the script makes more requests than this. -/
def Within : Script Request Reply → Nat → Prop
  | done, _ | giveUp, _ => True
  | ask _ _, 0 => False
  | ask _ next, count + 1 => ∀ reply, (next reply).Within count

variable (serve : Request → State → Option Reply × State)

/-- What the script leaves behind. -/
def follow : Script Request Reply → State → State
  | done, state | giveUp, state => state
  | ask request next, state =>
      match serve request state with
      | (none, after) => after
      | (some reply, after) => (next reply).follow after

/-- The script came to its end, and no request failed. -/
def completes : Script Request Reply → State → Bool
  | done, _ => true
  | giveUp, _ => false
  | ask request next, state =>
      match serve request state with
      | (none, _) => false
      | (some reply, after) => (next reply).completes after

def asked : Script Request Reply → State → List Request
  | done, _ | giveUp, _ => []
  | ask request next, state =>
      request ::
        match serve request state with
        | (none, _) => []
        | (some reply, after) => (next reply).asked after

/-- The service as a machine that requests drive. -/
def served (state : State) (request : Request) : State := (serve request state).2

theorem follow_eq_run (script : Script Request Reply) (state : State) :
    script.follow serve state = run (served serve) state (script.asked serve state) := by
  induction script generalizing state with
  | done | giveUp => rfl
  | ask request next ih =>
      rw [follow, asked, run_cons, served]
      cases answer : serve request state with
      | mk reply after =>
          cases reply with
          | none => rfl
          | some reply => exact ih reply after

theorem length_asked_le {script : Script Request Reply} {count : Nat}
    (within : script.Within count) (state : State) :
    (script.asked serve state).length ≤ count := by
  induction script generalizing count state with
  | done | giveUp => exact Nat.zero_le count
  | ask request next ih =>
      cases count with
      | zero => exact absurd within id
      | succ count =>
          rw [asked, List.length_cons]
          refine Nat.succ_le_succ ?_
          split
          · exact Nat.zero_le count
          next reply after answer =>
            exact ih reply (within reply) after

theorem All.of_mem_asked {allowed : Request → Prop} {script : Script Request Reply}
    (all : script.All allowed) {state : State} {request : Request}
    (member : request ∈ script.asked serve state) : allowed request := by
  induction script generalizing state with
  | done | giveUp => cases member
  | ask first next ih =>
      rw [asked] at member
      rcases List.mem_cons.mp member with rfl | later
      · exact all.1
      · split at later
        · cases later
        next reply after answer =>
          exact ih reply (all.2 reply) later

/-! Many clients, one after another -/

variable {Client : Type*} (script : Client → State → Script Request Reply)

def attend (state : State) (client : Client) : State :=
  (script client state).follow serve state

/-- What each client of a run asks for in its turn. -/
def batches : State → List Client → List (List Request)
  | _, [] => []
  | state, client :: rest =>
      (script client state).asked serve state :: batches (attend serve script state client) rest

/-- A run of clients is a run of the service. -/
theorem run_attend (state : State) (clients : List Client) :
    run (attend serve script) state clients =
      run (served serve) state (batches serve script state clients).flatten := by
  induction clients generalizing state with
  | nil => rfl
  | cons client rest ih =>
      rw [run_cons, ih, batches, List.flatten_cons, run_append, attend, follow_eq_run]

/-- What the clients ask for, where their scripts are known among the states of an
invariant. -/
theorem forall₂_batches {allowed : Client → Request → Prop} {count : Nat}
    (invariant : State → Prop)
    (keeps : ∀ client state, invariant state → invariant (attend serve script state client))
    (all : ∀ client state, invariant state → (script client state).All (allowed client))
    (within : ∀ client state, (script client state).Within count)
    {state : State} (initial : invariant state) (clients : List Client) :
    List.Forall₂
      (fun client batch => batch.length ≤ count ∧ ∀ request ∈ batch, allowed client request)
      clients (batches serve script state clients) := by
  induction clients generalizing state with
  | nil => exact .nil
  | cons client rest ih =>
      refine .cons ⟨?_, ?_⟩ (ih (keeps client state initial))
      · exact length_asked_le serve (within client state) state
      · intro request member
        exact (all client state initial).of_mem_asked serve member

end Script

end Sambervise.Transition
