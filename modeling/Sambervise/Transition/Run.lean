import Mathlib.Tactic.Common

namespace Sambervise.Transition

universe u v

/-! Runs of a deterministic machine that is driven by one event after another.
Everything that can happen in any order is an event, so a statement about every
list of events is a statement about every interleaving. -/

variable {State : Type u} {Event : Type v} (step : State → Event → State)

def run : State → List Event → State
  | state, [] => state
  | state, event :: rest => run (step state event) rest

/-- `condition` holds of every event of the run, read in the state the event
arrives in. -/
def Along (condition : State → Event → Prop) : State → List Event → Prop
  | _, [] => True
  | state, event :: rest =>
      condition state event ∧ Along condition (step state event) rest

/-- `property` holds of the first state and of every state the run reaches. -/
def Throughout (property : State → Prop) : State → List Event → Prop
  | state, [] => property state
  | state, event :: rest =>
      property state ∧ Throughout property (step state event) rest

@[simp] theorem run_nil (state : State) : run step state [] = state := rfl

@[simp] theorem run_cons (state : State) (event : Event) (rest : List Event) :
    run step state (event :: rest) = run step (step state event) rest := rfl

instance Along.decidable (condition : State → Event → Prop)
    [∀ state event, Decidable (condition state event)] :
    ∀ (state : State) (events : List Event),
      Decidable (Along step condition state events)
  | _, [] => isTrue trivial
  | state, event :: rest =>
      @instDecidableAnd _ _ _
        (Along.decidable condition (step state event) rest)

theorem Throughout.mono {step : State → Event → State}
    {strong weak : State → Prop} (implies : ∀ state, strong state → weak state)
    {state : State} {events : List Event}
    (throughout : Throughout step strong state events) :
    Throughout step weak state events := by
  induction events generalizing state with
  | nil => exact implies state throughout
  | cons event rest ih => exact ⟨implies state throughout.1, ih throughout.2⟩

theorem Throughout.first {step : State → Event → State} {property : State → Prop}
    {state : State} {events : List Event}
    (throughout : Throughout step property state events) : property state := by
  cases events with
  | nil => exact throughout
  | cons event rest => exact throughout.1

theorem Throughout.last {step : State → Event → State} {property : State → Prop}
    {state : State} {events : List Event}
    (throughout : Throughout step property state events) :
    property (run step state events) := by
  induction events generalizing state with
  | nil => exact throughout
  | cons event rest ih => exact ih throughout.2

theorem run_append (state : State) (first second : List Event) :
    run step state (first ++ second) = run step (run step state first) second := by
  induction first generalizing state with
  | nil => rfl
  | cons event rest ih => exact ih (step state event)

theorem throughout_append {step : State → Event → State} {property : State → Prop}
    {state : State} {first second : List Event} :
    Throughout step property state (first ++ second) ↔
      Throughout step property state first ∧
        Throughout step property (run step state first) second := by
  induction first generalizing state with
  | nil => exact ⟨fun throughout => ⟨throughout.first, throughout⟩, fun both => both.2⟩
  | cons event rest ih =>
      rw [List.cons_append, Throughout, Throughout, run_cons, ih, and_assoc]

theorem along_of_throughout {step : State → Event → State} {property : State → Prop}
    {condition : State → Event → Prop}
    (holds : ∀ state event, property state → condition state event)
    {state : State} {events : List Event}
    (throughout : Throughout step property state events) :
    Along step condition state events := by
  induction events generalizing state with
  | nil => trivial
  | cons event rest ih => exact ⟨holds state event throughout.1, ih throughout.2⟩

theorem along_of_mem {step : State → Event → State} {condition : State → Event → Prop}
    {events : List Event} (holds : ∀ event ∈ events, ∀ state, condition state event)
    (state : State) : Along step condition state events := by
  induction events generalizing state with
  | nil => trivial
  | cons event rest ih =>
      obtain ⟨here, later⟩ := List.forall_mem_cons.mp holds
      exact ⟨here state, ih later (step state event)⟩

theorem along_of_forall {step : State → Event → State} {condition : State → Event → Prop}
    (holds : ∀ state event, condition state event) (state : State) (events : List Event) :
    Along step condition state events :=
  along_of_mem (fun event _ state => holds state event) state

/-- A run that a condition does not hold along has an event that fails it. -/
theorem exists_of_not_along {step : State → Event → State} {condition : State → Event → Prop}
    {state : State} {events : List Event} (fails : ¬ Along step condition state events) :
    ∃ front event back, events = front ++ event :: back ∧
      ¬ condition (run step state front) event := by
  induction events generalizing state with
  | nil => exact absurd trivial fails
  | cons event rest ih =>
      by_cases here : condition state event
      · have later : ¬ Along step condition (step state event) rest :=
          fun along => fails ⟨here, along⟩
        obtain ⟨front, other, back, rfl, failed⟩ := ih later
        exact ⟨event :: front, other, back, rfl, failed⟩
      · exact ⟨[], event, rest, rfl, here⟩

/-- Two conditions that agree among the states of an invariant agree along a run. -/
theorem along_congr {step : State → Event → State} {first second : State → Event → Prop}
    (within : State → Prop) (keeps : ∀ state event, within state → within (step state event))
    (same : ∀ state event, within state → (first state event ↔ second state event))
    {state : State} (events : List Event) (initial : within state) :
    Along step first state events ↔ Along step second state events := by
  induction events generalizing state with
  | nil => exact Iff.rfl
  | cons event rest ih =>
      rw [Along, Along, same state event initial, ih (keeps state event initial)]

section Invariant

variable {step : State → Event → State} {condition : State → Event → Prop}
  (invariant : State → Prop)

/-- The induction over runs: an invariant that every step within the condition
keeps holds throughout every run whose steps are all within it. -/
theorem throughout_of_along
    (keeps : ∀ state event, invariant state → condition state event →
      invariant (step state event))
    {state : State} {events : List Event} (initial : invariant state)
    (along : Along step condition state events) :
    Throughout step invariant state events := by
  induction events generalizing state with
  | nil => exact initial
  | cons event rest ih =>
      exact ⟨initial, ih (keeps state event initial along.1) along.2⟩

theorem throughout_of_step
    (keeps : ∀ state event, invariant state → invariant (step state event))
    {state : State} (events : List Event) (initial : invariant state) :
    Throughout step invariant state events := by
  induction events generalizing state with
  | nil => exact initial
  | cons event rest ih => exact ⟨initial, ih (keeps state event initial)⟩

theorem run_of_step
    (keeps : ∀ state event, invariant state → invariant (step state event))
    {state : State} (events : List Event) (initial : invariant state) :
    invariant (run step state events) :=
  (throughout_of_step invariant keeps events initial).last

/-- What holds at the end of a run and not at its beginning comes to hold at some event. -/
theorem exists_of_not_first {state : State} {events : List Event}
    (first : ¬ invariant state) (last : invariant (run step state events)) :
    ∃ front event back, events = front ++ event :: back ∧
      ¬ invariant (run step state front) ∧ invariant (run step state (front ++ [event])) := by
  have fails : ¬ Along step (fun state event => ¬ invariant state → ¬ invariant (step state event))
      state events := by
    intro along
    have never := throughout_of_along (fun state => ¬ invariant state)
      (fun state event holds within => within holds) first along
    exact never.last last
  obtain ⟨front, event, back, same, turned⟩ := exists_of_not_along fails
  obtain ⟨before, after⟩ := Classical.not_imp.mp turned
  refine ⟨front, event, back, same, before, ?_⟩
  rw [run_append]
  exact not_not.mp after

/-- Where the condition is exactly what one step needs to keep the invariant, it
is exactly what a run needs. -/
theorem along_iff_throughout
    (exact_step : ∀ state event, invariant state →
      (condition state event ↔ invariant (step state event)))
    {state : State} {events : List Event} (initial : invariant state) :
    Along step condition state events ↔
      Throughout step invariant state events := by
  constructor
  · exact throughout_of_along invariant
      (fun state event holds within => (exact_step state event holds).mp within)
      initial
  · intro throughout
    induction events generalizing state with
    | nil => trivial
    | cons event rest ih =>
        have next : invariant (step state event) := throughout.2.first
        exact ⟨(exact_step state event initial).mpr next, ih next throughout.2⟩

/-- The same where a step is exact only among the states of a second invariant, which
every step keeps. -/
theorem along_iff_throughout_within (within : State → Prop)
    (keeps : ∀ state event, within state → within (step state event))
    (exact_step : ∀ state event, within state → invariant state →
      (condition state event ↔ invariant (step state event)))
    {state : State} {events : List Event} (first : within state)
    (initial : invariant state) :
    Along step condition state events ↔ Throughout step invariant state events := by
  have both : Along step condition state events ↔
      Throughout step (fun state => within state ∧ invariant state) state events := by
    apply along_iff_throughout
    · intro state event holds
      rw [exact_step state event holds.1 holds.2]
      exact (and_iff_right (keeps state event holds.1)).symm
    · exact ⟨first, initial⟩
  rw [both]
  constructor
  · exact Throughout.mono (fun state holds => holds.2)
  · intro throughout
    clear both
    induction events generalizing state with
    | nil => exact ⟨first, throughout⟩
    | cons event rest ih =>
        exact ⟨⟨first, throughout.1⟩,
          ih (keeps state event first) throughout.2.first throughout.2⟩

/-- Where the condition is exactly what one step needs to do both, keep the invariant and
have a second condition, it is exactly what a run needs. -/
theorem along_and_throughout_iff {both : State → Event → Prop} (within : State → Prop)
    (keeps : ∀ state event, within state → within (step state event))
    (exact_step : ∀ state event, within state → invariant state →
      (both state event ↔ condition state event ∧ invariant (step state event)))
    {state : State} (events : List Event) (first : within state) (initial : invariant state) :
    Along step condition state events ∧ Throughout step invariant state events ↔
      Along step both state events := by
  induction events generalizing state with
  | nil => exact iff_of_true ⟨trivial, initial⟩ trivial
  | cons event rest ih =>
      have next := exact_step state event first initial
      constructor
      · rintro ⟨⟨here, later⟩, _, throughout⟩
        have after : invariant (step state event) := throughout.first
        exact ⟨next.mpr ⟨here, after⟩, (ih (keeps state event first) after).mp
          ⟨later, throughout⟩⟩
      · rintro ⟨here, later⟩
        obtain ⟨now, after⟩ := next.mp here
        obtain ⟨along, throughout⟩ := (ih (keeps state event first) after).mpr later
        exact ⟨⟨now, along⟩, initial, throughout⟩

/-- A weaker property that holds of every state reached, where the invariant can only be
lost together with it. -/
theorem throughout_strengthen {weak : State → Prop}
    (regains : ∀ state event, invariant state → weak (step state event) →
      invariant (step state event))
    {state : State} {events : List Event} (initial : invariant state)
    (throughout : Throughout step weak state events) :
    Throughout step invariant state events := by
  induction events generalizing state with
  | nil => exact initial
  | cons event rest ih =>
      exact ⟨initial, ih (regains state event initial throughout.2.first) throughout.2⟩

/-- Where, as long as the invariant holds, the condition is one on the event alone, and the
events within it keep the invariant. -/
theorem along_iff_forall (within : Event → Prop)
    (keeps : ∀ state event, invariant state → within event → invariant (step state event))
    (exact_step : ∀ state event, invariant state → (condition state event ↔ within event))
    {state : State} {events : List Event} (initial : invariant state) :
    Along step condition state events ↔ ∀ event ∈ events, within event := by
  induction events generalizing state with
  | nil => exact iff_of_true trivial nofun
  | cons event rest ih =>
      rw [Along, List.forall_mem_cons, exact_step state event initial]
      exact and_congr_right (fun holds => ih (keeps state event initial holds))

end Invariant

end Sambervise.Transition
