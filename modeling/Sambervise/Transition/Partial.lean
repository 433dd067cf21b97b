import Sambervise.Transition.Run

namespace Sambervise.Transition

universe u v w x

/-! Machines whose steps may have no result. What is asked for stays pending until it
completes, so a step can make it certain that a later completion has no result. -/

variable {State : Type u} {Event : Type v} (handle : State → Event → Option State)

def attempt (state : Option State) (event : Event) : Option State :=
  state.bind fun state => handle state event

/-- `condition` holds where there is a state. -/
def Wherever (condition : State → Event → Prop) (state : Option State) (event : Event) : Prop :=
  ∀ reached, state = some reached → condition reached event

@[simp] theorem attempt_none (event : Event) : attempt handle none event = none := rfl

theorem run_attempt_none (events : List Event) : run (attempt handle) none events = none := by
  induction events with
  | nil => rfl
  | cons event rest ih => exact ih

theorem run_attempt_cons {state reached : State} {event : Event} {rest : List Event}
    (through : run (attempt handle) (some state) (event :: rest) = some reached) :
    ∃ next, handle state event = some next ∧
      run (attempt handle) (some next) rest = some reached := by
  cases outcome : handle state event with
  | none =>
      rw [run_cons, show attempt handle (some state) event = none from outcome,
        run_attempt_none] at through
      cases through
  | some next =>
      rw [run_cons, show attempt handle (some state) event = some next from outcome] at through
      exact ⟨next, rfl, through⟩

/-- What the events of a run keep, where they have a result, holds at its end. -/
theorem run_attempt_keeps {handle} {within : State → Prop} {events : List Event}
    (keeps : ∀ event ∈ events, ∀ state next, within state → handle state event = some next →
      within next)
    {state reached : State} (initial : within state)
    (through : run (attempt handle) (some state) events = some reached) : within reached := by
  induction events generalizing state with
  | nil =>
      cases through
      exact initial
  | cons event rest ih =>
      obtain ⟨first, later⟩ := List.forall_mem_cons.mp keeps
      obtain ⟨next, outcome, through⟩ := run_attempt_cons handle through
      exact ih later (first state next initial outcome) through

/-- What is kept of the events so far and the state they lead to. -/
theorem run_attempt_history {handle} {property : List Event → State → Prop} {start : State}
    (initial : property [] start)
    (keeps : ∀ past event state next, run (attempt handle) (some start) past = some state →
      property past state → handle state event = some next → property (past ++ [event]) next)
    {events : List Event} {reached : State}
    (through : run (attempt handle) (some start) events = some reached) :
    property events reached := by
  have later (rest : List Event) : ∀ past state,
      run (attempt handle) (some start) past = some state → property past state →
        run (attempt handle) (some state) rest = some reached → property (past ++ rest) reached := by
    induction rest with
    | nil =>
        intro past state led holds through
        cases through
        rw [List.append_nil]
        exact holds
    | cons event rest ih =>
        intro past state led holds through
        obtain ⟨next, outcome, through⟩ := run_attempt_cons handle through
        have leads : run (attempt handle) (some start) (past ++ [event]) = some next := by
          rw [run_append, led]
          exact outcome
        have holds := ih (past ++ [event]) next leads (keeps past event state next led holds outcome)
          through
        rw [List.append_assoc] at holds
        exact holds
  exact later events [] start rfl initial through

theorem throughout_isSome_iff (state : Option State) (events : List Event) :
    Throughout (attempt handle) (fun state => state.isSome = true) state events ↔
      (run (attempt handle) state events).isSome = true := by
  induction events generalizing state with
  | nil => exact Iff.rfl
  | cons event rest ih =>
      rw [Throughout, run_cons, ih]
      refine and_iff_right_of_imp ?_
      intro reached
      cases state with
      | none => rw [attempt_none, run_attempt_none] at reached; cases reached
      | some state => rfl

/-! A result that is within and exactly as sound as the state before -/

section Unchanged

variable {State : Type u} {within sound : State → Prop} {state next : State}
  {result : Option State}

theorem sound_of_unchanged
    (unchanged : ∃ next, result = some next ∧ within next ∧ (sound next ↔ sound state))
    (holds : sound state) : ∃ next, result = some next ∧ sound next := by
  obtain ⟨next, outcome, _, same⟩ := unchanged
  exact ⟨next, outcome, same.mpr holds⟩

theorem kept_of_unchanged
    (unchanged : ∃ next, result = some next ∧ within next ∧ (sound next ↔ sound state))
    (outcome : result = some next) : within next ∧ (sound next → sound state) := by
  obtain ⟨other, reached, kept, same⟩ := unchanged
  have equal : other = next := Option.some.inj (reached.symm.trans outcome)
  rw [← equal]
  exact ⟨kept, same.mp⟩

end Unchanged

/-- `careful` is exactly what a step needs so that no completion of what is pending can fail
any more. -/
structure Foreseen (within sound : State → Prop) (careful : State → Event → Prop)
    (completion : Event → Prop) (pending : State → Nat) : Prop where
  keeps : ∀ {state event next}, within state → handle state event = some next → within next
  exact_step : ∀ {state event}, within state → sound state →
    (careful state event ↔ ∃ next, handle state event = some next ∧ sound next)
  persists : ∀ {state event next}, within state → handle state event = some next →
    sound next → sound state
  completes : ∀ {state event}, completion event → careful state event
  settled : ∀ {state}, within state → pending state = 0 → sound state
  progress : ∀ {state}, within state → pending state ≠ 0 → ∃ event, completion event ∧
    ∀ next, handle state event = some next → pending next < pending state

namespace Foreseen

variable {handle} {within sound : State → Prop} {careful : State → Event → Prop}
  {completion : Event → Prop} {pending : State → Nat}
  (foreseen : Foreseen handle within sound careful completion pending)

include foreseen

/-- A state that is not sound is one from which the completions fail. -/
theorem fails {state : State} (reached : within state) (unsound : ¬ sound state) :
    ∃ completions, (∀ event ∈ completions, completion event) ∧
      run (attempt handle) (some state) completions = none := by
  induction left : pending state using Nat.strongRecOn generalizing state with
  | ind left ih =>
      have something : pending state ≠ 0 := fun nothing =>
        unsound (foreseen.settled reached nothing)
      obtain ⟨event, completes, fewer⟩ := foreseen.progress reached something
      cases outcome : handle state event with
      | none =>
          refine ⟨[event], by simpa using completes, ?_⟩
          simp [attempt, outcome]
      | some next =>
          have still : ¬ sound next := fun sound =>
            unsound (foreseen.persists reached outcome sound)
          obtain ⟨rest, completions, failed⟩ :=
            ih (pending next) (left ▸ fewer next outcome) (foreseen.keeps reached outcome) still rfl
          refine ⟨event :: rest, List.forall_mem_cons.mpr ⟨completes, completions⟩, ?_⟩
          rw [run_cons, show attempt handle (some state) event = some next from outcome]
          exact failed

theorem fails_after {state : State} (reached : within state) (unsound : ¬ sound state)
    (events : List Event) :
    ∃ completions, (∀ event ∈ completions, completion event) ∧
      run (attempt handle) (some state) (events ++ completions) = none := by
  induction events generalizing state with
  | nil => exact foreseen.fails reached unsound
  | cons event rest ih =>
      cases outcome : handle state event with
      | none =>
          refine ⟨[], nofun, ?_⟩
          rw [List.append_nil, run_cons, show attempt handle (some state) event = none from outcome]
          exact run_attempt_none handle rest
      | some next =>
          have still : ¬ sound next := fun sound =>
            unsound (foreseen.persists reached outcome sound)
          obtain ⟨completions, complete, failed⟩ := ih (foreseen.keeps reached outcome) still
          refine ⟨completions, complete, ?_⟩
          rw [List.cons_append, run_cons,
            show attempt handle (some state) event = some next from outcome]
          exact failed

theorem completions_succeed {state : State} (reached : within state)
    {completions : List Event} (complete : ∀ event ∈ completions, completion event)
    (holds : sound state) :
    (run (attempt handle) (some state) completions).isSome = true := by
  induction completions generalizing state with
  | nil => rfl
  | cons event rest ih =>
      obtain ⟨completes, later⟩ := List.forall_mem_cons.mp complete
      obtain ⟨next, outcome, soundNext⟩ :=
        (foreseen.exact_step reached holds).mp (foreseen.completes completes)
      rw [run_cons, show attempt handle (some state) event = some next from outcome]
      exact ih (foreseen.keeps reached outcome) later soundNext

/-- A run is one of careful steps exactly where it and every completion of it go through. -/
theorem along_iff_completions {state : State} (reached : within state) (holds : sound state)
    (events : List Event) :
    Along (attempt handle) (Wherever careful) (some state) events ↔
      ∀ completions, (∀ event ∈ completions, completion event) →
        (run (attempt handle) (some state) (events ++ completions)).isSome = true := by
  induction events generalizing state with
  | nil =>
      refine iff_of_true trivial fun completions complete => ?_
      exact foreseen.completions_succeed reached complete holds
  | cons event rest ih =>
      have first : Wherever careful (some state) event ↔ careful state event :=
        ⟨fun wherever => wherever state rfl, fun cares reached same => Option.some.inj same ▸ cares⟩
      rw [Along, first, foreseen.exact_step reached holds]
      simp only [List.cons_append, run_cons]
      have stepped : attempt handle (some state) event = handle state event := rfl
      rw [stepped]
      cases outcome : handle state event with
      | none =>
          refine iff_of_false (fun both => ?_) fun through => ?_
          · obtain ⟨next, same, _⟩ := both.1
            cases same
          have somewhere := through [] (fun _ member => absurd member List.not_mem_nil)
          rw [List.append_nil, run_attempt_none] at somewhere
          cases somewhere
      | some next =>
          have within := foreseen.keeps reached outcome
          by_cases soundNext : sound next
          · rw [ih within soundNext]
            exact and_iff_right ⟨next, rfl, soundNext⟩
          · refine iff_of_false ?_ ?_
            · intro both
              obtain ⟨⟨other, same, sound⟩, _⟩ := both
              cases same
              exact soundNext sound
            · intro through
              obtain ⟨completions, complete, failed⟩ :=
                foreseen.fails_after within soundNext rest
              have reached := through completions complete
              rw [failed] at reached
              cases reached

end Foreseen

/-! Two machines beside each other -/

section Beside

variable {First : Type u} {Second : Type v} {FirstEvent : Type w} {SecondEvent : Type x}
  (first : First → FirstEvent → Option First) (second : Second → SecondEvent → Option Second)

def beside (state : First × Second) : FirstEvent ⊕ SecondEvent → Option (First × Second)
  | .inl event => (first state.1 event).map fun next => (next, state.2)
  | .inr event => (second state.2 event).map fun next => (state.1, next)

def oneOf (onFirst : First → FirstEvent → Prop) (onSecond : Second → SecondEvent → Prop)
    (state : First × Second) : FirstEvent ⊕ SecondEvent → Prop
  | .inl event => onFirst state.1 event
  | .inr event => onSecond state.2 event

variable {first second} {withinFirst soundFirst : First → Prop}
  {withinSecond soundSecond : Second → Prop} {carefulFirst : First → FirstEvent → Prop}
  {carefulSecond : Second → SecondEvent → Prop} {completesFirst : FirstEvent → Prop}
  {completesSecond : SecondEvent → Prop} {pendingFirst : First → Nat}
  {pendingSecond : Second → Nat}

theorem Foreseen.beside
    (one : Foreseen first withinFirst soundFirst carefulFirst completesFirst pendingFirst)
    (other : Foreseen second withinSecond soundSecond carefulSecond completesSecond
      pendingSecond) :
    Foreseen (beside first second) (fun state => withinFirst state.1 ∧ withinSecond state.2)
      (fun state => soundFirst state.1 ∧ soundSecond state.2)
      (oneOf carefulFirst carefulSecond) (Sum.elim completesFirst completesSecond)
      (fun state => pendingFirst state.1 + pendingSecond state.2) where
  keeps := by
    intro state event next within outcome
    cases event with
    | inl event =>
        obtain ⟨stepped, result, rfl⟩ := Option.map_eq_some_iff.mp outcome
        exact ⟨one.keeps within.1 result, within.2⟩
    | inr event =>
        obtain ⟨stepped, result, rfl⟩ := Option.map_eq_some_iff.mp outcome
        exact ⟨within.1, other.keeps within.2 result⟩
  exact_step := by
    intro state event within sound
    cases event with
    | inl event =>
        rw [oneOf, one.exact_step within.1 sound.1, Transition.beside]
        simp [sound.2]
    | inr event =>
        rw [oneOf, other.exact_step within.2 sound.2, Transition.beside]
        simp [sound.1]
  persists := by
    intro state event next within outcome sound
    cases event with
    | inl event =>
        obtain ⟨stepped, result, rfl⟩ := Option.map_eq_some_iff.mp outcome
        exact ⟨one.persists within.1 result sound.1, sound.2⟩
    | inr event =>
        obtain ⟨stepped, result, rfl⟩ := Option.map_eq_some_iff.mp outcome
        exact ⟨sound.1, other.persists within.2 result sound.2⟩
  completes := by
    intro state event complete
    cases event with
    | inl event => exact one.completes complete
    | inr event => exact other.completes complete
  settled := by
    intro state within nothing
    obtain ⟨none, neither⟩ := Nat.add_eq_zero_iff.mp nothing
    exact ⟨one.settled within.1 none, other.settled within.2 neither⟩
  progress := by
    intro state within something
    by_cases pending : pendingFirst state.1 = 0
    · have later : pendingSecond state.2 ≠ 0 := by omega
      obtain ⟨event, complete, fewer⟩ := other.progress within.2 later
      refine ⟨.inr event, complete, ?_⟩
      intro next outcome
      obtain ⟨stepped, result, rfl⟩ := Option.map_eq_some_iff.mp outcome
      exact Nat.add_lt_add_left (fewer stepped result) _
    · obtain ⟨event, complete, fewer⟩ := one.progress within.1 pending
      refine ⟨.inl event, complete, ?_⟩
      intro next outcome
      obtain ⟨stepped, result, rfl⟩ := Option.map_eq_some_iff.mp outcome
      exact Nat.add_lt_add_right (fewer stepped result) _

end Beside

end Sambervise.Transition
