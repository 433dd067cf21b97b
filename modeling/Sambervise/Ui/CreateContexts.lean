import Sambervise.Ui.CreateDialogs

namespace Sambervise.Ui

open Text Ldap Model Backend Transition

/-! A create dialog's context is freed with its window. -/

namespace CreateCtx

variable {kind : CreateKind}

/-- Nothing comes back to a dialog that is gone. -/
def Awaited (ctx : CreateCtx kind) : Prop := ctx.alive = true ∨ ctx.creating = none

/-- The dialog is not closed while the server is asked. -/
def StaysOpen (ctx : CreateCtx kind) : Event → Prop
  | .closed => ctx.creating = none
  | _ => True

def Completes : Event → Prop
  | .createDone _ => True
  | _ => False

def pending (ctx : CreateCtx kind) : Nat := ctx.creating.toList.length

theorem creating_onCreateDone (ctx : CreateCtx kind) (result : Except GError CString) :
    (ctx.onCreateDone result).creating = ctx.creating := by
  cases result with
  | error error => rfl
  | ok newDn => rfl

theorem handle_createDone {ctx : CreateCtx kind} {creation : Creation}
    (asked : ctx.creating = some creation) (session : Session) :
    ctx.handle (.createDone session) =
      if ctx.alive then
        some ({ ctx with creating := none }.onCreateDone (creation.perform session).1)
      else none := by
  simp only [handle, asked]

theorem staysOpen_iff {ctx : CreateCtx kind} (awaited : ctx.Awaited) (event : Event) :
    ctx.StaysOpen event ↔ ∃ next, ctx.handle event = some next ∧ next.Awaited := by
  cases event with
  | edit change =>
      refine iff_of_true trivial ⟨_, rfl, ?_⟩
      split
      · exact awaited
      · exact awaited
  | createClicked =>
      refine iff_of_true trivial ⟨_, rfl, ?_⟩
      split
      next both =>
        have alive := (Bool.and_eq_true_iff.mp both).1
        unfold onCreateClicked
        split
        · exact .inl alive
        · exact .inl alive
      · exact awaited
  | closed =>
      constructor
      · exact fun nothing => ⟨_, rfl, .inr nothing⟩
      · intro stays
        obtain ⟨next, outcome, settled⟩ := stays
        cases outcome
        exact settled.resolve_left Bool.false_ne_true
  | createDone session =>
      refine iff_of_true trivial ?_
      cases asked : ctx.creating with
      | none => exact ⟨ctx, by simp only [handle, asked], awaited⟩
      | some creation =>
          have alive : ctx.alive = true := awaited.resolve_right (by simp [asked])
          have done := handle_createDone asked session
          rw [if_pos alive] at done
          exact ⟨_, done, .inr (creating_onCreateDone _ _)⟩

theorem awaited_of_handle {ctx next : CreateCtx kind} {event : Event}
    (outcome : ctx.handle event = some next) (awaited : next.Awaited) : ctx.Awaited := by
  cases alive : ctx.alive with
  | true => exact .inl alive
  | false =>
      cases event with
      | edit change =>
          simp only [handle, alive, Bool.false_eq_true, if_false] at outcome
          cases outcome
          exact awaited
      | createClicked =>
          simp only [handle, alive, Bool.false_and, Bool.false_eq_true, if_false] at outcome
          cases outcome
          exact awaited
      | closed =>
          cases outcome
          exact .inr (awaited.resolve_left Bool.false_ne_true)
      | createDone session =>
          cases asked : ctx.creating with
          | none => exact .inr asked
          | some creation =>
              rw [handle_createDone asked, if_neg (by simp [alive])] at outcome
              cases outcome

theorem foreseen : Foreseen (@handle kind) (fun _ => True) Awaited StaysOpen Completes
    pending where
  keeps := fun _ _ => trivial
  exact_step := fun _ awaited => staysOpen_iff awaited _
  persists := fun _ outcome awaited => awaited_of_handle outcome awaited
  completes := by
    intro ctx event complete
    cases event with
    | createDone session => trivial
    | edit | createClicked | closed => cases complete
  settled := by
    intro ctx _ nothing
    exact .inr (Option.toList_eq_nil_iff.mp (List.length_eq_zero_iff.mp nothing))
  progress := by
    intro ctx _ something
    refine ⟨.createDone (.opened id fun _ => none), trivial, fun next outcome => ?_⟩
    cases asked : ctx.creating with
    | none => exact absurd (by rw [pending, asked]; rfl) something
    | some creation =>
        rw [handle_createDone asked] at outcome
        split at outcome
        · cases outcome
          rw [pending, pending, creating_onCreateDone, asked]
          exact Nat.zero_lt_one
        · cases outcome

/-- Whatever the server answers, and whenever it does, an answer finds the dialog's context
exactly in the runs in which the dialog is not closed while the server is asked. -/
theorem answers_find_context_iff (base : Option CString) (events : List Event) :
    Along step (Wherever StaysOpen) (some (start kind base)) events ↔
      ∀ completions, (∀ event ∈ completions, Completes event) →
        (run step (some (start kind base)) (events ++ completions)).isSome = true :=
  foreseen.along_iff_completions trivial (.inl rfl) events

/-- The cancel button does not wait for the server. -/
example :
    run step (some (start .computer (some (cstr "DC=lan"))))
      [ .edit (.cn (cstr "PC01")), .createClicked, .closed,
        .createDone (.opened id fun _ => none) ] = none := rfl

end CreateCtx

end Sambervise.Ui
