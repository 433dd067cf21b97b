import Sambervise.Ui.CreateDialogs

namespace Sambervise.Ui

open Text Model Backend Transition

/-! The full name that the dialogs for users and contacts put together. -/

namespace CreateEdit

def cnText : CreateEdit → Option CString
  | .cn text => some text
  | _ => none

def givenText : CreateEdit → Option CString
  | .given text => some text
  | _ => none

def snText : CreateEdit → Option CString
  | .sn text => some text
  | _ => none

def isNamePart (change : CreateEdit) : Bool := change.givenText.isSome || change.snText.isSome

end CreateEdit

/-! What the entries are to show after a list of changes, the latest first -/

/-- The text last typed into an entry, which was empty at first. -/
def lastText (text : CreateEdit → Option CString) (latest : List CreateEdit) : CString :=
  (latest.findSome? text).getD []

def namesCombined (latest : List CreateEdit) : CString :=
  NameEntries.combined (lastText CreateEdit.givenText latest)
    (lastText CreateEdit.snText latest)

/-- What was typed as the full name, if it was not cleared again, else the first and the
last name, once one of them has changed since. -/
def fullName (latest : List CreateEdit) : CString :=
  if lastText CreateEdit.cnText latest ≠ [] then lastText CreateEdit.cnText latest
  else if (latest.takeWhile fun change => change.cnText.isNone).any CreateEdit.isNamePart then
    namesCombined latest
  else []

section LastText

variable {text : CreateEdit → Option CString} {change : CreateEdit} {earlier : List CreateEdit}

theorem lastText_of_some {value : CString} (typed : text change = some value) :
    lastText text (change :: earlier) = value := by
  rw [lastText, List.findSome?_cons, typed]
  rfl

theorem lastText_of_none (untyped : text change = none) :
    lastText text (change :: earlier) = lastText text earlier := by
  rw [lastText, List.findSome?_cons, untyped]
  rfl

theorem fullName_namePart (other : change.cnText = none) (part : change.isNamePart = true) :
    fullName (change :: earlier) =
      if lastText CreateEdit.cnText earlier ≠ [] then lastText CreateEdit.cnText earlier
      else namesCombined (change :: earlier) := by
  rw [fullName, lastText_of_none other, List.takeWhile_cons, other]
  simp [part]

theorem fullName_other (other : change.cnText = none) (given : change.givenText = none)
    (sn : change.snText = none) : fullName (change :: earlier) = fullName earlier := by
  rw [fullName, fullName, lastText_of_none other, List.takeWhile_cons, other, namesCombined,
    lastText_of_none given, lastText_of_none sn, ← namesCombined]
  simp [CreateEdit.isNamePart, given, sn]

theorem fullName_cn (typed : CString) :
    fullName (.cn typed :: earlier) = typed := by
  rw [fullName, lastText_of_some rfl]
  split
  · rfl
  next empty =>
    exact (not_not.mp empty).symm

end LastText

namespace NameEntries

/-- The entries are as the changes are to leave them. -/
structure Follows (ctx : NameEntries) (latest : List CreateEdit) : Prop where
  givenEntry : ctx.givenEntry = lastText CreateEdit.givenText latest
  snEntry : ctx.snEntry = lastText CreateEdit.snText latest
  cnEntry : ctx.cnEntry = fullName latest
  idle : ctx.syncing = false
  cnManual : ctx.cnManual = decide (lastText CreateEdit.cnText latest ≠ [])

theorem Follows.opened : Follows {} [] := ⟨rfl, rfl, rfl, rfl, rfl⟩

theorem onNamePartChanged_eq {ctx : NameEntries} (idle : ctx.syncing = false) :
    ctx.onNamePartChanged =
      if ctx.cnManual then ctx
      else { ctx with cnEntry := combined ctx.givenEntry ctx.snEntry } := by
  unfold onNamePartChanged
  split
  · rfl
  · simp [setCn, onCnChanged, idle]

/-- A name part was changed to what the history says. -/
theorem follows_onNamePartChanged {ctx : NameEntries} {earlier : List CreateEdit}
    {change : CreateEdit} (part : change.isNamePart = true) (other : change.cnText = none)
    (given : ctx.givenEntry = lastText CreateEdit.givenText (change :: earlier))
    (sn : ctx.snEntry = lastText CreateEdit.snText (change :: earlier))
    (cn : ctx.cnEntry = fullName earlier) (idle : ctx.syncing = false)
    (manual : ctx.cnManual = decide (lastText CreateEdit.cnText earlier ≠ [])) :
    ctx.onNamePartChanged.Follows (change :: earlier) := by
  have untouched := @lastText_of_none CreateEdit.cnText change earlier other
  rw [onNamePartChanged_eq idle, manual]
  by_cases typed : lastText CreateEdit.cnText earlier = []
  · rw [if_neg (by simp [typed])]
    refine ⟨given, sn, ?_, idle, ?_⟩
    · rw [fullName_namePart other part, if_neg (not_not.mpr typed), namesCombined, ← given,
        ← sn]
    · rw [untouched]
  · rw [if_pos (by simp [typed])]
    refine ⟨given, sn, ?_, idle, ?_⟩
    · rw [fullName_namePart other part, if_pos typed, cn, fullName, if_pos typed]
    · rw [untouched]
      exact manual

theorem Follows.edit {ctx : NameEntries} {latest : List CreateEdit} (follows : ctx.Follows latest)
    (change : CreateEdit) : (ctx.edit change).Follows (change :: latest) := by
  cases change with
  | given text =>
      exact follows_onNamePartChanged rfl rfl rfl follows.snEntry follows.cnEntry follows.idle
        follows.cnManual
  | sn text =>
      exact follows_onNamePartChanged rfl rfl follows.givenEntry rfl follows.cnEntry
        follows.idle follows.cnManual
  | cn text =>
      have changed : ctx.edit (.cn text) =
          { ctx with cnEntry := text, cnManual := decide (text ≠ []) } := by
        simp [NameEntries.edit, setCn, onCnChanged, follows.idle]
      rw [changed]
      exact ⟨follows.givenEntry, follows.snEntry, (fullName_cn text).symm, follows.idle, rfl⟩
  | sam _ | dns _ | desc _ | mail _ | tel _ | container _ | scope _ | type _ =>
      exact ⟨follows.givenEntry, follows.snEntry,
        follows.cnEntry.trans (fullName_other rfl rfl rfl).symm, follows.idle, follows.cnManual⟩

end NameEntries

/-! Whole runs of the dialogs -/

/-- The entries of the dialogs that have a full name. -/
def CreateKind.names : (kind : CreateKind) → kind.Form → Option NameEntries
  | .user => fun form => some form.names
  | .group => fun _ => none
  | .computer => fun _ => none
  | .contact => fun form => some form.names

namespace CreateKind

variable {kind : CreateKind} {form : kind.Form} {names : NameEntries}

theorem names_opened (base : Option CString) (has : kind.names (kind.opened base) = some names) :
    names = {} := by
  cases kind with
  | user | contact => exact (Option.some.inj has).symm
  | group | computer => cases has

theorem names_edit (change : CreateEdit) (has : kind.names (kind.edit change form) = some names) :
    ∃ before, kind.names form = some before ∧ names = before.edit change := by
  cases kind with
  | user =>
      refine ⟨form.names, rfl, (Option.some.inj has).symm.trans ?_⟩
      cases change <;> rfl
  | contact =>
      refine ⟨form.names, rfl, (Option.some.inj has).symm.trans ?_⟩
      cases change <;> rfl
  | group | computer => cases has

theorem name_of_request {creation : Creation} (has : kind.names form = some names)
    (asked : kind.request form = .ok creation) : creation.name = names.cnEntry := by
  cases kind with
  | user =>
      cases has
      simp only [request, CreateUserDialog.onCreateClicked] at asked
      split at asked
      · cases asked
      · cases asked
        rfl
  | contact =>
      cases has
      simp only [request, CreateContactDialog.onCreateClicked] at asked
      split at asked
      · cases asked
      · cases asked
        rfl
  | group | computer => cases has

end CreateKind

namespace CreateCtx

def Event.change : Event → Option CreateEdit
  | .edit change => some change
  | _ => none

variable {kind : CreateKind}

theorem form_onCreateClicked (ctx : CreateCtx kind) : ctx.onCreateClicked.form = ctx.form := by
  unfold onCreateClicked
  split
  · rfl
  · rfl

theorem form_onCreateDone (ctx : CreateCtx kind) (result : Except GError CString) :
    (ctx.onCreateDone result).form = ctx.form := by
  cases result with
  | error error => rfl
  | ok newDn => rfl

theorem alive_onCreateClicked (ctx : CreateCtx kind) :
    ctx.onCreateClicked.alive = ctx.alive := by
  unfold onCreateClicked
  split
  · rfl
  · rfl

/-- An open dialog was open before, and its form changes with the edits alone. -/
theorem form_handle {ctx next : CreateCtx kind} {event : Event}
    (outcome : ctx.handle event = some next) (opened : next.alive = true) :
    ctx.alive = true ∧
      next.form = (event.change.map fun change => kind.edit change ctx.form).getD ctx.form := by
  cases event with
  | edit change =>
      simp only [handle] at outcome
      cases outcome
      split at opened
      next alive =>
        rw [if_pos alive]
        exact ⟨alive, rfl⟩
      next closed =>
        exact absurd opened closed
  | createClicked =>
      simp only [handle] at outcome
      cases outcome
      split at opened
      next both =>
        rw [if_pos both]
        exact ⟨(alive_onCreateClicked ctx).symm.trans opened, form_onCreateClicked ctx⟩
      next idle =>
        rw [if_neg idle]
        exact ⟨opened, rfl⟩
  | closed =>
      cases outcome
      cases opened
  | createDone session =>
      simp only [handle] at outcome
      split at outcome
      · cases outcome
        exact ⟨opened, rfl⟩
      · split at outcome
        next alive =>
          cases outcome
          exact ⟨alive, form_onCreateDone _ _⟩
        · cases outcome

/-- The name entries of an open dialog are as the changes are to leave them. -/
def Recorded (ctx : CreateCtx kind) (latest : List CreateEdit) : Prop :=
  ctx.alive = true → ∀ names, kind.names ctx.form = some names → names.Follows latest

theorem recorded_start (base : Option CString) : (start kind base).Recorded [] := by
  intro _ names has
  rw [CreateKind.names_opened base has]
  exact .opened

theorem recorded_handle {ctx next : CreateCtx kind} {past : List Event}
    (recorded : ctx.Recorded (past.filterMap Event.change).reverse) {event : Event}
    (outcome : ctx.handle event = some next) :
    next.Recorded ((past ++ [event]).filterMap Event.change).reverse := by
  intro opened names has
  obtain ⟨alive, form⟩ := form_handle outcome opened
  rw [form] at has
  rw [List.filterMap_append, List.reverse_append]
  cases changed : event.change with
  | none =>
      rw [changed] at has
      rw [List.filterMap_cons_none changed]
      exact recorded alive names has
  | some change =>
      rw [changed] at has
      rw [List.filterMap_cons_some changed]
      obtain ⟨before, had, rfl⟩ := CreateKind.names_edit change has
      exact (recorded alive before had).edit change

/-- A user or a contact that an open dialog asks for has the full name that was typed last,
or else the one that is put together, and so has the entry that shows it. -/
theorem full_name_asked {base : Option CString} {events : List Event} {ctx : CreateCtx kind}
    (reached : run step (some (start kind base)) events = some ctx)
    (alive : ctx.alive = true) {names : NameEntries} (has : kind.names ctx.form = some names) :
    names.cnEntry = fullName (events.filterMap Event.change).reverse ∧
      ∀ creation, kind.request ctx.form = .ok creation →
        creation.name = fullName (events.filterMap Event.change).reverse := by
  have recorded := @run_attempt_history _ _ _
    (fun past ctx => ctx.Recorded (past.filterMap Event.change).reverse) _
    (recorded_start base) (fun _ _ _ _ _ recorded outcome => recorded_handle recorded outcome)
    _ _ reached
  have follows := recorded alive names has
  refine ⟨follows.cnEntry, fun creation asked => ?_⟩
  exact (CreateKind.name_of_request has asked).trans follows.cnEntry

/-- The full name was typed between the first and the last name. -/
theorem full_name_asked_ada :
    fullName [.sn (cstr "Lovelace"), .cn (cstr "A. Byron"), .given (cstr "Ada")] =
      cstr "A. Byron" := by
  have reached : run step (some (start .contact (some (cstr "DC=lan"))))
      [ .edit (.given (cstr "Ada")), .edit (.cn (cstr "A. Byron")),
        .edit (.sn (cstr "Lovelace")) ] =
      some
        { start .contact (some (cstr "DC=lan")) with
          form :=
            { CreateContactDialog.opened (some (cstr "DC=lan")) with
              names :=
                { givenEntry := cstr "Ada", snEntry := cstr "Lovelace"
                  cnEntry := cstr "A. Byron", cnManual := true } } } := rfl
  exact (full_name_asked reached rfl rfl).1.symm

end CreateCtx

end Sambervise.Ui
