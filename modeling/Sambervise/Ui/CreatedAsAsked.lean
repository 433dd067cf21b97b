import Sambervise.Ui.CreateDialogs

namespace Sambervise.Ui

open Text Ldap Model Backend Transition

/-! From the form of a create dialog to what the panels show of the new entry. -/

namespace CreateKind

/-- The panel shows what was filled in; a new account is disabled. -/
def Shown (attrs : Attributes) : (kind : CreateKind) → kind.Form → Prop
  | .user => fun form =>
      let user := Users.userOfEntry attrs
      user.sam = some form.samEntry ∧ user.cn = some form.names.cnEntry ∧
        user.givenName = Creation.typed form.names.givenEntry ∧
        user.sn = Creation.typed form.names.snEntry ∧ user.enabled = false
  | .group => fun form =>
      let detail := Groups.detailOfGroup (Groups.groupOfEntry attrs)
      detail.sam = form.samEntry ∧ detail.desc = form.descEntry ∧
        CreateGroupDialog.scopes[form.scopeDrop]? = some detail.scope ∧
        CreateGroupDialog.types[form.typeDrop]? = some detail.type
  | .computer => fun form =>
      let computer := Computers.computerOfEntry attrs
      computer.sam = some (form.cnEntry ++ cstr "$") ∧ computer.cn = some form.cnEntry ∧
        computer.dnsHostname = Creation.typed form.dnsEntry ∧
        computer.description = Creation.typed form.descEntry ∧ computer.enabled = false
  | .contact => fun form =>
      let contact := Contacts.contactOfEntry attrs
      contact.cn = some form.names.cnEntry ∧
        contact.givenName = Creation.typed form.names.givenEntry ∧
        contact.sn = Creation.typed form.names.snEntry ∧
        contact.mail = Creation.typed form.mailEntry ∧
        contact.telephoneNumber = Creation.typed form.telEntry

/-- The bits for scope and type are read back as the rows of the drop-downs. -/
theorem shown_groupType (scopeIdx : Fin 3) (typeIdx : Fin 2) :
    CreateGroupDialog.scopes[scopeIdx]? =
        some (Groups.groupScopeString (CreateGroupDialog.groupType scopeIdx typeIdx)) ∧
      CreateGroupDialog.types[typeIdx]? =
        some (if CreateGroupDialog.groupType scopeIdx typeIdx &&& 0x80000000 ≠ 0 then "Security"
          else "Distribution") := by
  revert scopeIdx typeIdx
  decide

theorem shown_of_listed {kind : CreateKind} {form : kind.Form} {creation : Creation}
    (asked : kind.request form = .ok creation) {attrs : Attributes}
    (listed : creation.Listed attrs) : kind.Shown attrs form := by
  cases kind with
  | user =>
      simp only [request, CreateUserDialog.onCreateClicked] at asked
      split at asked
      · cases asked
      · cases asked
        unfold Creation.Listed at listed
        simp only [Shown, listed, and_self]
  | group =>
      simp only [request, CreateGroupDialog.onCreateClicked] at asked
      split at asked
      · cases asked
      · cases asked
        obtain ⟨sam, description, groupType⟩ := listed
        have described : orEmpty (Creation.typed form.descEntry) = form.descEntry := by
          by_cases empty : form.descEntry = []
          · rw [Creation.typed, if_pos empty, empty]
            rfl
          · rw [Creation.typed, if_neg empty]
            rfl
        obtain ⟨scope, type⟩ := shown_groupType form.scopeDrop form.typeDrop
        simp only [Shown, Groups.detailOfGroup, sam, description, groupType]
        exact ⟨rfl, described, scope, type⟩
  | computer =>
      simp only [request, CreateComputerDialog.onCreateClicked] at asked
      split at asked
      · cases asked
      · cases asked
        unfold Creation.Listed at listed
        simp only [Shown, listed, and_self]
  | contact =>
      simp only [request, CreateContactDialog.onCreateClicked] at asked
      split at asked
      · cases asked
      · cases asked
        unfold Creation.Listed at listed
        simp only [Shown, listed, and_self]

end CreateKind

namespace CreateCtx

variable {kind : CreateKind} {base : Option CString}

/-- This request is in flight. -/
def Asking (creation : Creation) (state : Option (CreateCtx kind)) : Prop :=
  ∃ ctx, state = some ctx ∧ ctx.creating = some creation

/-- A click after the first events asks for what the form says then, and that is in flight
throughout the events that follow it. -/
def ClickedFor (kind : CreateKind) (base : Option CString) (creation : Creation)
    (clicked : CreateCtx kind) (front between : List Event) : Prop :=
  run step (some (start kind base)) front = some clicked ∧
    clicked.creating = none ∧ kind.request clicked.form = .ok creation ∧
      Throughout step (Asking creation)
        (run step (some (start kind base)) (front ++ [.createClicked])) between

/-- What is asked for, or was created, goes back to the form as it was when the button was
clicked. -/
structure Traced (kind : CreateKind) (base : Option CString) (past : List Event)
    (ctx : CreateCtx kind) : Prop where
  creating : ∀ creation, ctx.creating = some creation → ∃ front between clicked,
    past = front ++ .createClicked :: between ∧
      ClickedFor kind base creation clicked front between
  waiting : ctx.alive = true → ctx.handedOn = []
  free : ctx.alive = true → ctx.createBtn = true → ctx.creating = none
  handedOn : ∀ dn ∈ ctx.handedOn, ctx.handedOn = [dn] ∧
    ∃ front between back session clicked creation,
      past = front ++ .createClicked :: between ++ .createDone session :: back ∧
        ClickedFor kind base creation clicked front between ∧
          (creation.perform session).1 = .ok dn

theorem traced_start : Traced kind base [] (start kind base) where
  creating _ asked := by cases asked
  waiting _ := rfl
  free _ _ := rfl
  handedOn _ member := absurd member List.not_mem_nil

/-- The event changes neither what is asked for nor what was handed on. -/
theorem Traced.idle {past : List Event} {ctx next : CreateCtx kind} {event : Event}
    (traced : Traced kind base past ctx)
    (leads : run step (some (start kind base)) (past ++ [event]) = some next)
    (creating : next.creating = ctx.creating) (handedOn : next.handedOn = ctx.handedOn)
    (closes : next.alive = true → ctx.alive = true)
    (button : next.createBtn = true → ctx.createBtn = true) :
    Traced kind base (past ++ [event]) next where
  creating creation asked := by
    obtain ⟨front, between, clicked, rfl, led, first, request, asking⟩ :=
      traced.creating creation (creating ▸ asked)
    refine ⟨front, between ++ [event], clicked, by simp, led, first, request, ?_⟩
    refine throughout_append.mpr ⟨asking, asking.last, ?_⟩
    refine ⟨next, ?_, asked⟩
    rw [List.append_cons front, run_append, run_append] at leads
    exact leads
  waiting alive := handedOn.trans (traced.waiting (closes alive))
  free alive on := creating.trans (traced.free (closes alive) (button on))
  handedOn dn member := by
    rw [handedOn] at member ⊢
    obtain ⟨single, front, between, back, session, clicked, creation, rfl, rest⟩ :=
      traced.handedOn dn member
    exact ⟨single, front, between, back ++ [event], session, clicked, creation, by simp, rest⟩

theorem Traced.clicked {past : List Event} {ctx : CreateCtx kind}
    (traced : Traced kind base past ctx) (led : run step (some (start kind base)) past = some ctx)
    (leads : run step (some (start kind base)) (past ++ [.createClicked]) =
      some ctx.onCreateClicked) (alive : ctx.alive = true) (on : ctx.createBtn = true) :
    Traced kind base (past ++ [.createClicked]) ctx.onCreateClicked := by
  cases asked : kind.request ctx.form with
  | error text =>
      have refused : ctx.onCreateClicked = { ctx with errorLabel := some (.required text) } := by
        rw [onCreateClicked, asked]
      rw [refused] at leads ⊢
      exact traced.idle leads rfl rfl id id
  | ok creation =>
      have sent : ctx.onCreateClicked =
          { { ctx with errorLabel := none }.setBusy true with creating := some creation } := by
        rw [onCreateClicked, asked]
      rw [sent] at leads ⊢
      refine ⟨fun other same => ?_, fun _ => traced.waiting alive, nofun, fun dn member => ?_⟩
      · cases same
        exact ⟨past, [], ctx, rfl, led, traced.free alive on, asked, _, leads, rfl⟩
      · change dn ∈ ctx.handedOn at member
        rw [traced.waiting alive] at member
        cases member

theorem Traced.done {past : List Event} {ctx : CreateCtx kind}
    (traced : Traced kind base past ctx) {creation : Creation}
    (asked : ctx.creating = some creation) (alive : ctx.alive = true) (session : Session) :
    Traced kind base (past ++ [.createDone session])
      ({ ctx with creating := none }.onCreateDone (creation.perform session).1) := by
  have nothing := traced.waiting alive
  cases result : (creation.perform session).1 with
  | error error =>
      refine ⟨nofun, fun _ => nothing, fun _ _ => rfl, fun dn member => ?_⟩
      change dn ∈ ctx.handedOn at member
      rw [nothing] at member
      cases member
  | ok newDn =>
      refine ⟨nofun, nofun, nofun, fun dn member => ?_⟩
      change dn ∈ ctx.handedOn ++ [newDn] at member
      change ctx.handedOn ++ [newDn] = [dn] ∧ _
      rw [nothing, List.nil_append] at member ⊢
      have same := List.mem_singleton.mp member
      subst same
      obtain ⟨front, between, clicked, rfl, clickedFor⟩ := traced.creating creation asked
      exact ⟨rfl, front, between, [], session, clicked, creation, rfl, clickedFor, result⟩

theorem Traced.handle {past : List Event} {ctx next : CreateCtx kind}
    (traced : Traced kind base past ctx)
    (led : run step (some (start kind base)) past = some ctx) {event : Event}
    (outcome : ctx.handle event = some next) : Traced kind base (past ++ [event]) next := by
  have leads : run step (some (start kind base)) (past ++ [event]) = some next := by
    rw [run_append, led]
    exact outcome
  cases event with
  | edit change =>
      simp only [CreateCtx.handle] at outcome
      cases outcome
      split at leads
      next alive =>
        rw [if_pos alive]
        exact traced.idle leads rfl rfl id id
      next gone =>
        rw [if_neg gone]
        exact traced.idle leads rfl rfl id id
  | createClicked =>
      simp only [CreateCtx.handle] at outcome
      cases outcome
      split at leads
      next both =>
        rw [if_pos both]
        obtain ⟨alive, on⟩ := Bool.and_eq_true_iff.mp both
        exact traced.clicked led leads alive on
      next off =>
        rw [if_neg off]
        exact traced.idle leads rfl rfl id id
  | closed =>
      cases outcome
      exact traced.idle leads rfl rfl nofun id
  | createDone session =>
      simp only [CreateCtx.handle] at outcome
      split at outcome
      · cases outcome
        exact traced.idle leads rfl rfl id id
      next creation asked =>
        split at outcome
        next alive =>
          cases outcome
          exact traced.done asked alive session
        · cases outcome

/-- A dialog hands on one DN at most. It is that of an entry which the server was asked for
with the form as it was when the button was clicked, and as that form says the panels show
the entry from then on, as long as it exists and nobody writes to it. -/
theorem created_as_filled_in {events : List Event} {ctx : CreateCtx kind}
    (reached : run step (some (start kind base)) events = some ctx) {dn : CString}
    (made : dn ∈ ctx.handedOn) :
    ctx.handedOn = [dn] ∧ ∃ front between back session clicked creation,
      events = front ++ .createClicked :: between ++ .createDone session :: back ∧
      ClickedFor kind base creation clicked front between ∧
      (creation.perform session).1 = .ok dn ∧
      (session.Sound → (∀ text ∈ creation.texts, 0 ∉ text) → ∀ turns,
        Along Turn.leaves
            (fun session' turn => turn.Spares session.nextGuid (fun _ => True) session')
            (creation.perform session).2 turns →
          ∀ attrs, (run Turn.leaves (creation.perform session).2 turns).directory.Holds
            session.nextGuid attrs → kind.Shown attrs clicked.form) := by
  have traced := run_attempt_history traced_start
    (fun _ _ _ _ led traced outcome => Traced.handle traced led outcome) reached
  obtain ⟨single, front, between, back, session, clicked, creation, split, asked, created⟩ :=
    traced.handedOn dn made
  refine ⟨single, front, between, back, session, clicked, creation, split, asked, created, ?_⟩
  intro sound plain turns untouched attrs held
  exact CreateKind.shown_of_listed asked.2.2.1
    (Creation.listed_after sound created plain untouched held)

theorem created_as_filled_in_ops :
    let session := { staffSession with directory := fun _ => none }
    let ctx : CreateCtx .group :=
      { form :=
          { samEntry := cstr "ops", containerEntry := cstr "CN=Users,OU=a", typeDrop := 1 }
        alive := false
        handedOn := [cstr "CN=ops,CN=Users,OU=a"] }
    ctx.handedOn = [cstr "CN=ops,CN=Users,OU=a"] ∧
      run step (some (start .group (some (cstr "OU=a"))))
        [ .edit (.sam (cstr "ops")), .edit (.type 1), .createClicked, .createDone session ] =
          some ctx := by
  intro session ctx
  have reached : run step (some (start .group (some (cstr "OU=a"))))
      [ .edit (.sam (cstr "ops")), .edit (.type 1), .createClicked, .createDone session ] =
        some ctx := rfl
  exact ⟨(created_as_filled_in reached List.mem_cons_self).1, reached⟩

end CreateCtx

end Sambervise.Ui
