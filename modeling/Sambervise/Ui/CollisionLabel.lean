import Sambervise.Backend.Collisions
import Sambervise.Transition.InFlight
import Sambervise.Transition.Run
import Sambervise.Ui.UsersPanel

namespace Sambervise.Ui

open Text Ldap Model Backend Backend.Collisions Transition

/-! The entries for Unix ids with their collision labels, in the users and the groups
panel. Everything that can happen in any order is an event: what the admin does, the
debounce timers, and the completions of the checks in flight. -/

/-- `render_collision_label`; the label is invisible where it is empty. -/
def renderCollisionLabel (hits : List SbvCollisionHit) (kind : String) : CString :=
  if hits = [] then []
  else
    let shown := min hits.length 2
    cstr kind ++ cstr " in use by " ++
      strjoinv (cstr ", ") ((hits.take shown).map fun hit => hit.sam.getD hit.dn) ++
      if shown < hits.length then cstr " (+" ++ formatNat (hits.length - shown) ++ cstr " more)"
      else []

structure CollisionCtx where
  value : GInt64
  check : CheckData
  deriving DecidableEq, Repr

section Fire

variable (selected : Option PosixObject) (text : CString)

def fireUidCheck : CollisionCtx :=
  let uid := strtoll text
  { value := uid, check := sbvCollisionsUidCheck uid (selected.map PosixObject.dn) }

/-- The selected user is no group, so that nobody is left out. -/
def fireGidCheck : CollisionCtx :=
  let gid := strtoll text
  { value := gid, check := sbvCollisionsGidCheck gid none }

def fireGroupGidCheck : CollisionCtx :=
  let gid := strtoll text
  { value := gid, check := sbvCollisionsGidCheck gid (selected.map PosixObject.dn) }

end Fire

inductive IdEntry where
  | usersUid
  | usersGid
  | groupsGid
  deriving DecidableEq, Repr

namespace IdEntry

def kind : IdEntry → IdKind
  | .usersUid => .uid
  | .usersGid | .groupsGid => .gid

def lists : IdEntry → PosixObject → Bool
  | .usersUid, object | .usersGid, object =>
      object.hasClass "user" && !object.hasClass "computer"
  | .groupsGid, object => object.hasClass "group"

def labelKind : IdEntry → String
  | .usersUid => "UID"
  | .usersGid | .groupsGid => "GID"

def fire : IdEntry → Option PosixObject → CString → CollisionCtx
  | .usersUid => fireUidCheck
  | .usersGid => fun _ => fireGidCheck
  | .groupsGid => fireGroupGidCheck

end IdEntry

def loadedText (kind : IdKind) (object : PosixObject) : CString :=
  Users.numberText (firstGInt object.attrs kind.attrName)

/-- It is what the users panel puts into its entries. -/
theorem loadedText_users (calendar : Users.GDateTimeUtc) (object : PosixObject)
    (form : Users.Form) :
    let loaded := Users.loadUserIntoDetail calendar (Users.userOfEntry object.attrs) form
    loaded.text .rfcUid = loadedText .uid object ∧
      loaded.text .rfcGid = loadedText .gid object := by
  rw [Users.userOfEntry_eq]
  exact ⟨rfl, rfl⟩

structure CheckedEntry where
  selected : Option PosixObject := none
  text : CString := []
  timer : Bool := false
  label : CString := []
  inFlight : List CollisionCtx := []
  failed : Bool := false

namespace CheckedEntry

variable (entry : IdEntry) (subtree : Subtree) (session : Session)

/-- The text is set, by typing or by the program; "changed" is emitted if it differs. -/
def setText (self : CheckedEntry) (text : CString) : CheckedEntry :=
  if text = self.text then self else { self with text, timer := true }

/-- `load_user_into_detail`, and `on_row_selected` of the groups panel: the timer the new
text may have started is stopped. -/
def loadIntoDetail (self : CheckedEntry) (object : PosixObject) : CheckedEntry :=
  let self := { self with selected := some object }.setText (loadedText entry.kind object)
  { self with timer := false, label := [] }

def rows : List PosixObject := subtree.objects.filter entry.lists

def fireCheck (self : CheckedEntry) : CheckedEntry :=
  let self := { self with timer := false }
  if self.text = [] then { self with label := [] }
  else { self with inFlight := self.inFlight ++ [entry.fire self.selected self.text] }

def nowVal (self : CheckedEntry) : GInt64 := if self.text = [] then -1 else strtoll self.text

def onCollisionDone (self : CheckedEntry) (ctx : CollisionCtx)
    (hits : Except GError (List SbvCollisionHit)) : CheckedEntry :=
  if self.nowVal = ctx.value then
    match hits with
    | .ok hits => { self with label := renderCollisionLabel hits entry.labelKind }
    | .error _ => { self with label := [], failed := true }
  else
    match hits with
    | .ok _ => self
    | .error _ => { self with failed := true }

inductive Event where
  | rowSelected (row : Nat)
  | typed (text : CString)
  | timeout
  /-- The check at this place among those in flight completes, or fails. -/
  | done (index : Nat) (failure : Option GError)

def answer (ctx : CollisionCtx) : Option GError → Except GError (List SbvCollisionHit)
  | some error => .error error
  | none => (checkThread subtree.tree.search ctx.check session).1

def step (self : CheckedEntry) : Event → CheckedEntry
  | .rowSelected row =>
      match (rows entry subtree)[row]? with
      | none => self
      | some object => self.loadIntoDetail entry object
  | .typed text => self.setText text
  | .timeout => if self.timer then self.fireCheck entry else self
  | .done index failure =>
      match self.inFlight[index]? with
      | none => self
      | some ctx =>
          onCollisionDone entry { self with inFlight := self.inFlight.eraseIdx index } ctx
            (answer subtree session ctx failure)

section

variable (self : CheckedEntry) (text : CString)

@[simp] theorem setText_text : (self.setText text).text = text := by
  unfold setText
  split
  next same =>
    exact same.symm
  · rfl

@[simp] theorem setText_selected : (self.setText text).selected = self.selected := by
  unfold setText
  split
  · rfl
  · rfl

@[simp] theorem setText_inFlight : (self.setText text).inFlight = self.inFlight := by
  unfold setText
  split
  · rfl
  · rfl

end

/-! The label when things settle -/

def holders (id : GInt64) (excludeDn : Option CString) : List PosixObject :=
  otherHolders subtree.objects entry.kind id.toInt excludeDn

def rightLabel (self : CheckedEntry) : CString :=
  if self.text = [] then []
  else
    renderCollisionLabel
      ((holders entry subtree (strtoll self.text) (self.selected.map PosixObject.dn)).map hitOf)
      entry.labelKind

/-- No timer is pending and no check in flight, and the checks that ran succeeded. -/
structure Quiescent (state : CheckedEntry) : Prop where
  timer : state.timer = false
  inFlight : state.inFlight = []
  succeeded : state.failed = false

def SettlesRight (self : CheckedEntry) : Prop :=
  self.Quiescent → self.label = self.rightLabel entry subtree

/-- What does not reach the defects: the id of a row that is selected is held by no other
object, and a check that still matches the entry was made for the object selected, unless
nobody holds its id. -/
def Harmless (self : CheckedEntry) : Event → Prop
  | .rowSelected row =>
      ∀ object ∈ (rows entry subtree)[row]?,
        loadedText entry.kind object = [] ∨
          holders entry subtree (strtoll (loadedText entry.kind object)) (some object.dn) = []
  | .done index _ =>
      ∀ ctx ∈ self.inFlight[index]?, self.nowVal = ctx.value →
        holders entry subtree ctx.value none = [] ∨
          self.text ≠ [] ∧ ctx = entry.fire self.selected self.text
  | _ => True

instance (self : CheckedEntry) : ∀ event, Decidable (self.Harmless entry subtree event)
  | .rowSelected row => inferInstanceAs (Decidable (∀ object ∈ (rows entry subtree)[row]?, _))
  | .done index _ => inferInstanceAs (Decidable (∀ ctx ∈ self.inFlight[index]?, _))
  | .typed _ | .timeout => isTrue trivial

def Pending (self : CheckedEntry) : Prop :=
  self.text ≠ [] ∧ entry.fire self.selected self.text ∈ self.inFlight

structure Invariant (state : CheckedEntry) : Prop where
  own : ∀ ctx ∈ state.inFlight,
    ∃ excludeDn, ctx.check = sbvCollisionsCheck entry.kind ctx.value excludeDn
  listed : ∀ object, state.selected = some object → object ∈ rows entry subtree
  settles : state.failed = true ∨ state.timer = true ∨ state.Pending entry ∨
    state.label = state.rightLabel entry subtree

section

variable {entry : IdEntry} {subtree : Subtree} {session : Session} {self : CheckedEntry}

theorem invariant_opened : Invariant entry subtree {} :=
  { own := by simp
    listed := by simp
    settles := .inr (.inr (.inr rfl)) }

theorem Invariant.settlesRight (holds : self.Invariant entry subtree) :
    self.SettlesRight entry subtree := by
  intro quiescent
  rcases holds.settles with failed | timer | ⟨_, member⟩ | right
  · simp [quiescent.succeeded] at failed
  · simp [quiescent.timer] at timer
  · simp [quiescent.inFlight] at member
  · exact right

theorem fire_value (entry : IdEntry) (selected : Option PosixObject) (text : CString) :
    (entry.fire selected text).value = strtoll text := by
  cases entry with
  | usersUid => rfl
  | usersGid => rfl
  | groupsGid => rfl

theorem answer_cases (subtree : Subtree) (session : Session) {ctx : CollisionCtx}
    {excludeDn : Option CString}
    (own : ctx.check = sbvCollisionsCheck entry.kind ctx.value excludeDn)
    (failure : Option GError) :
    (∃ error, answer subtree session ctx failure = .error error) ∨
      answer subtree session ctx failure =
        .ok ((holders entry subtree ctx.value excludeDn).map hitOf) := by
  cases failure with
  | some error => exact .inl ⟨error, rfl⟩
  | none =>
      rw [answer, own]
      cases connected : session.ld with
      | true => exact .inr (checkThread_tree connected entry.kind ctx.value excludeDn)
      | false =>
          refine .inl ⟨notConnected, ?_⟩
          rw [checkThread, searchFiltered_eq, underLock_apply, if_neg (by simp [connected])]

theorem fire_check (entry : IdEntry) (selected : Option PosixObject) (text : CString) :
    (entry.fire selected text).check = sbvCollisionsCheck entry.kind (strtoll text)
      (if entry = .usersGid then none else selected.map PosixObject.dn) := by
  cases entry with
  | usersUid => rfl
  | usersGid => rfl
  | groupsGid => rfl

/-- To leave out the selected user among the groups makes no difference. -/
theorem holders_usersGid {selected : Option PosixObject}
    (listed : ∀ object, selected = some object → object ∈ rows .usersGid subtree)
    (id : GInt64) :
    holders .usersGid subtree id none =
      holders .usersGid subtree id (selected.map PosixObject.dn) := by
  unfold holders otherHolders
  apply List.filter_congr
  intro object member
  apply decide_eq_decide.mpr
  apply and_congr_right
  intro held
  constructor
  · intro _ same
    obtain ⟨user, chosen, dn⟩ := Option.map_eq_some_iff.mp same
    have row := listed user chosen
    simp only [rows, List.mem_filter, IdEntry.lists, Bool.and_eq_true] at row
    have isUser : object.hasClass "user" = true :=
      subtree.eq_of_dn row.1 member dn ▸ row.2.1
    exact subtree.exclusive object member ⟨isUser, held.1⟩
  · intro _ same
    cases same

theorem answer_fire (session : Session) (listed : ∀ object, self.selected = some object →
      object ∈ rows entry subtree) (failure : Option GError) :
    (∃ error, answer subtree session (entry.fire self.selected self.text) failure =
        .error error) ∨
      answer subtree session (entry.fire self.selected self.text) failure =
        .ok ((holders entry subtree (strtoll self.text)
          (self.selected.map PosixObject.dn)).map hitOf) := by
  have own := fire_check entry self.selected self.text
  rw [← fire_value entry self.selected] at own
  rcases answer_cases subtree session own failure with failed | answered
  · exact .inl failed
  · right
    rw [answered, fire_value]
    by_cases users : entry = .usersGid
    · subst users
      rw [if_pos rfl, holders_usersGid listed]
    · rw [if_neg users]

theorem invariant_setText (holds : self.Invariant entry subtree) (text : CString) :
    (self.setText text).Invariant entry subtree := by
  unfold setText
  split
  · exact holds
  · exact { holds with settles := .inr (.inl rfl) }

theorem invariant_loadIntoDetail (holds : self.Invariant entry subtree)
    {object : PosixObject} (row : object ∈ rows entry subtree)
    (harmless : loadedText entry.kind object = [] ∨
      holders entry subtree (strtoll (loadedText entry.kind object)) (some object.dn) = []) :
    (self.loadIntoDetail entry object).Invariant entry subtree := by
  refine { own := ?_, listed := ?_, settles := .inr (.inr (.inr ?_)) }
  · simpa [loadIntoDetail] using holds.own
  · intro other chosen
    have same : object = other := by simpa [loadIntoDetail] using chosen
    exact same ▸ row
  · rcases harmless with empty | unshared
    · simp [loadIntoDetail, rightLabel, empty]
    · simp [loadIntoDetail, rightLabel, unshared, renderCollisionLabel]

theorem invariant_fireCheck (holds : self.Invariant entry subtree) :
    (self.fireCheck entry).Invariant entry subtree := by
  unfold fireCheck
  dsimp only
  split
  next empty =>
    refine { holds with settles := .inr (.inr (.inr ?_)) }
    simp [rightLabel, empty]
  next typed =>
    refine
      { own := fun ctx member => ?_
        listed := holds.listed
        settles := .inr (.inr (.inl ⟨typed, by simp⟩)) }
    rcases List.mem_append.mp member with earlier | new
    · exact holds.own ctx earlier
    · rw [List.mem_singleton.mp new, fire_value]
      exact ⟨_, fire_check entry self.selected self.text⟩

theorem holders_eq_nil {id : GInt64} (nobody : holders entry subtree id none = [])
    (excludeDn : Option CString) : holders entry subtree id excludeDn = [] := by
  have unheld := (otherHolders_eq_nil_iff subtree.objects entry.kind id.toInt).mp nobody
  apply List.filter_eq_nil_iff.mpr
  intro object member held
  exact unheld object member (of_decide_eq_true held).1

theorem settles_dropped (holds : self.Invariant entry subtree) {index : Nat}
    {ctx : CollisionCtx} (inFlight : self.inFlight[index]? = some ctx)
    (dropped : self.nowVal ≠ ctx.value) :
    let later := { self with inFlight := self.inFlight.eraseIdx index }
    later.failed = true ∨ later.timer = true ∨ later.Pending entry ∨
      later.label = later.rightLabel entry subtree := by
  rcases holds.settles with failed | timer | ⟨typed, member⟩ | right
  · exact .inl failed
  · exact .inr (.inl timer)
  · refine .inr (.inr (.inl ⟨typed, ?_⟩))
    rcases eq_or_mem_completed inFlight member with same | waits
    · rw [← same, fire_value, nowVal, if_neg typed] at dropped
      exact absurd rfl dropped
    · exact waits
  · exact .inr (.inr (.inr right))

theorem answer_matched (session : Session) (holds : self.Invariant entry subtree)
    {index : Nat} {ctx : CollisionCtx} (inFlight : self.inFlight[index]? = some ctx)
    (matched : self.nowVal = ctx.value)
    (harmless : holders entry subtree ctx.value none = [] ∨
      self.text ≠ [] ∧ ctx = entry.fire self.selected self.text)
    (failure : Option GError) :
    (∃ error, answer subtree session ctx failure = .error error) ∨
      ∃ hits, answer subtree session ctx failure = .ok hits ∧
        renderCollisionLabel hits entry.labelKind = self.rightLabel entry subtree := by
  rcases harmless with nobody | ⟨typed, rfl⟩
  · obtain ⟨excludeDn, own⟩ := holds.own ctx (List.mem_of_getElem? inFlight)
    rcases answer_cases subtree session own failure with failed | answered
    · exact .inl failed
    · refine .inr ⟨_, answered, ?_⟩
      rw [holders_eq_nil nobody]
      by_cases empty : self.text = []
      · simp [rightLabel, empty, renderCollisionLabel]
      · rw [nowVal, if_neg empty] at matched
        rw [rightLabel, if_neg empty, matched, holders_eq_nil nobody]
  · rcases answer_fire session holds.listed failure with failed | answered
    · exact .inl failed
    · refine .inr ⟨_, answered, ?_⟩
      rw [rightLabel, if_neg typed]

theorem invariant_onCollisionDone (holds : self.Invariant entry subtree) {index : Nat}
    {ctx : CollisionCtx} (inFlight : self.inFlight[index]? = some ctx)
    (failure : Option GError)
    (harmless : self.nowVal = ctx.value → holders entry subtree ctx.value none = [] ∨
      self.text ≠ [] ∧ ctx = entry.fire self.selected self.text) :
    (onCollisionDone entry { self with inFlight := self.inFlight.eraseIdx index } ctx
      (answer subtree session ctx failure)).Invariant entry subtree := by
  have own : ∀ other ∈ self.inFlight.eraseIdx index,
      ∃ excludeDn, other.check = sbvCollisionsCheck entry.kind other.value excludeDn :=
    fun other member => holds.own other (List.mem_of_mem_eraseIdx member)
  unfold onCollisionDone
  by_cases matched : self.nowVal = ctx.value
  · rw [if_pos (by exact matched)]
    rcases answer_matched session holds inFlight matched (harmless matched) failure with
      ⟨error, failed⟩ | ⟨hits, answered, right⟩
    · rw [failed]
      exact { own, listed := holds.listed, settles := .inl rfl }
    · rw [answered]
      exact { own, listed := holds.listed, settles := .inr (.inr (.inr right)) }
  · rw [if_neg (by exact matched)]
    cases answer subtree session ctx failure with
    | error error => exact { own, listed := holds.listed, settles := .inl rfl }
    | ok hits =>
        exact { own, listed := holds.listed, settles := settles_dropped holds inFlight matched }

theorem invariant_step (holds : self.Invariant entry subtree) (event : Event)
    (harmless : self.Harmless entry subtree event) :
    (step entry subtree session self event).Invariant entry subtree := by
  cases event with
  | rowSelected row =>
      rw [step]
      cases selected : (rows entry subtree)[row]? with
      | none => exact holds
      | some object =>
          exact invariant_loadIntoDetail holds (List.mem_of_getElem? selected)
            (harmless object selected)
  | typed text => exact invariant_setText holds text
  | timeout =>
      rw [step]
      split
      · exact invariant_fireCheck holds
      · exact holds
  | done index failure =>
      rw [step]
      cases inFlight : self.inFlight[index]? with
      | none => exact holds
      | some ctx =>
          exact invariant_onCollisionDone holds inFlight failure (harmless ctx inFlight)

end

/-- Whatever the order of the events, the label is right whenever things settle, as long
as the events are harmless. -/
theorem settlesRight_of_harmless (events : List Event)
    (harmless : Along (step entry subtree session) (Harmless entry subtree) {} events) :
    Throughout (step entry subtree session) (SettlesRight entry subtree) {} events :=
  (throughout_of_along (Invariant entry subtree) (fun _ event holds within =>
    invariant_step holds event within) invariant_opened harmless).mono
      fun _ holds => holds.settlesRight

def labSubtree : Subtree :=
  { objects :=
      [ { dn := cstr "CN=Ann,DC=lab"
          sam := some (cstr "ann")
          classes := [cstr "user"]
          number := fun kind => if kind = .uid then some 10001 else none },
        { dn := cstr "CN=Bob,DC=lab"
          sam := some (cstr "bob")
          classes := [cstr "user"]
          number := fun kind => if kind = .uid then some 10000 else none },
        { dn := cstr "CN=Eve,DC=lab"
          classes := [cstr "user"]
          number := fun kind => if kind = .uid then some 10000 else none } ]
    distinct := by decide
    exclusive := by decide }

def labSession : Session := Session.opened id fun _ => none

/-- Ann is selected, and Bob's id typed for her. -/
def typedOver : List Event := [.rowSelected 0, .typed (cstr "10000"), .timeout, .done 0 none]

theorem settlesRight_of_harmless_lab :
    Throughout (step .usersUid labSubtree labSession) (SettlesRight .usersUid labSubtree) {}
        typedOver ∧
      (run (step .usersUid labSubtree labSession) {} typedOver).label =
        cstr "UID in use by bob, CN=Eve,DC=lab" :=
  ⟨settlesRight_of_harmless .usersUid labSubtree labSession typedOver (by decide), by decide⟩

/-- Bob is selected, who shares his id with Eve, and the label stays empty. -/
theorem label_empty_after_load :
    let loaded := run (step .usersUid labSubtree labSession) {} [.rowSelected 1]
    loaded.Quiescent ∧ loaded.label = [] ∧
      loaded.rightLabel .usersUid labSubtree = cstr "UID in use by CN=Eve,DC=lab" := by
  refine ⟨⟨?_, ?_, ?_⟩, ?_, ?_⟩
  all_goals decide

end CheckedEntry

end Sambervise.Ui
