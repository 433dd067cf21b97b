import Sambervise.Transition.Run
import Sambervise.Ui.Window

namespace Sambervise.Ui

open Transition

/-! The references to the connections, through the three ways to a connection -/

/-- The books: the count of each connection, and what holds a reference to it. -/
structure RefBooks where
  nextConn : ConnId := 0
  refs : ConnId → Int := fun _ => 0
  /-- The running tasks that have the connection as their source. -/
  tasks : ConnId → Nat := fun _ => 0
  /-- `pending_conn` of the dialog that is open. -/
  pendingConn : Option ConnId := none
  window : Option ConnId := none

inductive RefOp where
  | connectionNew
  | keepPending (conn : ConnId)
  | clearPending
  | taskStarts (conn : ConnId)
  | taskEnds (conn : ConnId)
  | setWindow (conn : ConnId)
  | unref (conn : ConnId)
  deriving DecidableEq, Repr

namespace RefBooks

def ref (self : RefBooks) (conn : ConnId) : RefBooks :=
  { self with refs := Function.update self.refs conn (self.refs conn + 1) }

def unref (self : RefBooks) (conn : ConnId) : RefBooks :=
  { self with refs := Function.update self.refs conn (self.refs conn - 1) }

def setTasks (self : RefBooks) (conn : ConnId) (tasks : Nat) : RefBooks :=
  { self with tasks := Function.update self.tasks conn tasks }

/-- A reference that is dropped is dropped after the one that takes its place is taken. -/
def step (self : RefBooks) : RefOp → RefBooks
  | .connectionNew => { self.ref self.nextConn with nextConn := self.nextConn + 1 }
  | .keepPending conn => { self with pendingConn := some conn }
  | .clearPending =>
      match self.pendingConn with
      | none => self
      | some pending => { self.unref pending with pendingConn := none }
  | .taskStarts conn => (self.ref conn).setTasks conn (self.tasks conn + 1)
  | .taskEnds conn =>
      match self.tasks conn with
      | 0 => self
      | tasks + 1 => (self.unref conn).setTasks conn tasks
  | .setWindow conn =>
      let self := self.ref conn
      match self.window with
      | none => { self with window := some conn }
      | some old => { self.unref old with window := some conn }
  | .unref conn => self.unref conn

/-- What a field that may hold a connection counts for. -/
def held (field : Option ConnId) (conn : ConnId) : Int := if field = some conn then 1 else 0

def owners (self : RefBooks) (conn : ConnId) : Int :=
  held self.window conn + held self.pendingConn conn + self.tasks conn

/-- The references no owner stands for; below zero, owners whose reference is gone. -/
def surplus (self : RefBooks) (conn : ConnId) : Int := self.refs conn - self.owners conn

def InUse (self : RefBooks) : Prop := ∀ conn ∈ self.window, 0 < self.refs conn

def Balanced (self : RefBooks) : Prop :=
  ∀ conn ∈ self.window, self.refs conn = self.owners conn

end RefBooks

/-! The callbacks -/

/-- `loads` tasks are started over the connection: the panels, and the hints. -/
def windowOnConnected (conn : ConnId) (loads : Nat) : List RefOp :=
  .setWindow conn :: List.replicate loads (.taskStarts conn)

def ConnectFlow.onDialogDestroy : ConnectFlow → List RefOp
  | .kerberos => []
  | .password => [.clearPending, .clearPending]
  | .dialog => [.clearPending]

def ConnectFlow.connectClicked (conn : ConnId) : ConnectFlow → List RefOp
  | .kerberos => [.connectionNew, .taskStarts conn]
  | .password | .dialog =>
      [.clearPending, .connectionNew, .keepPending conn, .taskStarts conn]

def ConnectFlow.connectFailed (conn : ConnId) : ConnectFlow → List RefOp
  | .kerberos => [.unref conn]
  | .password | .dialog => []

def ConnectFlow.connectSucceeded (flow : ConnectFlow) (conn : ConnId) (loads : Nat) :
    List RefOp :=
  flow.onDialogDestroy ++ windowOnConnected conn loads ++ [.unref conn]

/-- The task ends after its callback has returned. -/
def ConnectFlow.failedAttempt (flow : ConnectFlow) (conn : ConnId) : List RefOp :=
  flow.connectClicked conn ++ flow.connectFailed conn ++ [.taskEnds conn]

def ConnectFlow.lastAttempt (flow : ConnectFlow) (conn : ConnId) (loads : Nat) : List RefOp :=
  flow.connectClicked conn ++ flow.connectSucceeded conn loads ++ [.taskEnds conn]

/-- So many attempts that fail and one that does not, the first of them with this
connection. -/
def ConnectFlow.attempts (flow : ConnectFlow) (loads : Nat) : Nat → ConnId → List RefOp
  | 0, conn => flow.lastAttempt conn loads
  | failures + 1, conn => flow.failedAttempt conn ++ flow.attempts loads failures (conn + 1)

inductive TaskOp where
  | starts
  | ends
  deriving DecidableEq, Repr

def TaskOp.toRefOp (conn : ConnId) : TaskOp → RefOp
  | .starts => .taskStarts conn
  | .ends => .taskEnds conn

/-- A connect that succeeds in the end, and the tasks over it from then on. -/
structure ConnectRun where
  flow : ConnectFlow
  failures : Nat
  loads : Nat
  later : List TaskOp

namespace ConnectRun

def conn (self : ConnectRun) (books : RefBooks) : ConnId := books.nextConn + self.failures

def connected (self : ConnectRun) (books : RefBooks) : List RefOp :=
  self.flow.attempts self.loads self.failures books.nextConn

def laterOps (self : ConnectRun) (books : RefBooks) : List RefOp :=
  self.later.map (TaskOp.toRefOp (self.conn books))

def step (books : RefBooks) (self : ConnectRun) : RefBooks :=
  run RefBooks.step books (self.connected books ++ self.laterOps books)

/-- The window's connection is never freed, and balanced from when the connect's task has
ended. -/
def KeepsBooks (books : RefBooks) (self : ConnectRun) : Prop :=
  Throughout RefBooks.step RefBooks.InUse books (self.connected books ++ self.laterOps books) ∧
    Throughout RefBooks.step RefBooks.Balanced
      (run RefBooks.step books (self.connected books)) (self.laterOps books)

end ConnectRun

namespace RefBooks

variable {books : RefBooks}

/-! What an operation does to the surplus -/

theorem balanced_iff_surplus :
    books.Balanced ↔ ∀ conn ∈ books.window, books.surplus conn = 0 := by
  simp only [Balanced, surplus, Int.sub_eq_zero]

theorem held_nonneg (field : Option ConnId) (conn : ConnId) : 0 ≤ held field conn := by
  unfold held
  split
  · decide
  · decide

@[simp] theorem held_none (conn : ConnId) : held none conn = 0 := rfl

theorem held_some (conn other : ConnId) :
    held (some conn) other = if other = conn then 1 else 0 := by
  simp only [held, Option.some.injEq, eq_comm]

theorem inUse_of_surplus (nonneg : ∀ conn, 0 ≤ books.surplus conn) : books.InUse := by
  intro conn current
  rw [Option.mem_def] at current
  have kept := nonneg conn
  have pending := held_nonneg books.pendingConn conn
  rw [surplus, owners, current, held_some, if_pos rfl] at kept
  omega

theorem surplus_ref (books : RefBooks) (taken conn : ConnId) :
    (books.ref taken).surplus conn = books.surplus conn + if conn = taken then 1 else 0 := by
  simp only [ref, surplus, owners, Function.update_apply]
  split
  next same =>
    rw [same]
    omega
  · omega

theorem surplus_unref (books : RefBooks) (dropped conn : ConnId) :
    (books.unref dropped).surplus conn = books.surplus conn - if conn = dropped then 1 else 0 := by
  simp only [unref, surplus, owners, Function.update_apply]
  split
  next same =>
    rw [same]
    omega
  · omega

theorem surplus_setTasks (books : RefBooks) (task : ConnId) (tasks : Nat) (conn : ConnId) :
    (books.setTasks task tasks).surplus conn =
      books.surplus conn + if conn = task then (books.tasks task : Int) - tasks else 0 := by
  simp only [setTasks, surplus, owners, Function.update_apply]
  split
  next same =>
    rw [same]
    omega
  · omega

theorem surplus_window (books : RefBooks) (window : Option ConnId) (conn : ConnId) :
    surplus { books with window } conn =
      books.surplus conn + held books.window conn - held window conn := by
  simp only [surplus, owners]
  omega

theorem surplus_pendingConn (books : RefBooks) (pendingConn : Option ConnId) (conn : ConnId) :
    surplus { books with pendingConn } conn =
      books.surplus conn + held books.pendingConn conn - held pendingConn conn := by
  simp only [surplus, owners]
  omega

/-- An operation that hands the reference it takes to an owner, or drops the reference of
the owner it removes. -/
def Owned : RefOp → Prop
  | .connectionNew | .keepPending _ | .unref _ => False
  | .clearPending | .taskStarts _ | .taskEnds _ | .setWindow _ => True

theorem surplus_owned {op : RefOp} (owned : Owned op) (books : RefBooks) (conn : ConnId) :
    (books.step op).surplus conn = books.surplus conn := by
  cases op with
  | connectionNew | keepPending | unref => exact owned.elim
  | clearPending =>
      simp only [step]
      split
      · rfl
      next pending shown =>
        rw [surplus_pendingConn, surplus_unref, held_none, unref, shown, held_some]
        omega
  | taskStarts task =>
      simp only [step, surplus_setTasks, surplus_ref]
      simp only [ref]
      split
      · push_cast
        omega
      · omega
  | taskEnds task =>
      simp only [step]
      split
      · rfl
      next tasks running =>
        simp only [surplus_setTasks, surplus_unref]
        simp only [unref, running]
        split
        · push_cast
          omega
        · omega
  | setWindow new =>
      simp only [step]
      split
      next nothing =>
        rw [surplus_window, surplus_ref, nothing, held_none, held_some]
        omega
      next old shown =>
        rw [surplus_window, surplus_unref, surplus_ref, held_some, unref, shown, held_some]
        omega

theorem surplus_connectionNew (books : RefBooks) (conn : ConnId) :
    (books.step .connectionNew).surplus conn =
      books.surplus conn + if conn = books.nextConn then 1 else 0 :=
  surplus_ref books books.nextConn conn

theorem surplus_keepPending {books : RefBooks} (nothing : books.pendingConn = none)
    (kept conn : ConnId) :
    (books.step (.keepPending kept)).surplus conn =
      books.surplus conn - if conn = kept then 1 else 0 := by
  rw [step, surplus_pendingConn, nothing, held_none, held_some]
  omega

theorem nextConn_step {op : RefOp} (old : op ≠ .connectionNew) (books : RefBooks) :
    (books.step op).nextConn = books.nextConn := by
  cases op with
  | connectionNew => exact absurd rfl old
  | keepPending | taskStarts | unref => rfl
  | clearPending | taskEnds | setWindow =>
      simp only [step]
      split
      · rfl
      · rfl

theorem window_step {op : RefOp} (other : ∀ conn, op ≠ .setWindow conn) (books : RefBooks) :
    (books.step op).window = books.window := by
  cases op with
  | setWindow conn => exact absurd rfl (other conn)
  | connectionNew | keepPending | taskStarts | unref => rfl
  | clearPending | taskEnds =>
      simp only [step]
      split
      · rfl
      · rfl

theorem window_setWindow (books : RefBooks) (conn : ConnId) :
    (books.step (.setWindow conn)).window = some conn := by
  simp only [step]
  split
  · rfl
  · rfl

theorem pendingConn_clearPending (books : RefBooks) :
    (books.step .clearPending).pendingConn = none := by
  simp only [step]
  split
  · assumption
  · rfl

@[simp] theorem surplus_taskStarts (books : RefBooks) (task conn : ConnId) :
    (books.step (.taskStarts task)).surplus conn = books.surplus conn :=
  @surplus_owned (.taskStarts task) trivial books conn

@[simp] theorem surplus_taskEnds (books : RefBooks) (task conn : ConnId) :
    (books.step (.taskEnds task)).surplus conn = books.surplus conn :=
  @surplus_owned (.taskEnds task) trivial books conn

/-! Runs of operations -/

theorem throughout_owned (property : (ConnId → Int) → Prop) {ops : List RefOp}
    (owned : ∀ op ∈ ops, Owned op) (holds : property books.surplus) :
    Throughout step (fun books => property books.surplus) books ops := by
  induction ops generalizing books with
  | nil => exact holds
  | cons op rest ih =>
      have same : (books.step op).surplus = books.surplus :=
        funext (surplus_owned (owned op List.mem_cons_self) books)
      refine ⟨holds, ih (fun op member => owned op (List.mem_cons_of_mem _ member)) ?_⟩
      rw [same]
      exact holds

theorem surplus_run_owned {ops : List RefOp} (owned : ∀ op ∈ ops, Owned op)
    (books : RefBooks) (conn : ConnId) :
    (run step books ops).surplus conn = books.surplus conn :=
  (throughout_owned (fun surplus => surplus conn = books.surplus conn) owned rfl).last

theorem window_run {ops : List RefOp} (other : ∀ op ∈ ops, ∀ conn, op ≠ .setWindow conn)
    (books : RefBooks) : (run step books ops).window = books.window := by
  induction ops generalizing books with
  | nil => rfl
  | cons op rest ih =>
      rw [run_cons, ih (fun op member => other op (List.mem_cons_of_mem _ member))]
      exact window_step (other op List.mem_cons_self) books

theorem owned_onDialogDestroy (flow : ConnectFlow) : ∀ op ∈ flow.onDialogDestroy, Owned op := by
  cases flow with
  | kerberos | password | dialog => simp [ConnectFlow.onDialogDestroy, Owned]

theorem owned_windowOnConnected (conn : ConnId) (loads : Nat) :
    ∀ op ∈ windowOnConnected conn loads, Owned op := by
  intro op member
  rcases List.mem_cons.mp member with same | started
  · exact same ▸ trivial
  · exact List.eq_of_mem_replicate started ▸ trivial

/-! The attempts -/

theorem surplus_connectClicked (flow : ConnectFlow) (books : RefBooks) (conn : ConnId) :
    (run step books (flow.connectClicked books.nextConn)).surplus conn =
      books.surplus conn +
        if flow = .kerberos ∧ conn = books.nextConn then 1 else 0 := by
  cases flow with
  | kerberos =>
      simp only [ConnectFlow.connectClicked, run_cons, run_nil,
        surplus_taskStarts, surplus_connectionNew, true_and]
  | password | dialog =>
      have nothing : ((books.step .clearPending).step .connectionNew).pendingConn = none :=
        pendingConn_clearPending books
      have next : (books.step .clearPending).nextConn = books.nextConn :=
        nextConn_step RefOp.noConfusion books
      simp only [ConnectFlow.connectClicked, run_cons, run_nil,
        surplus_taskStarts, surplus_keepPending nothing,
        surplus_connectionNew, @surplus_owned .clearPending trivial, next,
        reduceCtorEq, false_and, if_false]
      omega

theorem surplus_failedAttempt (flow : ConnectFlow) (books : RefBooks) (conn : ConnId) :
    (run step books (flow.failedAttempt books.nextConn)).surplus conn =
      books.surplus conn := by
  have clicked := surplus_connectClicked flow books conn
  rw [ConnectFlow.failedAttempt, run_append, run_append, run_cons, run_nil,
    surplus_taskEnds]
  cases flow with
  | kerberos =>
      rw [ConnectFlow.connectFailed, run_cons, run_nil, step, surplus_unref, clicked]
      simp
  | password | dialog =>
      rw [ConnectFlow.connectFailed, run_nil, clicked]
      simp

theorem surplus_lastAttempt (flow : ConnectFlow) (loads : Nat) (books : RefBooks)
    (conn : ConnId) :
    (run step books (flow.lastAttempt books.nextConn loads)).surplus conn =
      books.surplus conn -
        if flow ≠ .kerberos ∧ conn = books.nextConn then 1 else 0 := by
  rw [ConnectFlow.lastAttempt, ConnectFlow.connectSucceeded, run_append, run_append, run_append,
    run_append, run_cons, run_nil, run_cons, run_nil, surplus_taskEnds, step, surplus_unref,
    surplus_run_owned (owned_windowOnConnected _ loads),
    surplus_run_owned (owned_onDialogDestroy flow), surplus_connectClicked]
  cases flow with
  | kerberos => simp
  | password | dialog => simp

theorem nextConn_failedAttempt (flow : ConnectFlow) (books : RefBooks) :
    (run step books (flow.failedAttempt books.nextConn)).nextConn = books.nextConn + 1 := by
  have last : ∀ (books : RefBooks) (conn : ConnId),
      (books.step (.taskEnds conn)).nextConn = books.nextConn :=
    fun books conn => nextConn_step RefOp.noConfusion books
  have first : (books.step .clearPending).nextConn = books.nextConn :=
    nextConn_step RefOp.noConfusion books
  cases flow with
  | kerberos => exact last _ _
  | password | dialog =>
      refine (last _ _).trans ?_
      change (books.step .clearPending).nextConn + 1 = books.nextConn + 1
      rw [first]

theorem window_lastAttempt (flow : ConnectFlow) (loads : Nat) (conn : ConnId)
    (books : RefBooks) :
    (run step books (flow.lastAttempt conn loads)).window = some conn := by
  rw [ConnectFlow.lastAttempt, ConnectFlow.connectSucceeded, windowOnConnected, run_append,
    run_append, run_append, run_append, run_cons, run_cons, run_nil, run_cons, run_nil,
    window_step (fun _ => RefOp.noConfusion), window_step (fun _ => RefOp.noConfusion),
    window_run]
  · exact window_setWindow _ conn
  · intro op member
    rw [List.eq_of_mem_replicate member]
    exact fun _ => RefOp.noConfusion

theorem surplus_attempts (flow : ConnectFlow) (loads failures : Nat) (books : RefBooks)
    (conn : ConnId) :
    (run step books (flow.attempts loads failures books.nextConn)).surplus conn =
      books.surplus conn -
        if flow ≠ .kerberos ∧ conn = books.nextConn + failures then 1 else 0 := by
  induction failures generalizing books with
  | zero => exact surplus_lastAttempt flow loads books conn
  | succ failures ih =>
      rw [ConnectFlow.attempts, run_append, ← nextConn_failedAttempt flow books, ih,
        surplus_failedAttempt, nextConn_failedAttempt, Nat.add_right_comm, Nat.add_assoc]

theorem window_attempts (flow : ConnectFlow) (loads failures : Nat) (conn : ConnId)
    (books : RefBooks) :
    (run step books (flow.attempts loads failures conn)).window = some (conn + failures) := by
  induction failures generalizing conn books with
  | zero => exact window_lastAttempt flow loads conn books
  | succ failures ih =>
      rw [ConnectFlow.attempts, run_append, ih, Nat.add_right_comm, Nat.add_assoc]

/-! A row of a Kerberos profile -/

def Covered (surplus : ConnId → Int) : Prop := ∀ conn, 0 ≤ surplus conn

theorem covered_connectClicked (even : books.surplus = 0) :
    Throughout step (fun books => Covered books.surplus) books
      (ConnectFlow.kerberos.connectClicked books.nextConn) := by
  have made : Covered (books.step .connectionNew).surplus := by
    intro conn
    rw [surplus_connectionNew, even, Pi.zero_apply]
    split
    · decide
    · decide
  refine ⟨?_, made, ?_⟩
  · change Covered books.surplus
    rw [even]
    exact fun _ => le_rfl
  · exact fun conn => (surplus_taskStarts _ _ conn).symm ▸ made conn

/-- Between the click and the end of the task the creator's reference is over, and is
dropped by the callback. -/
theorem covered_dropped (even : books.surplus = 0) {ops : List RefOp}
    (owned : ∀ op ∈ ops, Owned op) :
    Throughout step (fun books => Covered books.surplus) books
      (ConnectFlow.kerberos.connectClicked books.nextConn ++
        (ops ++ [.unref books.nextConn]) ++ [.taskEnds books.nextConn]) := by
  have clicked := covered_connectClicked even
  have kept := throughout_owned Covered owned clicked.last
  have dropped : ∀ conn, 0 ≤ ((run step (run step books
      (ConnectFlow.kerberos.connectClicked books.nextConn)) ops).step
        (.unref books.nextConn)).surplus conn := by
    intro conn
    rw [step, surplus_unref, surplus_run_owned owned, surplus_connectClicked, even]
    simp
  rw [List.append_assoc, throughout_append, List.append_assoc, throughout_append]
  refine ⟨clicked, kept, kept.last, dropped, fun conn => ?_⟩
  rw [surplus_taskEnds]
  exact dropped conn

theorem covered_attempts (loads failures : Nat) (even : books.surplus = 0) :
    Throughout step (fun books => Covered books.surplus) books
      (ConnectFlow.kerberos.attempts loads failures books.nextConn) := by
  induction failures generalizing books with
  | zero => exact covered_dropped even (owned_windowOnConnected books.nextConn loads)
  | succ failures ih =>
      have next : (run step books (ConnectFlow.kerberos.failedAttempt books.nextConn)).surplus =
          0 := by
        funext conn
        rw [surplus_failedAttempt, even]
      rw [ConnectFlow.attempts, throughout_append]
      constructor
      · exact covered_dropped even (List.forall_mem_nil Owned)
      · rw [← nextConn_failedAttempt]
        exact ih next

end RefBooks

namespace ConnectRun

open RefBooks

variable {books : RefBooks}

theorem owned_laterOps (self : ConnectRun) (books : RefBooks) :
    ∀ op ∈ self.laterOps books, Owned op := by
  intro op member
  obtain ⟨task, _, rfl⟩ := List.mem_map.mp member
  cases task with
  | starts => trivial
  | ends => trivial

theorem surplus_connected (even : books.surplus = 0) {self : ConnectRun}
    (kerberos : self.flow = .kerberos) :
    (run RefBooks.step books (self.connected books)).surplus = 0 := by
  funext conn
  rw [connected, surplus_attempts, kerberos, even]
  simp

theorem keepsBooks_iff (even : books.surplus = 0) (self : ConnectRun) :
    self.KeepsBooks books ↔ self.flow = .kerberos := by
  constructor
  · intro keeps
    by_contra other
    have balanced := balanced_iff_surplus.mp keeps.2.first (self.conn books)
      (window_attempts self.flow self.loads self.failures books.nextConn books)
    rw [connected, surplus_attempts, even, if_pos ⟨other, rfl⟩] at balanced
    cases balanced
  · intro kerberos
    have after := surplus_connected even kerberos
    constructor
    · rw [throughout_append]
      constructor
      · rw [connected, kerberos]
        exact (covered_attempts self.loads self.failures even).mono
          (fun books => inUse_of_surplus)
      · apply (throughout_owned Covered (self.owned_laterOps books) ?_).mono
        · exact fun books => inUse_of_surplus
        · rw [after]
          exact fun _ => le_rfl
    · apply (throughout_owned (fun surplus => surplus = 0) (self.owned_laterOps books) after).mono
      intro books even
      rw [balanced_iff_surplus, even]
      exact fun _ _ => rfl

theorem even_step (books : RefBooks) (self : ConnectRun) (even : books.surplus = 0)
    (kerberos : self.flow = .kerberos) : (step books self).surplus = 0 := by
  rw [step, run_append]
  funext conn
  rw [surplus_run_owned (self.owned_laterOps books), surplus_connected even kerberos]

/-- However many connects a new window makes, each after any number of failed attempts: each
connection is in use while the window has it, and has one reference for each owner from the
end of its connect on, exactly where every connect is made from a row of a Kerberos
profile. -/
theorem keepsBooks_along_iff (connects : List ConnectRun) :
    Along step (fun books self => self.KeepsBooks books) {} connects ↔
      ∀ self ∈ connects, self.flow = .kerberos := by
  apply along_iff_forall (fun books : RefBooks => books.surplus = 0)
    (fun self : ConnectRun => self.flow = .kerberos)
  · exact even_step
  · exact fun books self even => keepsBooks_iff even self
  · rfl

/-- After one connect from the password dialog, the seven tasks it starts end, and the window
is left with a connection that is freed; the same from the connect dialog. -/
theorem window_left_with_freed :
    let password : ConnectRun :=
      { flow := .password, failures := 0, loads := 7, later := List.replicate 7 .ends }
    let dialog : ConnectRun := { password with flow := .dialog, failures := 2 }
    ¬ password.KeepsBooks {} ∧ (step {} password).window = some 0 ∧
      (step {} password).refs 0 = 0 ∧
    ¬ dialog.KeepsBooks {} ∧ (step {} dialog).window = some 2 ∧
      (step {} dialog).refs 2 = 0 := by
  intro password dialog
  have first : (step {} password).window = some 0 ∧ (step {} password).refs 0 = 0 := by
    decide
  have third : (step {} dialog).window = some 2 ∧ (step {} dialog).refs 2 = 0 := by decide
  refine ⟨fun keeps => ?_, first.1, first.2, fun keeps => ?_, third.1, third.2⟩
  · exact absurd (keeps.1.last 0 first.1) (first.2.symm ▸ Int.lt_irrefl 0)
  · exact absurd (keeps.1.last 2 third.1) (third.2.symm ▸ Int.lt_irrefl 0)

end ConnectRun

end Sambervise.Ui
