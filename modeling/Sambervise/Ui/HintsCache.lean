import Sambervise.Transition.Run
import Sambervise.Ui.ListPanel
import Sambervise.Ui.Suggest

namespace Sambervise.Ui

open Text Ldap Model Backend Backend.Collisions Transition

/-! The hints a panel keeps from one press of its Suggest buttons to the next -/

/-- A panel by its Suggest buttons, each with the ids it is for. -/
structure SuggestKind where
  Button : Type
  [decEq : DecidableEq Button]
  idKind : Button → IdKind

instance (kind : SuggestKind) : DecidableEq kind.Button := kind.decEq

def usersSuggest : SuggestKind := { Button := IdKind, idKind := id }

def groupsSuggest : SuggestKind := { Button := Unit, idKind := fun _ => .gid }

section

/-! `profileOf` is the profile each connection is bound with. -/

variable (profileOf : ConnId → SbvProfile)

structure ConnHints where
  conn : ConnId
  hints : SbvIdmapHints
  obtained : ∃ entry, hints = (sbvIdmapHintsFromProfile (profileOf conn)).merged entry

/-- What a probe over a connection leads to: without an answer the hints are those of the
connection's profile. -/
def probedHints (conn : ConnId) : Except GError (Option Attributes) → ConnHints profileOf
  | .ok entry => ⟨conn, _, entry, rfl⟩
  | .error _ => ⟨conn, _, none, rfl⟩

structure HintsProbe (kind : SuggestKind) where
  conn : ConnId
  button : kind.Button

structure HintsScan (kind : SuggestKind) where
  conn : ConnId
  hintsFrom : ConnId
  data : NextFreeData
  button : kind.Button

structure SuggestPanel (kind : SuggestKind) where
  conn : Option ConnId := none
  idmapHints : Option (ConnHints profileOf) := none
  insensitive : List kind.Button := []
  probes : List (HintsProbe kind) := []
  scans : List (HintsScan kind) := []

end

namespace SuggestPanel

variable {profileOf : ConnId → SbvProfile} {kind : SuggestKind}

def load (self : SuggestPanel profileOf kind) (conn : ConnId) : SuggestPanel profileOf kind :=
  { self with
    conn := some conn
    idmapHints := if self.conn = some conn then self.idmapHints else none }

def scanData (hints : SbvIdmapHints) (idKind : IdKind) : NextFreeData :=
  let lo := rangeMin hints idKind
  let hi := rangeMax hints idKind
  sbvCollisionsNextFree idKind (scanStart lo hi (nextHint hints idKind)) hi

def suggestWithHints (self : SuggestPanel profileOf kind) (cached : ConnHints profileOf)
    (button : kind.Button) : SuggestPanel profileOf kind :=
  match self.conn with
  | none => self
  | some conn =>
      { self with
        scans := self.scans ++
          [{ conn, hintsFrom := cached.conn,
             data := scanData cached.hints (kind.idKind button), button }] }

def onHintsThenSuggest (self : SuggestPanel profileOf kind) (probe : HintsProbe kind)
    (reply : Except GError (Option Attributes)) : SuggestPanel profileOf kind :=
  let hints := probedHints profileOf probe.conn reply
  suggestWithHints { self with idmapHints := some hints } hints probe.button

def doSuggest (self : SuggestPanel profileOf kind) (button : kind.Button) :
    SuggestPanel profileOf kind :=
  match self.conn with
  | none => self
  | some conn =>
      let self := { self with insensitive := button :: self.insensitive }
      match self.idmapHints with
      | some hints => self.suggestWithHints hints button
      | none => { self with probes := self.probes ++ [{ conn := conn, button }] }

inductive Event (kind : SuggestKind) where
  /-- The panel is loaded, by the window or after an operation over this connection. -/
  | load (conn : ConnId)
  | suggestClicked (button : kind.Button)
  /-- The probe at this place among those in flight completes. -/
  | hintsDone (index : Nat) (reply : Except GError (Option Attributes))
  | suggestDone (index : Nat)

def step (self : SuggestPanel profileOf kind) : Event kind → SuggestPanel profileOf kind
  | .load conn => self.load conn
  | .suggestClicked button =>
      if button ∈ self.insensitive then self else self.doSuggest button
  | .hintsDone index reply =>
      match self.probes[index]? with
      | none => self
      | some probe =>
          onHintsThenSuggest { self with probes := self.probes.eraseIdx index } probe reply
  | .suggestDone index =>
      match self.scans[index]? with
      | none => self
      | some scan =>
          { self with
            insensitive := self.insensitive.erase scan.button
            scans := self.scans.eraseIdx index }

variable {state : SuggestPanel profileOf kind}

/-- The hints kept are from the panel's connection, and every scan goes over the one its
hints are from. -/
structure HintsHere (state : SuggestPanel profileOf kind) : Prop where
  cached : ∀ cached ∈ state.idmapHints, state.conn = some cached.conn
  scans : ∀ scan ∈ state.scans, scan.conn = scan.hintsFrom

/-- A probe completes while the panel has the connection it was sent over. -/
def ProbedHere (state : SuggestPanel profileOf kind) : Event kind → Prop
  | .hintsDone index _ => ∀ probe ∈ state.probes[index]?, state.conn = some probe.conn
  | _ => True

theorem hintsHere_suggestWithHints (here : state.HintsHere) {cached : ConnHints profileOf}
    (current : state.conn = some cached.conn) (button : kind.Button) :
    (state.suggestWithHints cached button).HintsHere := by
  unfold suggestWithHints
  split
  · exact here
  next conn shown =>
    constructor
    · exact here.cached
    · intro scan member
      rcases List.mem_append.mp member with earlier | new
      · exact here.scans scan earlier
      · rw [List.mem_singleton] at new
        rw [new]
        exact Option.some.inj (shown.symm.trans current)

theorem idmapHints_suggestWithHints (cached : ConnHints profileOf) (button : kind.Button) :
    (state.suggestWithHints cached button).idmapHints = state.idmapHints ∧
      (state.suggestWithHints cached button).conn = state.conn := by
  unfold suggestWithHints
  split
  · exact ⟨rfl, rfl⟩
  · exact ⟨rfl, rfl⟩

theorem hintsHere_load (here : state.HintsHere) (conn : ConnId) :
    (state.load conn).HintsHere := by
  constructor
  · intro cached member
    simp only [load] at member ⊢
    split at member
    next same =>
      exact same.symm.trans (here.cached cached member)
    · cases member
  · exact here.scans

theorem hintsHere_doSuggest (here : state.HintsHere) (button : kind.Button) :
    (state.doSuggest button).HintsHere := by
  unfold doSuggest
  split
  · exact here
  · dsimp only
    split
    next cached kept =>
      apply hintsHere_suggestWithHints
      · exact ⟨here.cached, here.scans⟩
      · exact here.cached cached kept
    · exact ⟨here.cached, here.scans⟩

theorem onHintsThenSuggest_iff (scans : ∀ scan ∈ state.scans, scan.conn = scan.hintsFrom)
    (probe : HintsProbe kind) (reply : Except GError (Option Attributes)) :
    state.conn = some probe.conn ↔ (state.onHintsThenSuggest probe reply).HintsHere := by
  have same : (probedHints profileOf probe.conn reply).conn = probe.conn := by
    cases reply with
    | ok entry => rfl
    | error error => rfl
  unfold onHintsThenSuggest
  constructor
  · intro current
    apply hintsHere_suggestWithHints
    · constructor
      · intro cached member
        rw [Option.mem_some_iff] at member
        rw [← member, same]
        exact current
      · exact scans
    · rw [same]
      exact current
  · intro here
    have ⟨kept, conn⟩ := @idmapHints_suggestWithHints _ _
      { state with idmapHints := some (probedHints profileOf probe.conn reply) }
      (probedHints profileOf probe.conn reply) probe.button
    have current := here.cached _ kept
    rwa [conn, same] at current

theorem probedHere_iff_step (state : SuggestPanel profileOf kind) (event : Event kind)
    (here : state.HintsHere) : state.ProbedHere event ↔ (state.step event).HintsHere := by
  cases event with
  | load conn => exact iff_of_true trivial (hintsHere_load here conn)
  | suggestClicked button =>
      refine iff_of_true trivial ?_
      simp only [step]
      split
      · exact here
      · exact hintsHere_doSuggest here button
  | hintsDone index reply =>
      simp only [ProbedHere, step]
      cases found : state.probes[index]? with
      | none => exact iff_of_true (by simp) here
      | some probe =>
          simp only [Option.mem_some_iff, forall_eq']
          rw [← onHintsThenSuggest_iff]
          exact here.scans
  | suggestDone index =>
      refine iff_of_true trivial ?_
      simp only [step]
      split
      · exact here
      · constructor
        · exact here.cached
        · intro scan member
          exact here.scans scan (List.mem_of_mem_eraseIdx member)

/-- Over every run of a new panel: the hints it keeps are from its connection and every scan
goes over the connection its hints are from, exactly where every probe completes while the
panel has the connection it was sent over. -/
theorem hintsHere_throughout_iff (profileOf : ConnId → SbvProfile) (kind : SuggestKind)
    (events : List (Event kind)) :
    let first : SuggestPanel profileOf kind := {}
    Along step ProbedHere first events ↔ Throughout step HintsHere first events := by
  apply along_iff_throughout HintsHere probedHere_iff_step
  constructor
  · intro cached member
    cases member
  · intro scan member
    cases member

/-- Suggest is pressed over the first connection, and its probe completes over the second:
the scan there, and the one of the next press, go by the first one's range. -/
theorem range_of_first_connection :
    let profileOf : ConnId → SbvProfile := fun conn =>
      if conn = 0 then { uidMin := 20000, uidMax := 20999 } else {}
    let first : SuggestPanel profileOf usersSuggest := {}
    let events : List (Event usersSuggest) :=
      [ .load 0, .suggestClicked .uid, .load 1, .hintsDone 0 (.ok none), .suggestDone 0,
        .suggestClicked .uid ]
    (run step first events).scans.map (fun scan => (scan.conn, scan.hintsFrom, scan.data)) =
        [(1, 0, sbvCollisionsNextFreeUid 20000 20999)] ∧
      ¬ Throughout step HintsHere first events := by
  intro profileOf first events
  have scans : (run step first events).scans.map
      (fun scan => (scan.conn, scan.hintsFrom, scan.data)) =
        [(1, 0, sbvCollisionsNextFreeUid 20000 20999)] := by rfl
  refine ⟨scans, fun throughout => ?_⟩
  obtain ⟨scan, only, parts⟩ := List.map_eq_singleton_iff.mp scans
  have same := throughout.last.scans scan (only ▸ List.mem_singleton_self scan)
  rw [Prod.mk.injEq, Prod.mk.injEq] at parts
  rw [parts.1, parts.2.1] at same
  cases same

end SuggestPanel

end Sambervise.Ui
