import Sambervise.Backend.Collisions
import Sambervise.Backend.IdmapHints

namespace Sambervise.Ui

open Text Ldap Model Backend Backend.Collisions

/-! The three Suggest buttons, pressed while the panel has a connection. -/

inductive SuggestButton where
  | usersUid
  | usersGid
  | groupsGid
  deriving DecidableEq, Repr

inductive Suggestion where
  | failed (error : GError)
  /-- "configured range exhausted" -/
  | exhausted
  | filled (text : CString)
  /-- the scan does not come to an end -/
  | none
  deriving DecidableEq, Repr

def onSuggestDone : Except GError (Option GInt64) → Suggestion
  | .error error => .failed error
  | .ok none => .none
  | .ok (some v) => if v.toInt < 0 then .exhausted else .filled (formatInt64 v)

/-- The hint is where the scan starts if it falls in the range. -/
def scanStart (lo hi hint : GInt64) : GInt64 :=
  if lo.toInt < hint.toInt ∧ hint.toInt ≤ hi.toInt then hint else lo

variable (search : Search)

def suggestWithHints (idmapHints : SbvIdmapHints) (isUid : Bool) : LdapM Suggestion :=
  let lo := if isUid then idmapHints.uidMin else idmapHints.gidMin
  let hi := if isUid then idmapHints.uidMax else idmapHints.gidMax
  let hint := if isUid then idmapHints.nextUidHint else idmapHints.nextGidHint
  let lo := scanStart lo hi hint
  onSuggestDone <$> nextFreeThread search
    (if isUid then sbvCollisionsNextFreeUid lo hi else sbvCollisionsNextFreeGid lo hi)

def groupSuggestWithHints (idmapHints : SbvIdmapHints) : LdapM Suggestion :=
  let lo := idmapHints.gidMin
  let hi := idmapHints.gidMax
  let lo := scanStart lo hi idmapHints.nextGidHint
  onSuggestDone <$> nextFreeThread search (sbvCollisionsNextFreeGid lo hi)

/-- The hints a panel goes by: those it has, else those it now loads, and those of the
profile where that fails. -/
def loadHints (profile : SbvProfile) : Option SbvIdmapHints → LdapM SbvIdmapHints
  | some idmapHints => return idmapHints
  | none => do
      match ← sbvIdmapHintsQuery profile with
      | .ok hints => return hints
      | .error _ => return sbvIdmapHintsFromProfile profile

def doSuggest (profile : SbvProfile) (idmapHints : Option SbvIdmapHints) (isUid : Bool) :
    LdapM (SbvIdmapHints × Suggestion) := do
  let hints ← loadHints profile idmapHints
  let suggestion ← suggestWithHints search hints isUid
  return (hints, suggestion)

def onGroupSuggestGidClicked (profile : SbvProfile) (idmapHints : Option SbvIdmapHints) :
    LdapM (SbvIdmapHints × Suggestion) := do
  let hints ← loadHints profile idmapHints
  let suggestion ← groupSuggestWithHints search hints
  return (hints, suggestion)

def SuggestButton.clicked (profile : SbvProfile) (idmapHints : Option SbvIdmapHints) :
    SuggestButton → LdapM (SbvIdmapHints × Suggestion)
  | .usersUid => doSuggest search profile idmapHints true
  | .usersGid => doSuggest search profile idmapHints false
  | .groupsGid => onGroupSuggestGidClicked search profile idmapHints

/-! What a press fills in -/

def SuggestButton.kind : SuggestButton → IdKind
  | .usersUid => .uid
  | .usersGid | .groupsGid => .gid

def rangeMin (hints : SbvIdmapHints) : IdKind → GInt64
  | .uid => hints.uidMin
  | .gid => hints.gidMin

def rangeMax (hints : SbvIdmapHints) : IdKind → GInt64
  | .uid => hints.uidMax
  | .gid => hints.gidMax

def nextHint (hints : SbvIdmapHints) : IdKind → GInt64
  | .uid => hints.nextUidHint
  | .gid => hints.nextGidHint

def hintsInForce (profile : SbvProfile) (session : Session)
    (idmapHints : Option SbvIdmapHints) : SbvIdmapHints :=
  idmapHints.getD ((sbvIdmapHintsFromProfile profile).merged (publishedTo session))

/-- A suggestion for a range: its least free id, or that it has none. -/
def Suggests (objects : List PosixObject) (kind : IdKind) (low high : Int)
    (suggestion : Suggestion) : Prop :=
  (∀ id, IsLeast (freeIds objects kind low high) id → suggestion = .filled (formatInt id)) ∧
    (suggestion = .exhausted → freeIds objects kind low high = ∅)

theorem scanStart_nonneg {lo : GInt64} (nonneg : 0 ≤ lo.toInt) (hi hint : GInt64) :
    0 ≤ (scanStart lo hi hint).toInt := by
  unfold scanStart
  split
  · omega
  · exact nonneg

theorem rangeMin_nonneg (hints : SbvIdmapHints) (kind : IdKind) :
    0 ≤ (rangeMin hints kind).toInt := by
  cases kind with
  | uid => exact hints.uidMin_nonneg
  | gid => exact hints.gidMin_nonneg

theorem suggests_onSuggestDone {objects : List PosixObject} {kind : IdKind}
    {low high : GInt64} (nonneg : 0 ≤ low.toInt) {found : Option GInt64}
    (answer : ScanAnswer objects kind low high found) :
    Suggests objects kind low.toInt high.toInt (onSuggestDone (.ok found)) := by
  have none_free : freeIds objects kind low.toInt high.toInt = ∅ →
      ∀ id, ¬ IsLeast (freeIds objects kind low.toInt high.toInt) id := by
    intro full id least
    have member := least.1
    rw [full] at member
    exact member
  cases found with
  | none => exact ⟨fun id least => absurd least (none_free answer.1 id), fun _ => answer.1⟩
  | some found =>
      rcases answer with least | ⟨rfl, full⟩
      · have found_nonneg : 0 ≤ found.toInt := nonneg.trans least.1.1
        rw [onSuggestDone, if_neg (by omega)]
        refine ⟨fun id other => ?_, fun same => by cases same⟩
        rw [other.unique least, formatInt64]
      · exact ⟨fun id least => absurd least (none_free full id), fun _ => full⟩

section Clicked

variable {tree : Tree} {session : Session}

theorem suggests_nextFree (connected : session.ld = true) {lo : GInt64}
    (nonneg : 0 ≤ lo.toInt) (kind : IdKind) (hi : GInt64) :
    Suggests (tree session.baseDn) kind lo.toInt hi.toInt
      ((onSuggestDone <$> nextFreeThread tree.search (sbvCollisionsNextFree kind lo hi) :
        LdapM Suggestion) session).1 := by
  obtain ⟨found, scanned, answer⟩ := nextFreeThread_tree tree connected kind lo hi
  have done := suggests_onSuggestDone nonneg answer
  rw [← scanned] at done
  exact done

theorem loadHints_apply (connected : session.ld = true) (profile : SbvProfile)
    (idmapHints : Option SbvIdmapHints) :
    (loadHints profile idmapHints session).1 = hintsInForce profile session idmapHints ∧
      (loadHints profile idmapHints session).2.ld = true ∧
      (loadHints profile idmapHints session).2.baseDn = session.baseDn := by
  cases idmapHints with
  | some hints => exact ⟨rfl, connected, rfl⟩
  | none =>
      obtain ⟨answer, ld, baseDn⟩ :=
        queryThread_apply connected (sbvIdmapHintsFromProfile profile)
      have run : loadHints profile none session =
          (hintsInForce profile session none,
            (queryThread (sbvIdmapHintsFromProfile profile) session).2) := by
        simp only [loadHints, sbvIdmapHintsQuery, bind, StateT.bind]
        rw [show queryThread (sbvIdmapHintsFromProfile profile) session = (_, _) from
          Prod.ext answer rfl]
        rfl
      rw [run]
      exact ⟨rfl, ld, baseDn⟩

theorem clicked_apply (button : SuggestButton) (profile : SbvProfile)
    (idmapHints : Option SbvIdmapHints) :
    (button.clicked search profile idmapHints session).1.2 =
      let loaded := loadHints profile idmapHints session
      let low := rangeMin loaded.1 button.kind
      let high := rangeMax loaded.1 button.kind
      ((onSuggestDone <$> nextFreeThread search (sbvCollisionsNextFree button.kind
        (scanStart low high (nextHint loaded.1 button.kind)) high) : LdapM Suggestion)
          loaded.2).1 := by
  cases button with
  | usersUid => rfl
  | usersGid => rfl
  | groupsGid => rfl

/-- Every press suggests from the hint on where the server publishes one inside the
configured range, else from the range's lower bound. -/
theorem clicked_suggests (button : SuggestButton) (connected : session.ld = true)
    (profile : SbvProfile) (idmapHints : Option SbvIdmapHints) :
    let hints := hintsInForce profile session idmapHints
    let low := rangeMin hints button.kind
    let high := rangeMax hints button.kind
    Suggests (tree session.baseDn) button.kind
      (scanStart low high (nextHint hints button.kind)).toInt high.toInt
      (button.clicked tree.search profile idmapHints session).1.2 := by
  intro hints low high
  obtain ⟨loaded, ld, baseDn⟩ := loadHints_apply connected profile idmapHints
  have start := scanStart_nonneg (rangeMin_nonneg hints button.kind) high
    (nextHint hints button.kind)
  rw [clicked_apply]
  dsimp only
  rw [loaded, ← baseDn]
  exact suggests_nextFree ld start button.kind high

end Clicked

/-! A server that publishes 10001 as the next uid -/

def labSession : Session :=
  let attrs : Attributes := fun type =>
    if type = asciiStrdown (cstr "msSFU30MaxUidNumber") then [cstr "10001"] else []
  { Session.opened id fun dn =>
      if denotes id (ypServersDn (some (cstr "DC=lab"))) = some dn then
        some { objectGuid := 0, attrs }
      else none with
    baseDn := some (cstr "DC=lab") }

def labProfile : SbvProfile := { uidMin := 10000, uidMax := 10003 }

def labHints : SbvIdmapHints := hintsInForce labProfile labSession none

def labUser (uid : Int) : PosixObject :=
  { dn := cstr "CN=Una,DC=lab"
    classes := [cstr "user"]
    number := fun kind => if kind = .uid then some uid else none }

def labUsers : Tree := fun _ => [labUser 10002, labUser 10001, labUser 10003]

def labPressed (tree : Tree) : Suggestion :=
  (SuggestButton.usersUid.clicked tree.search labProfile none labSession).1.2

theorem clicked_suggests_lab :
    Suggests (labUsers labSession.baseDn) .uid 10001 10003 (labPressed labUsers) := by
  have suggests := @clicked_suggests labUsers labSession .usersUid rfl labProfile none
  have start : (scanStart (rangeMin labHints .uid) (rangeMax labHints .uid)
      (nextHint labHints .uid)).toInt = 10001 := by decide +kernel
  exact start ▸ suggests

/-- An id below the hint is not suggested, and where the ids from the hint on are taken
the range is said to be exhausted. -/
theorem clicked_passes_over :
    (∃ id, IsLeast (freeIds [] .uid labHints.uidMin.toInt labHints.uidMax.toInt) id ∧
        labPressed (fun _ => []) ≠ .filled (formatInt id)) ∧
      labPressed labUsers = .exhausted ∧
        (freeIds (labUsers labSession.baseDn) .uid
          labHints.uidMin.toInt labHints.uidMax.toInt).Nonempty := by
  have low : labHints.uidMin.toInt = 10000 := by decide +kernel
  have high : labHints.uidMax.toInt = 10003 := by decide +kernel
  refine ⟨⟨10000, ?_, by decide +kernel⟩, by decide +kernel, 10000, ?_⟩
  · rw [low, high]
    exact ⟨⟨le_rfl, by decide, by simp⟩, fun id free => free.1⟩
  · rw [low, high]
    exact ⟨le_rfl, by decide, by decide⟩

end Sambervise.Ui
