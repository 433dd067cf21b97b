import Mathlib.Data.List.Sort
import Sambervise.Backend.Workers
import Sambervise.Ldap.Search
import Sambervise.Scan.FirstGap

namespace Sambervise.Backend.Collisions

open Text Ldap Model Scan

/-! Collision check -/

structure SbvCollisionHit where
  dn : CString
  sam : Option CString
  deriving DecidableEq, Repr

structure CheckData where
  filter : Filter
  excludeDn : Option CString
  deriving DecidableEq, Repr

def hitOfEntry (excludeDn : Option CString) (entry : Attributes) : Option SbvCollisionHit :=
  match firstValue entry "distinguishedName" with
  | none => none
  | some dn =>
      if excludeDn = some dn then none
      else some { dn, sam := firstValue entry "sAMAccountName" }

/-- What the check and the scan share. `read` is the reading of the entries. -/
def searchFiltered {α : Type} (search : Search) (text : String) (filter : Filter)
    (attrs : List String) (read : List Attributes → α) : LdapM (Except GError α) :=
  whenConnected do
    let session ← get
    let _ ← send (.query (subtreeRequest filter.string attrs session.baseDn))
    match search session.baseDn filter with
    | .error rc =>
        releaseLdap
        return .error (ldapError text rc)
    | .ok entries =>
        releaseLdap
        return .ok (read entries)

theorem searchFiltered_eq {α : Type} (search : Search) (text : String) (filter : Filter)
    (attrs : List String) (read : List Attributes → α) :
    searchFiltered search text filter attrs read =
      underLock fun session =>
        (match search session.baseDn filter with
          | .error rc => .error (ldapError text rc)
          | .ok entries => .ok (read entries),
          (send (.query (subtreeRequest filter.string attrs session.baseDn)) session).2) := by
  rw [searchFiltered, underLock]
  congr 1
  funext session
  simp only [bind, StateT.bind, releasing, get, getThe, MonadStateOf.get, StateT.get, pure]
  cases search session.baseDn filter with
  | error rc => rfl
  | ok entries => rfl

theorem searchFiltered_found {α : Type} {search : Search} {session : Session} {filter : Filter}
    {entries : List Attributes} (connected : session.ld = true)
    (found : search session.baseDn filter = .ok entries) (text : String) (attrs : List String)
    (read : List Attributes → α) :
    (searchFiltered search text filter attrs read session).1 = .ok (read entries) := by
  rw [searchFiltered_eq, underLock_apply, if_pos connected]
  dsimp only
  rw [found]

def CheckData.attrs : List String := ["distinguishedName", "sAMAccountName"]

def CheckData.request (d : CheckData) : Option CString → SearchRequest :=
  subtreeRequest d.filter.string CheckData.attrs

def checkThread (search : Search) (d : CheckData) :
    LdapM (Except GError (List SbvCollisionHit)) :=
  searchFiltered search "Collision check failed: " d.filter CheckData.attrs
    (·.filterMap (hitOfEntry d.excludeDn))

def dispatchCheck (objectClass attrName : String) (value : GInt64)
    (excludeDn : Option CString) : CheckData :=
  { filter := [classItem objectClass, numberItem attrName .equal value], excludeDn }

def sbvCollisionsUidCheck (uid : GInt64) (excludeDn : Option CString) : CheckData :=
  dispatchCheck "user" "uidNumber" uid excludeDn

def sbvCollisionsGidCheck (gid : GInt64) (excludeDn : Option CString) : CheckData :=
  dispatchCheck "group" "gidNumber" gid excludeDn

def sbvCollisionsCheck : IdKind → GInt64 → Option CString → CheckData
  | .uid => sbvCollisionsUidCheck
  | .gid => sbvCollisionsGidCheck

/-! Next-free-id scan -/

structure NextFreeData where
  attrName : String
  objectClass : String
  rangeMin : GInt64
  rangeMax : GInt64
  deriving DecidableEq, Repr

def NextFreeData.filter (d : NextFreeData) : Filter :=
  [classItem d.objectClass, numberItem d.attrName .atLeast d.rangeMin,
    numberItem d.attrName .atMost d.rangeMax]

def NextFreeData.request (d : NextFreeData) : Option CString → SearchRequest :=
  subtreeRequest d.filter.string [d.attrName]

def takenValues (attrName : String) (entries : List Attributes) : List GInt64 :=
  entries.filterMap fun entry => (firstValue entry attrName).map strtoll

/-- The loop over the candidates. There is no result where it does not end: the
counter has to pass the last `gint64`. -/
def firstFree (taken : List GInt64) (rangeMin rangeMax : GInt64) : Option GInt64 :=
  let sorted := (taken.map BitVec.toInt).insertionSort (· ≤ ·)
  let count := (rangeMax.toInt + 1 - rangeMin.toInt).toNat
  match firstGap sorted count rangeMin.toInt with
  | some candidate => some (BitVec.ofInt 64 candidate)
  | none => if rangeMax = maxInt64 then none else some (-1)

def nextFreeThread (search : Search) (d : NextFreeData) :
    LdapM (Except GError (Option GInt64)) :=
  searchFiltered search "Range scan failed: " d.filter [d.attrName] fun entries =>
    firstFree (takenValues d.attrName entries) d.rangeMin d.rangeMax

def sbvCollisionsNextFreeUid (rangeMin rangeMax : GInt64) : NextFreeData :=
  { attrName := "uidNumber", objectClass := "user", rangeMin, rangeMax }

def sbvCollisionsNextFreeGid (rangeMin rangeMax : GInt64) : NextFreeData :=
  { attrName := "gidNumber", objectClass := "group", rangeMin, rangeMax }

def sbvCollisionsNextFree : IdKind → GInt64 → GInt64 → NextFreeData
  | .uid => sbvCollisionsNextFreeUid
  | .gid => sbvCollisionsNextFreeGid

/-! What the two workers find on a server -/

/-- The object is one of those whose ids of this kind must differ, and has this one. -/
def Holds (kind : IdKind) (id : Int) (object : PosixObject) : Prop :=
  object.hasClass kind.objectClass = true ∧ object.number kind = some id

instance (kind : IdKind) (id : Int) : DecidablePred (Holds kind id) := fun _ =>
  inferInstanceAs (Decidable (_ ∧ _))

def hitOf (object : PosixObject) : SbvCollisionHit :=
  { dn := object.dn, sam := object.sam.map untilNul }

def otherHolders (objects : List PosixObject) (kind : IdKind) (id : Int)
    (excludeDn : Option CString) : List PosixObject :=
  objects.filter fun object => Holds kind id object ∧ excludeDn ≠ some object.dn

def freeIds (objects : List PosixObject) (kind : IdKind) (low high : Int) : Set Int :=
  { id | low ≤ id ∧ id ≤ high ∧ ∀ object ∈ objects, ¬ Holds kind id object }

/-- The least free id of the range, −1 if it has none, and nothing if it has none and
ends where the counter does. -/
def ScanAnswer (objects : List PosixObject) (kind : IdKind) (low high : GInt64) :
    Option GInt64 → Prop
  | some found =>
      IsLeast (freeIds objects kind low.toInt high.toInt) found.toInt ∨
        found = -1 ∧ freeIds objects kind low.toInt high.toInt = ∅
  | none => freeIds objects kind low.toInt high.toInt = ∅ ∧ high = maxInt64

section Tree

variable {tree : Tree} {session : Session}

theorem hitOfEntry_attrs (excludeDn : Option CString) (object : PosixObject) :
    hitOfEntry excludeDn object.attrs =
      if excludeDn = some object.dn then none else some (hitOf object) := by
  simp [hitOfEntry, firstValue, hitOf, untilNul_of_notMem object.plain]

theorem accepts_check (kind : IdKind) (value : GInt64) (excludeDn : Option CString)
    (object : PosixObject) :
    (sbvCollisionsCheck kind value excludeDn).filter.accepts object.attrs =
      decide (Holds kind value.toInt object) := by
  have filter : (sbvCollisionsCheck kind value excludeDn).filter =
      [classItem kind.objectClass, numberItem kind.attrName .equal value] := by
    cases kind with
    | uid => rfl
    | gid => rfl
  cases present : object.number kind with
  | none => simp [filter, Filter.accepts, Holds, present]
  | some number => simp [filter, Filter.accepts, Holds, present, Comparison.holds]

theorem excludeDn_check (kind : IdKind) (value : GInt64) (excludeDn : Option CString) :
    (sbvCollisionsCheck kind value excludeDn).excludeDn = excludeDn := by
  cases kind with
  | uid => rfl
  | gid => rfl

theorem filterMap_hitOfEntry (objects : List PosixObject) (kind : IdKind) (value : GInt64)
    (excludeDn : Option CString) :
    ((objects.map PosixObject.attrs).filter
        (sbvCollisionsCheck kind value excludeDn).filter.accepts).filterMap
          (hitOfEntry excludeDn) =
      (otherHolders objects kind value.toInt excludeDn).map hitOf := by
  induction objects with
  | nil => rfl
  | cons object objects ih =>
      rw [otherHolders] at ih ⊢
      rw [List.map_cons, List.filter_cons, List.filter_cons, accepts_check]
      by_cases held : Holds kind value.toInt object
      · rw [if_pos (decide_eq_true held), List.filterMap_cons, hitOfEntry_attrs, ih]
        by_cases excluded : excludeDn = some object.dn
        · simp [excluded]
        · simp [excluded, held]
      · simp [held, ih]

theorem checkThread_tree (connected : session.ld = true) (kind : IdKind) (value : GInt64)
    (excludeDn : Option CString) :
    (checkThread tree.search (sbvCollisionsCheck kind value excludeDn) session).1 =
      .ok ((otherHolders (tree session.baseDn) kind value.toInt excludeDn).map hitOf) := by
  rw [checkThread, searchFiltered_found connected rfl, excludeDn_check, filterMap_hitOfEntry]

theorem nextFree_eq (kind : IdKind) (low high : GInt64) :
    sbvCollisionsNextFree kind low high =
      { attrName := kind.attrName
        objectClass := kind.objectClass
        rangeMin := low
        rangeMax := high } := by
  cases kind with
  | uid => rfl
  | gid => rfl

theorem accepts_nextFree (kind : IdKind) (low high : GInt64) (object : PosixObject) :
    (sbvCollisionsNextFree kind low high).filter.accepts object.attrs = true ↔
      ∃ id, Holds kind id object ∧ low.toInt ≤ id ∧ id ≤ high.toInt := by
  rw [nextFree_eq]
  cases present : object.number kind with
  | none => simp [NextFreeData.filter, Filter.accepts, Holds, present]
  | some number =>
      simp [NextFreeData.filter, Filter.accepts, Holds, present, Comparison.holds, and_assoc]

theorem idOfEntry_attrs {kind : IdKind} {object : PosixObject} {id : Int}
    (held : Holds kind id object) :
    (firstValue object.attrs kind.attrName).map strtoll = some (saturate id) := by
  simp [firstValue, held.2, untilNul_formatInt, strtoll, readInt_formatInt]

theorem mem_takenValues_iff (objects : List PosixObject) (kind : IdKind) (low high : GInt64)
    (id : Int) :
    id ∈ (takenValues kind.attrName ((objects.map PosixObject.attrs).filter
        (sbvCollisionsNextFree kind low high).filter.accepts)).map BitVec.toInt ↔
      (low.toInt ≤ id ∧ id ≤ high.toInt) ∧ ∃ object ∈ objects, Holds kind id object := by
  have exact : ∀ id : Int, low.toInt ≤ id → id ≤ high.toInt → (saturate id).toInt = id :=
    fun id above below =>
      toInt_saturate (low.le_toInt.trans above) (below.trans_lt BitVec.toInt_lt)
  simp only [takenValues, List.mem_map, List.mem_filterMap, List.mem_filter]
  constructor
  · intro both
    obtain ⟨value, ⟨entry, ⟨⟨object, member, rfl⟩, accepted⟩, read⟩, rfl⟩ := both
    obtain ⟨id, held, above, below⟩ := (accepts_nextFree kind low high object).mp accepted
    rw [idOfEntry_attrs held, Option.some.injEq] at read
    rw [← read, exact id above below]
    exact ⟨⟨above, below⟩, object, member, held⟩
  · intro both
    obtain ⟨⟨above, below⟩, object, member, held⟩ := both
    have accepted := (accepts_nextFree kind low high object).mpr ⟨id, held, above, below⟩
    exact ⟨saturate id, ⟨object.attrs, ⟨⟨object, member, rfl⟩, accepted⟩, idOfEntry_attrs held⟩,
      exact id above below⟩

theorem firstFree_spec {taken : List GInt64} {low high : GInt64} {objects : List PosixObject}
    {kind : IdKind}
    (exactly : ∀ id : Int, id ∈ taken.map BitVec.toInt ↔
      (low.toInt ≤ id ∧ id ≤ high.toInt) ∧ ∃ object ∈ objects, Holds kind id object) :
    ScanAnswer objects kind low high (firstFree taken low high) := by
  have sorted := List.pairwise_insertionSort (· ≤ ·) (taken.map BitVec.toInt)
  have walked := firstGap_spec sorted (high.toInt + 1 - low.toInt).toNat low.toInt
  have same : gaps ((taken.map BitVec.toInt).insertionSort (· ≤ ·))
      (high.toInt + 1 - low.toInt).toNat low.toInt =
        freeIds objects kind low.toInt high.toInt := by
    rw [gaps_int]
    ext id
    simp only [Set.mem_ofPred_eq, List.mem_insertionSort, exactly, freeIds]
    constructor
    · intro both
      obtain ⟨above, below, free⟩ := both
      exact ⟨above, below, fun object member held => free ⟨⟨above, below⟩, object, member, held⟩⟩
    · intro both
      obtain ⟨above, below, free⟩ := both
      exact ⟨above, below, fun ⟨_, object, member, held⟩ => free object member held⟩
  rw [same] at walked
  cases walk : firstGap ((taken.map BitVec.toInt).insertionSort (· ≤ ·))
      (high.toInt + 1 - low.toInt).toNat low.toInt with
  | some candidate =>
      rw [walk] at walked
      have inRange : (BitVec.ofInt 64 candidate).toInt = candidate :=
        toInt_ofInt64 (low.le_toInt.trans walked.1.1)
          (walked.1.2.1.trans_lt BitVec.toInt_lt)
      have answer : firstFree taken low high = some (BitVec.ofInt 64 candidate) := by
        simp only [firstFree, walk]
      rw [answer]
      exact .inl (by rwa [inRange])
  | none =>
      rw [walk] at walked
      have answer : firstFree taken low high = if high = maxInt64 then none else some (-1) := by
        simp only [firstFree, walk]
      by_cases last : high = maxInt64
      · rw [answer, if_pos last]
        exact ⟨walked, last⟩
      · rw [answer, if_neg last]
        exact .inr ⟨rfl, walked⟩

theorem nextFreeThread_tree (tree : Tree) (connected : session.ld = true) (kind : IdKind)
    (low high : GInt64) :
    ∃ found,
      (nextFreeThread tree.search (sbvCollisionsNextFree kind low high) session).1 =
        .ok found ∧ ScanAnswer (tree session.baseDn) kind low high found := by
  have taken := mem_takenValues_iff (tree session.baseDn) kind low high
  refine ⟨_, ?_, firstFree_spec taken⟩
  rw [nextFreeThread, searchFiltered_found connected rfl, nextFree_eq]

def NoHit (search : Search) (session : Session) (kind : IdKind) (value : GInt64) : Prop :=
  (checkThread search (sbvCollisionsCheck kind value none) session).1 = .ok []

def SomeHit (search : Search) (session : Session) (kind : IdKind) (value : GInt64) : Prop :=
  ∃ hits, hits ≠ [] ∧
    (checkThread search (sbvCollisionsCheck kind value none) session).1 = .ok hits

theorem otherHolders_eq_nil_iff (objects : List PosixObject) (kind : IdKind) (id : Int) :
    otherHolders objects kind id none = [] ↔ ∀ object ∈ objects, ¬ Holds kind id object := by
  simp [otherHolders]

theorem noHit_iff (connected : session.ld = true) (kind : IdKind) (value : GInt64) :
    NoHit tree.search session kind value ↔
      ∀ object ∈ tree session.baseDn, ¬ Holds kind value.toInt object := by
  rw [NoHit, checkThread_tree connected, ← otherHolders_eq_nil_iff]
  simp

theorem someHit_iff (connected : session.ld = true) (kind : IdKind) (value : GInt64) :
    SomeHit tree.search session kind value ↔ ¬ NoHit tree.search session kind value := by
  simp only [SomeHit, NoHit, checkThread_tree connected, Except.ok.injEq]
  constructor
  · intro both
    obtain ⟨hits, some, rfl⟩ := both
    exact some
  · intro some
    exact ⟨_, some, rfl⟩

/-- The scan answers the least id of the range the collision check has no hit for, and
−1 exactly if it has a hit for all of them. -/
theorem nextFreeThread_agrees (kind : IdKind) (connected : session.ld = true)
    {low high : GInt64} (nonneg : 0 ≤ low.toInt) (bounded : high.toInt < 2 ^ 63 - 1) :
    ∃ found : GInt64,
      (nextFreeThread tree.search (sbvCollisionsNextFree kind low high) session).1 =
          .ok (some found) ∧
        (found = -1 ↔
          ∀ value : GInt64, low.toInt ≤ value.toInt → value.toInt ≤ high.toInt →
            SomeHit tree.search session kind value) ∧
        (found ≠ -1 →
          (low.toInt ≤ found.toInt ∧ found.toInt ≤ high.toInt ∧
            NoHit tree.search session kind found) ∧
          ∀ value : GInt64, low.toInt ≤ value.toInt → value.toInt ≤ high.toInt →
            NoHit tree.search session kind value → found.toInt ≤ value.toInt) := by
  have minusOne : (-1 : GInt64).toInt = -1 := by decide
  obtain ⟨answer, scanned, spec⟩ := nextFreeThread_tree tree connected kind low high
  simp only [someHit_iff connected, noHit_iff connected]
  cases answer with
  | none =>
      have last : high.toInt = 2 ^ 63 - 1 := by
        rw [spec.2]
        decide
      omega
  | some found =>
      refine ⟨found, scanned, ?_⟩
      rcases spec with ⟨⟨above, below, free⟩, least⟩ | ⟨rfl, full⟩
      · have real : found ≠ -1 := by
          intro equal
          subst equal
          omega
        refine ⟨⟨fun same => absurd same real, fun taken => ?_⟩,
          fun _ => ⟨⟨above, below, free⟩, ?_⟩⟩
        · exact absurd free (taken found above below)
        · exact fun value low high free => least ⟨low, high, free⟩
      · refine ⟨⟨fun _ value above below free => ?_, fun _ => rfl⟩, fun real => absurd rfl real⟩
        have member : value.toInt ∈ freeIds (tree session.baseDn) kind low.toInt high.toInt :=
          ⟨above, below, free⟩
        rw [full] at member
        exact member

def labPeople : Tree := fun _ =>
  [ { dn := cstr "CN=Ada,DC=lab"
      classes := [cstr "top", cstr "User"]
      number := fun kind => if kind = .uid then some 10001 else none },
    { dn := cstr "CN=Ben,DC=lab"
      classes := [cstr "user"]
      number := fun kind => if kind = .uid then some 10000 else some 10002 },
    { dn := cstr "CN=staff,DC=lab"
      classes := [cstr "group"]
      number := fun kind => if kind = .uid then none else some 10000 } ]

theorem nextFreeThread_agrees_lab :
    let session := Session.opened id fun _ => none
    ∃ found : GInt64,
      (nextFreeThread labPeople.search (sbvCollisionsNextFreeUid 10000 10009) session).1 =
          .ok (some found) ∧
        NoHit labPeople.search session .uid found ∧ found.toInt ≤ 10002 := by
  intro session
  have free : NoHit labPeople.search session .uid 10002 :=
    (noHit_iff rfl .uid 10002).mpr (by decide)
  obtain ⟨found, answer, exhausted, least⟩ :=
    @nextFreeThread_agrees labPeople session .uid rfl 10000 10009 (by decide) (by decide)
  have real : found ≠ -1 := by
    intro none
    have hit := exhausted.mp none 10002 (by decide) (by decide)
    exact (someHit_iff rfl .uid 10002).mp hit free
  obtain ⟨⟨_, _, unheld⟩, below⟩ := least real
  exact ⟨found, answer, unheld, below 10002 (by decide) (by decide) free⟩

end Tree

end Sambervise.Backend.Collisions
