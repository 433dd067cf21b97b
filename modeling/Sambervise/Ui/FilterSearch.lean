import Sambervise.Backend.LdapBrowse
import Sambervise.Transition.Run

namespace Sambervise.Ui

open Text Model Backend Transition

/-! The filter of the LDAP browser: the entry it is typed into, the searches in flight, and
the store of results that they fill. What the editor shows of the results is in
`SbvLdapPanel`. -/

inductive LeftStack where
  | tree
  | results
  deriving DecidableEq, Repr

structure FilterSearch where
  /-- The base DN of the connection, once the panel has one. -/
  baseDn : Option CString
  searchEntry : CString := []
  searchStatus : CString := []
  activeFilter : Option CString := none
  resultsStore : List SbvLdapNode := []
  leftStack : LeftStack := .tree
  inFlight : List SearchData := []
  /-- Whether some search has failed; the source does not record that. -/
  failed : Bool := false

namespace FilterSearch

variable (search : LdapSearch) (collate : CString → CString → Int)

def opened (baseDn : Option CString) : FilterSearch := { baseDn }

def clear (self : FilterSearch) : FilterSearch :=
  { self with
    activeFilter := none
    resultsStore := []
    searchStatus := []
    leftStack := .tree }

def onSearchActivated (self : FilterSearch) : FilterSearch :=
  match self.baseDn with
  | none | some [] => self
  | some base =>
      if self.searchEntry = [] then self.clear
      else
        { self with
          activeFilter := some self.searchEntry
          searchStatus := cstr "Searching…"
          leftStack := .results
          inFlight := self.inFlight ++ [sbvLdapBrowseSearch base (some self.searchEntry)] }

def onSearchStopped (self : FilterSearch) : FilterSearch :=
  { self.clear with searchEntry := [] }

def matchesText (count : Nat) : CString :=
  formatNat count ++ cstr " match" ++ (if count = 1 then [] else cstr "es") ++
    if sbvBrowseSearchLimit ≤ count then cstr " — truncated, refine the filter" else []

/-- Whatever was searched for and whatever the filter is by now. -/
def onSearchDone (self : FilterSearch) : Except GError (List SbvLdapNode) → FilterSearch
  | .error error => { self with searchStatus := error.text }
  | .ok hits => { self with resultsStore := hits, searchStatus := matchesText hits.length }

inductive Event where
  | typed (text : CString)
  | activated
  | stopped
  /-- The worker of the search at this place among those in flight runs on the session,
  and the search completes with what it returns. -/
  | searchDone (index : Nat) (session : Ldap.Session)

def step (self : FilterSearch) : Event → FilterSearch
  | .typed text => { self with searchEntry := text }
  | .activated => self.onSearchActivated
  | .stopped => self.onSearchStopped
  | .searchDone index session =>
      match self.inFlight[index]? with
      | none => self
      | some d =>
          let result := (searchThread search collate d session).1
          onSearchDone
            { self with
              inFlight := self.inFlight.eraseIdx index
              failed := self.failed || result.toOption.isNone }
            result

/-! What the store has to hold -/

/-- The entries a search finds, on a server nobody writes to meanwhile. -/
def hits (d : SearchData) : List SbvLdapNode :=
  sortedByLabel collate
    ((search
      { base := some d.baseDn
        scope := .subtree
        filter := d.filter
        attrs := browseAttrs
        sizeLimit := some sbvBrowseSearchLimit }).2.filterMap (nodeOfEntry id))

def activeHits (self : FilterSearch) : List SbvLdapNode :=
  match self.activeFilter with
  | none => []
  | some filter =>
      hits search collate (sbvLdapBrowseSearch (orEmpty self.baseDn) (some filter))

def Matches (self : FilterSearch) : Prop :=
  self.failed = false → self.inFlight = [] →
    self.resultsStore = self.activeHits search collate

/-- A search that is the last one to complete is for the filter that is active by then, or
finds the same entries as one for that. -/
def LastIsActive (self : FilterSearch) : Event → Prop
  | .searchDone index session =>
      ∀ d nodes, self.inFlight[index]? = some d →
        (searchThread search collate d session).1 = .ok nodes → self.failed = false →
          self.inFlight.eraseIdx index = [] →
            hits search collate d = self.activeHits search collate
  | _ => True

variable {search collate}

theorem searchThread_ok {d : SearchData} {session : Ldap.Session}
    {nodes : List SbvLdapNode} (found : (searchThread search collate d session).1 = .ok nodes) :
    nodes = hits search collate d := by
  rw [searchThread, searchExt_eq, underLock_apply] at found
  split at found
  · dsimp only at found
    split at found
    · cases found
      rfl
    · cases found
  · cases found

theorem matches_clear (self : FilterSearch) : self.clear.Matches search collate :=
  fun _ _ => rfl

theorem matches_activated {state : FilterSearch} (holds : state.Matches search collate) :
    state.onSearchActivated.Matches search collate := by
  unfold onSearchActivated
  split
  · exact holds
  · exact holds
  · split
    · exact matches_clear state
    · intro _ nothing
      exact absurd nothing (by simp)

theorem lastIsActive_iff_step (state : FilterSearch) (event : Event)
    (holds : state.Matches search collate) :
    state.LastIsActive search collate event ↔
      (state.step search collate event).Matches search collate := by
  cases event with
  | typed text => exact iff_of_true trivial holds
  | activated => exact iff_of_true trivial (matches_activated holds)
  | stopped => exact iff_of_true trivial (fun _ _ => rfl)
  | searchDone index session =>
      simp only [LastIsActive, step]
      cases found : state.inFlight[index]? with
      | none => exact iff_of_true (fun _ _ missing => by cases missing) holds
      | some d =>
          dsimp only
          cases reply : (searchThread search collate d session).1 with
          | error error =>
              refine iff_of_true (fun _ _ same ok => ?_) (fun succeeded => ?_)
              · cases same
                cases reply.symm.trans ok
              · simp [onSearchDone, Except.toOption] at succeeded
          | ok nodes =>
              have same := searchThread_ok reply
              subst same
              constructor
              · intro last succeeded nothing
                have before : (state.failed || false) = false := succeeded
                rw [Bool.or_false] at before
                exact last d _ rfl reply before nothing
              · intro matches_ other _ isIt _ before nothing
                cases isIt
                exact matches_ (by rw [← before]; exact Bool.or_false _) nothing

/-- The store holds the hits of the active filter whenever nothing is in flight exactly
where the searches that complete last are for it. -/
theorem matches_throughout_iff (search : LdapSearch) (collate : CString → CString → Int)
    (baseDn : Option CString) (events : List Event) :
    Along (step search collate) (LastIsActive search collate) (opened baseDn) events ↔
      Throughout (step search collate) (Matches search collate) (opened baseDn) events :=
  along_iff_throughout _ lastIsActive_iff_step fun _ _ => rfl

/-- Esc before the search completes: its hits come back without a filter. -/
theorem hits_after_stop :
    ¬ ∀ (search : LdapSearch) (collate : CString → CString → Int) (baseDn : Option CString)
        (events : List Event),
      Throughout (step search collate) (Matches search collate) (opened baseDn) events := by
  intro claim
  let finds : LdapSearch := fun _ =>
    (Ldap.ldapSuccess, [{ dn := some (cstr "CN=printer"), attributes := [] }])
  have matches_ := (claim finds (fun _ _ => 0) (some (cstr "DC=lan"))
    [ .typed (cstr "(cn=p*)"), .activated, .stopped,
      .searchDone 0 (.opened id fun _ => none) ]).last
  have count := congrArg List.length (matches_ rfl rfl)
  change (sortedByLabel (fun _ _ => 0) _).length = 0 at count
  rw [sortedByLabel, List.length_mergeSort] at count
  cases count

end FilterSearch

end Sambervise.Ui
