import Sambervise.Transition.InFlight
import Sambervise.Ui.HandedOver
import Sambervise.Ui.StatusTexts

namespace Sambervise.Ui

open Text Ldap Model Backend Transition

/-! The status bar over the runs of the window. A query over each connection that comes to
the window is to tell its id ranges. -/

/-- A query of the id ranges under way, with the profile it was started with. -/
structure RangeQuery where
  conn : ConnId
  profile : SbvProfile

structure StatusWindow (calendar : Users.GDateTimeUtc) (kf : GKeyFile) where
  base : ProfilesWindow calendar kf
  statusBar : StatusBar := {}
  queries : List RangeQuery := []

namespace StatusWindow

open StatusBar

variable {calendar : Users.GDateTimeUtc} {kf : GKeyFile}

def opened (profiles : Profiles kf) (usersForm : Users.Form)
    (computersForm : Computers.Form) : StatusWindow calendar kf :=
  { base := .opened profiles usersForm computersForm }

def statusBarUpdateIdentity (self : StatusWindow calendar kf) (principal : Option CString) :
    StatusWindow calendar kf :=
  match self.base.window.conn, self.base.window.activeProfile with
  | some conn, some profile =>
      { self with
        statusBar :=
          { visible := true
            serverLabel :=
              serverText ((self.base.boundWith conn).bind SbvProfile.host) profile.port
            principalLabel := identityText profile principal
            idmapLabel := pendingText } }
  | _, _ => self

/-- With no profile the query has crashed, as the window below has it. -/
def queryIdmapHints (self : StatusWindow calendar kf) (conn : ConnId) :
    Option SbvProfile → StatusWindow calendar kf
  | none => self
  | some profile => { self with queries := self.queries ++ [{ conn, profile }] }

def showRanges (self : StatusWindow calendar kf) (hints : SbvIdmapHints) :
    StatusWindow calendar kf :=
  { self with statusBar := { self.statusBar with idmapLabel := rangesText hints } }

/-- The answer to a query over another connection than the window's is dropped. -/
def onStatusIdmapLoaded (self : StatusWindow calendar kf) (query : RangeQuery)
    (reply : Except GError (Option Attributes)) : StatusWindow calendar kf :=
  if self.base.window.conn ≠ some query.conn then self
  else
    match reply with
    | .ok entry =>
        self.showRanges ((sbvIdmapHintsFromProfile query.profile).merged entry)
    | .error _ =>
        match self.base.window.activeProfile with
        | some profile => self.showRanges (sbvIdmapHintsFromProfile profile)
        | none => { self with base := { self.base with crashed := true } }

inductive Event (calendar : Users.GDateTimeUtc) where
  /-- What happens to the window; `principal` is what the credential cache holds then. -/
  | window (event : ProfilesWindow.Event calendar) (principal : Option CString)
  /-- The query at this place among those under way completes. -/
  | idmapLoaded (index : Nat) (reply : Except GError (Option Attributes))

def handle (self : StatusWindow calendar kf) : Event calendar → StatusWindow calendar kf
  | .window event principal =>
      let handed := self.base.handsOver event
      let self := { self with base := self.base.handle event }
      match handed with
      | none => self
      | some (conn, profile) =>
          (self.statusBarUpdateIdentity principal).queryIdmapHints conn profile
  | .idmapLoaded index reply =>
      match self.queries[index]? with
      | none => self
      | some query =>
          onStatusIdmapLoaded { self with queries := self.queries.eraseIdx index } query reply

def step (self : StatusWindow calendar kf) (event : Event calendar) :
    StatusWindow calendar kf :=
  if self.base.dead then self else self.handle event

/-! What an event does -/

variable {state : StatusWindow calendar kf}

theorem handle_quiet {event : ProfilesWindow.Event calendar} (principal : Option CString)
    (quiet : state.base.handsOver event = none) :
    state.handle (.window event principal) =
      { state with base := state.base.handle event } := by
  simp only [handle, quiet]

/-- A connection with no profile crashes the query, and leaves the bar as it was. -/
theorem handle_unnamed {event : ProfilesWindow.Event calendar} {conn : ConnId}
    (principal : Option CString) (hands : state.base.handsOver event = some (conn, none)) :
    state.handle (.window event principal) =
      { state with base := state.base.handle event } := by
  obtain ⟨index, handed⟩ := ProfilesWindow.handedOver_handle hands
  simp only [handle, hands, statusBarUpdateIdentity, handed.conn, handed.activeProfile,
    queryIdmapHints]

theorem handle_handed {event : ProfilesWindow.Event calendar} {conn : ConnId}
    {profile : SbvProfile} (principal : Option CString)
    (hands : state.base.handsOver event = some (conn, some profile)) :
    state.handle (.window event principal) =
      { base := state.base.handle event
        statusBar :=
          { visible := true
            serverLabel :=
              serverText ((state.base.boundWith conn).bind SbvProfile.host) profile.port
            principalLabel := identityText profile principal
            idmapLabel := pendingText }
        queries := state.queries ++ [{ conn, profile }] } := by
  obtain ⟨index, handed⟩ := ProfilesWindow.handedOver_handle hands
  simp only [handle, hands, statusBarUpdateIdentity, handed.conn, handed.activeProfile,
    handed.boundWith, queryIdmapHints]

/-! Each connection is handed over once and asked once -/

def flying (state : StatusWindow calendar kf) : List ConnId :=
  state.base.window.connecting.map Connecting.conn

def asked (state : StatusWindow calendar kf) : List ConnId :=
  state.queries.map RangeQuery.conn

structure Apart (state : StatusWindow calendar kf) : Prop where
  bound : state.base.WellBound
  distinct : (state.flying ++ state.asked).Nodup
  current : ∀ conn ∈ state.base.window.conn, conn ∉ state.flying
  earlier : ∀ conn ∈ state.asked, conn < state.base.window.nextConn

theorem wellBound_handle (bound : state.base.WellBound)
    (event : ProfilesWindow.Event calendar) : (state.base.handle event).WellBound :=
  ProfilesWindow.wellBound_handles bound (state.base.handles_handle event)

theorem flying_lt (bound : state.base.WellBound) {conn : ConnId}
    (member : conn ∈ state.flying) : conn < state.base.window.nextConn := by
  obtain ⟨connecting, inFlight, rfl⟩ := List.mem_map.mp member
  exact (bound.connecting connecting inFlight).1

/-- Where the window's connection stays, whatever is started or ends meanwhile. -/
theorem apart_quiet (apart : state.Apart) {after : ProfilesWindow calendar kf}
    (bound : after.WellBound) (pends : state.base.Pends after)
    (conn : after.window.conn = state.base.window.conn) :
    Apart { state with base := after } := by
  have fresh : state.base.window.nextConn ∉ state.flying :=
    fun member => Nat.lt_irrefl _ (flying_lt apart.bound member)
  have unasked : state.base.window.nextConn ∉ state.asked :=
    fun member => Nat.lt_irrefl _ (apart.earlier _ member)
  constructor
  · exact bound
  · refine (pends.connecting.append (List.Sublist.refl state.asked)).nodup ?_
    rw [List.append_assoc, List.singleton_append]
    exact List.perm_middle.nodup_iff.mpr
      (List.nodup_cons.mpr ⟨List.not_mem_append fresh unasked, apart.distinct⟩)
  · intro current known member
    change current ∈ after.window.conn at known
    rw [conn] at known
    rcases List.mem_append.mp (pends.connecting.subset member) with old | new
    · exact apart.current current known old
    · rw [List.mem_singleton.mp new] at known
      exact Nat.lt_irrefl _ (apart.bound.conn _ known)
  · intro current member
    exact lt_of_lt_of_le (apart.earlier current member) pends.nextConn

section HandedOver

variable {after : ProfilesWindow calendar kf} {index : Nat} {conn : ConnId}
  {profile : Option SbvProfile}

theorem flying_perm (handed : state.base.HandedOver after index conn profile) :
    state.flying.Perm (conn :: after.window.connecting.map Connecting.conn) := by
  obtain ⟨done, found, rfl⟩ := handed.flying
  rw [handed.connecting]
  exact (completed_perm found).map Connecting.conn

/-- The connection is out of flight, and may be asked now. -/
theorem distinct_handed (apart : state.Apart)
    (handed : state.base.HandedOver after index conn profile) :
    (after.window.connecting.map Connecting.conn ++ (state.asked ++ [conn])).Nodup := by
  have perm := (flying_perm handed).append_right state.asked
  refine (List.Perm.nodup_iff ?_).mp apart.distinct
  refine perm.trans ?_
  rw [← List.append_assoc]
  exact (List.perm_append_singleton _ _).symm

theorem landed (apart : state.Apart)
    (handed : state.base.HandedOver after index conn profile) :
    conn ∉ after.window.connecting.map Connecting.conn ∧ conn ∉ state.asked := by
  have distinct := distinct_handed apart handed
  rw [← List.append_assoc, List.nodup_append_comm, List.singleton_append,
    List.nodup_cons] at distinct
  exact ⟨fun member => distinct.1 (List.mem_append_left _ member),
    fun member => distinct.1 (List.mem_append_right _ member)⟩

theorem handed_lt (apart : state.Apart)
    (handed : state.base.HandedOver after index conn profile) :
    conn < after.window.nextConn := by
  rw [handed.nextConn]
  exact flying_lt apart.bound ((flying_perm handed).symm.subset List.mem_cons_self)

/-- With the query or, where there is no profile to ask with, without. -/
theorem apart_handed (apart : state.Apart) (bound : after.WellBound)
    (handed : state.base.HandedOver after index conn profile) (statusBar : StatusBar)
    {queries : List RangeQuery}
    (asked : (queries.map RangeQuery.conn).Sublist (state.asked ++ [conn])) :
    Apart { base := after, statusBar, queries } := by
  constructor
  · exact bound
  · exact ((List.Sublist.refl _).append asked).nodup (distinct_handed apart handed)
  · intro current known
    change current ∈ after.window.conn at known
    rw [handed.conn, Option.mem_some_iff] at known
    rw [← known]
    exact (landed apart handed).1
  · intro other member
    rcases List.mem_append.mp (asked.subset member) with earlier | new
    · exact (apart.earlier other earlier).trans_eq handed.nextConn.symm
    · rw [List.mem_singleton.mp new]
      exact handed_lt apart handed

end HandedOver

theorem apart_window (apart : state.Apart) (event : ProfilesWindow.Event calendar)
    (principal : Option CString) : (state.handle (.window event principal)).Apart := by
  have bound := wellBound_handle apart.bound event
  cases hands : state.base.handsOver event with
  | none =>
      rw [handle_quiet principal hands]
      apply apart_quiet apart bound
      · exact ProfilesWindow.pends_handles (state.base.handles_handle event)
      · exact (ProfilesWindow.keepsConnection_handle hands).conn
  | some handed =>
      obtain ⟨conn, profile⟩ := handed
      obtain ⟨index, landed⟩ := ProfilesWindow.handedOver_handle hands
      cases profile with
      | none =>
          rw [handle_unnamed principal hands]
          exact apart_handed apart bound landed _ (List.sublist_append_left _ _)
      | some profile =>
          rw [handle_handed principal hands]
          apply apart_handed apart bound landed
          rw [List.map_append]
          exact List.Sublist.refl _

theorem apart_idmapLoaded (apart : state.Apart) (index : Nat)
    (reply : Except GError (Option Attributes)) :
    (state.handle (.idmapLoaded index reply)).Apart := by
  have fewer : Apart { state with queries := state.queries.eraseIdx index } := by
    have sublist : ((state.queries.eraseIdx index).map RangeQuery.conn).Sublist state.asked :=
      (List.eraseIdx_sublist _ _).map RangeQuery.conn
    constructor
    · exact apart.bound
    · exact ((List.Sublist.refl _).append sublist).nodup apart.distinct
    · exact apart.current
    · exact fun conn member => apart.earlier conn (sublist.subset member)
  simp only [handle]
  split
  · exact apart
  · unfold onStatusIdmapLoaded
    split
    · exact fewer
    · split
      · exact ⟨fewer.bound, fewer.distinct, fewer.current, fewer.earlier⟩
      · split
        · exact ⟨fewer.bound, fewer.distinct, fewer.current, fewer.earlier⟩
        · exact ⟨⟨fewer.bound.conn, fewer.bound.connecting⟩, fewer.distinct, fewer.current,
            fewer.earlier⟩

theorem apart_step (state : StatusWindow calendar kf) (event : Event calendar)
    (apart : state.Apart) : (state.step event).Apart := by
  unfold step
  split
  · exact apart
  · cases event with
    | window event principal => exact apart_window apart event principal
    | idmapLoaded index reply => exact apart_idmapLoaded apart index reply

/-! What the bar says of the connection -/

/-- The labels are those of a connection bound with this profile, while its ranges are
asked for and after that. -/
structure Shows (bar : StatusBar) (profile : SbvProfile) (asking : Prop) : Prop where
  visible : bar.visible = true
  server : bar.serverLabel = serverText profile.host profile.port
  identity : ∃ principal, bar.principalLabel = identityText profile principal
  pending : asking → bar.idmapLabel = pendingText
  ranges : ¬ asking → ∃ entry,
    bar.idmapLabel = rangesText ((sbvIdmapHintsFromProfile profile).merged entry)

structure Describes (state : StatusWindow calendar kf) : Prop where
  queried : state.base.crashed = false
  shown : ∀ conn ∈ state.base.window.conn, ∃ profile,
    state.base.boundWith conn = some profile ∧
      Shows state.statusBar profile (conn ∈ state.asked)

/-- The profile whose ranges an answer leads to. -/
def answeredFor (state : StatusWindow calendar kf) (query : RangeQuery) :
    Except GError (Option Attributes) → Option SbvProfile
  | .ok _ => some query.profile
  | .error _ => state.base.window.activeProfile

/-- A connection comes with a profile that looks like the one it is bound with, and the
answer for the window's connection is one for a profile with the same ranges. -/
def Truthful (state : StatusWindow calendar kf) (event : Event calendar) : Prop :=
  state.base.dead = false →
    match event with
    | .window event _ => ∀ conn handed, state.base.handsOver event = some (conn, handed) →
        ∀ bound ∈ state.base.boundWith conn, ∃ profile ∈ handed,
          profile.port = bound.port ∧ SameIdentity profile bound
    | .idmapLoaded index reply => ∀ query ∈ state.queries[index]?,
        state.base.window.conn = some query.conn →
          ∀ bound ∈ state.base.boundWith query.conn, ∃ profile ∈ state.answeredFor query reply,
            SameRanges (sbvIdmapHintsFromProfile profile) (sbvIdmapHintsFromProfile bound)

theorem describes_quiet (apart : state.Apart) (described : state.Describes)
    {after : ProfilesWindow calendar kf} (pends : state.base.Pends after)
    (kept : state.base.KeepsConnection after) : Describes { state with base := after } := by
  constructor
  · exact kept.crashed.trans described.queried
  · intro conn known
    change conn ∈ after.window.conn at known
    rw [kept.conn] at known
    obtain ⟨profile, bound, shows⟩ := described.shown conn known
    refine ⟨profile, ?_, shows⟩
    exact (pends.boundWith conn (apart.bound.conn conn known)).trans bound

theorem describes_handed_iff {after : ProfilesWindow calendar kf} {index : Nat}
    {conn : ConnId} {profile bound : SbvProfile}
    (handed : state.base.HandedOver after index conn (some profile))
    (started : state.base.boundWith conn = some bound) (principal : Option CString) :
    (profile.port = bound.port ∧ SameIdentity profile bound) ↔
      Describes
        { base := after
          statusBar :=
            { visible := true
              serverLabel :=
                serverText ((state.base.boundWith conn).bind SbvProfile.host) profile.port
              principalLabel := identityText profile principal
              idmapLabel := pendingText }
          queries := state.queries ++ [{ conn, profile }] } := by
  have startedAfter : after.boundWith conn = some bound := handed.boundWith ▸ started
  rw [started, Option.bind_some, ← identityText_iff principal,
    ← serverText_eq_iff bound.host]
  constructor
  · rintro ⟨server, identity⟩
    constructor
    · exact handed.crashed
    · intro current known
      change current ∈ after.window.conn at known
      rw [handed.conn, Option.mem_some_iff] at known
      subst known
      refine ⟨bound, startedAfter, rfl, server, identity, fun _ => rfl, fun unasked => ?_⟩
      exact absurd (by simp [asked]) unasked
  · intro describes
    obtain ⟨other, same, shows⟩ := describes.shown conn handed.conn
    obtain rfl := Option.some.inj (startedAfter.symm.trans same)
    exact ⟨shows.server, shows.identity⟩

theorem truthful_iff_window (alive : state.base.dead = false) (apart : state.Apart)
    (described : state.Describes) (event : ProfilesWindow.Event calendar)
    (principal : Option CString) :
    state.Truthful (.window event principal) ↔
      (state.handle (.window event principal)).Describes := by
  simp only [Truthful, alive, true_imp_iff]
  cases hands : state.base.handsOver event with
  | none =>
      rw [handle_quiet principal hands]
      refine iff_of_true ?_ ?_
      · intro conn handed given
        cases given
      · apply describes_quiet apart described
        · exact ProfilesWindow.pends_handles (state.base.handles_handle event)
        · exact ProfilesWindow.keepsConnection_handle hands
  | some handed =>
      obtain ⟨conn, handed⟩ := handed
      obtain ⟨index, landed⟩ := ProfilesWindow.handedOver_handle hands
      obtain ⟨done, found, rfl⟩ := landed.flying
      obtain ⟨_, bound, started, _⟩ :=
        apart.bound.connecting done (List.mem_of_getElem? found)
      cases handed with
      | none =>
          rw [handle_unnamed principal hands]
          refine iff_of_false ?_ ?_
          · intro truthful
            obtain ⟨profile, given, _⟩ := truthful done.conn none rfl bound started
            cases given
          · intro describes
            have crashed := landed.crashed.symm.trans describes.queried
            cases crashed
      | some profile =>
          rw [handle_handed principal hands, ← describes_handed_iff landed started principal]
          constructor
          · intro truthful
            obtain ⟨same, given, alike⟩ := truthful done.conn (some profile) rfl bound started
            rw [Option.mem_some_iff] at given
            exact given ▸ alike
          · intro alike conn given same other otherBound
            simp only [Option.some_inj, Prod.mk.injEq] at same
            obtain ⟨rfl, rfl⟩ := same
            obtain rfl := Option.some.inj (started.symm.trans otherBound)
            exact ⟨profile, rfl, alike⟩

section Answered

variable {index : Nat} {query : RangeQuery}

theorem asked_perm (found : state.queries[index]? = some query) :
    state.asked.Perm (query.conn :: (state.queries.eraseIdx index).map RangeQuery.conn) :=
  (completed_perm found).map RangeQuery.conn

theorem answered_once (apart : state.Apart) (found : state.queries[index]? = some query) :
    query.conn ∉ (state.queries.eraseIdx index).map RangeQuery.conn := by
  intro member
  exact ((mem_map_completed_iff apart.distinct.of_append_right found).mp member).1 rfl

/-- The answer for another connection leaves the bar to the one the window has. -/
theorem describes_stale (described : state.Describes)
    (found : state.queries[index]? = some query)
    (stale : state.base.window.conn ≠ some query.conn) :
    Describes { state with queries := state.queries.eraseIdx index } := by
  constructor
  · exact described.queried
  · intro conn known
    obtain ⟨profile, started, shows⟩ := described.shown conn known
    have other : conn ≠ query.conn := fun same => stale (same ▸ known)
    have still : conn ∈ (state.queries.eraseIdx index).map RangeQuery.conn ↔
        conn ∈ state.asked := by
      rw [(asked_perm found).mem_iff, List.mem_cons, or_iff_right other]
    refine ⟨profile, started, shows.visible, shows.server, shows.identity, ?_, ?_⟩
    · exact fun asking => shows.pending (still.mp asking)
    · exact fun answered => shows.ranges (fun asking => answered (still.mpr asking))

theorem describes_showRanges_iff (apart : state.Apart) (described : state.Describes)
    (found : state.queries[index]? = some query)
    (current : state.base.window.conn = some query.conn) {bound : SbvProfile}
    (started : state.base.boundWith query.conn = some bound) (profile : SbvProfile)
    (entry : Option Attributes) :
    SameRanges (sbvIdmapHintsFromProfile profile) (sbvIdmapHintsFromProfile bound) ↔
      Describes (showRanges { state with queries := state.queries.eraseIdx index }
        ((sbvIdmapHintsFromProfile profile).merged entry)) := by
  rw [← rangesText_iff entry]
  have once := answered_once apart found
  constructor
  · intro ranges
    constructor
    · exact described.queried
    · intro conn known
      obtain rfl : query.conn = conn := Option.some.inj (current.symm.trans known)
      obtain ⟨same, startedToo, shows⟩ := described.shown query.conn known
      obtain rfl := Option.some.inj (started.symm.trans startedToo)
      refine ⟨bound, started, shows.visible, shows.server, shows.identity, ?_, ?_⟩
      · exact fun asking => absurd asking once
      · exact fun _ => ranges
  · intro describes
    obtain ⟨same, startedToo, shows⟩ := describes.shown query.conn current
    obtain rfl := Option.some.inj (started.symm.trans startedToo)
    exact shows.ranges once

theorem truthful_iff_answered (apart : state.Apart) (described : state.Describes)
    (found : state.queries[index]? = some query)
    (reply : Except GError (Option Attributes)) :
    (state.base.window.conn = some query.conn →
        ∀ bound ∈ state.base.boundWith query.conn, ∃ profile ∈ state.answeredFor query reply,
          SameRanges (sbvIdmapHintsFromProfile profile) (sbvIdmapHintsFromProfile bound)) ↔
      Describes (onStatusIdmapLoaded { state with queries := state.queries.eraseIdx index }
        query reply) := by
  unfold onStatusIdmapLoaded
  split
  next stale =>
    exact iff_of_true (fun current => absurd current stale)
      (describes_stale described found stale)
  next current =>
    rw [ne_eq, not_not] at current
    change state.base.window.conn = some query.conn at current
    obtain ⟨bound, started, _⟩ := described.shown query.conn current
    simp only [current, true_imp_iff, started, Option.mem_some_iff, forall_eq']
    cases reply with
    | ok entry =>
        rw [← describes_showRanges_iff apart described found current started]
        simp [answeredFor]
    | error error =>
        simp only [answeredFor]
        cases active : state.base.window.activeProfile with
        | none =>
            refine iff_of_false (by simp) ?_
            intro describes
            cases describes.queried
        | some profile =>
            refine Iff.trans ?_ (describes_showRanges_iff apart described found current
              started profile none)
            simp

end Answered

theorem truthful_iff_step (state : StatusWindow calendar kf) (event : Event calendar)
    (apart : state.Apart) (described : state.Describes) :
    state.Truthful event ↔ (state.step event).Describes := by
  unfold step
  split
  next dead =>
    refine iff_of_true (fun alive => ?_) described
    rw [dead] at alive
    cases alive
  next alive =>
    rw [Bool.not_eq_true] at alive
    cases event with
    | window event principal =>
        exact truthful_iff_window alive apart described event principal
    | idmapLoaded index reply =>
        simp only [Truthful, alive, true_imp_iff, handle]
        cases found : state.queries[index]? with
        | none =>
            refine iff_of_true (fun query given => ?_) described
            cases given
        | some query =>
            simp only [Option.mem_some_iff, forall_eq']
            exact truthful_iff_answered apart described found reply

/-- Over every run of a new window: as soon as there is a connection, and in every state
from then on, the bar shows its server, how it is bound, and the ranges of its profile (a
placeholder exactly until its query is answered), exactly where every connection comes
with a profile of the same port and identity as the one it is bound with, and the answer
for the window's connection is one for a profile with the same ranges. -/
theorem status_bar_iff (profiles : Profiles kf) (usersForm : Users.Form)
    (computersForm : Computers.Form) (events : List (Event calendar)) :
    Along step Truthful (opened profiles usersForm computersForm) events ↔
      Throughout step Describes (opened profiles usersForm computersForm) events := by
  apply along_iff_throughout_within Describes Apart apart_step truthful_iff_step
  · constructor
    · constructor
      · exact fun conn known => (Option.not_mem_none conn known).elim
      · exact fun connecting => (absurd · List.not_mem_nil)
    · exact List.nodup_nil
    · exact fun conn known => (Option.not_mem_none conn known).elim
    · exact fun conn => (absurd · List.not_mem_nil)
  · constructor
    · rfl
    · exact fun conn known => (Option.not_mem_none conn known).elim

-- A query that fails after another row was activated shows the ranges of that row.
example :
    let office := { Backend.labProfile "Office" with uidMin := 50000, uidMax := 59999 }
    let profiles : Profiles plainKeyFile :=
      { store := [Backend.labProfile "Lab", office], file := noFile }
    let final := run step (@opened Users.noCalendar _ profiles {} {})
      [ .window (.rowActivated 0) none, .window (.connectDone 0 (.ok ()) true) none,
        .window (.rowActivated 1) none,
        .idmapLoaded 0 (.error { code := .connection, text := [] }) ]
    final.base.window.conn = some 0 ∧
      final.statusBar.idmapLabel = rangesText (sbvIdmapHintsFromProfile office) := by
  decide

end StatusWindow

end Sambervise.Ui
