import Sambervise.Backend.Workers

namespace Sambervise.Backend

open Text Ldap Model

/-! The id ranges a profile configures, with the hints the server publishes. -/

/-- As every way to make them sets the bounds, the lower ones are no longer unset. -/
structure SbvIdmapHints where
  uidMin : GInt64
  uidMax : GInt64
  gidMin : GInt64
  gidMax : GInt64
  nextUidHint : GInt64 := -1
  nextGidHint : GInt64 := -1
  source : CString
  uidMin_nonneg : 0 ≤ uidMin.toInt
  gidMin_nonneg : 0 ≤ gidMin.toInt

def sbvIdmapDefaultMin : GInt64 := 10000
def sbvIdmapDefaultMax : GInt64 := 29999

def orDefault (bound fallback : GInt64) : GInt64 := if 0 ≤ bound.toInt then bound else fallback

theorem orDefault_nonneg (bound : GInt64) {fallback : GInt64} (nonneg : 0 ≤ fallback.toInt) :
    0 ≤ (orDefault bound fallback).toInt := by
  unfold orDefault
  split
  · assumption
  · exact nonneg

def sbvIdmapHintsFromProfile (profile : SbvProfile) : SbvIdmapHints :=
  { uidMin := orDefault profile.uidMin sbvIdmapDefaultMin
    uidMax := orDefault profile.uidMax sbvIdmapDefaultMax
    gidMin := orDefault profile.gidMin sbvIdmapDefaultMin
    gidMax := orDefault profile.gidMax sbvIdmapDefaultMax
    source := cstr "profile config / defaults"
    uidMin_nonneg := orDefault_nonneg _ (by decide)
    gidMin_nonneg := orDefault_nonneg _ (by decide) }

def ypServersDn (base : Option CString) : CString :=
  cstr "CN=ypservers,CN=ypServ30,CN=RpcServices,CN=System," ++ shownString base

def publishedHint (entry : Attributes) (type : String) (fallback : GInt64) : GInt64 :=
  ((firstValue entry type).map strtoll).getD fallback

def SbvIdmapHints.withPublished (hints : SbvIdmapHints) (entry : Attributes) : SbvIdmapHints :=
  let nextUidHint := publishedHint entry "msSFU30MaxUidNumber" hints.nextUidHint
  let nextGidHint := publishedHint entry "msSFU30MaxGidNumber" hints.nextGidHint
  { hints with
    nextUidHint
    nextGidHint
    source :=
      if 0 ≤ nextUidHint.toInt ∨ 0 ≤ nextGidHint.toInt then cstr "msSFU30 + profile config"
      else hints.source }

def SbvIdmapHints.merged (hints : SbvIdmapHints) (entry : Option Attributes) :
    SbvIdmapHints :=
  entry.elim hints hints.withPublished

def hintsEntry (reply : ResultCode × Option Attributes) : Option Attributes :=
  if reply.1 = ldapSuccess then reply.2 else none

/-- A server without the entry is no error. -/
def queryThread (base : SbvIdmapHints) : LdapM (Except GError SbvIdmapHints) :=
  whenConnected do
    let session ← get
    let reply ← searchBase (ypServersDn session.baseDn)
    releaseLdap
    return .ok (base.merged (hintsEntry reply))

theorem queryThread_eq (base : SbvIdmapHints) :
    queryThread base =
      underLock (do
        let session ← get
        let reply ← searchBase (ypServersDn session.baseDn)
        return .ok (base.merged (hintsEntry reply))) := rfl

def sbvIdmapHintsQuery (profile : SbvProfile) : LdapM (Except GError SbvIdmapHints) :=
  queryThread (sbvIdmapHintsFromProfile profile)

def publishedTo (session : Session) : Option Attributes :=
  hintsEntry (searchBase (ypServersDn session.baseDn) session).1

theorem queryThread_apply {session : Session} (connected : session.ld = true)
    (base : SbvIdmapHints) :
    (queryThread base session).1 = .ok (base.merged (publishedTo session)) ∧
      (queryThread base session).2.ld = true ∧
      (queryThread base session).2.baseDn = session.baseDn := by
  have reply := send_acquire (.search (ypServersDn session.baseDn)) session (session.acquired + 1)
  obtain ⟨ld, baseDn⟩ := send_connection (.search (ypServersDn session.baseDn)) session
  have run : queryThread base session =
      (.ok (base.merged (publishedTo session)),
        let after := (searchBase (ypServersDn session.baseDn) session).2
        { after with acquired := session.acquired + 1, released := after.released + 1 }) := by
    rw [queryThread_eq, underLock_apply, if_pos connected]
    simp only [bind, StateT.bind, get, getThe, MonadStateOf.get, StateT.get, pure, searchBase]
    rw [reply]
    rfl
  rw [run]
  exact ⟨rfl, ld.trans connected, baseDn⟩

end Sambervise.Backend
