import Sambervise.Backend.Users
import Sambervise.Bits.MaskedUpdate
import Sambervise.Transition.Run

namespace Sambervise.Backend.Users

open Text Ldap Model Bits Transition

/-! The writers of one user's userAccountControl: the two operations of the program,
each one critical section, and the other clients of the server. -/

inductive UacOp where
  | setEnabled (d : SetEnabledData)
  | setPasswordFlags (d : SetPwFlagsData)

namespace UacOp

def dn : UacOp → Option CString
  | .setEnabled d => d.dn
  | .setPasswordFlags d => d.dn

/-- The bit an operation is about, and what it is asked to make of it. -/
def change : UacOp → MaskedUpdate 64
  | .setEnabled d =>
      if d.enabled then .clear uacAccountDisable else .set uacAccountDisable
  | .setPasswordFlags d =>
      if d.neverExpires then .set uacDontExpirePasswd else .clear uacDontExpirePasswd

def perform : UacOp → LdapM (Except GError Unit)
  | .setEnabled d => setEnabledThread d
  | .setPasswordFlags d => setPwFlagsThread d

def requests : UacOp → Nat
  | .setEnabled _ => 2
  | .setPasswordFlags _ => 1

/-- The value an operation starts from where the server has `uac`: one reads it, and
the other brings the value its object was listed with. -/
def base (session : Session) (uac : GInt64) : UacOp → GInt64
  | .setEnabled _ => if session.outcome.withholds then uacNormalAccount else uac
  | .setPasswordFlags d => d.currentUac

variable {session : Session} {dn : DistinguishedName} {entry : Entry} {text : CString}

theorem apply_setEnabled (d : SetEnabledData) (uac : GInt64) :
    (change (.setEnabled d)).apply uac = uacWithEnabled d.enabled uac := by
  cases enabled : d.enabled with
  | true => simp [change, uacWithEnabled, enabled]
  | false => simp [change, uacWithEnabled, enabled]

theorem apply_setPasswordFlags (d : SetPwFlagsData) (uac : GInt64) :
    (change (.setPasswordFlags d)).apply uac = uacWithNeverExpires d.neverExpires uac := by
  cases neverExpires : d.neverExpires with
  | true => simp [change, uacWithNeverExpires, neverExpires]
  | false => simp [change, uacWithNeverExpires, neverExpires]

theorem enabledBase_eq (held : firstValue entry.attrs "userAccountControl" = some text)
    (d : SetEnabledData) :
    enabledBase uacNormalAccount session entry =
      base session (strtoll text) (.setEnabled d) := by
  unfold enabledBase base
  cases outcome : session.outcome with
  | served | refused => simp [Outcome.visible, Outcome.withholds, uacRead, held]
  | withheldValues =>
      simp [Outcome.visible, Outcome.withholds, uacRead, firstValue, Attributes.values]
  | withheldEntry => simp [Outcome.visible, Outcome.withholds, uacRead]

theorem perform_carriedOut (op : UacOp) (serves : session.serves op.requests = true)
    (found : session.directory.find session.rule (orEmpty op.dn) = .ok (dn, entry))
    (held : firstValue entry.attrs "userAccountControl" = some text) :
    (op.perform session).1 = .ok () ∧
      ∃ attrs,
        attrs.values (cstr "userAccountControl") =
          [formatInt64 (op.change.apply (op.base session (strtoll text)))] ∧
        session.Becomes (Function.update session.directory dn (some { entry with attrs }))
          (op.perform session).2 := by
  cases op with
  | setEnabled d =>
      obtain ⟨success, becomes⟩ := setEnabledFrom_carriedOut serves found
      refine ⟨success, _, ?_, becomes⟩
      rw [Attributes.values_set_self, apply_setEnabled, enabledBase_eq held]
  | setPasswordFlags d =>
      obtain ⟨success, becomes⟩ := setPwFlagsThread_carriedOut serves found
      refine ⟨success, _, ?_, becomes⟩
      simp only [Directory.replaceAll, SetPwFlagsData.mods, replaceMod, List.foldl_cons,
        List.foldl_nil]
      rw [Attributes.values_set_of_ne _ (by decide), Attributes.values_set_of_ne _ (by decide),
        Attributes.values_set_self, apply_setPasswordFlags]
      rfl

theorem perform_refused (op : UacOp) (refused : session.serves op.requests = false)
    (found : session.directory.find session.rule (orEmpty op.dn) = .ok (dn, entry)) :
    (op.perform session).1 ≠ .ok () ∧
      session.Becomes session.directory (op.perform session).2 := by
  cases op with
  | setEnabled d => exact setEnabledFrom_refused refused found
  | setPasswordFlags d => exact setPwFlagsThread_refused refused

end UacOp

/-- One account: the object the panel holds for it, the operations dispatched and not
yet run, and what the operations that succeeded and the other clients asked for, each
on its own bits, in the order the server saw them. -/
structure Account where
  session : Session
  user : SbvUser
  pending : List UacOp
  ofUser : ∀ op ∈ pending, op.dn = user.dn
  initialUac : GInt64
  changes : List (MaskedUpdate 64)

namespace Account

def dcUac (self : Account) : Option GInt64 :=
  match self.session.directory.find self.session.rule (orEmpty self.user.dn) with
  | .ok (_, entry) => (firstValue entry.attrs "userAccountControl").map strtoll
  | .error _ => none

/-- Every change so far is in the server's value, and nothing else is. -/
def Isolated (self : Account) : Prop :=
  self.dcUac = some (MaskedUpdate.applyAll self.changes self.initialUac)

instance (self : Account) : Decidable self.Isolated := inferInstanceAs (Decidable (_ = _))

def dispatch (self : Account) (op : UacOp) (same : op.dn = self.user.dn) : Account :=
  { self with
    pending := self.pending ++ [op]
    ofUser := by
      intro other member
      rcases List.mem_append.mp member with earlier | latest
      · exact self.ofUser other earlier
      · rw [List.mem_singleton.mp latest]
        exact same }

def perform (self : Account) (index : Nat) (op : UacOp) : Account :=
  let reply := op.perform self.session
  { self with
    session := reply.2
    pending := self.pending.eraseIdx index
    ofUser := fun other member => self.ofUser other (List.mem_of_mem_eraseIdx member)
    changes :=
      match reply.1 with
      | .ok () => self.changes ++ [op.change]
      | .error _ => self.changes }

inductive Event where
  | setEnabled (enabled : Bool)
  | setPasswordFlags (forceChange neverExpires : Bool) (accountExpires : GInt64)
  /-- The operation at this place among those pending gets the lock. -/
  | performed (index : Nat)
  | changedByOther (uac : GInt64)
  /-- The panel gets the object that some listing made for the account. -/
  | listed (user : SbvUser)

def step (self : Account) : Event → Account
  | .setEnabled enabled =>
      self.dispatch (.setEnabled (sbvUsersSetEnabled self.user enabled)) rfl
  | .setPasswordFlags forceChange neverExpires accountExpires =>
      self.dispatch
        (.setPasswordFlags
          (sbvUsersSetPasswordFlags self.user forceChange neverExpires accountExpires))
        rfl
  | .performed index =>
      match self.pending[index]? with
      | some op => self.perform index op
      | none => self
  | .changedByOther uac =>
      match self.session.directory.modify self.session.rule (orEmpty self.user.dn)
          [replaceMod "userAccountControl" [formatInt64 uac]] with
      | .ok directory =>
          { self with
            session := { self.session with directory }
            changes := self.changes ++ [.whole uac] }
      | .error _ => self
  | .listed user =>
      if same : user.dn = self.user.dn then
        { self with user, ofUser := fun op member => (self.ofUser op member).trans same.symm }
      else self

/-- An operation that the server carries out starts from the server's own value, up to
the bit it is about. -/
def StartsFromCurrent (self : Account) : Event → Prop
  | .performed index =>
      ∀ op ∈ self.pending[index]?, self.session.serves op.requests = true →
        ∀ uac ∈ self.dcUac, op.change.Agree (op.base self.session uac) uac
  | _ => True

section Steps

variable {self : Account} {uac : GInt64}

theorem dcUac_eq_some_iff :
    self.dcUac = some uac ↔
      ∃ dn entry text,
        self.session.directory.find self.session.rule (orEmpty self.user.dn) =
          .ok (dn, entry) ∧
        firstValue entry.attrs "userAccountControl" = some text ∧ strtoll text = uac := by
  unfold dcUac
  cases found : self.session.directory.find self.session.rule (orEmpty self.user.dn) with
  | error rc => simp
  | ok named =>
      obtain ⟨dn, entry⟩ := named
      simp [Option.map_eq_some_iff]

theorem dcUac_of_becomes {before : Session} {dn : DistinguishedName} {entry : Entry}
    {attrs : Attributes}
    (becomes : before.Becomes
      (Function.update before.directory dn (some { entry with attrs })) self.session)
    (found : before.directory.find before.rule (orEmpty self.user.dn) = .ok (dn, entry))
    (written : attrs.values (cstr "userAccountControl") = [formatInt64 uac]) :
    self.dcUac = some uac := by
  refine dcUac_eq_some_iff.mpr
    ⟨dn, { entry with attrs }, formatInt64 uac, ?_, ?_, strtoll_formatInt64 uac⟩
  · rw [becomes.directory, becomes.rule]
    exact Directory.find_update (Directory.find_ok_iff.mp found).1
  · simp [firstValue, written, untilNul_formatInt64]

theorem changes_perform_of_ok (index : Nat) {op : UacOp}
    (success : (op.perform self.session).1 = .ok ()) :
    (self.perform index op).changes = self.changes ++ [op.change] := by
  simp [perform, success]

theorem changes_perform_of_ne (index : Nat) {op : UacOp}
    (failure : (op.perform self.session).1 ≠ .ok ()) :
    (self.perform index op).changes = self.changes := by
  cases result : (op.perform self.session).1 with
  | error error => simp [perform, result]
  | ok done => exact absurd result failure

theorem isolated_perform_iff (isolated : self.Isolated) (index : Nat) {op : UacOp}
    (inFlight : self.pending[index]? = some op) :
    (self.perform index op).Isolated ↔ self.StartsFromCurrent (.performed index) := by
  obtain ⟨dn, entry, text, found, held, value⟩ := dcUac_eq_some_iff.mp isolated
  have foundOp : self.session.directory.find self.session.rule (orEmpty op.dn) =
      .ok (dn, entry) := by
    rw [self.ofUser op (List.mem_of_getElem? inFlight)]
    exact found
  have current : self.dcUac = some (strtoll text) := by rw [value]; exact isolated
  simp only [StartsFromCurrent, inFlight, current, Option.mem_def, Option.some.injEq,
    forall_eq']
  cases serves : self.session.serves op.requests with
  | false =>
      obtain ⟨failure, becomes⟩ := UacOp.perform_refused op serves foundOp
      have same : (self.perform index op).dcUac = self.dcUac := by
        rw [current]
        refine dcUac_eq_some_iff.mpr ⟨dn, entry, text, ?_, held, rfl⟩
        exact (congrArg₂ (fun rule directory => Directory.find rule directory
          (orEmpty self.user.dn)) becomes.rule becomes.directory).trans found
      simp only [Bool.false_eq_true, false_implies, iff_true]
      rw [Isolated, same, changes_perform_of_ne index failure]
      exact isolated
  | true =>
      obtain ⟨success, attrs, written, becomes⟩ :=
        UacOp.perform_carriedOut op serves foundOp held
      have now : (self.perform index op).dcUac =
          some (op.change.apply (op.base self.session (strtoll text))) :=
        dcUac_of_becomes becomes found written
      have initial : (self.perform index op).initialUac = self.initialUac := rfl
      rw [Isolated, now, changes_perform_of_ok index success, initial,
        MaskedUpdate.applyAll_concat, ← value, Option.some.injEq,
        MaskedUpdate.apply_eq_apply_iff]
      simp

theorem isolated_changedByOther (isolated : self.Isolated) (uac : GInt64) :
    (self.step (.changedByOther uac)).Isolated := by
  obtain ⟨dn, entry, text, found, held, value⟩ := dcUac_eq_some_iff.mp isolated
  have replaces : ∀ mod ∈ [replaceMod "userAccountControl" [formatInt64 uac]],
      mod.op = .replace := by simp [replaceMod]
  simp only [step, Directory.modify_of_find found replaces]
  rw [Isolated, MaskedUpdate.applyAll_concat, MaskedUpdate.apply_whole]
  refine @dcUac_of_becomes _ uac self.session dn entry _ ⟨rfl, rfl, rfl⟩ found ?_
  exact Attributes.values_set_self _ _ _

theorem startsFromCurrent_iff_step (self : Account) (event : Event)
    (isolated : self.Isolated) :
    self.StartsFromCurrent event ↔ (self.step event).Isolated := by
  cases event with
  | setEnabled enabled => exact iff_of_true trivial isolated
  | setPasswordFlags forceChange neverExpires accountExpires =>
      exact iff_of_true trivial isolated
  | performed index =>
      cases inFlight : self.pending[index]? with
      | none => simpa [StartsFromCurrent, step, inFlight] using isolated
      | some op =>
          simp only [step, inFlight]
          exact (isolated_perform_iff isolated index inFlight).symm
  | changedByOther uac => exact iff_of_true trivial (isolated_changedByOther isolated uac)
  | listed user =>
      refine iff_of_true trivial ?_
      simp only [step]
      split
      next same =>
        simpa [Isolated, dcUac, same] using isolated
      · exact isolated

end Steps

/-- In every state of a run the server's value is what the operations and the other
clients made of it, each on its own bits, exactly where every operation started from the
value the server had then, up to its own bit. -/
theorem isolated_throughout_iff (start : Account) (isolated : start.Isolated)
    (events : List Event) :
    Along step StartsFromCurrent start events ↔ Throughout step Isolated start events :=
  along_iff_throughout Isolated startsFromCurrent_iff_step isolated

def listedWith (uac : GInt64) : Account :=
  let dn := cstr "CN=x,DC=d"
  let attrs := Attributes.set
    (Attributes.set (fun _ => []) (cstr "distinguishedName") [dn])
    (cstr "userAccountControl") [formatInt64 uac]
  { session := Session.opened id (Function.update (fun _ => none)
      ((denotes id dn).getD []) (some { objectGuid := 0, attrs }))
    user := userOfEntry attrs
    pending := []
    ofUser := by simp
    initialUac := uac
    changes := [] }

theorem isolated_throughout_iff_enable :
    Along step StartsFromCurrent (listedWith 0x202)
        [.setEnabled true, .performed 0] ↔
      Throughout step Isolated (listedWith 0x202) [.setEnabled true, .performed 0] :=
  isolated_throughout_iff (listedWith 0x202) (by decide) _

/-- A policy save brings the value of the last listing: an account that another client
disabled since is enabled again, though nobody asked for that. -/
theorem password_flags_undo_disable :
    let final := run step (listedWith 0x200)
      [.changedByOther 0x202, .setPasswordFlags false true maxInt64, .performed 0]
    final.changes = [.whole 0x202, .set uacDontExpirePasswd] ∧
      MaskedUpdate.applyAll final.changes final.initialUac = 0x10202 ∧
      final.dcUac = some 0x10200 ∧ ¬ final.Isolated := by
  decide

end Account

end Sambervise.Backend.Users
