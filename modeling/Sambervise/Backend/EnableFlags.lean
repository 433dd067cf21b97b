import Sambervise.Backend.Computers
import Sambervise.Backend.Users

namespace Sambervise.Backend

open Text Ldap Model

/-! Enabling and disabling an account, and the flags next to the one that is meant -/

inductive AccountKind where
  | users
  | computers
  deriving DecidableEq, Repr

namespace AccountKind

def setEnabledThread : AccountKind → SetEnabledData → LdapM (Except GError Unit)
  | .users => Users.setEnabledThread
  | .computers => Computers.setEnabledThread

/-- The flags a worker starts from where the answer shows none. -/
def fallback : AccountKind → GInt64
  | .users => Users.uacNormalAccount
  | .computers => 0

theorem setEnabledThread_eq (kind : AccountKind) (d : SetEnabledData) :
    kind.setEnabledThread d = setEnabledFrom kind.fallback d := by
  cases kind with
  | users | computers => rfl

end AccountKind

def otherFlags (uac : GInt64) : GInt64 := uac &&& ~~~uacAccountDisable

/-- The flags of an entry, none where it has no value. -/
def heldUac (attrs : Attributes) : GInt64 :=
  ((firstValue attrs "userAccountControl").map strtoll).getD 0

/-- The same for the entry that a request names. -/
def dcUac (session : Session) (dn : CString) : GInt64 :=
  match session.directory.find session.rule dn with
  | .ok (_, entry) => heldUac entry.attrs
  | .error _ => 0

/-- It reports a failure and changes nothing, or succeeds and keeps the other flags. -/
def KeepsFlags (kind : AccountKind) (d : SetEnabledData) (session : Session) : Prop :=
  let reply := kind.setEnabledThread d session
  (∃ error, reply.1 = .error error) ∧ reply.2.directory = session.directory ∨
    reply.1 = .ok () ∧
      otherFlags (dcUac reply.2 (orEmpty d.dn)) = otherFlags (dcUac session (orEmpty d.dn))

/-- What is carried out on an entry starts from flags that the answer shows, or the
entry has the flags that are made up for it. -/
def StartsFromFlags (kind : AccountKind) (d : SetEnabledData) (session : Session) : Prop :=
  session.serves 2 = true →
    ∀ name entry, session.directory.find session.rule (orEmpty d.dn) = .ok (name, entry) →
      session.outcome.withholds = false ∧ entry.attrs.values (cstr "userAccountControl") ≠ [] ∨
        otherFlags (heldUac entry.attrs) = otherFlags kind.fallback

theorem otherFlags_uacWithEnabled (enabled : Bool) (uac : GInt64) :
    otherFlags (uacWithEnabled enabled uac) = otherFlags uac := by
  cases enabled with
  | true => simp [otherFlags, uacWithEnabled, BitVec.and_assoc]
  | false =>
      ext i inside
      simp only [otherFlags, uacWithEnabled, Bool.false_eq_true, if_false, BitVec.getElem_and,
        BitVec.getElem_or, BitVec.getElem_not]
      cases uacAccountDisable[i] <;> simp

section Outcomes

variable {kind : AccountKind} {d : SetEnabledData} {session : Session}
  {name : DistinguishedName} {entry : Entry}

theorem firstValue_isSome_iff (attrs : Attributes) (type : String) :
    (firstValue attrs type).isSome = true ↔ attrs.values (cstr type) ≠ [] := by
  unfold firstValue
  cases attrs.values (cstr type) with
  | nil => simp
  | cons value rest => simp

theorem uacRead_visible {outcome : Outcome} (withheld : outcome.withholds = true)
    (fallback : GInt64) (attrs : Attributes) :
    uacRead fallback (outcome.visible (some attrs)) = fallback := by
  cases outcome with
  | served | refused => cases withheld
  | withheldValues => rfl
  | withheldEntry => rfl

theorem uacRead_shown {outcome : Outcome} (shown : outcome.withholds = false)
    (fallback : GInt64) (attrs : Attributes) :
    uacRead fallback (outcome.visible (some attrs)) =
      ((firstValue attrs "userAccountControl").map strtoll).getD fallback := by
  have visible : outcome.visible (some attrs) = some attrs := by
    cases outcome with
    | served | refused => rfl
    | withheldValues | withheldEntry => cases shown
  rw [visible, uacRead, Option.bind_some]
  cases firstValue attrs "userAccountControl" with
  | none => rfl
  | some value => rfl

theorem otherFlags_enabledBase (fallback : GInt64) :
    otherFlags (enabledBase fallback session entry) = otherFlags (heldUac entry.attrs) ↔
      session.outcome.withholds = false ∧
          entry.attrs.values (cstr "userAccountControl") ≠ [] ∨
        otherFlags (heldUac entry.attrs) = otherFlags fallback := by
  rw [enabledBase]
  cases withheld : session.outcome.withholds with
  | true =>
      rw [uacRead_visible withheld, eq_comm]
      simp
  | false =>
      rw [uacRead_shown withheld, ← firstValue_isSome_iff, heldUac]
      cases firstValue entry.attrs "userAccountControl" with
      | none =>
          rw [eq_comm]
          simp
      | some value => simp

theorem dcUac_eq {dn : CString}
    (found : session.directory.find session.rule dn = .ok (name, entry)) :
    dcUac session dn = heldUac entry.attrs := by
  rw [dcUac, found]

theorem heldUac_set (attrs : Attributes) (uac : GInt64) :
    heldUac (attrs.set (cstr "userAccountControl") [formatInt64 uac]) = uac := by
  rw [heldUac, firstValue, Attributes.values_set_self, List.head?_cons, Option.map_some,
    untilNul_formatInt64, Option.map_some, strtoll_formatInt64, Option.getD_some]

theorem dcUac_of_becomes {after : Session} {dn : CString} {uac : GInt64}
    (becomes : session.Becomes
      (Function.update session.directory name
        (some
          { entry with
            attrs := entry.attrs.set (cstr "userAccountControl") [formatInt64 uac] })) after)
    (found : session.directory.find session.rule dn = .ok (name, entry)) :
    dcUac after dn = uac := by
  have named := (Directory.find_ok_iff.mp found).1
  rw [dcUac, becomes.directory, becomes.rule, Directory.find_update named]
  exact heldUac_set entry.attrs uac

theorem setEnabledFrom_absent {fallback : GInt64} {rc : ResultCode}
    (missing : session.directory.find session.rule (orEmpty d.dn) = .error rc) :
    (∃ error, (setEnabledFrom fallback d session).1 = .error error) ∧
      (setEnabledFrom fallback d session).2.directory = session.directory := by
  cases connected : session.ld with
  | false =>
      rw [setEnabledFrom_eq, underLock_apply, if_neg (by simp [connected])]
      exact ⟨⟨_, rfl⟩, rfl⟩
  | true =>
      have missed : (searchBase (orEmpty d.dn)
          { session with acquired := session.acquired + 1 }).1.1 ≠ ldapSuccess :=
        searchBase_missing (by exact missing)
      rw [setEnabledFrom_apply connected]
      dsimp only
      rw [if_neg missed]
      exact ⟨⟨_, rfl⟩, directory_send_failed missed⟩

theorem not_keepsFlags (success : (kind.setEnabledThread d session).1 = .ok ())
    (lost : otherFlags (dcUac (kind.setEnabledThread d session).2 (orEmpty d.dn)) ≠
      otherFlags (dcUac session (orEmpty d.dn))) : ¬ KeepsFlags kind d session := by
  rintro (⟨⟨error, failed⟩, _⟩ | ⟨_, kept⟩)
  · rw [success] at failed
    cases failed
  · exact lost kept

end Outcomes

/-- Enabling or disabling an account keeps its other flags, or fails and changes nothing,
exactly where what is carried out starts from flags the entry has. -/
theorem keepsFlags_iff (kind : AccountKind) (d : SetEnabledData) (session : Session) :
    KeepsFlags kind d session ↔ StartsFromFlags kind d session := by
  unfold KeepsFlags StartsFromFlags
  rw [AccountKind.setEnabledThread_eq]
  dsimp only
  cases found : session.directory.find session.rule (orEmpty d.dn) with
  | error rc =>
      refine iff_of_true (.inl (setEnabledFrom_absent found)) ?_
      intro _ name entry found
      cases found
  | ok here =>
      obtain ⟨name, entry⟩ := here
      cases serves : session.serves 2 with
      | false =>
          obtain ⟨failure, becomes⟩ := @setEnabledFrom_refused kind.fallback d _ _ _ serves found
          refine iff_of_true (.inl ⟨?_, becomes.directory⟩) (by simp)
          cases reply : (setEnabledFrom kind.fallback d session).1 with
          | error error => exact ⟨error, rfl⟩
          | ok done => exact absurd reply failure
      | true =>
          obtain ⟨success, becomes⟩ := @setEnabledFrom_carriedOut kind.fallback d _ _ _ serves found
          rw [success, dcUac_of_becomes becomes found, dcUac_eq found,
            otherFlags_uacWithEnabled, otherFlags_enabledBase]
          simp only [reduceCtorEq, exists_false, false_and, false_or, true_and, forall_const]
          constructor
          · intro kept _ _ same
            cases same
            exact kept
          · intro all
            exact all name entry rfl

/-- Enabling an account whose value may be written but not read: the flag that its
password does not expire is gone. -/
theorem enabled_over_hidden :
    let entry : Entry :=
      { objectGuid := 1
        attrs := Attributes.set (fun _ => []) (cstr "userAccountControl") [cstr "66050"] }
    let session : Session :=
      { Session.opened id (Function.update (fun _ => none)
          ((denotes id (cstr "CN=x,DC=d")).getD []) (some entry)) with
        outcomes := [.withheldValues] }
    let d : SetEnabledData := { dn := some (cstr "CN=x,DC=d"), enabled := true }
    dcUac session (cstr "CN=x,DC=d") = 0x10202 ∧
      (AccountKind.users.setEnabledThread d session).1 = .ok () ∧
      dcUac (AccountKind.users.setEnabledThread d session).2 (cstr "CN=x,DC=d") = 0x200 ∧
      dcUac (AccountKind.computers.setEnabledThread d session).2 (cstr "CN=x,DC=d") = 0 ∧
      ¬ KeepsFlags .users d session ∧ ¬ KeepsFlags .computers d session := by
  intro entry session d
  refine ⟨by decide +kernel, by decide +kernel, by decide +kernel, by decide +kernel, ?_, ?_⟩
  · exact not_keepsFlags (by decide +kernel) (by decide +kernel)
  · exact not_keepsFlags (by decide +kernel) (by decide +kernel)

end Sambervise.Backend
