import Sambervise.Ui.AddMember
import Sambervise.Ui.AttrRows
import Sambervise.Ui.PasswordDialog

namespace Sambervise.Ui

open Text Model Backend Transition

/-! The contexts of handlers and completions: the rows of the raw attribute editor, the
removal buttons and add-member dialogs of the groups panel, and the password dialogs. -/

abbrev Contexts := AttrRowBlocks × MemberDialogs × PasswordDialogs

namespace Contexts

abbrev Event := SbvLdapPanel.Event ⊕ MemberDialogs.Event ⊕ PasswordDialogs.Event

def handle : Contexts → Event → Option Contexts :=
  beside AttrRowBlocks.handle (beside MemberDialogs.handle PasswordDialogs.handle)

/-- A handler or completion that runs on a freed context, or frees it again, ends the run. -/
def step : Option Contexts → Event → Option Contexts := attempt handle

def opened (conn : Nat) : Contexts := ({ panel := .loaded conn }, {}, {})

def Careful : Contexts → Event → Prop :=
  oneOf AttrRowBlocks.Careful (oneOf MemberDialogs.Careful PasswordDialogs.Careful)

def Completes : Event → Prop :=
  Sum.elim (fun event => AttrRowBlocks.isCompletion event = true)
    (Sum.elim (fun event => MemberDialogs.isCompletion event = true)
      (fun event => PasswordDialogs.isCompletion event = true))

/-- No context has been used after it was freed, or freed twice. -/
def Intact (state : Option Contexts) : Prop := state.isSome = true

instance (state : Option Contexts) : Decidable (Intact state) :=
  inferInstanceAs (Decidable (_ = _))

theorem tracked_opened (conn : Nat) :
    (opened conn).1.Tracked ∧ (opened conn).2.1.Tracked ∧ (opened conn).2.2.Tracked :=
  ⟨ { length := rfl
      alive := fun _ => (absurd · List.not_mem_nil) },
    { running := rfl
      windows := fun _ => (absurd · List.not_mem_nil)
      loadsOnce := List.nodup_nil
      loads := fun _ => (absurd · List.not_mem_nil)
      adds := fun _ => (absurd · List.not_mem_nil) },
    { windows := fun _ => (absurd · List.not_mem_nil)
      requestsOnce := List.nodup_nil
      busy := fun _ => (absurd · List.not_mem_nil) } ⟩

/-- Over every run: all contexts stay intact, whatever of the requests in flight completes
afterwards, exactly where no new attribute row is removed, a removal button is used once at
most for each time it is made, and no dialog is closed while its request is in flight. -/
theorem intact_throughout_iff (conn : Nat) (events : List Event) :
    (∀ completions, (∀ event ∈ completions, Completes event) →
        Throughout step Intact (some (opened conn)) (events ++ completions)) ↔
      Along step (Wherever Careful) (some (opened conn)) events := by
  have foreseen := AttrRowBlocks.foreseen.beside
    (MemberDialogs.foreseen.beside PasswordDialogs.foreseen)
  have tracked := tracked_opened conn
  have along := foreseen.along_iff_completions tracked (foreseen.settled tracked rfl) events
  refine Iff.trans ?_ along.symm
  exact forall_congr' fun completions => imp_congr_right fun _ => throughout_isSome_iff _ _ _

def labGroup : SbvGroup := { dn := some (cstr "CN=staff"), members := some [cstr "CN=pal"] }

/-- A failed removal that is tried again, a new attribute row that is removed, and two
dialogs that are closed while their requests run. -/
def failingRuns : List (List Event) :=
  [ [ .inr (.inl (.members (.load 0))), .inr (.inl (.members (.rowSelected (some labGroup)))),
      .inr (.inl (.members (.removeClicked 0))),
      .inr (.inl (.members (.removeDone 0 (.error { code := .ldap, text := [] })))),
      .inr (.inl (.members (.removeClicked 0))) ],
    [ .inl (.selectionChanged (some { dn := [], attrs := none, read := nofun })),
      .inl (.edited .newAttrClicked), .inl (.edited (.removeClicked 0)) ],
    [ .inr (.inl (.members (.load 0))), .inr (.inl .addMemberBtnClicked),
      .inr (.inl (.dialogClosed 0)), .inr (.inl (.usersLoaded 0 (.ok []))) ],
    [ .inr (.inr (.opened {})), .inr (.inr (.connectClicked 0 [])),
      .inr (.inr (.windowClosed 0)), .inr (.inr (.connectDone 0 (.ok ()))) ] ]

theorem not_intact :
    ¬ ∃ events ∈ failingRuns, Throughout step Intact (some (opened 0)) events := by
  have broken : ∀ events ∈ failingRuns, ¬ Intact (run step (some (opened 0)) events) := by decide
  intro intact
  obtain ⟨events, member, throughout⟩ := intact
  exact broken events member throughout.last

end Contexts

end Sambervise.Ui
