import Sambervise.Ldap.Joined
import Sambervise.Ui.CreateDialogs
import Sambervise.Ui.LocalDomain

namespace Sambervise.Ui

open Text Ldap Model Backend

/-! From the domain that is typed for a new connection to the DN of an entry that is
created over it. -/

namespace CreateKind

def container : (kind : CreateKind) → kind.Form → CString
  | .user => fun form => form.containerEntry
  | .group => fun form => form.containerEntry
  | .computer => fun form => form.containerEntry
  | .contact => fun form => form.containerEntry

/-- The container that the dialog suggests below the base DN. -/
def relative : CreateKind → CString
  | .computer => cstr "Computers"
  | _ => cstr "Users"

theorem containerDn_of_request {kind : CreateKind} {form : kind.Form} {creation : Creation}
    (asked : kind.request form = .ok creation) : creation.containerDn = kind.container form := by
  cases kind with
  | user =>
      simp only [request, CreateUserDialog.onCreateClicked] at asked
      split at asked
      · cases asked
      · cases asked
        rfl
  | group =>
      simp only [request, CreateGroupDialog.onCreateClicked] at asked
      split at asked
      · cases asked
      · cases asked
        rfl
  | computer =>
      simp only [request, CreateComputerDialog.onCreateClicked] at asked
      split at asked
      · cases asked
      · cases asked
        rfl
  | contact =>
      simp only [request, CreateContactDialog.onCreateClicked] at asked
      split at asked
      · cases asked
      · cases asked
        rfl

theorem container_opened (kind : CreateKind) (base : CString) :
    kind.container (kind.opened (some base)) =
      cstr "CN" ++ equals :: kind.relative ++ comma :: base := by
  cases kind with
  | user | group | computer | contact => rfl

end CreateKind

theorem domainToBaseDn_of_ne_nil {domain : CString} (typed : domain ≠ []) :
    domainToBaseDn (some domain) =
      some (strjoinv [comma]
        ((domain.splitOn dot).map fun label => cstr "DC" ++ equals :: label)) := by
  simp only [domainToBaseDn, if_neg typed, strsplit]
  rfl

/-- An entry created in the default container over a connection whose base DN was made of
the domain has the name, the container and the labels of the domain in its DN, exactly where
neither the name nor any of the labels needs an escape. -/
theorem default_dn_iff {domain : CString} (typed : domain ≠ []) {kind : CreateKind}
    {form : kind.Form} {creation : Creation} (asked : kind.request form = .ok creation)
    (untouched : kind.container form =
      kind.container (kind.opened (domainToBaseDn (some domain)))) :
    parseDn (cnDn creation.name creation.containerDn) =
        some ([⟨cstr "CN", .string creation.name⟩] :: [⟨cstr "CN", .string kind.relative⟩] ::
          (domain.splitOn dot).map fun label => [⟨cstr "DC", .string label⟩]) ↔
      needsNoEscaping creation.name = true ∧
        ∀ label ∈ domain.splitOn dot, needsNoEscaping label = true := by
  have cn : isKeystring (cstr "CN") = true := by decide
  have dc : isKeystring (cstr "DC") = true := by decide
  have labels : domain.splitOn dot ≠ [] := List.splitOn_ne_nil dot domain
  have plainContainer : needsNoEscaping kind.relative = true := by
    cases kind with
    | user | group | computer | contact => decide
  rw [CreateKind.containerDn_of_request asked, untouched, domainToBaseDn_of_ne_nil typed,
    CreateKind.container_opened, cnDn_eq, parseDn_cons_iff cn (by simp),
    parseDn_cons_iff cn (joined_ne_nil _ labels), parseDn_joined_iff dc labels]
  exact and_congr_right fun _ => and_iff_right plainContainer

theorem default_dn_iff_ada :
    parseDn (cstr "CN=ada,CN=Users,DC=lab,DC=lan") =
        some [[⟨cstr "CN", .string (cstr "ada")⟩], [⟨cstr "CN", .string (cstr "Users")⟩],
          [⟨cstr "DC", .string (cstr "lab")⟩], [⟨cstr "DC", .string (cstr "lan")⟩]] ↔
      needsNoEscaping (cstr "ada") = true ∧
        ∀ label ∈ (cstr "lab.lan").splitOn dot, needsNoEscaping label = true :=
  @default_dn_iff (cstr "lab.lan") (by decide) .group
    { samEntry := cstr "ada", containerEntry := cstr "CN=Users,DC=lab,DC=lan" }
    (.group
      { sam := cstr "ada", groupType := 0x80000002
        containerDn := cstr "CN=Users,DC=lab,DC=lan" })
    rfl rfl

end Sambervise.Ui
