import Sambervise.Merge.ThreeWay
import Sambervise.Ui.ComputersPanel

namespace Sambervise.Ui.Computers

open Text Ldap Model Backend Merge

/-! Save SPNs against the names that other clients registered or removed since the
computer was listed. -/

def spnType : CString := cstr "servicePrincipalName"

def registered (session : Session) (dn : Option CString) : Set CString :=
  { spn | ∃ name entry, session.directory.find session.rule (orEmpty dn) = .ok (name, entry) ∧
    spn ∈ entry.attrs.values spnType }

def listedSpns (computer : SbvComputer) : Set CString := { spn | spn ∈ computer.spn.getD [] }

def workingSpns (form : Form) : Set CString := { spn | spn ∈ form.workingSpns }

theorem registered_of_find {session : Session} {dn : Option CString}
    {name : DistinguishedName} {entry : Entry}
    (found : session.directory.find session.rule (orEmpty dn) = .ok (name, entry)) :
    registered session dn = { spn | spn ∈ entry.attrs.values spnType } := by
  ext spn
  constructor
  · intro member
    obtain ⟨other, held, same, member⟩ := member
    cases found.symm.trans same
    exact member
  · intro member
    exact ⟨name, entry, found, member⟩

def spnMods (d : Computers.SetSpnData) : List LdapMod :=
  [replaceMod "servicePrincipalName" d.spns]

theorem replace_of_mem_spnMods {d : Computers.SetSpnData} :
    ∀ mod ∈ spnMods d, mod.op = .replace := by
  simp [spnMods, replaceMod]

def locked (session : Session) : Session := { session with acquired := session.acquired + 1 }

theorem setSpnThread_apply {session : Session} (connected : session.ld = true)
    (d : Computers.SetSpnData) :
    Computers.setSpnThread d session =
      (checked "SPN update failed: "
          (modifyExt (orEmpty d.dn) (spnMods d) (locked session)).1,
        let after := (modifyExt (orEmpty d.dn) (spnMods d) (locked session)).2
        { after with released := after.released + 1 }) := by
  rw [Computers.setSpnThread, modifyEntry_eq, underLock_apply, if_pos connected]
  rfl

theorem registered_setSpnThread {d : Computers.SetSpnData} {session : Session}
    (saved : (Computers.setSpnThread d session).1 = .ok ()) :
    registered (Computers.setSpnThread d session).2 d.dn = { spn | spn ∈ d.spns } := by
  cases connected : session.ld with
  | false =>
      rw [Computers.setSpnThread, modifyEntry_eq] at saved
      exact absurd saved (underLock_disconnected connected ()).1
  | true =>
      rw [setSpnThread_apply connected] at saved ⊢
      have success :
          (modifyExt (orEmpty d.dn) (spnMods d) (locked session)).1 = ldapSuccess := by
        by_contra failure
        simp [checked, failure] at saved
      obtain ⟨name, entry, found, after⟩ := modifyExt_success replace_of_mem_spnMods success
      have named := (Directory.find_ok_iff.mp found).1
      have rule : (modifyExt (orEmpty d.dn) (spnMods d) (locked session)).2.rule =
          session.rule := rule_send (.modify (orEmpty d.dn) (spnMods d)) (locked session)
      rw [registered_of_find (Directory.find_ok_iff.mpr
        ⟨by rw [rule]; exact named, by rw [after]; exact Function.update_self ..⟩)]
      ext spn
      rw [Set.mem_ofPred_eq, spnType]
      exact iff_of_eq (congrArg (spn ∈ ·) (Attributes.values_set_self ..))

theorem onSpnSaveClicked_sends {computer : SbvComputer} {form : Form}
    {d : Computers.SetSpnData} (clicked : (onSpnSaveClicked computer form).2 = some d) :
    d = { dn := computer.dn, spns := form.workingSpns } := by
  unfold onSpnSaveClicked at clicked
  split at clicked
  · cases clicked
  · cases clicked
    rfl

/-- A save leaves the working names, whatever was registered meanwhile. That merges the
edits into the names the server had exactly where it still had every name kept, and had
no name that was neither listed nor in the working list. -/
theorem saveSpns_replaces {computer : SbvComputer} {form : Form} {d : Computers.SetSpnData}
    {session : Session} (clicked : (onSpnSaveClicked computer form).2 = some d)
    (saved : (Computers.setSpnThread d session).1 = .ok ()) :
    registered (Computers.setSpnThread d session).2 computer.dn = workingSpns form ∧
      (registered (Computers.setSpnThread d session).2 computer.dn =
          threeWay (listedSpns computer) (workingSpns form)
            (registered session computer.dn) ↔
        listedSpns computer ∩ workingSpns form ⊆ registered session computer.dn ∧
          registered session computer.dn ⊆ listedSpns computer ∪ workingSpns form) := by
  have sent := onSpnSaveClicked_sends clicked
  have left : registered (Computers.setSpnThread d session).2 computer.dn =
      workingSpns form := by
    have written := registered_setSpnThread saved
    rwa [sent] at written ⊢
  rw [left]
  exact ⟨rfl, eq_threeWay_iff⟩

/-! A computer that was listed with one name and given another by the admin, while a
service registered a third -/

def hostSpn : CString := cstr "HOST/pc"

def webSpn : CString := cstr "HTTP/pc"

def desktopSpn : CString := cstr "TERMSRV/pc"

def pcName : DistinguishedName := [[{ type := cstr "cn", value := .string (cstr "pc") }]]

def pcComputer : SbvComputer :=
  { dn := some (cstr "CN=pc"), spn := some [hostSpn], pwdLastSet := 1 }

def pcForm : Form :=
  onSpnAddClicked (some pcComputer)
    { loadComputerIntoDetail pcComputer {} with spnNew := desktopSpn }

def pcEntry (spns : List CString) : Ldap.Entry :=
  { objectGuid := 1, attrs := Attributes.set (fun _ => []) spnType spns }

def pcSession (spns : List CString) : Session :=
  .opened id fun name => if name = pcName then some (pcEntry spns) else none

def pcSave : Computers.SetSpnData :=
  { dn := pcComputer.dn, spns := [hostSpn, desktopSpn] }

theorem pc_denoted : denotes id (cstr "CN=pc") = some pcName := by decide

theorem pc_found (spns : List CString) :
    (pcSession spns).directory.find (pcSession spns).rule (orEmpty pcComputer.dn) =
      .ok (pcName, pcEntry spns) := Directory.find_single (pcEntry spns) pc_denoted

theorem pc_registered (spns : List CString) :
    registered (pcSession spns) pcComputer.dn = { spn | spn ∈ spns } :=
  (registered_of_find (pc_found spns)).trans
    (congrArg (fun values => { spn | spn ∈ values }) (Attributes.values_set_self ..))

theorem pc_clicked : (onSpnSaveClicked pcComputer pcForm).2 = some pcSave := by decide

theorem pc_saved (spns : List CString) :
    (Computers.setSpnThread pcSave (pcSession spns)).1 = .ok () := by
  have on : (locked (pcSession spns)).On id (pcSession spns).directory :=
    ⟨rfl, fun _ member => (nomatch member), rfl, rfl⟩
  have modified := Directory.modify_of_find (pc_found spns) (@replace_of_mem_spnMods pcSave)
  have success := (on.modifyExt_ok modified).1
  rw [setSpnThread_apply rfl]
  exact (congrArg (checked "SPN update failed: ") success).trans (if_pos rfl)

theorem saveSpns_replaces_pc :
    registered (Computers.setSpnThread pcSave (pcSession [hostSpn])).2 pcComputer.dn =
      workingSpns pcForm :=
  (saveSpns_replaces pc_clicked (pc_saved _)).1

/-- The name the service registered is gone. -/
theorem spn_lost :
    ¬ ∀ (computer : SbvComputer) (form : Form) (d : Computers.SetSpnData)
        (session : Session), (onSpnSaveClicked computer form).2 = some d →
      (Computers.setSpnThread d session).1 = .ok () →
      registered (Computers.setSpnThread d session).2 computer.dn =
        threeWay (listedSpns computer) (workingSpns form)
          (registered session computer.dn) := by
  intro claim
  have merged := claim _ _ _ (pcSession [hostSpn, webSpn]) pc_clicked (pc_saved _)
  have left := registered_setSpnThread (pc_saved [hostSpn, webSpn])
  have kept : webSpn ∈ threeWay (listedSpns pcComputer) (workingSpns pcForm)
      (registered (pcSession [hostSpn, webSpn]) pcComputer.dn) := by
    rw [pc_registered, mem_threeWay]
    have unlisted : webSpn ∉ [hostSpn] := by decide
    exact .inl ⟨List.mem_cons_of_mem _ List.mem_cons_self, (absurd · unlisted)⟩
  rw [← merged] at kept
  have lost : webSpn ∉ pcSave.spns := by decide
  exact lost (left.le kept)

end Sambervise.Ui.Computers
