import Sambervise.Ui.EditorPutGet
import Sambervise.Ui.LdapPanel

namespace Sambervise.Ui

open Text Ldap Model Backend Transition

/-! The LDAP browser over a directory that nobody else writes to: nodes are listed and
selected, and what is edited is saved and read again before anything else is done. -/

section Server

variable (listing : Attributes → LdapMessage) (rule : MatchingRule)

/-- The answers to the searches that read one entry; `listing` is the order in which the
server lists its attributes. -/
def answers (directory : Directory) : LdapSearch := fun request =>
  match directory.find rule (orEmpty request.base) with
  | .error rc => (rc, [])
  | .ok found =>
      (ldapSuccess, [{ dn := request.base, attributes := listing found.2.attrs }])

/-- The attributes the directory holds for the entry of this name, as they are read. -/
def entryTable (directory : Directory) (dn : CString) : Option AttrTable :=
  (directory.find rule dn).toOption.map fun found => collectAttrs (listing found.2.attrs)

/-- A node, and the directory as it was when the node was made. -/
structure ListedNode where
  dn : CString
  attrs : AttrTable
  asOf : Directory
  read : entryTable listing rule asOf dn = some attrs

structure Browser where
  panel : SbvLdapPanel
  directory : Directory
  nodes : List (ListedNode listing rule)

end Server

variable {listing : Attributes → LdapMessage} {rule : MatchingRule}

def ListedNode.node (listed : ListedNode listing rule) : SbvLdapNode :=
  { dn := listed.dn
    attrs := some { attrs := listed.attrs, readFrom := some listed.dn }
    read := by
      intro table same
      cases same
      rfl }

namespace Browser

def opened (listing : Attributes → LdapMessage) (rule : MatchingRule) (conn : Nat)
    (directory : Directory) : Browser listing rule :=
  { panel := .loaded conn, directory, nodes := [] }

/-- A child of a node that is expanded, or a hit of a search. -/
def list (self : Browser listing rule) (dn : CString) : Browser listing rule :=
  match read : entryTable listing rule self.directory dn with
  | none => self
  | some attrs =>
      { self with nodes := self.nodes ++ [{ dn, attrs, asOf := self.directory, read }] }

/-- The refresh of the saved entry, if there is one, completes. -/
def refresh (self : Browser listing rule) : Browser listing rule :=
  match self.panel.refreshes with
  | [] => self
  | dn :: _ =>
      let attrs := (attrsThread (answers listing rule self.directory) dn
        (.opened rule self.directory)).1
      { self with panel := self.panel.step (.refreshDone 0 attrs) }

/-- Save is clicked, and what is in flight then completes. -/
def save (self : Browser listing rule) : Browser listing rule :=
  let clicked := self.panel.step .saveClicked
  match clicked.modifies with
  | [] => { self with panel := clicked }
  | d :: _ =>
      let modified := modifyThread d (.opened rule self.directory)
      refresh
        { self with
          panel := clicked.step (.modifyDone 0 modified.1)
          directory := modified.2.directory }

inductive Event where
  | listed (dn : CString)
  | selected (node : Option Nat)
  | edited (edit : RowEdit)
  | saved

def step (self : Browser listing rule) : Event → Browser listing rule
  | .listed dn => self.list dn
  | .selected none => { self with panel := self.panel.step (.selectionChanged none) }
  | .selected (some index) =>
      match self.nodes[index]? with
      | none => self
      | some listed =>
          { self with panel := self.panel.step (.selectionChanged (some listed.node)) }
  | .edited edit => { self with panel := self.panel.step (.edited edit) }
  | .saved => self.save

/-! What the editor has loaded -/

/-- The loaded attributes are those that the directory holds for the loaded entry. -/
def Current (self : Browser listing rule) : Prop :=
  ∀ dn, self.panel.loadedDn = some dn →
    entryTable listing rule self.directory dn = self.panel.table

/-- The entry of a node that is selected reads as it did when the node was made. -/
def Unchanged (self : Browser listing rule) : Event → Prop
  | .selected (some index) =>
      ∀ listed, self.nodes[index]? = some listed →
        entryTable listing rule self.directory listed.dn =
          entryTable listing rule listed.asOf listed.dn
  | _ => True

/-- Nothing is in flight, and an entry that is loaded has its attributes loaded. -/
structure Settled (panel : SbvLdapPanel) : Prop where
  modifies : panel.modifies = []
  refreshes : panel.refreshes = []
  table : panel.loadedDn.isSome = true → panel.table.isSome = true

end Browser

/-! The two workers -/

section Workers

variable {directory : Directory} {dn : CString}

theorem attrsThread_answers (listing : Attributes → LdapMessage) (rule : MatchingRule)
    (directory : Directory) (dn : CString) :
    (attrsThread (answers listing rule directory) dn (.opened rule directory)).1.toOption =
      entryTable listing rule directory dn := by
  rw [attrsThread, searchExt_eq, underLock_apply, if_pos (by rfl), entryTable]
  cases found : directory.find rule dn with
  | error rc =>
      simp [answers, attrsRequest, orEmpty, found, Directory.find_error found, Except.toOption]
  | ok held => simp [answers, attrsRequest, orEmpty, found, Except.toOption]

theorem find_of_modify {mods : List LdapMod} {after : Directory}
    (modified : directory.modify rule dn mods = .ok after) :
    ∃ held, after.find rule dn = .ok held := by
  cases found : directory.find rule dn with
  | error rc => cases (Directory.modify_of_missing found mods).symm.trans modified
  | ok held =>
      have named := (Directory.find_ok_iff.mp found).1
      simp only [Directory.modify, found, bind, Except.bind] at modified
      split at modified
      · cases modified
      · cases modified
        exact ⟨_, Directory.find_update named⟩

theorem modifyThread_apply {session : Session} (connected : session.ld = true)
    {d : ModifyData} (something : d.mods ≠ []) :
    modifyThread d session =
      let sent := modifyExt d.dn (d.mods.map toLdapMod)
        { session with acquired := session.acquired + 1 }
      (checked "Modify failed: " sent.1, { sent.2 with released := sent.2.released + 1 }) := by
  rw [modifyThread_eq, underLock_apply, if_pos connected, if_neg something]
  rfl

/-- Nothing changes, or what the directory makes of the request is carried out. -/
theorem modifyThread_opened (directory : Directory) {d : ModifyData}
    (something : d.mods ≠ []) :
    let modified := modifyThread d (.opened rule directory)
    modified.2.directory = directory ∨
      modified.1 = .ok () ∧
        directory.modify rule d.dn (d.mods.map toLdapMod) = .ok modified.2.directory := by
  let locked : Session :=
    { Session.opened rule directory with
      acquired := (Session.opened rule directory).acquired + 1 }
  have on : locked.On rule directory :=
    ⟨rfl, fun _ member => absurd member List.not_mem_nil, rfl, rfl⟩
  rw [modifyThread_apply (by rfl) something]
  cases modified : directory.modify rule d.dn (d.mods.map toLdapMod) with
  | error rc =>
      have answer : locked.answer (.modify d.dn (d.mods.map toLdapMod)) = .error rc := by
        simp [locked, Session.answer, Session.opened, modified, Except.map]
      have kept : (modifyExt d.dn (d.mods.map toLdapMod) locked).2.directory = directory := by
        rw [modifyExt_apply, send_unanswered on.outcome answer]
        rfl
      exact .inl kept
  | ok after =>
      obtain ⟨success, served⟩ := on.modifyExt_ok modified
      exact .inr ⟨(congrArg (checked "Modify failed: ") success).trans (if_pos rfl),
        congrArg Except.ok served.directory.symm⟩

theorem isSome_entryTable :
    (entryTable listing rule directory dn).isSome = true ↔
      ∃ held, directory.find rule dn = .ok held := by
  rw [entryTable]
  cases directory.find rule dn with
  | error rc => simp [Except.toOption]
  | ok held => simp [Except.toOption]

end Workers

/-! One event -/

namespace Browser

variable {state : Browser listing rule}

theorem current_select (listed : ListedNode listing rule) :
    Current { state with panel := state.panel.step (.selectionChanged (some listed.node)) } ↔
      entryTable listing rule state.directory listed.dn =
        entryTable listing rule listed.asOf listed.dn := by
  rw [listed.read]
  constructor
  · exact fun current => current listed.dn rfl
  · intro same dn isLoaded
    cases isLoaded
    exact same

theorem refresh_apply {dn : CString} (refreshes : state.panel.refreshes = [dn]) :
    state.refresh =
      { state with
        panel := { state.panel with refreshes := [] }.onAttrsRefreshedAfterSave dn
          (attrsThread (answers listing rule state.directory) dn
            (.opened rule state.directory)).1 } := by
  simp only [refresh, refreshes, SbvLdapPanel.step, List.getElem?_cons_zero,
    List.eraseIdx_cons_zero]

/-- The entry saved can still be read, and the editor has what is read. -/
theorem current_refresh {dn : CString} (refreshes : state.panel.refreshes = [dn])
    (loaded : state.panel.loadedDn = some dn)
    (found : (entryTable listing rule state.directory dn).isSome = true) :
    state.refresh.Current := by
  have read := attrsThread_answers listing rule state.directory dn
  rw [refresh_apply refreshes]
  cases reply : (attrsThread (answers listing rule state.directory) dn
      (.opened rule state.directory)).1 with
  | error error =>
      rw [reply] at read
      rw [← read] at found
      cases found
  | ok attrs =>
      rw [reply] at read
      intro other same
      cases loaded.symm.trans same
      exact read.symm

theorem settled_refresh {dn : CString} (refreshes : state.panel.refreshes = [dn])
    (modifies : state.panel.modifies = [])
    (table : state.panel.loadedDn.isSome = true → state.panel.table.isSome = true) :
    Settled state.refresh.panel := by
  rw [refresh_apply refreshes]
  cases (attrsThread (answers listing rule state.directory) dn
      (.opened rule state.directory)).1 with
  | error error => exact ⟨modifies, rfl, table⟩
  | ok attrs => exact ⟨modifies, rfl, fun _ => rfl⟩

/-- A click on Save sends nothing, or one request for the entry that is loaded. -/
inductive Clicks (panel : SbvLdapPanel) : SbvLdapPanel → Prop
  | nothing {clicked : SbvLdapPanel} (loadedDn : clicked.loadedDn = panel.loadedDn)
      (table : clicked.table = panel.table) (modifies : clicked.modifies = panel.modifies)
      (refreshes : clicked.refreshes = panel.refreshes) : Clicks panel clicked
  | request {clicked : SbvLdapPanel} (d : ModifyData) (something : d.mods ≠ [])
      (loaded : panel.loadedDn = some d.dn) (loadedDn : clicked.loadedDn = panel.loadedDn)
      (table : clicked.table = panel.table) (modifies : clicked.modifies = panel.modifies ++ [d])
      (refreshes : clicked.refreshes = panel.refreshes) : Clicks panel clicked

theorem clicks_saveClicked (panel : SbvLdapPanel) : Clicks panel (panel.step .saveClicked) := by
  simp only [SbvLdapPanel.step]
  split
  · unfold SbvLdapPanel.onSaveClicked
    split
    next dn connected loaded =>
      dsimp only
      split
      · exact .nothing rfl rfl rfl rfl
      next something =>
        exact .request { dn, mods := _ } something loaded rfl rfl rfl rfl
    · exact .nothing rfl rfl rfl rfl
  · exact .nothing rfl rfl rfl rfl

/-- What a save comes to: nothing is sent, the request fails and changes nothing, or it
is carried out and the entry, which is still there, is read again. -/
inductive Saves (state : Browser listing rule) : Browser listing rule → Prop
  | nothing {panel : SbvLdapPanel} (loadedDn : panel.loadedDn = state.panel.loadedDn)
      (table : panel.table = state.panel.table) (modifies : panel.modifies = [])
      (refreshes : panel.refreshes = []) : Saves state { state with panel }
  | carriedOut {saved : Browser listing rule} {d : ModifyData}
      (loaded : state.panel.loadedDn = some d.dn)
      (found : (entryTable listing rule state.directory d.dn).isSome = true →
        (entryTable listing rule saved.directory d.dn).isSome = true)
      (loadedDn : saved.panel.loadedDn = some d.dn)
      (table : saved.panel.table = state.panel.table) (modifies : saved.panel.modifies = [])
      (refreshes : saved.panel.refreshes = [d.dn]) : Saves state saved.refresh

theorem refresh_of_none (nothing : state.panel.refreshes = []) : state.refresh = state := by
  simp only [refresh, nothing]

theorem step_modifyDone {panel : SbvLdapPanel} {d : ModifyData} (modifies : panel.modifies = [d])
    (result : Except GError Unit) :
    panel.step (.modifyDone 0 result) = { panel with modifies := [] }.onSaveDone result := by
  simp [SbvLdapPanel.step, modifies]

/-- A modify that fails leaves the directory, and nothing is read again. -/
theorem saves_failed {clicked : SbvLdapPanel} (loadedDn : clicked.loadedDn = state.panel.loadedDn)
    (table : clicked.table = state.panel.table) (modifies : clicked.modifies = [])
    (refreshes : clicked.refreshes = []) (error : GError) :
    Saves state { state with panel := clicked.onSaveDone (.error error) }.refresh := by
  rw [refresh_of_none refreshes]
  exact .nothing loadedDn table modifies refreshes

theorem saves_done {clicked : SbvLdapPanel} {d : ModifyData} {directory : Directory}
    (loaded : state.panel.loadedDn = some d.dn)
    (loadedDn : clicked.loadedDn = state.panel.loadedDn)
    (table : clicked.table = state.panel.table) (modifies : clicked.modifies = [])
    (refreshes : clicked.refreshes = [])
    (found : (entryTable listing rule state.directory d.dn).isSome = true →
      (entryTable listing rule directory d.dn).isSome = true) :
    Saves state { state with panel := clicked.onSaveDone (.ok ()), directory }.refresh := by
  have isLoaded := loadedDn.trans loaded
  have panel : clicked.onSaveDone (.ok ()) =
      { clicked with saveBtn := true, refreshes := [d.dn] } := by
    simp [SbvLdapPanel.onSaveDone, isLoaded, refreshes]
  rw [panel]
  exact .carriedOut loaded found isLoaded table modifies rfl

theorem saves_save (settled : Settled state.panel) : Saves state state.save := by
  have clicks := clicks_saveClicked state.panel
  unfold save
  generalize state.panel.step .saveClicked = clicked at clicks
  dsimp only
  cases clicks with
  | nothing loadedDn table modifies refreshes =>
      rw [settled.modifies] at modifies
      rw [modifies]
      exact .nothing loadedDn table modifies (refreshes.trans settled.refreshes)
  | request d something loaded loadedDn table modifies refreshes =>
      rw [settled.modifies, List.nil_append] at modifies
      rw [settled.refreshes] at refreshes
      rw [modifies]
      dsimp only
      have either := @modifyThread_opened rule state.directory d something
      generalize modifyThread d (.opened rule state.directory) = modified at either
      obtain ⟨result, after⟩ := modified
      rw [step_modifyDone modifies]
      cases result with
      | error error =>
          have kept : after.directory = state.directory := by
            rcases either with same | carried
            · exact same
            · cases carried.1
          rw [kept]
          exact @saves_failed _ _ state { clicked with modifies := [] } loadedDn table rfl
            refreshes error
      | ok saved =>
          refine @saves_done _ _ state { clicked with modifies := [] } d _ loaded loadedDn table
            rfl refreshes fun held => ?_
          rcases either with same | carried
          · exact same ▸ held
          · exact isSome_entryTable.mpr (find_of_modify carried.2)

theorem settled_step (state : Browser listing rule) (event : Event)
    (settled : Settled state.panel) : Settled (state.step event).panel := by
  cases event with
  | listed dn =>
      simp only [step, list]
      split
      · exact settled
      · exact settled
  | selected index =>
      cases index with
      | none => exact ⟨settled.modifies, settled.refreshes, fun isSome => by cases isSome⟩
      | some index =>
          simp only [step]
          split
          · exact settled
          · exact ⟨settled.modifies, settled.refreshes, fun _ => rfl⟩
  | edited edit =>
      simp only [step, SbvLdapPanel.step]
      split
      · exact ⟨settled.modifies, settled.refreshes, settled.table⟩
      · exact settled
  | saved =>
      have saves := saves_save settled
      simp only [step]
      generalize state.save = after at saves
      cases saves with
      | nothing loadedDn table modifies refreshes =>
          exact ⟨modifies, refreshes, by rw [loadedDn, table]; exact settled.table⟩
      | carriedOut loaded found loadedDn table modifies refreshes =>
          refine settled_refresh refreshes modifies ?_
          rw [loadedDn, table, ← loaded]
          exact settled.table

theorem current_save (current : state.Current) (settled : Settled state.panel) :
    state.save.Current := by
  have saves := saves_save settled
  generalize state.save = after at saves
  cases saves with
  | nothing loadedDn table modifies refreshes =>
      intro dn same
      exact (current dn (loadedDn ▸ same)).trans table.symm
  | carriedOut loaded found loadedDn table modifies refreshes =>
      refine current_refresh refreshes loadedDn (found ?_)
      rw [current _ loaded]
      exact settled.table (by rw [loaded]; rfl)

theorem unchanged_iff_step (state : Browser listing rule) (event : Event)
    (settled : Settled state.panel) (current : state.Current) :
    state.Unchanged event ↔ (state.step event).Current := by
  cases event with
  | listed dn =>
      refine iff_of_true trivial ?_
      simp only [step, list]
      split
      · exact current
      · exact current
  | selected index =>
      cases index with
      | none => exact iff_of_true trivial fun dn same => by cases same
      | some index =>
          simp only [Unchanged, step]
          cases found : state.nodes[index]? with
          | none => exact iff_of_true (fun _ missing => by cases missing) current
          | some listed =>
              rw [current_select]
              constructor
              · exact fun same => same listed rfl
              · intro same other isIt
                cases isIt
                exact same
  | edited edit =>
      refine iff_of_true trivial ?_
      simp only [step, SbvLdapPanel.step]
      split
      · exact current
      · exact current
  | saved => exact iff_of_true trivial (current_save current settled)

/-- What the editor has loaded is what the directory holds, in every state of a run, exactly
where every node is selected while its entry reads as it did when the node was made. -/
theorem current_throughout_iff (listing : Attributes → LdapMessage) (rule : MatchingRule)
    (conn : Nat) (directory : Directory) (events : List Event) :
    Along step Unchanged (opened listing rule conn directory) events ↔
      Throughout step Current (opened listing rule conn directory) events :=
  along_iff_throughout_within Current (fun state => Settled state.panel) settled_step
    unchanged_iff_step ⟨rfl, rfl, fun isSome => by cases isSome⟩ fun _ same => by cases same

/-! Two people who each have a mail address -/

def mail : CString := cstr "mail"

def person (address : String) : Ldap.Entry :=
  { objectGuid := 0, attrs := Attributes.set (fun _ => []) mail [cstr address] }

def commonName (name : String) : DistinguishedName :=
  [[{ type := cstr "cn", value := .string (cstr name) }]]

def people : Directory := fun name =>
  if name = commonName "ann" then some (person "ann@lan")
  else if name = commonName "bob" then some (person "bob@lan")
  else none

/-- Ann's address is changed and saved, Bob is looked at, and Ann is selected again. -/
def comesBack : List Event :=
  [ .listed (cstr "CN=ann"), .listed (cstr "CN=bob"), .selected (some 0),
    .edited (.valueChanged 0 (cstr "ann@wan")), .saved, .selected (some 1),
    .selected (some 0) ]

/-- The editor shows Ann's old address. -/
theorem stale_after_save :
    ¬ ∀ (listing : Attributes → LdapMessage) (rule : MatchingRule) (conn : Nat)
        (directory : Directory) (events : List Event),
      Throughout step Current (opened listing rule conn directory) events := by
  intro claim
  let listing : Attributes → LdapMessage := fun attrs => [(mail, attrs.values mail)]
  have loaded :
      (run step (opened listing id 0 people) comesBack).panel.loadedDn = some (cstr "CN=ann") := by
    decide +kernel
  have current := (claim listing id 0 people comesBack).last _ loaded
  have shown := congrArg (fun table => table.bind (AList.lookup mail)) current
  exact absurd shown (by decide +kernel)

end Browser

end Sambervise.Ui
