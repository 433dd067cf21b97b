import Sambervise.Transition.InFlight
import Sambervise.Ui.LdapTree

namespace Sambervise.Ui

open Text Backend Table Transition

/-! What the tree of the LDAP browser shows of the directory -/

namespace LdapTree

/-- The entries one level below a DN, as the tree shows them. -/
def level (search : LdapSearch) (collate : CString → CString → Int) (dn : CString) :
    List Backend.SbvLdapNode :=
  sortedByLabel collate ((search (childrenRequest dn)).2.filterMap (nodeOfEntry extractLabel))

/-- The children of the node were asked for, and have arrived. -/
def Arrived (self : LdapTree) (node : Nat) : Prop :=
  node ∈ self.loaded ∧ node ∉ self.failed ∧
    (self.generation, node) ∉ self.childReads.map place

instance (self : LdapTree) (node : Nat) : Decidable (self.Arrived node) :=
  inferInstanceAs (Decidable (_ ∧ _))

/-- Below a node is the whole level, once it has arrived, and before that nothing. -/
structure Levels (search : ConnId → LdapSearch) (collate : CString → CString → Int)
    (tree : LdapTree) (forest : Forest Backend.SbvLdapNode) (conn : ConnId) : Prop where
  below : ∀ (node : Nat) (item : Backend.SbvLdapNode), forest.items[node]? = some item →
    forest.below node =
      if tree.Arrived node then level (search conn) collate item.dn else []
  loaded : ∀ node ∈ tree.loaded, ∃ item, forest.items[node]? = some item ∧
    item.hasChildren ≠ some false
  failed : ∀ node ∈ tree.failed, node ∈ tree.loaded
  reads : ∀ read ∈ tree.childReads, read.generation = tree.generation →
    read.node ∈ tree.loaded ∧ read.node ∉ tree.failed ∧ read.conn = conn ∧
      ∃ item, forest.items[read.node]? = some item ∧ item.dn = read.dn

/-- No node is asked for twice. -/
structure Asked (tree : LdapTree) : Prop where
  once : (tree.asked.map place).Nodup
  past : ∀ read ∈ tree.asked, read.generation ≤ tree.generation
  loaded : ∀ read ∈ tree.asked, read.generation = tree.generation → read.node ∈ tree.loaded
  inFlight : tree.childReads.Sublist tree.asked

structure Pictures (search : ConnId → LdapSearch) (collate : CString → CString → Int)
    (tree : LdapTree) : Prop where
  asked : tree.Asked
  levels : tree.shown = true → ∃ forest conn, tree.forest = some forest ∧
    tree.conn = some conn ∧ tree.Levels search collate forest conn

variable {search : ConnId → LdapSearch} {collate : CString → CString → Int}
  {self next : LdapTree}

theorem childrenThread_ok {search : LdapSearch} {dn : CString} {session : Ldap.Session}
    {nodes : List Backend.SbvLdapNode}
    (found : (childrenThread search collate dn session).1 = .ok nodes) :
    nodes = level search collate dn := by
  rw [childrenThread, searchExt_eq, underLock_apply] at found
  split at found
  · dsimp only at found
    split at found
    · cases found
      rfl
    · cases found
  · cases found

theorem distinct_childReads (asked : self.Asked) : (self.childReads.map place).Nodup :=
  asked.once.sublist (asked.inFlight.map place)

/-! Loading -/

theorem asked_load (asked : self.Asked) (conn : ConnId) (base : CString) :
    (self.load conn base).Asked := by
  unfold load
  split
  · exact ⟨asked.once, asked.past, asked.loaded, asked.inFlight⟩
  · refine ⟨asked.once, fun read member => ?_, fun read member current => ?_, asked.inFlight⟩
    · exact Nat.le_succ_of_le (asked.past read member)
    · have earlier := asked.past read member
      have new : read.generation = self.generation + 1 := current
      omega

theorem pictures_load (pictures : self.Pictures search collate) (conn : ConnId)
    (base : CString) : (self.load conn base).Pictures search collate where
  asked := asked_load pictures.asked conn base
  levels := by
    unfold load
    split
    · intro shown
      cases shown
    · intro shown
      refine ⟨.single (rootNode base), conn, rfl, rfl, ?_, nofun, nofun, ?_⟩
      · intro node item found
        rw [Forest.below_single, if_neg]
        intro arrived
        cases arrived.1
      · intro read member current
        have earlier := pictures.asked.past read (pictures.asked.inFlight.subset member)
        have new : read.generation = self.generation + 1 := current
        omega

/-! Asking for children -/

theorem asked_requestChildren (asked : self.Asked) {node : Nat} (unasked : node ∉ self.loaded)
    (conn : ConnId) (item : Backend.SbvLdapNode) :
    (self.requestChildren conn node item).Asked where
  once := by
    simp only [requestChildren, List.map_append, List.map_cons, List.map_nil]
    rw [← List.concat_eq_append]
    refine List.Nodup.concat ?_ asked.once
    intro member
    obtain ⟨read, earlier, same⟩ := List.mem_map.mp member
    obtain ⟨current, equal⟩ := Prod.mk.inj same
    have loaded := asked.loaded read earlier current
    rw [equal] at loaded
    exact unasked loaded
  past := by
    intro read member
    rcases List.mem_append.mp member with earlier | last
    · exact asked.past read earlier
    · rw [List.mem_singleton.mp last]
      exact Nat.le_refl _
  loaded := by
    intro read member current
    rcases List.mem_append.mp member with earlier | last
    · exact List.mem_insert_of_mem (asked.loaded read earlier current)
    · rw [List.mem_singleton.mp last]
      exact List.mem_insert_self
  inFlight := asked.inFlight.append (List.Sublist.refl _)

theorem levels_requestChildren {forest : Forest Backend.SbvLdapNode} {conn : ConnId}
    (levels : self.Levels search collate forest conn) {node : Nat}
    {item : Backend.SbvLdapNode} (found : forest.items[node]? = some item)
    (branch : item.hasChildren ≠ some false) (unasked : node ∉ self.loaded) :
    (self.requestChildren conn node item).Levels search collate forest conn where
  below := by
    intro other otherItem known
    rw [levels.below other otherItem known]
    apply if_congr _ rfl rfl
    simp only [Arrived, requestChildren, List.mem_insert_iff, List.map_append, List.map_cons,
      List.map_nil, List.mem_append, List.mem_singleton, place, Prod.mk.injEq, true_and]
    by_cases same : other = node
    · subst same
      simp [unasked]
    · simp [same]
  loaded := by
    intro other member
    rcases List.mem_insert_iff.mp member with rfl | earlier
    · exact ⟨item, found, branch⟩
    · exact levels.loaded other earlier
  failed := fun other member => List.mem_insert_of_mem (levels.failed other member)
  reads := by
    intro read member current
    rcases List.mem_append.mp member with earlier | last
    · obtain ⟨loaded, unfailed, sameConn, known⟩ := levels.reads read earlier current
      exact ⟨List.mem_insert_of_mem loaded, unfailed, sameConn, known⟩
    · rw [List.mem_singleton.mp last]
      exact ⟨List.mem_insert_self, fun failed => unasked (levels.failed node failed), rfl, item,
        found, rfl⟩

/-! The answers -/

section Answers

variable {index : Nat} {read : TreeRead}

theorem asked_onChildrenLoaded (asked : self.Asked) {loaded failed : List Nat}
    (more : ∀ node ∈ self.loaded, node ∈ loaded)
    (forest : Option (Forest Backend.SbvLdapNode)) :
    Asked { self with
      loaded, failed, forest, childReads := self.childReads.eraseIdx index } where
  once := asked.once
  past := asked.past
  loaded := fun read member current => more _ (asked.loaded read member current)
  inFlight := (List.eraseIdx_sublist _ _).trans asked.inFlight

/-- What is read for the nodes that still wait. -/
theorem reads_eraseIdx {forest grown : Forest Backend.SbvLdapNode} {conn : ConnId}
    (asked : self.Asked) (levels : self.Levels search collate forest conn)
    (found : self.childReads[index]? = some read) (current : read.generation = self.generation)
    (known : ∀ (node : Nat) (item : Backend.SbvLdapNode), forest.items[node]? = some item →
      grown.items[node]? = some item)
    {other : TreeRead} (member : other ∈ self.childReads.eraseIdx index)
    (same : other.generation = self.generation) :
    other.node ≠ read.node ∧ other.node ∈ self.loaded ∧ other.node ∉ self.failed ∧
      other.conn = conn ∧ ∃ item, grown.items[other.node]? = some item ∧ item.dn = other.dn := by
  have remains := (mem_map_completed_iff (distinct_childReads asked) found).mp (List.mem_map_of_mem member)
  obtain ⟨loaded, unfailed, sameConn, item, before, dn⟩ :=
    levels.reads other (List.mem_of_mem_eraseIdx member) same
  refine ⟨fun equal => remains.1 ?_, loaded, unfailed, sameConn, item, known _ item before, dn⟩
  rw [place, place, equal, same, current]

theorem arrived_iff_of_ne (asked : self.Asked)
    (found : self.childReads[index]? = some read) {node : Nat} (other : node ≠ read.node)
    {loaded failed : List Nat} (loads : node ∈ loaded ↔ node ∈ self.loaded)
    (fails : node ∈ failed ↔ node ∈ self.failed) (forest : Option (Forest Backend.SbvLdapNode)) :
    Arrived { self with
        loaded, failed, forest, childReads := self.childReads.eraseIdx index } node ↔
      self.Arrived node := by
  have waits := @mem_map_completed_iff _ _ _ _ _ place (distinct_childReads asked) found
    (self.generation, node)
  have different : (self.generation, node) ≠ place read := by
    intro same
    exact other (Prod.mk.inj same).2
  rw [and_iff_right different] at waits
  exact and_congr loads (and_congr (not_congr fails) (not_congr waits))

theorem not_arrived_of_waits (found : self.childReads[index]? = some read)
    (current : read.generation = self.generation) : ¬ self.Arrived read.node := by
  intro arrived
  apply arrived.2.2
  rw [← current]
  exact List.mem_map_of_mem (List.mem_of_getElem? found)

theorem levels_failed {forest : Forest Backend.SbvLdapNode} {conn : ConnId}
    (asked : self.Asked) (levels : self.Levels search collate forest conn)
    (found : self.childReads[index]? = some read)
    (current : read.generation = self.generation) :
    Levels search collate
      { self with
        loaded := self.loaded.insert read.node
        failed := self.failed.insert read.node
        childReads := self.childReads.eraseIdx index }
      forest conn where
  below := by
    intro node item known
    rw [levels.below node item known]
    by_cases same : node = read.node
    · subst same
      rw [if_neg (not_arrived_of_waits found current), if_neg]
      exact fun arrived => arrived.2.1 List.mem_insert_self
    · apply if_congr _ rfl rfl
      refine (arrived_iff_of_ne asked found same ?_ ?_ self.forest).symm
      · rw [List.mem_insert_iff, or_iff_right same]
      · rw [List.mem_insert_iff, or_iff_right same]
  loaded := by
    intro node member
    rcases List.mem_insert_iff.mp member with rfl | earlier
    · exact levels.loaded _ (levels.reads read (List.mem_of_getElem? found) current).1
    · exact levels.loaded node earlier
  failed := by
    intro node member
    rcases List.mem_insert_iff.mp member with rfl | earlier
    · exact List.mem_insert_self
    · exact List.mem_insert_of_mem (levels.failed node earlier)
  reads := by
    intro other member same
    obtain ⟨different, loaded, unfailed, rest⟩ :=
      reads_eraseIdx asked levels found current (fun _ _ known => known) member same
    refine ⟨List.mem_insert_of_mem loaded, fun fails => ?_, rest⟩
    exact (List.mem_insert_iff.mp fails).elim different unfailed

theorem levels_grown {forest : Forest Backend.SbvLdapNode} {conn : ConnId}
    (asked : self.Asked) (levels : self.Levels search collate forest conn)
    (found : self.childReads[index]? = some read)
    (current : read.generation = self.generation)
    (inside : read.node < forest.items.length)
    (after : Option (Forest Backend.SbvLdapNode)) :
    Levels search collate
      { self with
        loaded := self.loaded.insert read.node
        forest := after
        childReads := self.childReads.eraseIdx index }
      (forest.grow read.node inside (level (search read.conn) collate read.dn)) conn where
  below := by
    intro node item known
    obtain ⟨loads, unfailed, sameConn, readItem, readKnown, dn⟩ :=
      levels.reads read (List.mem_of_getElem? found) current
    by_cases same : node = read.node
    · subst same
      rw [Forest.getElem?_grow inside inside, readKnown] at known
      cases known
      have nothing := levels.below _ item readKnown
      rw [if_neg (not_arrived_of_waits found current)] at nothing
      rw [Forest.below_grow_self, nothing, List.nil_append, if_pos, dn, sameConn]
      refine ⟨List.mem_insert_self, unfailed, fun waits => ?_⟩
      have other := (mem_map_completed_iff (distinct_childReads asked) found).mp waits
      exact other.1 (by rw [place, current])
    · rw [Forest.below_grow_of_ne inside same]
      by_cases old : node < forest.items.length
      · rw [Forest.getElem?_grow inside old] at known
        rw [levels.below node item known]
        apply if_congr _ rfl rfl
        refine (arrived_iff_of_ne asked found same ?_ Iff.rfl after).symm
        rw [List.mem_insert_iff, or_iff_right same]
      · rw [Forest.below_of_length_le (by omega), if_neg]
        intro arrived
        rcases List.mem_insert_iff.mp arrived.1 with equal | earlier
        · exact same equal
        · obtain ⟨other, before, _⟩ := levels.loaded node earlier
          exact old (List.getElem?_eq_some_iff.mp before).1
  loaded := by
    intro node member
    have before : node ∈ self.loaded := by
      rcases List.mem_insert_iff.mp member with rfl | earlier
      · exact (levels.reads read (List.mem_of_getElem? found) current).1
      · exact earlier
    obtain ⟨item, known, branch⟩ := levels.loaded node before
    refine ⟨item, ?_, branch⟩
    rw [Forest.getElem?_grow inside (List.getElem?_eq_some_iff.mp known).1, known]
  failed := fun node member => List.mem_insert_of_mem (levels.failed node member)
  reads := by
    intro other member same
    let grown := forest.grow read.node inside (level (search read.conn) collate read.dn)
    have kept : ∀ (node : Nat) (item : Backend.SbvLdapNode), forest.items[node]? = some item →
        grown.items[node]? = some item := by
      intro node item known
      rw [Forest.getElem?_grow inside (List.getElem?_eq_some_iff.mp known).1, known]
    obtain ⟨_, loaded, rest⟩ := reads_eraseIdx asked levels found current kept member same
    exact ⟨List.mem_insert_of_mem loaded, rest⟩

/-- The attributes of the root do not matter to the tree. -/
theorem root_replaced {forest : Forest Backend.SbvLdapNode} {root : Backend.SbvLdapNode}
    (known : forest.items[0]? = some root) (attrs : AttrTable) {node : Nat}
    {item : Backend.SbvLdapNode} (found : forest.items[node]? = some item) :
    ∃ after, (forest.replace 0 { root with attrs }).items[node]? = some after ∧
      after.dn = item.dn ∧ after.hasChildren = item.hasChildren := by
  rw [Forest.getElem?_replace known]
  split
  next top =>
    rw [← top, known] at found
    cases found
    exact ⟨_, rfl, rfl, rfl⟩
  · exact ⟨item, found, rfl, rfl⟩

theorem levels_root {forest : Forest Backend.SbvLdapNode} {conn : ConnId}
    (levels : self.Levels search collate forest conn) {root : Backend.SbvLdapNode}
    (known : forest.items[0]? = some root) (attrs : AttrTable) (reads : List TreeRead)
    (after : Option (Forest Backend.SbvLdapNode)) :
    Levels search collate { self with forest := after, rootReads := reads }
      (forest.replace 0 { root with attrs }) conn where
  below := by
    intro node item found
    have inside : node < forest.items.length := by
      have bound := (List.getElem?_eq_some_iff.mp found).1
      rwa [Forest.replace, List.length_set] at bound
    have before := List.getElem?_eq_getElem inside
    obtain ⟨other, same, dn, _⟩ := root_replaced known attrs before
    rw [found] at same
    cases same
    rw [Forest.below_replace_root, levels.below node _ before, dn]
    rfl
  loaded := by
    intro node member
    obtain ⟨item, found, branch⟩ := levels.loaded node member
    obtain ⟨other, same, _, children⟩ := root_replaced known attrs found
    exact ⟨other, same, by rwa [children]⟩
  failed := levels.failed
  reads := by
    intro read member current
    obtain ⟨loaded, unfailed, sameConn, item, found, dn⟩ := levels.reads read member current
    obtain ⟨other, same, sameDn, _⟩ := root_replaced known attrs found
    exact ⟨loaded, unfailed, sameConn, other, same, sameDn.trans dn⟩

end Answers

/-! Every event -/

theorem pictures_childModel (pictures : self.Pictures search collate)
    (shown : self.shown = true) (node : Nat) :
    (self.createChildModel node).Pictures search collate := by
  obtain ⟨forest, conn, hasForest, connected, levels⟩ := pictures.levels shown
  unfold createChildModel
  split
  next item onConn found same =>
    split
    · exact pictures
    next branch =>
      split
      · exact pictures
      next unasked =>
        rw [hasForest, Option.bind_some] at found
        rw [connected] at same
        cases same
        refine ⟨asked_requestChildren pictures.asked unasked conn item, fun _ => ?_⟩
        exact ⟨forest, conn, hasForest, connected,
          levels_requestChildren levels found branch unasked⟩
  · exact pictures

theorem pictures_onChildrenLoaded (pictures : self.Pictures search collate) {index : Nat}
    {read : TreeRead} (found : self.childReads[index]? = some read) (session : Ldap.Session)
    (outcome : onChildrenLoaded { self with childReads := self.childReads.eraseIdx index } read
      (childrenThread (search read.conn) collate read.dn session).1 = some next) :
    next.Pictures search collate := by
  have more : ∀ node ∈ self.loaded, node ∈ self.loaded.insert read.node :=
    fun node member => List.mem_insert_of_mem member
  unfold onChildrenLoaded at outcome
  split at outcome
  · split at outcome
    next current =>
      cases outcome
      refine ⟨asked_onChildrenLoaded pictures.asked more self.forest, fun shown => ?_⟩
      obtain ⟨forest, conn, hasForest, connected, levels⟩ := pictures.levels shown
      exact ⟨forest, conn, hasForest, connected,
        levels_failed pictures.asked levels found current⟩
    · cases outcome
  next nodes reply =>
    split at outcome
    next current =>
      cases outcome
      refine ⟨asked_onChildrenLoaded pictures.asked more _, fun shown => ?_⟩
      obtain ⟨forest, conn, hasForest, connected, levels⟩ := pictures.levels shown
      obtain ⟨_, _, _, item, known, _⟩ :=
        levels.reads read (List.mem_of_getElem? found) current
      have inside := (List.getElem?_eq_some_iff.mp known).1
      refine ⟨forest.grow read.node inside nodes, conn, ?_, connected, ?_⟩
      · simp only [hasForest, Option.map_some, dif_pos inside]
      · rw [childrenThread_ok reply]
        exact levels_grown pictures.asked levels found current inside _
    · cases outcome

theorem pictures_onRootAttrsLoaded (pictures : self.Pictures search collate) (index : Nat)
    (read : TreeRead) (result : Except GError AttrTable)
    (outcome : onRootAttrsLoaded { self with rootReads := self.rootReads.eraseIdx index } read
      result = some next) : next.Pictures search collate := by
  have asked := pictures.asked
  have same : Pictures search collate
      { self with rootReads := self.rootReads.eraseIdx index } := by
    refine ⟨⟨asked.once, asked.past, asked.loaded, asked.inFlight⟩, fun shown => ?_⟩
    obtain ⟨forest, conn, hasForest, connected, levels⟩ := pictures.levels shown
    exact ⟨forest, conn, hasForest, connected,
      ⟨levels.below, levels.loaded, levels.failed, levels.reads⟩⟩
  cases result with
  | error error =>
      cases outcome
      exact same
  | ok attrs =>
      simp only [onRootAttrsLoaded] at outcome
      split at outcome
      · cases outcome
        refine ⟨⟨asked.once, asked.past, asked.loaded, asked.inFlight⟩, fun shown => ?_⟩
        obtain ⟨forest, conn, hasForest, connected, levels⟩ := pictures.levels shown
        cases known : forest.items[0]? with
        | none =>
            refine ⟨forest, conn, ?_, connected,
              ⟨levels.below, levels.loaded, levels.failed, levels.reads⟩⟩
            simp only [hasForest, Option.map_some, known]
        | some root =>
            refine ⟨_, conn, ?_, connected, levels_root levels known attrs _ _⟩
            simp only [hasForest, Option.map_some, known]
      · cases outcome

theorem pictures_handle (pictures : self.Pictures search collate) {event : Event}
    (outcome : handle search collate self event = some next) :
    next.Pictures search collate := by
  cases event with
  | load conn base =>
      cases outcome
      exact pictures_load pictures conn base
  | childModel node =>
      cases outcome
      split
      next shown =>
        exact pictures_childModel pictures shown node
      · exact pictures
  | childrenDone index session =>
      simp only [handle] at outcome
      split at outcome
      · cases outcome
        exact pictures
      next read found =>
        exact pictures_onChildrenLoaded pictures found session outcome
  | rootAttrsDone index session =>
      simp only [handle] at outcome
      split at outcome
      · cases outcome
        exact pictures
      next read found =>
        exact pictures_onRootAttrsLoaded pictures index read _ outcome

theorem pictures_new (search : ConnId → LdapSearch) (collate : CString → CString → Int) :
    Pictures search collate {} where
  asked := ⟨List.nodup_nil, nofun, nofun, List.Sublist.refl _⟩
  levels := nofun

theorem pictures_step (search : ConnId → LdapSearch) (collate : CString → CString → Int)
    (state : Option LdapTree) (event : Event)
    (pictures : ∀ tree, state = some tree → tree.Pictures search collate) :
    ∀ tree, step search collate state event = some tree → tree.Pictures search collate := by
  intro tree outcome
  obtain ⟨before, same, outcome⟩ := Option.bind_eq_some_iff.mp outcome
  exact pictures_handle (pictures before same) outcome

/-- In every state a run of the tree reaches, on servers nobody writes to meanwhile: no node
was asked for its children twice, none that has none was asked at all, and below each node
is exactly the level of the directory it stands for, sorted, or nothing while the answer has
not come or where it was an error. -/
theorem tree_pictures (search : ConnId → LdapSearch) (collate : CString → CString → Int)
    (events : List Event) :
    Throughout (step search collate)
      (fun state => ∀ tree, state = some tree → tree.Pictures search collate) (some {}) events := by
  refine throughout_of_step _ (pictures_step search collate) events fun tree same => ?_
  cases same
  exact pictures_new search collate

/-! No entry twice -/

section Hierarchy

variable {κ : Type*} {name : CString → κ} {parentOf : κ → κ} {depth : κ → Nat}

/-- How a server lists the entries one level below another one: each of them once, under the
parent it has. `name` stands for the comparison of DNs. -/
structure Hierarchy (search : LdapSearch) (name : CString → κ) (parentOf : κ → κ)
    (depth : κ → Nat) : Prop where
  parent : ∀ dn, ∀ entry ∈ (search (childrenRequest dn)).2, ∀ child, entry.dn = some child →
    parentOf (name child) = name dn
  deeper : ∀ dn, ∀ entry ∈ (search (childrenRequest dn)).2, ∀ child, entry.dn = some child →
    depth (name dn) < depth (name child)
  distinct : ∀ dn, (((search (childrenRequest dn)).2.filterMap SearchEntry.dn).map name).Nodup

theorem exists_entry_of_mem_level {search : LdapSearch} {dn : CString}
    {node : Backend.SbvLdapNode} (member : node ∈ level search collate dn) :
    ∃ entry ∈ (search (childrenRequest dn)).2, entry.dn = some node.dn := by
  rw [level, sortedByLabel, List.mem_mergeSort, List.mem_filterMap] at member
  obtain ⟨entry, listed, made⟩ := member
  obtain ⟨child, dn, rfl⟩ := Option.map_eq_some_iff.mp made
  exact ⟨entry, listed, dn⟩

theorem names_level {search : LdapSearch} (hierarchy : Hierarchy search name parentOf depth)
    (dn : CString) : ((level search collate dn).map fun node => name node.dn).Nodup := by
  have dns (entries : List SearchEntry) :
      (entries.filterMap (nodeOfEntry extractLabel)).map Backend.SbvLdapNode.dn =
        entries.filterMap SearchEntry.dn := by
    rw [List.map_filterMap]
    apply List.filterMap_congr
    intro entry _
    rw [nodeOfEntry, Option.map_map]
    exact congrFun Option.map_id entry.dn
  have sorted := List.mergeSort_perm
    ((search (childrenRequest dn)).2.filterMap (nodeOfEntry extractLabel))
    (fun first second => decide (collate first.label second.label ≤ 0))
  rw [level, sortedByLabel, (sorted.map _).nodup_iff]
  have distinct := hierarchy.distinct dn
  rwa [← dns, List.map_map] at distinct

theorem ranked_of_levels {search : ConnId → LdapSearch} {tree : LdapTree}
    {forest : Forest Backend.SbvLdapNode} {conn : ConnId}
    (levels : tree.Levels search collate forest conn)
    (hierarchy : Hierarchy (search conn) name parentOf depth) :
    forest.Ranked (fun node => name node.dn) parentOf depth where
  parent := by
    intro place item found child member
    rw [levels.below place item found] at member
    split at member
    · obtain ⟨entry, listed, dn⟩ := exists_entry_of_mem_level member
      exact hierarchy.parent item.dn entry listed child.dn dn
    · cases member
  deeper := by
    intro place item found child member
    rw [levels.below place item found] at member
    split at member
    · obtain ⟨entry, listed, dn⟩ := exists_entry_of_mem_level member
      exact hierarchy.deeper item.dn entry listed child.dn dn
    · cases member
  distinct := by
    intro place
    by_cases inside : place < forest.items.length
    · rw [levels.below place _ (List.getElem?_eq_getElem inside)]
      split
      · exact names_level hierarchy _
      · exact List.nodup_nil
    · rw [Forest.below_of_length_le (by omega)]
      exact List.nodup_nil

/-- However the tree is unfolded and reloaded, no entry of the directory is at two places in
it. -/
theorem entries_shown_once (search : ConnId → LdapSearch)
    (collate : CString → CString → Int)
    (hierarchy : ∀ conn, Hierarchy (search conn) name parentOf depth) (events : List Event) :
    Throughout (step search collate)
      (fun state => ∀ tree, state = some tree → tree.shown = true →
        ∀ forest, tree.forest = some forest → ∀ (first second : Nat) firstNode secondNode,
          forest.items[first]? = some firstNode → forest.items[second]? = some secondNode →
            name firstNode.dn = name secondNode.dn → first = second)
      (some {}) events := by
  have initial : ∀ tree, some ({} : LdapTree) = some tree → tree.Pictures search collate := by
    intro tree same
    cases same
    exact pictures_new search collate
  have throughout := throughout_of_step _ (pictures_step search collate) events initial
  refine throughout.mono fun state pictures tree same shown forest hasForest first second
    firstNode secondNode firstFound secondFound equal => ?_
  obtain ⟨other, conn, hasOther, _, levels⟩ := (pictures tree same).levels shown
  rw [hasForest] at hasOther
  cases hasOther
  exact Forest.eq_of_key_eq (ranked_of_levels levels (hierarchy conn)) firstFound secondFound equal

end Hierarchy

def officeSearch : LdapSearch := fun request =>
  if request.base = some (cstr "DC=lan") then
    (Ldap.ldapSuccess, [{ dn := some (cstr "OU=staff,DC=lan"), attributes := [] }])
  else (Ldap.ldapSuccess, [])

theorem hierarchy_office : Hierarchy officeSearch id
    (fun dn => (dn.dropWhile (· ≠ Ldap.comma)).tail) List.length := by
  have listed (dn : CString) : (officeSearch (childrenRequest dn)).2 =
      if dn = cstr "DC=lan" then [{ dn := some (cstr "OU=staff,DC=lan"), attributes := [] }]
      else [] := by
    simp only [officeSearch, childrenRequest, Option.some.injEq]
    split
    · rfl
    · rfl
  have only {dn : CString} {entry : SearchEntry}
      (member : entry ∈ (officeSearch (childrenRequest dn)).2) :
      dn = cstr "DC=lan" ∧ entry.dn = some (cstr "OU=staff,DC=lan") := by
    rw [listed] at member
    split at member
    next root =>
      rw [List.mem_singleton.mp member]
      exact ⟨root, rfl⟩
    · cases member
  refine ⟨fun dn entry member child same => ?_, fun dn entry member child same => ?_, ?_⟩
  · obtain ⟨rfl, staff⟩ := only member
    rw [staff] at same
    cases same
    decide
  · obtain ⟨rfl, staff⟩ := only member
    rw [staff] at same
    cases same
    decide
  · intro dn
    rw [listed]
    split
    · exact List.nodup_singleton _
    · exact List.nodup_nil

theorem entries_shown_once_office :
    Throughout (step (fun _ => officeSearch) fun _ _ => 0)
      (fun state => ∀ tree, state = some tree → tree.shown = true →
        ∀ forest, tree.forest = some forest → ∀ (first second : Nat) firstNode secondNode,
          forest.items[first]? = some firstNode → forest.items[second]? = some secondNode →
            id firstNode.dn = id secondNode.dn → first = second)
      (some {})
      [ .load 0 (cstr "DC=lan"), .childModel 0, .childModel 0,
        .childrenDone 0 (.opened id fun _ => none), .childModel 1 ] :=
  entries_shown_once _ _ (fun _ => hierarchy_office) _

end LdapTree

end Sambervise.Ui
