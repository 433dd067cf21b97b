import Sambervise.Model.Objects
import Sambervise.Table.Keyed
import Sambervise.Text.KeyFile

namespace Sambervise.Backend

open Text Model Table

/-! The connection profiles in `connections.ini`. -/

variable {kf : GKeyFile}

/-- A NULL name is compared as the empty one. -/
def profileKey (p : SbvProfile) : CString := orEmpty p.name

def profileOf (group : KeyGroup kf) : SbvProfile :=
  let unset : SbvProfile := {}
  { name := some group.name
    host := group.getString "host"
    port := (group.getInteger "port").getD unset.port
    baseDn := group.getString "base-dn"
    authType := if group.getString "auth-type" = some (cstr "simple") then .simple else .kerberos
    bindDn := group.getString "bind-dn"
    useTls := group.getBoolean "use-tls"
    useLdaps := group.getBoolean "use-ldaps"
    skipCert := group.getBoolean "skip-cert"
    uidMin := (group.getInt64 "uid-min").getD unset.uidMin
    uidMax := (group.getInt64 "uid-max").getD unset.uidMax
    gidMin := (group.getInt64 "gid-min").getD unset.gidMin
    gidMax := (group.getInt64 "gid-max").getD unset.gidMax }

def authTypeText : SbvAuthType → CString
  | .simple => cstr "simple"
  | .kerberos => cstr "kerberos"

def bounds (p : SbvProfile) : List (CString × GInt64) :=
  [ (cstr "uid-min", p.uidMin), (cstr "uid-max", p.uidMax), (cstr "gid-min", p.gidMin),
    (cstr "gid-max", p.gidMax) ]

/-- What `sbv_profiles_save` sets for a profile, in order; of the bounds only those that
are set. -/
def settings (p : SbvProfile) : List (CString × kf.Value) :=
  [ (cstr "host", kf.ofString (orEmpty p.host)),
    (cstr "port", kf.ofInteger p.port),
    (cstr "base-dn", kf.ofString (orEmpty p.baseDn)),
    (cstr "auth-type", kf.ofString (authTypeText p.authType)),
    (cstr "bind-dn", kf.ofString (orEmpty p.bindDn)),
    (cstr "use-tls", kf.ofBoolean p.useTls),
    (cstr "use-ldaps", kf.ofBoolean p.useLdaps),
    (cstr "skip-cert", kf.ofBoolean p.skipCert) ] ++
    ((bounds p).filter fun bound => 0 ≤ bound.2.toInt).map fun bound =>
      (bound.1, kf.ofInt64 bound.2)

def saveProfile (groups : List (KeyGroup kf)) (p : SbvProfile) : List (KeyGroup kf) :=
  match profileKey p with
  | [] => groups
  | name => setValues groups name (settings p)

/-! Reading back what was written -/

def normalBound (bound : GInt64) : GInt64 := if 0 ≤ bound.toInt then bound else -1

/-- A profile with its NULL strings taken as empty and its negative bounds as unset. -/
def normalProfile (p : SbvProfile) : SbvProfile :=
  { p with
    name := some (profileKey p)
    host := some (orEmpty p.host)
    baseDn := some (orEmpty p.baseDn)
    bindDn := some (orEmpty p.bindDn)
    uidMin := normalBound p.uidMin
    uidMax := normalBound p.uidMax
    gidMin := normalBound p.gidMin
    gidMax := normalBound p.gidMax }

/-- Up to what a key file does not tell apart. -/
def SameProfile (first second : SbvProfile) : Prop :=
  normalProfile first = normalProfile second

theorem SameProfile.key {first second : SbvProfile} (same : SameProfile first second) :
    profileKey first = profileKey second :=
  Option.some.inj (congrArg SbvProfile.name same)

theorem normalBound_idem (bound : GInt64) :
    normalBound (normalBound bound) = normalBound bound := by
  unfold normalBound
  by_cases set : 0 ≤ bound.toInt
  · simp [set]
  · simp [set]

theorem normalProfile_idem (p : SbvProfile) :
    normalProfile (normalProfile p) = normalProfile p := by
  simp only [normalProfile, profileKey, normalBound_idem, orEmpty, Option.getD_some]

def fixedKeys : List CString :=
  ["host", "port", "base-dn", "auth-type", "bind-dn", "use-tls", "use-ldaps",
    "skip-cert"].map cstr

def boundKeys : List CString := ["uid-min", "uid-max", "gid-min", "gid-max"].map cstr

theorem distinct_keys : (fixedKeys ++ boundKeys).Nodup := by decide

theorem keys_settings (p : SbvProfile) :
    (settings p : List (CString × kf.Value)).map Prod.fst =
      fixedKeys ++ ((bounds p).filter fun bound => 0 ≤ bound.2.toInt).map Prod.fst := by
  rw [settings, List.map_append, List.map_map]
  rfl

theorem distinct_settings (p : SbvProfile) :
    ((settings p : List (CString × kf.Value)).map Prod.fst).Nodup := by
  rw [keys_settings]
  have sublist : (((bounds p).filter fun bound => 0 ≤ bound.2.toInt).map Prod.fst).Sublist
      boundKeys := List.filter_sublist.map Prod.fst
  exact distinct_keys.sublist ((List.Sublist.refl fixedKeys).append sublist)

def savedGroup (kf : GKeyFile) (name : CString) (p : SbvProfile) : KeyGroup kf :=
  { name, keys := keysFrom (fun _ => none) (settings p) }

section SavedGroup

variable {name : CString} {p : SbvProfile}

theorem keys_savedGroup {key : String} {value : kf.Value}
    (member : (cstr key, value) ∈ settings p) :
    (savedGroup kf name p).keys (cstr key) = some value :=
  keysFrom_of_mem (distinct_settings p) member _

theorem getString_savedGroup {key : String} {text : CString}
    (member : (cstr key, kf.ofString text) ∈ settings p) :
    (savedGroup kf name p).getString key = some text := by
  rw [KeyGroup.getString, keys_savedGroup member]
  exact kf.getString_ofString text

theorem getBoolean_savedGroup {key : String} {flag : Bool}
    (member : (cstr key, kf.ofBoolean flag) ∈ settings p) :
    (savedGroup kf name p).getBoolean key = flag := by
  rw [KeyGroup.getBoolean, keys_savedGroup member, Option.bind_some, kf.getBoolean_ofBoolean]
  rfl

theorem getInt64_savedGroup {key : String} {bound : GInt64}
    (member : (cstr key, bound) ∈ bounds p) :
    ((savedGroup kf name p).getInt64 key).getD (-1) = normalBound bound := by
  rw [KeyGroup.getInt64, normalBound]
  by_cases set : 0 ≤ bound.toInt
  · have written : (cstr key, kf.ofInt64 bound) ∈ settings p := by
      apply List.mem_append_right
      exact List.mem_map_of_mem (List.mem_filter.mpr ⟨member, by simpa using set⟩)
    rw [keys_savedGroup written, Option.bind_some, kf.getInt64_ofInt64, if_pos set]
    rfl
  · have absent : cstr key ∉ (settings p : List (CString × kf.Value)).map Prod.fst := by
      rw [keys_settings, List.mem_append]
      intro either
      rcases either with fixed | bounded
      · have inBounds : cstr key ∈ (bounds p).map Prod.fst := List.mem_map_of_mem member
        exact (List.disjoint_of_nodup_append distinct_keys) fixed inBounds
      · obtain ⟨other, kept, same⟩ := List.mem_map.mp bounded
        obtain ⟨inBounds, otherSet⟩ := List.mem_filter.mp kept
        have distinct : ((bounds p).map Prod.fst).Nodup := distinct_keys.of_append_right
        have equal := List.inj_on_of_nodup_map distinct inBounds member same
        rw [equal] at otherSet
        exact set (by simpa using otherSet)
    rw [show (savedGroup kf name p).keys (cstr key) = none from
      keysFrom_of_notMem absent _, if_neg set]
    rfl

theorem profileOf_savedGroup :
    profileOf (savedGroup kf name p) = { normalProfile p with name := some name } := by
  have host : (savedGroup kf name p).getString "host" = some (orEmpty p.host) :=
    getString_savedGroup (by simp [settings])
  have port : (savedGroup kf name p).getInteger "port" = some p.port := by
    rw [KeyGroup.getInteger, @keys_savedGroup kf name p "port" (kf.ofInteger p.port)
      (by simp [settings])]
    exact kf.getInteger_ofInteger p.port
  have baseDn : (savedGroup kf name p).getString "base-dn" = some (orEmpty p.baseDn) :=
    getString_savedGroup (by simp [settings])
  have authType : (savedGroup kf name p).getString "auth-type" =
      some (authTypeText p.authType) :=
    getString_savedGroup (by simp [settings])
  have bindDn : (savedGroup kf name p).getString "bind-dn" = some (orEmpty p.bindDn) :=
    getString_savedGroup (by simp [settings])
  have useTls : (savedGroup kf name p).getBoolean "use-tls" = p.useTls :=
    getBoolean_savedGroup (by simp [settings])
  have useLdaps : (savedGroup kf name p).getBoolean "use-ldaps" = p.useLdaps :=
    getBoolean_savedGroup (by simp [settings])
  have skipCert : (savedGroup kf name p).getBoolean "skip-cert" = p.skipCert :=
    getBoolean_savedGroup (by simp [settings])
  have uidMin := @getInt64_savedGroup kf name p "uid-min" p.uidMin (by simp [bounds])
  have uidMax := @getInt64_savedGroup kf name p "uid-max" p.uidMax (by simp [bounds])
  have gidMin := @getInt64_savedGroup kf name p "gid-min" p.gidMin (by simp [bounds])
  have gidMax := @getInt64_savedGroup kf name p "gid-max" p.gidMax (by simp [bounds])
  have simple : (if authTypeText p.authType = cstr "simple" then SbvAuthType.simple
      else .kerberos) = p.authType := by
    cases p.authType with
    | simple => rfl
    | kerberos => exact if_neg (by decide)
  simp only [profileOf, host, port, baseDn, authType, bindDn, useTls, useLdaps, skipCert,
    uidMin, uidMax, gidMin, gidMax, Option.some.injEq, simple]
  rfl

end SavedGroup

/-! The file and the store -/

/-- What is in the file: the groups that can be made out, and whether all of it parses. -/
structure Contents (kf : GKeyFile) where
  groups : List (KeyGroup kf)
  parses : Bool
  wellFormed : parses = true → WellFormed groups

def sbvProfilesLoad (file : Contents kf) : List SbvProfile :=
  if file.parses then file.groups.map profileOf else []

def saveGroups (kf : GKeyFile) (store : List SbvProfile) : List (KeyGroup kf) :=
  store.foldl saveProfile []

theorem wellFormed_saveProfile {groups : List (KeyGroup kf)} (wellFormed : WellFormed groups)
    (p : SbvProfile) : WellFormed (saveProfile groups p) := by
  unfold saveProfile
  split
  · exact wellFormed
  · exact wellFormed.setValues _ _

theorem wellFormed_saveGroups (kf : GKeyFile) (store : List SbvProfile) :
    WellFormed (saveGroups kf store) := by
  suffices every : ∀ groups : List (KeyGroup kf), WellFormed groups →
      WellFormed (store.foldl saveProfile groups) from
    every [] { distinct := List.nodup_nil, proper := by simp }
  induction store with
  | nil => exact fun _ wellFormed => wellFormed
  | cons p rest ih => exact fun groups wellFormed => ih _ (wellFormed_saveProfile wellFormed p)

def written (kf : GKeyFile) (store : List SbvProfile) : Contents kf :=
  { groups := saveGroups kf store
    parses := true
    wellFormed := fun _ => wellFormed_saveGroups kf store }

structure Profiles (kf : GKeyFile) where
  store : List SbvProfile
  file : Contents kf

namespace Profiles

def started (file : Contents kf) : Profiles kf := { store := sbvProfilesLoad file, file }

/-- `writes` is what becomes of the file operation. -/
def sbvProfilesSave (self : Profiles kf) (writes : Bool) : Bool × Profiles kf :=
  (writes, if writes then { self with file := written kf self.store } else self)

end Profiles

namespace Profiles

def sbvProfilesUpsert (self : Profiles kf) (profile : SbvProfile) (writes : Bool) :
    Bool × Profiles kf :=
  sbvProfilesSave { self with store := upsert profileKey profile self.store } writes

/-- A profile that is not found is no error. -/
def sbvProfilesRemove (self : Profiles kf) (name : Option CString) (writes : Bool) :
    Bool × Profiles kf :=
  match remove profileKey (orEmpty name) self.store with
  | some store => sbvProfilesSave { self with store } writes
  | none => (true, self)

end Profiles

/-! What a file holds of a store -/

def properlyNamed (p : SbvProfile) : Bool := isGroupName (profileKey p)

theorem saveProfile_improper {p : SbvProfile} (improper : properlyNamed p = false)
    (groups : List (KeyGroup kf)) : saveProfile groups p = groups := by
  unfold saveProfile
  split
  · rfl
  · exact setValues_improper improper groups _

theorem saveProfile_new {groups : List (KeyGroup kf)} {p : SbvProfile}
    (proper : properlyNamed p = true) (new : profileKey p ∉ groups.map KeyGroup.name) :
    saveProfile groups p = groups ++ [savedGroup kf (profileKey p) p] := by
  unfold saveProfile
  split
  next empty =>
    rw [properlyNamed, empty] at proper
    exact absurd proper (by decide)
  · exact setValues_new proper new (by simp [settings])

theorem saveGroups_eq {store : List SbvProfile} (distinct : (store.map profileKey).Nodup) :
    saveGroups kf store =
      (store.filter properlyNamed).map fun p => savedGroup kf (profileKey p) p := by
  suffices every : ∀ groups : List (KeyGroup kf),
      (groups.map KeyGroup.name).Disjoint (store.map profileKey) →
        store.foldl saveProfile groups = groups ++
          (store.filter properlyNamed).map fun p => savedGroup kf (profileKey p) p from
    every [] (by simp)
  induction store with
  | nil => simp
  | cons p rest ih =>
      intro groups disjoint
      obtain ⟨absent, distinct⟩ := List.nodup_cons.mp distinct
      have new : profileKey p ∉ groups.map KeyGroup.name := fun member =>
        disjoint member List.mem_cons_self
      rw [List.foldl_cons]
      cases proper : properlyNamed p with
      | false =>
          rw [saveProfile_improper proper, ih distinct groups
            (fun name inGroups inRest => disjoint inGroups (List.mem_cons_of_mem _ inRest)),
            List.filter_cons_of_neg (by simp [proper])]
      | true =>
          rw [saveProfile_new proper new, ih distinct, List.filter_cons_of_pos proper]
          · simp
          · intro name inGroups inRest
            rw [List.map_append, List.mem_append] at inGroups
            rcases inGroups with known | last
            · exact disjoint known (List.mem_cons_of_mem _ inRest)
            · have same : name = profileKey p := List.mem_singleton.mp last
              subst same
              exact absent inRest

theorem load_written {store : List SbvProfile} (distinct : (store.map profileKey).Nodup) :
    sbvProfilesLoad (written kf store) = (store.filter properlyNamed).map normalProfile := by
  show (saveGroups kf store).map profileOf = _
  rw [saveGroups_eq distinct, List.map_map]
  apply List.map_congr_left
  intro p _
  exact profileOf_savedGroup

theorem load_written_iff {store : List SbvProfile} (distinct : (store.map profileKey).Nodup) :
    List.Forall₂ SameProfile (sbvProfilesLoad (written kf store)) store ↔
      ∀ p ∈ store, properlyNamed p = true := by
  rw [load_written distinct]
  constructor
  · intro same p member
    have length := same.length_eq
    rw [List.length_map] at length
    exact List.length_filter_eq_length_iff.mp length p member
  · intro proper
    have whole : store.filter properlyNamed = store := List.filter_eq_self.mpr proper
    rw [whole, List.forall₂_map_left_iff, List.forall₂_same]
    exact fun p _ => normalProfile_idem p

theorem proper_of_load {file : Contents kf} {p : SbvProfile} (member : p ∈ sbvProfilesLoad file) :
    properlyNamed p = true := by
  unfold sbvProfilesLoad at member
  by_cases parses : file.parses = true
  · rw [if_pos parses] at member
    obtain ⟨group, inFile, rfl⟩ := List.mem_map.mp member
    exact (file.wellFormed parses).proper group.name (List.mem_map_of_mem inFile)
  · rw [if_neg parses] at member
    cases member

/-- What is saved is loaded again exactly where every profile has a name that a group can
have. -/
theorem load_save_iff (self : Profiles kf) (distinct : (self.store.map profileKey).Nodup)
    {writes : Bool} (saved : (self.sbvProfilesSave writes).1 = true) :
    List.Forall₂ SameProfile (sbvProfilesLoad (self.sbvProfilesSave writes).2.file) self.store ↔
      ∀ p ∈ self.store, isGroupName (profileKey p) = true := by
  have file : (self.sbvProfilesSave writes).2.file = written kf self.store := by
    rw [show writes = true from saved]
    rfl
  rw [file]
  exact load_written_iff distinct

inductive PlainValue where
  | string (value : CString)
  | integer (value : GInt)
  | int64 (value : GInt64)
  | boolean (value : Bool)
  deriving DecidableEq, Repr

def plainKeyFile : GKeyFile where
  Value := PlainValue
  ofString := .string
  ofInteger := .integer
  ofInt64 := .int64
  ofBoolean := .boolean
  getString | .string value => some value | _ => none
  getInteger | .integer value => some value | _ => none
  getInt64 | .int64 value => some value | _ => none
  getBoolean | .boolean value => some value | _ => none
  getString_ofString _ := rfl
  getInteger_ofInteger _ := rfl
  getInt64_ofInt64 _ := rfl
  getBoolean_ofBoolean _ := rfl

def labProfile (name : String) : SbvProfile :=
  { name := some (cstr name), host := some (cstr "dc1.lab"), uidMin := 20000 }

def noFile : Contents plainKeyFile :=
  { groups := [], parses := false, wellFormed := by simp }

theorem load_save_iff_lab :
    let self : Profiles plainKeyFile :=
      { store := [labProfile "Lab", labProfile "Office"], file := noFile }
    List.Forall₂ SameProfile (sbvProfilesLoad (self.sbvProfilesSave true).2.file) self.store ↔
      ∀ p ∈ self.store, isGroupName (profileKey p) = true := by
  intro self
  exact load_save_iff self (by decide) rfl

/-- The save of a profile with a bracket in its name succeeds and loses it. -/
theorem bracket_lost :
    let self : Profiles plainKeyFile := { store := [labProfile "Lab [old]"], file := noFile }
    (self.sbvProfilesSave true).1 = true ∧
      sbvProfilesLoad (self.sbvProfilesSave true).2.file = [] ∧
        ¬ List.Forall₂ SameProfile
          (sbvProfilesLoad (self.sbvProfilesSave true).2.file) self.store := by
  intro self
  have lost : sbvProfilesLoad (self.sbvProfilesSave true).2.file = [] := by decide
  refine ⟨rfl, lost, ?_⟩
  rw [lost]
  intro same
  cases same

end Sambervise.Backend
