import Mathlib.Data.List.AList
import Sambervise.Backend.Workers

namespace Sambervise.Backend

open Text Ldap Model

/-! Reading one entry into an attribute table -/

/-- An entry in a search result: its attributes as the server lists them. -/
abbrev LdapMessage := List (CString × List (List UInt8))

abbrev AttrTable := AList fun _ : CString => List CString

def isContinuation (char : UInt8) : Bool := 0x80 ≤ char && char ≤ 0xBF

/-- `g_utf8_validate` with a length, which also refuses a NUL byte. -/
def utf8Validate : List UInt8 → Bool
  | [] => true
  | first :: rest =>
      if first < 0x80 then first != 0 && utf8Validate rest
      else
        match rest with
        | [] => false
        | second :: rest =>
            if first < 0xE0 then
              0xC2 ≤ first && isContinuation second && utf8Validate rest
            else
              match rest with
              | [] => false
              | third :: rest =>
                  if first < 0xF0 then
                    isContinuation second && isContinuation third &&
                      (first != 0xE0 || 0xA0 ≤ second) &&
                      (first != 0xED || second ≤ 0x9F) && utf8Validate rest
                  else
                    match rest with
                    | [] => false
                    | fourth :: rest =>
                        first ≤ 0xF4 && isContinuation second &&
                          isContinuation third && isContinuation fourth &&
                          (first != 0xF0 || 0x90 ≤ second) &&
                          (first != 0xF4 || second ≤ 0x8F) && utf8Validate rest

def binaryPlaceholder (length : Nat) : CString :=
  cstr "<binary " ++ formatNat length ++ cstr " bytes>"

def displayValue (bytes : List UInt8) : CString :=
  if utf8Validate bytes then untilNul bytes else binaryPlaceholder bytes.length

/-- `ldap_get_values_len` for every type: of an attribute listed twice, the values listed
first. -/
def attributesOf (entry : LdapMessage) : Attributes := fun type =>
  ((entry.find? fun attr => asciiStrdown attr.1 = type).map Prod.snd).getD []

def collectAttr (entry : LdapMessage) (raw : AttrTable) (type : CString) : AttrTable :=
  match (attributesOf entry).values type with
  | [] => raw
  | values => raw.insert type (values.map displayValue)

def collectAttrs (entry : LdapMessage) : AttrTable :=
  (entry.map Prod.fst).foldl (collectAttr entry) ∅

/-! Text as it is read -/

theorem utf8Validate_cons {char : UInt8} (ascii : char < 0x80) (rest : CString) :
    utf8Validate (char :: rest) = (char != 0 && utf8Validate rest) := by
  rw [utf8Validate.eq_def]
  exact if_pos ascii

section Longer

variable {first second third fourth : UInt8} (many : ¬ first < 0x80)
include many

theorem utf8Validate_two (two : first < 0xE0) (rest : CString) :
    utf8Validate (first :: second :: rest) =
      (0xC2 ≤ first && isContinuation second && utf8Validate rest) := by
  rw [utf8Validate.eq_def]
  exact (if_neg many).trans (if_pos two)

theorem utf8Validate_pair (more : ¬ first < 0xE0) : utf8Validate [first, second] = false := by
  rw [utf8Validate.eq_def]
  exact (if_neg many).trans (if_neg more)

theorem utf8Validate_three (more : ¬ first < 0xE0) (three : first < 0xF0) (rest : CString) :
    utf8Validate (first :: second :: third :: rest) =
      (isContinuation second && isContinuation third && (first != 0xE0 || 0xA0 ≤ second) &&
        (first != 0xED || second ≤ 0x9F) && utf8Validate rest) := by
  rw [utf8Validate.eq_def]
  exact (if_neg many).trans ((if_neg more).trans (if_pos three))

theorem utf8Validate_triple (more : ¬ first < 0xE0) (most : ¬ first < 0xF0) :
    utf8Validate [first, second, third] = false := by
  rw [utf8Validate.eq_def]
  exact (if_neg many).trans ((if_neg more).trans (if_neg most))

theorem utf8Validate_four (more : ¬ first < 0xE0) (most : ¬ first < 0xF0) (rest : CString) :
    utf8Validate (first :: second :: third :: fourth :: rest) =
      (first ≤ 0xF4 && isContinuation second && isContinuation third &&
        isContinuation fourth && (first != 0xF0 || 0x90 ≤ second) &&
        (first != 0xF4 || second ≤ 0x8F) && utf8Validate rest) := by
  rw [utf8Validate.eq_def]
  exact (if_neg many).trans ((if_neg more).trans (if_neg most))

end Longer

theorem isContinuation_ascii {char : UInt8} (ascii : char < 0x80) :
    isContinuation char = false := by
  have low : ¬ 0x80 ≤ char := UInt8.not_le.mpr ascii
  simp [isContinuation, low]

/-- An ASCII byte is a character of its own, wherever it stands. -/
theorem utf8Validate_cut {char : UInt8} (ascii : char < 0x80) {before after : CString}
    (valid : utf8Validate (before ++ char :: after) = true) :
    utf8Validate before = true ∧ utf8Validate (char :: after) = true := by
  have outside := isContinuation_ascii ascii
  induction before using utf8Validate.induct with
  | case1 => exact ⟨rfl, valid⟩
  | case2 first rest single ih =>
      rw [List.cons_append, utf8Validate_cons single, Bool.and_eq_true] at valid
      rw [utf8Validate_cons single, Bool.and_eq_true]
      exact ⟨⟨valid.1, (ih valid.2).1⟩, (ih valid.2).2⟩
  | case3 first many =>
      by_cases two : first < 0xE0
      · simp [utf8Validate_two many two, outside] at valid
      · rcases after with _ | ⟨third, after⟩
        · simp [utf8Validate_pair many two] at valid
        · by_cases three : first < 0xF0
          · simp [utf8Validate_three many two three, outside] at valid
          · rcases after with _ | ⟨fourth, after⟩
            · simp [utf8Validate_triple many two three] at valid
            · simp [utf8Validate_four many two three, outside] at valid
  | case4 first many second rest two ih =>
      rw [List.cons_append, List.cons_append, utf8Validate_two many two,
        Bool.and_eq_true] at valid
      rw [utf8Validate_two many two, Bool.and_eq_true]
      exact ⟨⟨valid.1, (ih valid.2).1⟩, (ih valid.2).2⟩
  | case5 first many second more =>
      by_cases three : first < 0xF0
      · simp [utf8Validate_three many more three, outside] at valid
      · rcases after with _ | ⟨fourth, after⟩
        · simp [utf8Validate_triple many more three] at valid
        · simp [utf8Validate_four many more three, outside] at valid
  | case6 first many second more third rest three ih =>
      rw [List.cons_append, List.cons_append, List.cons_append,
        utf8Validate_three many more three, Bool.and_eq_true] at valid
      rw [utf8Validate_three many more three, Bool.and_eq_true]
      exact ⟨⟨valid.1, (ih valid.2).1⟩, (ih valid.2).2⟩
  | case7 first many second more third most =>
      simp [utf8Validate_four many more most, outside] at valid
  | case8 first many second more third most fourth rest ih =>
      rw [List.cons_append, List.cons_append, List.cons_append, List.cons_append,
        utf8Validate_four many more most, Bool.and_eq_true] at valid
      rw [utf8Validate_four many more most, Bool.and_eq_true]
      exact ⟨⟨valid.1, (ih valid.2).1⟩, (ih valid.2).2⟩

theorem zero_notMem_of_utf8Validate {bytes : CString} (valid : utf8Validate bytes = true) :
    0 ∉ bytes := by
  intro zero
  obtain ⟨before, after, split⟩ := List.append_of_mem zero
  rw [split] at valid
  have later := (utf8Validate_cut (by decide) valid).2
  simp [utf8Validate_cons (show (0 : UInt8) < 0x80 by decide)] at later

theorem utf8Validate_ascii {bytes : CString} (ascii : ∀ char ∈ bytes, char < 0x80 ∧ char ≠ 0) :
    utf8Validate bytes = true := by
  induction bytes with
  | nil => rfl
  | cons char rest ih =>
      obtain ⟨low, nonzero⟩ := ascii char List.mem_cons_self
      rw [utf8Validate_cons low, ih fun other member =>
        ascii other (List.mem_cons_of_mem char member)]
      simp [nonzero]

theorem utf8Validate_binaryPlaceholder (length : Nat) :
    utf8Validate (binaryPlaceholder length) = true := by
  have around : ∀ frame ∈ [cstr "<binary ", cstr " bytes>"], ∀ char ∈ frame,
      char < 0x80 ∧ char ≠ 0 := by
    have ascii : [cstr "<binary ", cstr " bytes>"].all (fun frame =>
        frame.all fun char => decide (char < 0x80) && decide (char ≠ 0)) = true := by decide
    simpa only [List.all_eq_true, Bool.and_eq_true, decide_eq_true_eq] using ascii
  apply utf8Validate_ascii
  intro char member
  simp only [binaryPlaceholder, List.mem_append] at member
  rcases member with (before | digit) | after
  · exact around _ List.mem_cons_self char before
  · have isDigit := formatNat_digits digit
    simp only [asciiIsDigit, Bool.and_eq_true, decide_eq_true_eq] at isDigit
    constructor
    · exact UInt8.lt_of_le_of_lt isDigit.2 (by decide)
    · intro zero
      rw [zero] at isDigit
      exact absurd isDigit.1 (by decide)
  · exact around _ (List.mem_cons_of_mem _ List.mem_cons_self) char after

/-- What is displayed is text, and text is displayed as it is. -/
theorem utf8Validate_displayValue (bytes : List UInt8) :
    utf8Validate (displayValue bytes) = true := by
  unfold displayValue
  split
  next valid => rwa [untilNul_of_notMem (zero_notMem_of_utf8Validate valid)]
  next => exact utf8Validate_binaryPlaceholder bytes.length

theorem displayValue_of_valid {bytes : List UInt8} (valid : utf8Validate bytes = true) :
    displayValue bytes = bytes := by
  rw [displayValue, if_pos valid, untilNul_of_notMem (zero_notMem_of_utf8Validate valid)]

/-! Searches that read whole entries -/

/-- An entry received, with what `ldap_get_dn` makes of its name. -/
structure SearchEntry where
  dn : Option CString
  attributes : LdapMessage
  deriving DecidableEq, Repr

/-- The server's answers: a result code, and the entries that came with it. -/
abbrev LdapSearch := SearchRequest → ResultCode × List SearchEntry

/-- What the workers that search share. `read` is the reading of the entries, which
they do before they release the lock. -/
def searchExt {α : Type} (search : LdapSearch) (text : String) (accepted : ResultCode → Bool)
    (request : Option CString → SearchRequest) (read : List SearchEntry → α) :
    LdapM (Except GError α) :=
  whenConnected do
    let session ← get
    let request := request session.baseDn
    let _ ← send (.query request)
    let (rc, entries) := search request
    if accepted rc then
      releaseLdap
      return .ok (read entries)
    else
      releaseLdap
      return .error (ldapError text rc)

theorem searchExt_eq {α : Type} (search : LdapSearch) (text : String)
    (accepted : ResultCode → Bool) (request : Option CString → SearchRequest)
    (read : List SearchEntry → α) :
    searchExt search text accepted request read =
      underLock fun session =>
        let (rc, entries) := search (request session.baseDn)
        (if accepted rc then .ok (read entries) else .error (ldapError text rc),
          (send (.query (request session.baseDn)) session).2) := by
  rw [searchExt, underLock]
  congr 1
  funext session
  simp only [bind, StateT.bind, releasing, get, getThe, MonadStateOf.get, StateT.get, pure]
  cases accepted (search (request session.baseDn)).1 with
  | true => rfl
  | false => rfl

/-- An entry as a server lists it: no attribute twice, and none without values. -/
structure ListedEntry where
  attributes : LdapMessage
  distinct : (attributes.map fun attr => asciiStrdown attr.1).Nodup
  filled : ∀ attr ∈ attributes, attr.2 ≠ []

namespace ListedEntry

def types (entry : ListedEntry) : List CString := entry.attributes.map Prod.fst

def values (entry : ListedEntry) (type : CString) : List (List UInt8) :=
  (attributesOf entry.attributes).values type

def table (entry : ListedEntry) : AttrTable := collectAttrs entry.attributes

end ListedEntry

section Reading

theorem values_attributesOf {entry : LdapMessage}
    (distinct : (entry.map fun attr => asciiStrdown attr.1).Nodup)
    {attr : CString × List (List UInt8)} (member : attr ∈ entry) :
    (attributesOf entry).values attr.1 = attr.2 := by
  have found : entry.find? (fun other => asciiStrdown other.1 = asciiStrdown attr.1) =
      some attr := by
    induction entry with
    | nil => cases member
    | cons first rest ih =>
        obtain ⟨fresh, distinctRest⟩ := List.nodup_cons.mp distinct
        rcases List.mem_cons.mp member with rfl | later
        · exact List.find?_cons_of_pos (by simp)
        · have different : asciiStrdown first.1 ≠ asciiStrdown attr.1 := fun same =>
            fresh (List.mem_map.mpr ⟨attr, later, same.symm⟩)
          rw [List.find?_cons_of_neg (by simpa using different)]
          exact ih distinctRest later
  rw [Attributes.values, attributesOf, found]
  rfl

theorem lookup_collectAttr (entry : LdapMessage) (raw : AttrTable) (first type : CString) :
    (collectAttr entry raw first).lookup type =
      if type = first ∧ (attributesOf entry).values type ≠ [] then
        some (((attributesOf entry).values type).map displayValue)
      else raw.lookup type := by
  unfold collectAttr
  by_cases same : type = first
  · subst same
    cases values : (attributesOf entry).values type with
    | nil => simp
    | cons value rest => simp
  · rw [if_neg fun both => same both.1]
    cases (attributesOf entry).values first with
    | nil => rfl
    | cons value rest => exact AList.lookup_insert_ne same

theorem lookup_foldl_collectAttr (entry : LdapMessage) (types : List CString) (raw : AttrTable)
    (type : CString) :
    (types.foldl (collectAttr entry) raw).lookup type =
      if type ∈ types ∧ (attributesOf entry).values type ≠ [] then
        some (((attributesOf entry).values type).map displayValue)
      else raw.lookup type := by
  induction types generalizing raw with
  | nil => simp
  | cons first rest ih =>
      rw [List.foldl_cons, ih, lookup_collectAttr]
      by_cases later : type ∈ rest
      · simp only [later, List.mem_cons, or_true, true_and]
        split
        · rfl
        next none => rw [if_neg fun both => none both.2]
      · simp only [later, List.mem_cons, or_false, false_and, if_false]

/-- An attribute is in the table where the entry lists it with a value. -/
theorem lookup_collectAttrs (entry : LdapMessage) (type : CString) :
    (collectAttrs entry).lookup type =
      if type ∈ entry.map Prod.fst ∧ (attributesOf entry).values type ≠ [] then
        some (((attributesOf entry).values type).map displayValue)
      else none :=
  lookup_foldl_collectAttr entry _ ∅ type

variable (entry : ListedEntry)

theorem ListedEntry.types_nodup : entry.types.Nodup :=
  List.Nodup.of_map asciiStrdown (by
    rw [ListedEntry.types, List.map_map]
    exact entry.distinct)

theorem ListedEntry.values_ne_nil {type : CString} (listed : type ∈ entry.types) :
    entry.values type ≠ [] := by
  obtain ⟨attr, member, rfl⟩ := List.mem_map.mp listed
  rw [ListedEntry.values, values_attributesOf entry.distinct member]
  exact entry.filled attr member

theorem ListedEntry.lookup_table {type : CString} (listed : type ∈ entry.types) :
    entry.table.lookup type = some ((entry.values type).map displayValue) := by
  rw [ListedEntry.table, lookup_collectAttrs, if_pos ⟨listed, entry.values_ne_nil listed⟩]
  rfl

theorem ListedEntry.mem_keys {type : CString} : type ∈ entry.table.keys ↔ type ∈ entry.types := by
  rw [← AList.mem_keys, ← AList.lookup_isSome]
  constructor
  · intro found
    by_contra absent
    rw [ListedEntry.table, lookup_collectAttrs, if_neg fun both => absent both.1] at found
    cases found
  · intro listed
    rw [entry.lookup_table listed]
    rfl

end Reading

/-- The `list_thread` of the four kinds of object, and the dump each object carries. -/
def listFrom {α : Type} (search : LdapSearch) (request : Option CString → SearchRequest)
    (objectOf : Attributes → α) : LdapM (Except GError (List (α × AttrTable))) :=
  searchExt search "Search failed: " (· = ldapSuccess) request
    (·.map fun entry =>
      (objectOf (attributesOf entry.attributes), collectAttrs entry.attributes))

/-! The browser's tree -/

structure SbvLdapNode where
  dn : CString
  label : CString
  /-- `none` while it is not known. -/
  hasChildren : Option Bool
  attrs : AttrTable

def extractLabel (dn : CString) : CString :=
  match dn.dropWhile (· != equals) with
  | [] => dn
  | _ :: start => start.takeWhile (· != comma)

def parseHasSubordinates (attrs : AttrTable) : Option Bool :=
  match attrs.lookup (cstr "hasSubordinates") with
  | some (value :: _) =>
      if asciiStrdown value = cstr "true" then some true
      else if asciiStrdown value = cstr "false" then some false
      else none
  | _ => none

/-- An entry whose DN cannot be read is passed over. -/
def nodeOfEntry (label : CString → CString) (entry : SearchEntry) : Option SbvLdapNode :=
  entry.dn.map fun dn =>
    let raw := collectAttrs entry.attributes
    { dn, label := label dn, hasChildren := parseHasSubordinates raw, attrs := raw }

/-- `collate` stands for `g_utf8_collate`, which follows the locale. -/
def sortedByLabel (collate : CString → CString → Int) (nodes : List SbvLdapNode) :
    List SbvLdapNode :=
  nodes.mergeSort fun first second => collate first.label second.label ≤ 0

def browseAttrs : List CString := [cstr "*", cstr "hasSubordinates"]

def anyObject : CString := cstr "(objectClass=*)"

def childrenRequest (parentDn : CString) : SearchRequest :=
  { base := some parentDn
    scope := .oneLevel
    filter := anyObject
    attrs := browseAttrs }

def childrenThread (search : LdapSearch) (collate : CString → CString → Int)
    (parentDn : CString) : LdapM (Except GError (List SbvLdapNode)) :=
  searchExt search "Browse failed: " (· = ldapSuccess) (fun _ => childrenRequest parentDn)
    fun entries => sortedByLabel collate (entries.filterMap (nodeOfEntry extractLabel))

def attrsRequest (dn : CString) : SearchRequest :=
  { base := some dn
    scope := .base
    filter := anyObject
    attrs := browseAttrs
    sizeLimit := some 1 }

def attrsThread (search : LdapSearch) (dn : CString) : LdapM (Except GError AttrTable) :=
  searchExt search "Read failed: " (· = ldapSuccess) (fun _ => attrsRequest dn)
    fun entries => (entries.head?.map fun entry => collectAttrs entry.attributes).getD ∅

def sbvBrowseSearchLimit : Nat := 500

structure SearchData where
  baseDn : CString
  filter : CString
  deriving DecidableEq, Repr

def SearchData.request (d : SearchData) : SearchRequest :=
  { base := some d.baseDn
    scope := .subtree
    filter := d.filter
    attrs := browseAttrs
    sizeLimit := some sbvBrowseSearchLimit }

/-- Too many results are no error. -/
def searchThread (search : LdapSearch) (collate : CString → CString → Int)
    (d : SearchData) : LdapM (Except GError (List SbvLdapNode)) :=
  searchExt search "Search failed: "
    (fun rc => rc = ldapSuccess ∨ rc = ldapSizelimitExceeded) (fun _ => d.request)
    fun entries => sortedByLabel collate (entries.filterMap (nodeOfEntry id))

def sbvLdapBrowseSearch (baseDn : CString) (filter : Option CString) : SearchData :=
  { baseDn, filter := if orEmpty filter = [] then anyObject else orEmpty filter }

/-! Modifications of the raw editor -/

inductive SbvLdapModOp where
  | add
  | replace
  | delete
  deriving DecidableEq, Repr

/-- No values stand for the NULL vector. -/
structure SbvLdapMod where
  op : SbvLdapModOp
  attr : CString
  values : List CString
  deriving DecidableEq, Repr

def opToLdap : SbvLdapModOp → ModOp
  | .add => .add
  | .replace => .replace
  | .delete => .delete

structure ModifyData where
  dn : CString
  mods : List SbvLdapMod
  deriving DecidableEq, Repr

/-- One `LDAPMod` as `modify_thread` builds it. -/
def toLdapMod (mod : SbvLdapMod) : LdapMod :=
  { op := opToLdap mod.op, type := mod.attr, values := mod.values }

def ModifyData.ldapMods (d : ModifyData) : List LdapMod := d.mods.map toLdapMod

def modifyThread (d : ModifyData) : LdapM (Except GError Unit) :=
  whenConnected do
    if d.mods = [] then
      releaseLdap
      return .ok ()
    else
      let rc ← modifyExt d.dn d.ldapMods
      releaseLdap
      return checked "Modify failed: " rc

theorem modifyThread_eq (d : ModifyData) :
    modifyThread d =
      underLock (if d.mods = [] then return .ok ()
        else checked "Modify failed: " <$> modifyExt d.dn d.ldapMods) := by
  rw [underLock, releasing_ite]
  rfl

end Sambervise.Backend
