import Sambervise.Ldap.Directory

namespace Sambervise.Ldap

open Text

/-! Renaming an entry: the relative name a text stands for, the DN that a client puts
together for the entry from its old DN, and what the server has afterwards. -/

/-! The first comma of a DN -/

/-- The first comma is the one that ends the leftmost part of the name. -/
def FirstCommaSeparates (dn : CString) : Prop :=
  comma ∈ dn ∧ Closed (dn.takeWhile (· != comma))

theorem takeWhile_append_comma {dn : CString} (member : comma ∈ dn) :
    dn.takeWhile (· != comma) ++ comma :: (dn.dropWhile (· != comma)).tail = dn := by
  induction dn with
  | nil => cases member
  | cons char rest ih =>
      by_cases found : char = comma
      · simp [found]
      · have later : comma ∈ rest := by
          rcases List.mem_cons.mp member with same | later
          · exact absurd same.symm found
          · exact later
        simpa [found] using ih later

theorem comma_notMem_takeWhile (dn : CString) : comma ∉ dn.takeWhile (· != comma) := by
  intro member
  have kept := List.mem_takeWhile_imp member
  simp at kept

theorem mem_of_raw_mem_lex {string : CString} {char : UInt8}
    (member : .raw char ∈ lex string) : char ∈ string := by
  fun_induction lex string with
  | case1 => cases member
  | case2 other =>
      simp only [List.mem_singleton, Token.raw.injEq] at member
      simp [member]
  | case3 next rest ih =>
      simp only [List.mem_cons, reduceCtorEq, false_or] at member
      simp [ih member]
  | case4 other next rest plain ih =>
      rcases List.mem_cons.mp member with same | later
      · simp only [Token.raw.injEq] at same
        simp [same]
      · exact List.mem_cons_of_mem other (ih later)

theorem parseDn_tail {front rest : CString} (closed : Closed front)
    (absent : comma ∉ front) {rdn : RelativeDn} {parent : DistinguishedName}
    (parsed : parseDn (front ++ comma :: rest) = some (rdn :: parent)) :
    rest ≠ [] ∧ parseDn rest = some parent := by
  have noComma : .raw comma ∉ lex front := fun member => absent (mem_of_raw_mem_lex member)
  rw [parseDn_of_ne_nil (by simp), lex_append closed, lex_cons (by decide),
    List.splitOn_append_cons_self_of_not_mem noComma] at parsed
  obtain ⟨_, _, _, others, same⟩ := mapM_cons_eq_some.mp parsed
  have nonempty : rest ≠ [] := by
    intro equal
    subst equal
    obtain ⟨_, _, first, _, _⟩ := mapM_cons_eq_some.mp
      (show [[]].mapM decodeRdn = some _ from others)
    rw [decodeRdn_nil] at first
    cases first
  refine ⟨nonempty, ?_⟩
  rw [parseDn_of_ne_nil nonempty, others, (List.cons.inj same).2]

theorem length_splitOn_open {front : CString} (dangling : ¬ Closed front)
    (absent : comma ∉ front) (rest : CString) :
    ((lex (front ++ comma :: rest)).splitOn (.raw comma)).length =
      ((lex rest).splitOn (.raw comma)).length := by
  obtain ⟨before, rfl, closed⟩ := open_concat dangling
  have noComma : .raw comma ∉ lex before ++ [.escaped comma] := by
    simp only [List.mem_append, List.mem_singleton, reduceCtorEq, or_false]
    intro member
    exact absent (List.mem_append_left _ (mem_of_raw_mem_lex member))
  rw [List.append_assoc, List.singleton_append, lex_open_append closed,
    show lex before ++ Token.escaped comma :: lex rest =
      (lex before ++ [.escaped comma]) ++ lex rest by simp,
    splitOn_append_of_notMem noComma, List.length_modifyHead]

section Sibling

variable {type name dn : CString}

/-- A new leftmost part before what follows the first comma of the old DN names the
sibling, if that comma ends the old leftmost part. -/
theorem parseDn_sibling (keystring : isKeystring type = true)
    (plain : needsNoEscaping name = true) (separates : FirstCommaSeparates dn)
    {old : RelativeDn} {parent : DistinguishedName}
    (parsed : parseDn dn = some (old :: parent)) :
    parseDn (type ++ equals :: name ++ comma :: (dn.dropWhile (· != comma)).tail) =
      some ([{ type, value := .string name }] :: parent) := by
  obtain ⟨member, closed⟩ := separates
  rw [← takeWhile_append_comma member] at parsed
  obtain ⟨nonempty, above⟩ := parseDn_tail closed (comma_notMem_takeWhile dn) parsed
  exact (parseDn_child_iff keystring nonempty above name).mpr plain

/-- Otherwise it names nothing, or an entry one level further down. -/
theorem length_parseDn_sibling (keystring : isKeystring type = true)
    (plain : needsNoEscaping name = true) (misled : ¬ FirstCommaSeparates dn)
    (nonempty : dn ≠ []) {names others : DistinguishedName}
    (parsed : parseDn dn = some names)
    (sibling : parseDn (type ++ equals :: name ++
      comma :: (dn.dropWhile (· != comma)).tail) = some others) :
    others.length = names.length + 1 := by
  have closed := closed_of_notMem (separators_notMem_of_plain plain).1
  have longer := length_of_parseDn (by simp) sibling
  rw [List.append_assoc, List.cons_append, lex_stem_append keystring,
    lex_append closed, lex_cons (by decide), ← List.append_assoc,
    List.splitOn_append_cons_self_of_not_mem (comma_notMem_plain keystring plain),
    List.length_cons] at longer
  rw [← longer, ← length_of_parseDn nonempty parsed]
  by_cases member : comma ∈ dn
  · have dangling : ¬ Closed (dn.takeWhile (· != comma)) :=
      fun closed => misled ⟨member, closed⟩
    have same := length_splitOn_open dangling (comma_notMem_takeWhile dn)
      (dn.dropWhile (· != comma)).tail
    rw [takeWhile_append_comma member] at same
    rw [same]
  · have nothing : dn.dropWhile (· != comma) = [] := by
      rw [List.dropWhile_eq_nil_iff]
      intro char inside
      simpa using fun same : char = comma => member (same ▸ inside)
    rw [nothing, List.splitOn_eq_singleton fun inside => member (mem_of_raw_mem_lex inside)]
    rfl

end Sibling

/-! The value of a relative name -/

theorem length_of_decodeHexstring {tokens : List Token} {encoding : List UInt8}
    (decoded : decodeHexstring tokens = some encoding) :
    encoding.length ≤ tokens.length := by
  fun_induction decodeHexstring tokens generalizing encoding with
  | case1 =>
      simp only [Option.some.injEq] at decoded
      simp [← decoded]
  | case2 first second rest high low upper lower ih =>
      simp only [Option.map_eq_some_iff] at decoded
      obtain ⟨tail, later, rfl⟩ := decoded
      have := ih later
      simp only [List.length_cons]
      omega
  | case3 | case4 => cases decoded

theorem length_of_decodeValue {tokens : List Token} {value : AttributeValue}
    (decoded : decodeValue tokens = some value) :
    value.bytes.length ≤ tokens.length ∧
      ∀ encoding, value = .ber encoding → value.bytes.length < tokens.length := by
  unfold decodeValue at decoded
  split at decoded
  · split at decoded
    · cases decoded
    next marked _ =>
      simp only [Option.map_eq_some_iff] at decoded
      obtain ⟨encoding, hex, rfl⟩ := decoded
      have short := length_of_decodeHexstring hex
      have nonempty : tokens ≠ [] := by
        intro equal
        subst equal
        cases marked
      have := List.length_pos_iff.mpr nonempty
      rw [List.length_tail] at short
      have shorter : encoding.length < tokens.length := by omega
      exact ⟨shorter.le, fun _ _ => shorter⟩
  · split at decoded
    · cases decoded
    · simp only [Option.map_eq_some_iff] at decoded
      obtain ⟨value, text, rfl⟩ := decoded
      exact ⟨length_of_decodeString text, fun _ same => by cases same⟩

theorem length_of_decodeAttribute {tokens : List Token} {assertion : AttributeTypeAndValue}
    (decoded : decodeAttribute tokens = some assertion) :
    assertion.value.bytes.length < tokens.length := by
  unfold decodeAttribute at decoded
  split at decoded
  · cases decoded
  next separator rest found =>
    simp only [Option.bind_eq_some_iff, Option.map_eq_some_iff] at decoded
    obtain ⟨type, _, value, decodes, rfl⟩ := decoded
    have short := (length_of_decodeValue decodes).1
    have suffix : (tokens.dropWhile (· != .raw equals)).length ≤ tokens.length :=
      (List.dropWhile_suffix _).length_le
    rw [found, List.length_cons] at suffix
    exact lt_of_le_of_lt short suffix

theorem mem_splitOn_sublist {α : Type*} [BEq α] [LawfulBEq α] {separator : α}
    {whole piece : List α} (member : piece ∈ whole.splitOn separator) :
    piece.Sublist whole := by
  induction whole generalizing piece with
  | nil => simpa using member
  | cons head tail ih =>
      rw [List.splitOn_cons_eq_if_modifyHead] at member
      split at member
      · rcases List.mem_cons.mp member with rfl | later
        · exact List.nil_sublist _
        · exact (ih later).cons head
      · obtain ⟨first, rest, split⟩ :=
          List.exists_cons_of_ne_nil (List.splitOn_ne_nil separator tail)
        rw [split] at ih member
        rcases List.mem_cons.mp member with rfl | later
        · exact (ih List.mem_cons_self).cons_cons head
        · exact (ih (List.mem_cons_of_mem _ later)).cons head

theorem append_of_splitOn {α : Type*} [BEq α] [LawfulBEq α] {separator : α}
    {whole first second : List α} {rest : List (List α)}
    (split : whole.splitOn separator = first :: second :: rest) :
    ∃ back, whole = first ++ separator :: back := by
  have joined : [separator].intercalate (whole.splitOn separator) = whole :=
    List.intercalate_splitOn separator
  rw [split, List.intercalate_cons_cons, List.append_assoc] at joined
  exact ⟨_, joined.symm⟩

theorem exists_of_mem_mapM {α β : Type*} {decode : α → Option β} {inputs : List α}
    {outputs : List β} (decoded : inputs.mapM decode = some outputs) {output : β}
    (member : output ∈ outputs) : ∃ input ∈ inputs, decode input = some output := by
  induction inputs generalizing outputs with
  | nil =>
      simp only [List.mapM_nil, Option.pure_def, Option.some.injEq] at decoded
      simp [← decoded] at member
  | cons input rest ih =>
      obtain ⟨head, tail, first, others, rfl⟩ := mapM_cons_eq_some.mp decoded
      rcases List.mem_cons.mp member with rfl | later
      · exact ⟨input, List.mem_cons_self, first⟩
      · obtain ⟨source, inRest, found⟩ := ih others later
        exact ⟨source, List.mem_cons_of_mem _ inRest, found⟩

theorem bytes_ne_of_decodeValue {name : CString} (escapes : needsNoEscaping name = false)
    {value : AttributeValue} (decodes : decodeValue (lex name) = some value) :
    value.bytes ≠ name := by
  cases value with
  | string value =>
      intro equal
      subst equal
      rw [decodeValue_lex_iff.mp decodes] at escapes
      cases escapes
  | ber encoding =>
      intro same
      have shorter := (length_of_decodeValue decodes).2 encoding rfl
      have textShort := length_lex_le name
      rw [same] at shorter
      omega

/-- No value that a text stands for in a relative name is that text, where the text
needs an escape. -/
theorem bytes_ne_of_decodeRdn {type name : CString} (keystring : isKeystring type = true)
    (escapes : needsNoEscaping name = false) {rdn : RelativeDn}
    (decoded : decodeRdn (stem type ++ lex name) = some rdn)
    {assertion : AttributeTypeAndValue} (member : assertion ∈ rdn) :
    assertion.value.bytes ≠ name := by
  have noPlus : .raw plus ∉ stem type := by
    have absent : plus ∉ type := notMem_of_isKeystring keystring (by decide)
    simpa [stem] using ⟨absent, by decide⟩
  obtain ⟨first, rest, split⟩ :=
    List.exists_cons_of_ne_nil (List.splitOn_ne_nil (Token.raw plus) (lex name))
  rw [decodeRdn, splitOn_append_of_notMem noPlus, split, List.modifyHead_cons] at decoded
  obtain ⟨lead, others, leading, remaining, rfl⟩ := mapM_cons_eq_some.mp decoded
  rw [decodeAttribute_stem keystring, Option.map_eq_some_iff] at leading
  obtain ⟨value, decodes, rfl⟩ := leading
  have textShort := length_lex_le name
  rcases List.mem_cons.mp member with rfl | later
  · cases rest with
    | nil =>
        -- one assertion: the text is decoded as a whole
        rw [eq_of_splitOn_singleton split] at decodes
        exact bytes_ne_of_decodeValue escapes decodes
    | cons second rest =>
        obtain ⟨back, whole⟩ := append_of_splitOn split
        have short := (length_of_decodeValue decodes).1
        have := congrArg List.length whole
        rw [List.length_append, List.length_cons] at this
        intro same
        rw [← same] at textShort this
        simp only at short textShort this
        omega
  · obtain ⟨piece, inRest, decodes⟩ := exists_of_mem_mapM remaining later
    have shorter := length_of_decodeAttribute decodes
    have inside : piece ∈ (lex name).splitOn (.raw plus) :=
      split ▸ List.mem_cons_of_mem first inRest
    have short := (mem_splitOn_sublist inside).length_le
    intro same
    rw [same] at shorter
    omega

theorem decodeRdn_of_parseDn {string : CString} {rdn : RelativeDn}
    (parsed : parseDn string = some [rdn]) : decodeRdn (lex string) = some rdn := by
  have nonempty : string ≠ [] := by
    intro equal
    subst equal
    cases parsed
  have single := length_of_parseDn nonempty parsed
  obtain ⟨piece, split⟩ := List.length_eq_one_iff.mp single
  rw [parseDn_of_ne_nil nonempty, split] at parsed
  obtain ⟨_, _, decoded, _, same⟩ := mapM_cons_eq_some.mp parsed
  rw [← eq_of_splitOn_singleton split, decoded, (List.cons.inj same).1]

theorem parseDn_relative {type name : CString} (keystring : isKeystring type = true)
    (plain : needsNoEscaping name = true) :
    parseDn (type ++ equals :: name) = some [[{ type, value := .string name }]] := by
  rw [parseDn_of_ne_nil (by simp), lex_stem_append keystring,
    List.splitOn_eq_singleton (comma_notMem_plain keystring plain)]
  exact mapM_cons_eq_some.mpr ⟨_, _, decodeRdn_plain keystring plain, rfl, rfl⟩

/-! The attributes of a renamed entry -/

def Attributes.name (attrs : Attributes) (rdn : RelativeDn) : Attributes :=
  rdn.foldl (fun attrs assertion => attrs.set assertion.type [assertion.value.bytes]) attrs

theorem Attributes.values_name (rdn : RelativeDn) (attrs : Attributes) (type : CString) :
    (attrs.name rdn).values type = attrs.values type ∨
      ∃ assertion ∈ rdn, (attrs.name rdn).values type = [assertion.value.bytes] := by
  induction rdn generalizing attrs with
  | nil => exact .inl rfl
  | cons assertion rest ih =>
      rcases ih (attrs.set assertion.type [assertion.value.bytes]) with kept | named
      · by_cases same : asciiStrdown type = asciiStrdown assertion.type
        · refine .inr ⟨assertion, List.mem_cons_self, kept.trans ?_⟩
          simp [values, set, same]
        · exact .inl (kept.trans (attrs.values_set_of_ne same _))
      · obtain ⟨other, later, value⟩ := named
        exact .inr ⟨other, List.mem_cons_of_mem _ later, value⟩

namespace Directory

theorem renameAttrs_eq (type : CString) (old : AttributeValue) (new : RelativeDn)
    (attrs : Attributes) :
    renameAttrs [{ type, value := old }] new attrs = (attrs.set type []).name new := rfl

/-! The directory after a rename -/

variable {rule : MatchingRule} {directory : Directory}

/-- Where the entries are once `dn` and all below it moved to `target`. -/
def moved (directory : Directory) (dn target : DistinguishedName) : Directory := fun name =>
  if target <:+ name then directory (name.take (name.length - target.length) ++ dn)
  else if dn <:+ name then none
  else directory name

def renamed (directory : Directory) (dn target : DistinguishedName) (entry : Entry) :
    Directory :=
  Function.update (directory.moved dn target) target (some entry)

section Rename

variable {string newRdn : CString} {old : RelativeDn} {parent : DistinguishedName}
  {entry : Entry} (found : directory.find rule string = .ok (old :: parent, entry))
include found

theorem rename_of_find {rdn : RelativeDn} (parsed : parseDn newRdn = some [rdn])
    (free : rdn.normalize rule :: parent = old :: parent ∨
      directory (rdn.normalize rule :: parent) = none) :
    directory.rename rule string newRdn =
      .ok (directory.renamed (old :: parent) (rdn.normalize rule :: parent)
        { entry with attrs := renameAttrs old rdn entry.attrs }) := by
  have unoccupied : ¬ (rdn.normalize rule :: parent ≠ old :: parent ∧
      (directory (rdn.normalize rule :: parent)).isSome = true) := by
    intro both
    obtain ⟨different, occupied⟩ := both
    rcases free with same | vacant
    · exact different same
    · rw [vacant] at occupied
      cases occupied
  simp only [rename, found, bind, Except.bind, parsed]
  rw [if_neg unoccupied]
  rfl

theorem rename_ok {after : Directory}
    (done : directory.rename rule string newRdn = .ok after) :
    ∃ rdn, parseDn newRdn = some [rdn] ∧
      after = directory.renamed (old :: parent) (rdn.normalize rule :: parent)
        { entry with attrs := renameAttrs old rdn entry.attrs } := by
  simp only [rename, found, bind, Except.bind] at done
  split at done
  next rdn oldRdn above parsed same =>
    obtain ⟨rfl, rfl⟩ := List.cons.inj same
    split at done
    · cases done
    · cases done
      exact ⟨rdn, parsed, rfl⟩
  · cases done

end Rename

section Renamed

variable {dn target : DistinguishedName} {entry : Entry}

@[simp] theorem renamed_target :
    directory.renamed dn target entry target = some entry := Function.update_self ..

theorem renamed_of_ne {name : DistinguishedName} (different : name ≠ target) :
    directory.renamed dn target entry name = directory.moved dn target name :=
  Function.update_of_ne different ..

theorem moved_target : directory.moved dn target target = directory dn := by
  simp [moved]

theorem renamed_old (siblings : target.length = dn.length) (different : target ≠ dn) :
    directory.renamed dn target entry dn = none := by
  rw [renamed, Function.update_of_ne different.symm, moved, if_neg, if_pos List.suffix_rfl]
  exact fun below => different (below.eq_of_length siblings)

end Renamed

/-! Entries are told apart by their objectGUID -/

def guids (directory : Directory) (name : DistinguishedName) : Option Nat :=
  (directory name).map Entry.objectGuid

def UniqueGuids (directory : Directory) : Prop :=
  ∀ guid first second,
    directory.guids first = some guid → directory.guids second = some guid → first = second

def Holds (directory : Directory) (guid : Nat) (attrs : Attributes) : Prop :=
  ∃ name, directory name = some { objectGuid := guid, attrs }

theorem guids_update {name : DistinguishedName} {before after : Entry}
    (held : directory name = some before) (same : after.objectGuid = before.objectGuid) :
    guids (Function.update directory name (some after)) = directory.guids := by
  funext other
  unfold guids
  by_cases here : other = name
  · rw [here, Function.update_self, held]
    exact congrArg some same
  · rw [Function.update_of_ne here]

theorem UniqueGuids.single (dn : DistinguishedName) (entry : Entry) :
    UniqueGuids fun name => if name = dn then some entry else none := by
  have only (name : DistinguishedName) (guid : Nat)
      (found : guids (fun name => if name = dn then some entry else none) name = some guid) :
      name = dn := by
    by_contra other
    simp [guids, other] at found
  intro guid first second atFirst atSecond
  rw [only first guid atFirst, only second guid atSecond]

theorem UniqueGuids.update (unique : directory.UniqueGuids) {name : DistinguishedName}
    {before after : Entry} (held : directory name = some before)
    (same : after.objectGuid = before.objectGuid) :
    UniqueGuids (Function.update directory name (some after)) := by
  unfold UniqueGuids
  rw [guids_update held same]
  exact unique

theorem UniqueGuids.moved (unique : directory.UniqueGuids) (dn target : DistinguishedName) :
    (directory.moved dn target).UniqueGuids := by
  have moved_guids (name : DistinguishedName) (guid : Nat)
      (found : (directory.moved dn target).guids name = some guid) :
      (∃ front, name = front ++ target ∧ directory.guids (front ++ dn) = some guid) ∨
        ¬ target <:+ name ∧ ¬ dn <:+ name ∧ directory.guids name = some guid := by
    unfold guids Directory.moved at found
    split at found
    next below =>
      obtain ⟨front, rfl⟩ := below
      refine .inl ⟨front, rfl, ?_⟩
      simpa [guids] using found
    · split at found
      · cases found
      next notTarget notOld =>
        exact .inr ⟨notTarget, notOld, found⟩
  intro guid first second atFirst atSecond
  rcases moved_guids first guid atFirst with ⟨front, rfl, here⟩ | ⟨_, outside, here⟩
  · rcases moved_guids second guid atSecond with ⟨other, rfl, there⟩ | ⟨_, outside, there⟩
    · rw [List.append_cancel_right (unique guid _ _ here there)]
    · exact absurd ⟨front, unique guid _ _ here there⟩ outside
  · rcases moved_guids second guid atSecond with ⟨other, rfl, there⟩ | ⟨_, _, there⟩
    · exact absurd ⟨other, unique guid _ _ there here⟩ outside
    · exact unique guid _ _ here there

theorem UniqueGuids.renamed (unique : directory.UniqueGuids) {dn target : DistinguishedName}
    {before after : Entry} (held : directory dn = some before)
    (same : after.objectGuid = before.objectGuid) :
    (directory.renamed dn target after).UniqueGuids :=
  (unique.moved dn target).update (moved_target.trans held) same

theorem UniqueGuids.holds_iff (unique : directory.UniqueGuids) {name : DistinguishedName}
    {guid : Nat} {attrs other : Attributes}
    (held : directory name = some { objectGuid := guid, attrs }) :
    directory.Holds guid other ↔ other = attrs := by
  constructor
  · intro both
    obtain ⟨elsewhere, found⟩ := both
    have here : name = elsewhere :=
      unique guid name elsewhere (by simp [guids, held]) (by simp [guids, found])
    rw [← here, held] at found
    cases found
    rfl
  · intro equal
    subst equal
    exact ⟨name, held⟩

end Directory

end Sambervise.Ldap
