import Sambervise.Ldap.Sid
import Sambervise.Ui.RfcSave

namespace Sambervise.Ui.Groups

open Text Ldap Model Backend

/-! The RID of a listed group, and the warning that depends on it -/

/-- The branch of `list_thread` on the `objectSid`, byte by byte; a read outside of
the value has no result. -/
def readRid (raw : List UInt8) : Option GInt64 :=
  if raw.length < 8 then some (-1)
  else do
    let subCount := (← raw[1]?).toNat
    let expectLen := 8 + subCount * 4
    if 0 < subCount ∧ expectLen ≤ raw.length then
      let p := 8 + (subCount - 1) * 4
      let rid := wordOfBytes (← raw[p]?) (← raw[p + 1]?) (← raw[p + 2]?) (← raw[p + 3]?)
      return rid.setWidth 64
    else return -1

/-- What a SID says its RID is: the last sub-authority of as many as its second byte
counts, where they are all there. -/
def IsRid (raw : List UInt8) (rid : GInt64) : Prop :=
  let count := (raw.getD 1 0).toNat
  if 0 < count ∧ 8 + count * 4 ≤ raw.length then
    rid.toInt = littleEndian ((raw.drop (8 + (count - 1) * 4)).take 4)
  else rid = -1

section Rid

variable {raw : List UInt8}

theorem foldr_littleEndian (bytes : List UInt8) :
    bytes.foldr (fun byte rest => byte.toNat + 256 * rest) 0 = littleEndian bytes := by
  induction bytes with
  | nil => rfl
  | cons byte rest ih =>
      rw [List.foldr_cons, ih, littleEndian, littleEndian, List.map_cons, Nat.ofDigits_cons]

theorem take_four {start : Nat} (inside : start + 4 ≤ raw.length) :
    (raw.drop start).take 4 =
      [raw[start], raw[start + 1], raw[start + 2], raw[start + 3]] := by
  rw [List.drop_eq_getElem_cons (by omega), List.drop_eq_getElem_cons (by omega),
    List.drop_eq_getElem_cons (by omega), List.drop_eq_getElem_cons (by omega)]
  rfl

theorem toInt_ofNat_word (word : BitVec 32) :
    (BitVec.ofNat 64 word.toNat).toInt = word.toNat := by
  have bound := word.isLt
  rw [BitVec.toInt_eq_toNat_cond, BitVec.toNat_ofNat]
  omega

theorem toInt_word (word : BitVec 32) :
    (word.setWidth 64 : GInt64).toInt = word.toNat := by
  rw [← BitVec.ofNat_toNat]
  exact toInt_ofNat_word word

/-- Every byte that is read is there, and they make up the RID. -/
theorem readRid_isRid (raw : List UInt8) : ∃ rid, readRid raw = some rid ∧ IsRid raw rid := by
  unfold readRid IsRid
  by_cases short : raw.length < 8
  · refine ⟨-1, if_pos short, ?_⟩
    dsimp only
    rw [if_neg (by omega)]
  · rw [if_neg short]
    have second : raw[1]? = some (raw.getD 1 0) := by
      rw [List.getD_eq_getElem?_getD, List.getElem?_eq_getElem (by omega)]
      rfl
    simp only [second, Option.bind_eq_bind, Option.bind_some]
    generalize (raw.getD 1 0).toNat = count
    by_cases whole : 0 < count ∧ 8 + count * 4 ≤ raw.length
    · have inside : 8 + (count - 1) * 4 + 4 ≤ raw.length := by omega
      rw [if_pos whole, List.getElem?_eq_getElem (by omega), List.getElem?_eq_getElem (by omega),
        List.getElem?_eq_getElem (by omega), List.getElem?_eq_getElem (by omega)]
      refine ⟨_, rfl, ?_⟩
      rw [if_pos whole, toInt_word, toNat_wordOfBytes, take_four inside]
    · refine ⟨-1, if_neg whole, ?_⟩
      rw [if_neg whole]

theorem isRid_ridOfSid (raw : List UInt8) : IsRid raw ((Groups.ridOfSid raw).getD (-1)) := by
  unfold IsRid Groups.ridOfSid
  dsimp only
  by_cases whole : 0 < (raw.getD 1 0).toNat ∧ 8 + (raw.getD 1 0).toNat * 4 ≤ raw.length
  · rw [if_pos whole, if_pos ⟨by omega, whole⟩, Option.getD_some, foldr_littleEndian,
      take_four (by omega), ← toNat_wordOfBytes]
    exact toInt_ofNat_word _
  · rw [if_neg whole, if_neg fun all => whole all.2]
    rfl

theorem isRid_unique {first second : GInt64} (atFirst : IsRid raw first)
    (atSecond : IsRid raw second) : first = second := by
  unfold IsRid at atFirst atSecond
  dsimp only at atFirst atSecond
  split at atFirst
  next whole =>
    rw [if_pos whole] at atSecond
    exact BitVec.eq_of_toInt_eq (atFirst.trans atSecond.symm)
  next cut =>
    rw [if_neg cut] at atSecond
    rw [atFirst, atSecond]

theorem readRid_eq (raw : List UInt8) :
    readRid raw = some ((Groups.ridOfSid raw).getD (-1)) := by
  obtain ⟨rid, read, isRid⟩ := readRid_isRid raw
  rw [read, isRid_unique isRid (isRid_ridOfSid raw)]

theorem rid_groupOfEntry {attrs : Attributes}
    (held : (attrs.values (cstr "objectSid")).head? = some raw) :
    some (Groups.groupOfEntry attrs).rid = readRid raw := by
  rw [readRid_eq, Groups.groupOfEntry, held]
  rfl

theorem isRid_encode {sid : Sid} {last : BitVec 32}
    (isLast : sid.subAuthorities.getLast? = some last) {rid : GInt64}
    (isRid : IsRid sid.encode rid) : rid.toInt = last.toNat := by
  have some : sid.subAuthorities ≠ [] := by
    intro none
    rw [none] at isLast
    cases isLast
  have positive := List.length_pos_iff.mpr some
  unfold IsRid at isRid
  dsimp only at isRid
  rw [Sid.count_encode, Sid.length_encode, if_pos ⟨positive, le_rfl⟩, Sid.lastWord_encode isLast,
    littleEndian_wordBytes] at isRid
  exact isRid

end Rid

/-! What is sent without a question -/

theorem sent_unasked {group : SbvGroup} {gidText : CString} {d : Groups.GroupUnixData}
    (sent : onRfcSaveClicked group gidText = .sent d) (set : 0 ≤ d.gidNumber.toInt) :
    sensitiveBuiltinName group.rid = none := by
  unfold onRfcSaveClicked at sent
  dsimp only at sent
  split at sent
  · cases sent
  next quiet =>
    obtain rfl := RfcSave.sent.inj sent
    rwa [if_pos (show 0 ≤ (Users.numberOfText gidText).toInt from set)] at quiet

theorem sensitiveBuiltinName_eq_none_iff (rid : GInt64) :
    sensitiveBuiltinName rid = none ↔ rid ≠ 512 ∧ rid ≠ 518 ∧ rid ≠ 519 := by
  unfold sensitiveBuiltinName
  split_ifs <;> simp_all

theorem saved_of_response {group : SbvGroup} {pendingGid : GInt} {response : CString}
    {d : Groups.GroupUnixData} (sent : onGidWarnResponse group pendingGid response = some d) :
    response = cstr "save" := by
  by_contra other
  rw [onGidWarnResponse, if_neg other] at sent
  cases sent

/-- A listed group has the RID its SID says, read from within the bytes of the SID. Only
where that is none of the three is a gid written without a question, and after the
question only when the admin says so. -/
theorem rid_guards_builtin :
    (∀ raw, ∃ rid, readRid raw = some rid ∧ IsRid raw rid ∧
        ∀ attrs : Attributes, (attrs.values (cstr "objectSid")).head? = some raw →
          (Groups.groupOfEntry attrs).rid = rid) ∧
      (∀ (sid : Sid) (last : BitVec 32) (rid : GInt64),
        sid.subAuthorities.getLast? = some last → readRid sid.encode = some rid →
          rid.toInt = last.toNat) ∧
      (∀ (group : SbvGroup) (gidText : CString) (d : Groups.GroupUnixData),
        onRfcSaveClicked group gidText = .sent d → 0 ≤ d.gidNumber.toInt →
          group.rid ≠ 512 ∧ group.rid ≠ 518 ∧ group.rid ≠ 519) ∧
      ∀ (group : SbvGroup) (pendingGid : GInt) (response : CString)
        (d : Groups.GroupUnixData),
        onGidWarnResponse group pendingGid response = some d → response = cstr "save" := by
  refine ⟨?_, ?_, ?_, fun _ _ _ _ => saved_of_response⟩
  · intro raw
    obtain ⟨rid, read, isRid⟩ := readRid_isRid raw
    refine ⟨rid, read, isRid, fun attrs held => ?_⟩
    exact Option.some.inj ((rid_groupOfEntry held).trans read)
  · intro sid last rid isLast read
    obtain ⟨other, alsoRead, isRid⟩ := readRid_isRid sid.encode
    rw [read] at alsoRead
    obtain rfl := Option.some.inj alsoRead
    exact isRid_encode isLast isRid
  · intro group gidText d sent set
    exact (sensitiveBuiltinName_eq_none_iff group.rid).mp (sent_unasked sent set)

/-- A SID of the largest sub-authority, and the group of a RID next to a built-in one. -/
def highSid : Sid :=
  { revision := 1
    authority := [0, 0, 0, 0, 0, 5]
    subAuthorities := [21, 4294967295]
    sized := rfl
    counted := by decide }

def usersGroup : SbvGroup := { dn := some (cstr "CN=Users,DC=lab"), rid := 513 }

theorem rid_guards_builtin_lab :
    (4294967295 : GInt64).toInt = (4294967295 : BitVec 32).toNat ∧
      usersGroup.rid ≠ 512 ∧ usersGroup.rid ≠ 518 ∧ usersGroup.rid ≠ 519 :=
  ⟨rid_guards_builtin.2.1 highSid 4294967295 4294967295 rfl (by decide),
    rid_guards_builtin.2.2.1 usersGroup (cstr "100") _ rfl (by decide)⟩

end Sambervise.Ui.Groups
