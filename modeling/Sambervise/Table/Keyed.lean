import Mathlib.Data.List.Nodup

namespace Sambervise.Table

/-! Lists of records with a key, in which a record is replaced or removed by its key. -/

variable {α κ : Type*} [DecidableEq κ] (key : α → κ)

/-- The first record with the key of the new one is replaced; where there is none the new
one comes last. -/
def upsert (record : α) : List α → List α
  | [] => [record]
  | first :: rest =>
      if key first = key record then record :: rest else first :: upsert record rest

/-- The list without its first record with the key, if it has one. -/
def remove (target : κ) : List α → Option (List α)
  | [] => none
  | first :: rest =>
      if key first = target then some rest else (remove target rest).map (first :: ·)

theorem filter_key_eq {key : α → κ} {records : List α} (distinct : (records.map key).Nodup)
    {record : α} (member : record ∈ records) :
    records.filter (fun other => key other = key record) = [record] := by
  induction records with
  | nil => cases member
  | cons first rest ih =>
      obtain ⟨absent, distinct⟩ := List.nodup_cons.mp distinct
      rcases List.mem_cons.mp member with rfl | later
      · have others : rest.filter (fun other => key other = key record) = [] := by
          apply List.filter_eq_nil_iff.mpr
          intro other member same
          exact absent (of_decide_eq_true same ▸ List.mem_map_of_mem member)
        rw [List.filter_cons_of_pos (by simp), others]
      · have different : key first ≠ key record := by
          intro same
          exact absent (same ▸ List.mem_map_of_mem later)
        rw [List.filter_cons_of_neg (by simpa using different), ih distinct later]

section Upsert

variable {key} {record : α} {records : List α}

theorem keys_upsert (record : α) (records : List α) :
    (upsert key record records).map key =
      if key record ∈ records.map key then records.map key
      else records.map key ++ [key record] := by
  induction records with
  | nil => rfl
  | cons first rest ih =>
      rw [upsert]
      by_cases same : key first = key record
      · simp [same]
      · rw [if_neg same, List.map_cons, ih, List.map_cons]
        by_cases later : key record ∈ rest.map key
        · rw [if_pos later, if_pos (List.mem_cons_of_mem _ later)]
        · have absent : key record ∉ key first :: rest.map key := by
            rw [List.mem_cons, not_or]
            exact ⟨fun equal => same equal.symm, later⟩
          rw [if_neg later, if_neg absent]
          rfl

theorem find?_upsert (record : α) (records : List α) :
    (upsert key record records).find? (fun other => key other = key record) = some record := by
  induction records with
  | nil => simp [upsert]
  | cons first rest ih =>
      rw [upsert]
      by_cases same : key first = key record
      · rw [if_pos same]
        exact List.find?_cons_of_pos (by simp)
      · rw [if_neg same, List.find?_cons_of_neg (by simpa using same)]
        exact ih

/-- The new record is put where the one with its key was taken out. -/
theorem upsert_eq (record : α) (records : List α) :
    upsert key record records =
      match records.findIdx? (fun other => key other = key record) with
      | some index => (records.eraseIdx index).insertIdx index record
      | none => records ++ [record] := by
  induction records with
  | nil => rfl
  | cons first rest ih =>
      rw [upsert, List.findIdx?_cons]
      by_cases same : key first = key record
      · simp [same]
      · rw [if_neg same, if_neg (by simpa using same), ih]
        cases rest.findIdx? (fun other => key other = key record) with
        | none => rfl
        | some index => rfl

/-- With the same record already first under its key nothing changes, and only then. -/
theorem upsert_eq_self_iff :
    upsert key record records = records ↔
      records.find? (fun other => key other = key record) = some record := by
  induction records with
  | nil => simp [upsert]
  | cons first rest ih =>
      rw [upsert]
      by_cases same : key first = key record
      · rw [if_pos same, List.find?_cons_of_pos (by simpa using same), List.cons.injEq]
        rw [and_iff_left rfl, Option.some.injEq]
        exact eq_comm
      · rw [if_neg same, List.find?_cons_of_neg (by simpa using same), List.cons.injEq]
        rw [and_iff_right rfl, ih]

theorem nodup_upsert (distinct : (records.map key).Nodup) (record : α) :
    ((upsert key record records).map key).Nodup := by
  rw [keys_upsert]
  split
  · exact distinct
  next absent =>
    rw [← List.concat_eq_append]
    exact List.Nodup.concat absent distinct

/-- With distinct keys exactly the record with the new one's key makes way for it. -/
theorem mem_upsert_iff (distinct : (records.map key).Nodup) {other : α} :
    other ∈ upsert key record records ↔
      other = record ∨ other ∈ records ∧ key other ≠ key record := by
  induction records with
  | nil => simp [upsert]
  | cons first rest ih =>
      obtain ⟨absent, distinct⟩ := List.nodup_cons.mp distinct
      have different : ∀ later ∈ rest, key later ≠ key first := by
        intro later member equal
        exact absent (equal ▸ List.mem_map_of_mem member)
      rw [upsert]
      by_cases same : key first = key record
      · rw [if_pos same, List.mem_cons, List.mem_cons]
        constructor
        · intro either
          rcases either with new | later
          · exact .inl new
          · exact .inr ⟨.inr later, same ▸ different other later⟩
        · intro either
          rcases either with new | ⟨rfl | later, other⟩
          · exact .inl new
          · exact absurd same other
          · exact .inr later
      · rw [if_neg same, List.mem_cons, ih distinct, List.mem_cons]
        constructor
        · intro either
          rcases either with rfl | new | ⟨later, other⟩
          · exact .inr ⟨.inl rfl, same⟩
          · exact .inl new
          · exact .inr ⟨.inr later, other⟩
        · intro either
          rcases either with new | ⟨rfl | later, other⟩
          · exact .inr (.inl new)
          · exact .inl rfl
          · exact .inr (.inr ⟨later, other⟩)

end Upsert

section Remove

variable {key} {target : κ} {records : List α}

theorem remove_eq_none_iff : remove key target records = none ↔ target ∉ records.map key := by
  induction records with
  | nil => simp [remove]
  | cons first rest ih =>
      rw [remove]
      by_cases same : key first = target
      · simp [same]
      · rw [if_neg same, Option.map_eq_none_iff, ih, List.map_cons, List.mem_cons, not_or]
        exact ⟨fun absent => ⟨fun equal => same equal.symm, absent⟩, fun absent => absent.2⟩

theorem length_of_remove {later : List α} (removed : remove key target records = some later) :
    later.length + 1 = records.length := by
  induction records generalizing later with
  | nil => cases removed
  | cons first rest ih =>
      rw [remove] at removed
      split at removed
      · cases removed
        rfl
      · obtain ⟨kept, inRest, rfl⟩ := Option.map_eq_some_iff.mp removed
        rw [List.length_cons, List.length_cons, ih inRest]

/-- With distinct keys what is left are all the records with another key, in their order. -/
theorem remove_getD_eq_filter (distinct : (records.map key).Nodup) (target : κ) :
    (remove key target records).getD records =
      records.filter (fun other => key other ≠ target) := by
  induction records with
  | nil => rfl
  | cons first rest ih =>
      obtain ⟨absent, distinct⟩ := List.nodup_cons.mp distinct
      rw [remove]
      by_cases same : key first = target
      · rw [if_pos same, List.filter_cons_of_neg (by simpa using same), Option.getD_some]
        symm
        rw [List.filter_eq_self]
        intro other member
        have different : key other ≠ target := fun equal =>
          absent (same.trans equal.symm ▸ List.mem_map_of_mem member)
        simpa using different
      · rw [if_neg same, List.filter_cons_of_pos (by simpa using same), ← ih distinct]
        cases remove key target rest with
        | none => rfl
        | some later => rfl

theorem sublist_of_remove {later : List α} (removed : remove key target records = some later) :
    later.Sublist records := by
  induction records generalizing later with
  | nil => cases removed
  | cons first rest ih =>
      rw [remove] at removed
      split at removed
      · cases removed
        exact List.sublist_cons_self _ _
      · obtain ⟨kept, inRest, rfl⟩ := Option.map_eq_some_iff.mp removed
        exact (ih inRest).cons_cons _

/-- With distinct keys exactly the record with the key is gone. -/
theorem mem_of_remove_iff (distinct : (records.map key).Nodup) {later : List α}
    (removed : remove key target records = some later) {other : α} :
    other ∈ later ↔ other ∈ records ∧ key other ≠ target := by
  induction records generalizing later with
  | nil => cases removed
  | cons first rest ih =>
      obtain ⟨absent, distinct⟩ := List.nodup_cons.mp distinct
      rw [remove] at removed
      split at removed
      next same =>
        cases removed
        constructor
        · intro member
          refine ⟨List.mem_cons_of_mem _ member, fun equal => absent ?_⟩
          rw [same, ← equal]
          exact List.mem_map_of_mem member
        · intro both
          obtain ⟨member, different⟩ := both
          rcases List.mem_cons.mp member with rfl | member
          · exact absurd same different
          · exact member
      next different =>
        obtain ⟨kept, inRest, rfl⟩ := Option.map_eq_some_iff.mp removed
        rw [List.mem_cons, ih distinct inRest, List.mem_cons]
        constructor
        · intro either
          rcases either with rfl | ⟨member, other⟩
          · exact ⟨.inl rfl, different⟩
          · exact ⟨.inr member, other⟩
        · intro both
          rcases both with ⟨rfl | member, other⟩
          · exact .inl rfl
          · exact .inr ⟨member, other⟩

end Remove

end Sambervise.Table
