import Mathlib.Data.List.Perm.Subperm
import TypedQuery.Proofs.Json.Distinct

/-!
# Equality of JSON values

`Json.same` compares two objects by the length of one and a lookup in the other for every member.
When their keys are distinct this says that each key has the same value in both, or no value in
either (`same_object_iff`). So a value with distinct keys is the same as itself (`same_self`).
-/

namespace TypedQuery

theorem Number.same_self (n : Number) : n.same n = true := by
  cases n <;> simp [Number.same, Binary64.same]

namespace Json

/-- Lists are the same item by item. -/
theorem sameItems_iff {as bs : List Json} :
    sameItems as bs = true ↔ List.Forall₂ (fun a b => a.same b = true) as bs := by
  induction as generalizing bs with
  | nil => cases bs <;> simp [sameItems]
  | cons a as ih => cases bs <;> simp [sameItems, ih]

/-- Members are the same as those of another object if each has a value there that is the same. -/
theorem sameMembers_iff {as bs : List (String × Json)} :
    sameMembers as bs = true ↔
      ∀ entry ∈ as, ∃ b, Table.get? entry.1 bs = some b ∧ entry.2.same b = true := by
  induction as with
  | nil => simp [sameMembers]
  | cons entry rest ih =>
    obtain ⟨key, a⟩ := entry
    rw [sameMembers, Bool.and_eq_true, ih, List.forall_mem_cons]
    refine and_congr_left fun _ => ?_
    cases Table.get? key bs <;> simp

/-- Objects with distinct keys are the same when every key answers the same in both. -/
theorem same_object_iff {as bs : List (String × Json)} (ha : (Table.keys as).Nodup)
    (hb : (Table.keys bs).Nodup) :
    (object as).same (object bs) = true ↔
      ∀ key, Option.Rel (fun a b => a.same b = true) (Table.get? key as) (Table.get? key bs) := by
  have hlength : as.length = bs.length ↔ (Table.keys as).length = (Table.keys bs).length := by
    simp [Table.keys]
  rw [same, Bool.and_eq_true, beq_iff_eq, sameMembers_iff, hlength]
  constructor
  · rintro ⟨hlength, hmembers⟩ key
    -- The keys of the first are keys of the second, and there are as many of them.
    have hsubset : Table.keys as ⊆ Table.keys bs := by
      intro key hkey
      obtain ⟨entry, hentry, rfl⟩ := List.mem_map.mp hkey
      obtain ⟨b, hget, -⟩ := hmembers entry hentry
      exact Table.mem_keys_iff.mpr ⟨b, hget⟩
    have hperm : (Table.keys as).Perm (Table.keys bs) :=
      (List.subperm_of_subset ha hsubset).perm_of_length_le (Nat.le_of_eq hlength.symm)
    cases hget : Table.get? key as with
    | some a =>
      obtain ⟨b, hb, hsame⟩ := hmembers _ (Table.mem_of_get?_eq_some hget)
      rw [hb]
      exact .some hsame
    | none =>
      rw [Table.get?_eq_none_iff, hperm.mem_iff, ← Table.get?_eq_none_iff] at hget
      rw [hget]
      exact .none
  -- The other way round, equal lookups give equal sets of keys, and distinct keys are then as many.
  · intro hrel
    have hkeys : ∀ key, key ∈ Table.keys as ↔ key ∈ Table.keys bs := by
      intro key
      have hkey := hrel key
      rw [Table.mem_keys_iff, Table.mem_keys_iff]
      generalize Table.get? key as = a?, Table.get? key bs = b? at hkey
      cases hkey <;> simp
    refine ⟨((List.perm_ext_iff_of_nodup ha hb).mpr hkeys).length_eq, fun entry hentry => ?_⟩
    have hkey := hrel entry.1
    rw [(Table.get?_eq_some_iff ha).mpr hentry] at hkey
    generalize Table.get? entry.1 bs = b? at hkey
    cases hkey with
    | some hsame => exact ⟨_, rfl, hsame⟩

/-- A value with distinct keys is the same as itself. -/
theorem same_self {value : Json} (distinct : value.hasDistinctKeys = true) :
    value.same value = true := by
  -- The members are reached by lookups, so the induction is on the size and not on the shape.
  induction value using size_induction with
  | step value ih =>
    cases value with
    | null => rw [same]
    | bool b => simp [same]
    | number n => rw [same, Number.same_self]
    | string s => simp [same]
    | list items =>
      have hitems := hasDistinctKeys_list_iff.mp distinct
      rw [same, sameItems_iff, List.forall₂_same]
      exact fun item hitem => ih item (sizeOf_lt_of_mem hitem) (hitems item hitem)
    | object members =>
      obtain ⟨hkeys, hbelow⟩ := hasDistinctKeys_object_iff.mp distinct
      rw [same_object_iff hkeys hkeys]
      intro key
      cases hget : Table.get? key members with
      | none => exact .none
      | some part =>
        have hpart := hbelow _ (Table.mem_of_get?_eq_some hget)
        exact .some (ih part (sizeOf_lt_of_get?_eq_some hget) hpart)

end Json

end TypedQuery
