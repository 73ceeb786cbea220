import Mathlib.Data.List.Dedup
import Mathlib.Data.List.Nodup
import TypedQuery.Table

/-!
# Tables as finite maps

What a table holds is what `get?` answers. When its keys are distinct this is the same as membership
of the entries, and a list of writes under distinct keys is the table that it leaves.
-/

namespace TypedQuery.Table

variable {α β : Type}

/-- A key is in a table just if its lookup has an answer. -/
theorem has_eq_true_iff {table : Table α} {key : String} :
    table.has key = true ↔ ∃ value, table.get? key = some value :=
  Option.isSome_iff_exists

theorem has_eq_false_iff {table : Table α} {key : String} :
    table.has key = false ↔ table.get? key = none := by
  simp [has]

/-- What a lookup answers stands in the table. -/
theorem mem_of_get?_eq_some {table : Table α} {key : String} {value : α}
    (h : table.get? key = some value) : (key, value) ∈ table := by
  induction table with
  | nil => simp at h
  | cons entry rest ih =>
    obtain ⟨k, old⟩ := entry
    rw [get?_cons] at h
    split at h
    · rename_i hk
      simp_all
    · exact List.mem_cons_of_mem _ (ih h)

/-- The keys of a table are those whose lookup has an answer. -/
theorem mem_keys_iff {table : Table α} {key : String} :
    key ∈ table.keys ↔ ∃ value, table.get? key = some value := by
  induction table with
  | nil => simp [keys]
  | cons entry rest ih =>
    obtain ⟨k, old⟩ := entry
    simp only [keys, List.map_cons, List.mem_cons] at ih ⊢
    rw [ih]
    by_cases hk : k = key
    · simp [get?_cons, hk]
    · simp [get?_cons, hk, Ne.symm hk]

/-- A lookup has no answer just for a key that the table lacks. -/
theorem get?_eq_none_iff {table : Table α} {key : String} :
    table.get? key = none ↔ key ∉ table.keys := by
  rw [mem_keys_iff, Option.eq_none_iff_forall_ne_some, not_exists]

/-- Under distinct keys every entry is the answer of a lookup. -/
theorem get?_eq_some_iff {table : Table α} (distinct : table.keys.Nodup) {key : String}
    {value : α} : table.get? key = some value ↔ (key, value) ∈ table := by
  refine ⟨mem_of_get?_eq_some, fun h => ?_⟩
  induction table with
  | nil => simp at h
  | cons entry rest ih =>
    obtain ⟨k, old⟩ := entry
    simp only [keys, List.map_cons, List.nodup_cons] at distinct
    rcases List.mem_cons.mp h with heq | hmem
    · simp only [Prod.mk.injEq] at heq
      rw [get?_cons, if_pos heq.1.symm, heq.2]
    -- The key stands further down, so distinct keys keep it off the first entry.
    · have hk : k ≠ key := by
        rintro rfl
        exact distinct.1 (List.mem_map.mpr ⟨_, hmem, rfl⟩)
      rw [get?_cons, if_neg hk]
      exact ih distinct.2 hmem

/-- A write keeps the keys of a table distinct, since it overwrites under a key that is there. -/
theorem nodup_keys_set {table : Table α} (distinct : table.keys.Nodup) (key : String) (value : α) :
    (table.set key value).keys.Nodup := by
  rw [keys_set]
  split
  · exact distinct
  · rename_i h
    rw [Bool.not_eq_true, has_eq_false_iff, get?_eq_none_iff] at h
    simpa [List.nodup_append] using ⟨distinct, fun _ ha hk => h (hk ▸ ha)⟩

/-- A write under a new key goes to the end. -/
theorem set_eq_append {table : Table α} {key : String} (fresh : key ∉ table.keys) (value : α) :
    table.set key value = table ++ [(key, value)] := by
  induction table with
  | nil => rfl
  | cons entry rest ih =>
    obtain ⟨k, old⟩ := entry
    simp only [keys, List.map_cons, List.mem_cons, not_or] at fresh
    rw [set, if_neg (Ne.symm fresh.1), ih fresh.2, List.cons_append]

/-- Whatever is written, the keys that are left are distinct. -/
theorem nodup_keys_ofWrites (writes : List (String × α)) : (ofWrites writes).keys.Nodup := by
  suffices h : ∀ table : Table α, table.keys.Nodup →
      (writes.foldl (fun table write => set write.1 write.2 table) table).keys.Nodup from
    h [] List.nodup_nil
  induction writes with
  | nil => exact fun _ h => h
  | cons write rest ih => exact fun table h => ih _ (nodup_keys_set h _ _)

/-- Writes under distinct keys are the table that they leave. -/
theorem ofWrites_eq_self {writes : List (String × α)} (distinct : (keys writes).Nodup) :
    ofWrites writes = writes := by
  -- The induction needs the table that the first writes have left.
  suffices h : ∀ table : Table α, (keys (table ++ writes)).Nodup →
      writes.foldl (fun table write => set write.1 write.2 table) table = table ++ writes from
    h [] distinct
  clear distinct
  induction writes with
  | nil => simp
  | cons write rest ih =>
    intro table h
    have fresh : write.1 ∉ table.keys := by
      simp only [keys, List.map_append, List.map_cons, List.nodup_append] at h
      exact fun hm => h.2.2 _ hm _ List.mem_cons_self rfl
    have hcons : table ++ write :: rest = table.set write.1 write.2 ++ rest := by
      rw [set_eq_append fresh]
      simp
    rw [List.foldl_cons, hcons]
    exact ih _ (hcons ▸ h)

/-- An entry after a write is the written one or an old one. -/
theorem mem_set {table : Table α} {key : String} {value : α} {entry : String × α}
    (h : entry ∈ table.set key value) : entry = (key, value) ∨ entry ∈ table := by
  induction table with
  | nil => simpa [set] using h
  | cons old rest ih =>
    obtain ⟨k, oldValue⟩ := old
    rw [set] at h
    split at h
    -- The write replaces this entry in place.
    · rename_i hk
      rcases List.mem_cons.mp h with rfl | h
      · exact .inl (by rw [hk])
      · exact .inr (List.mem_cons_of_mem _ h)
    · rcases List.mem_cons.mp h with rfl | h
      · exact .inr List.mem_cons_self
      · exact (ih h).imp_right (List.mem_cons_of_mem _)

/-- Every entry that writes leave was written. -/
theorem mem_of_mem_ofWrites {writes : List (String × α)} {entry : String × α}
    (h : entry ∈ ofWrites writes) : entry ∈ writes := by
  -- As above, the induction needs the table that the first writes have left.
  suffices hw : ∀ table : Table α,
      entry ∈ writes.foldl (fun table write => set write.1 write.2 table) table →
        entry ∈ table ∨ entry ∈ writes from (hw [] h).resolve_left List.not_mem_nil
  clear h
  induction writes with
  | nil => exact fun _ h => .inl h
  | cons write rest ih =>
    intro table h
    rcases ih _ h with h | h
    · rcases mem_set h with rfl | h
      · exact .inr List.mem_cons_self
      · exact .inl h
    · exact .inr (List.mem_cons_of_mem _ h)

/-- Of several writes under one key the last one is left. -/
theorem mem_ofWrites_iff {writes : List (String × α)} {key : String} {value : α} :
    (key, value) ∈ ofWrites writes ↔
      ∃ before after, writes = before ++ (key, value) :: after ∧ key ∉ keys after := by
  -- Writes that leave the key alone keep what the table held before them.
  suffices h : ∀ table : Table α,
      get? key (writes.foldl (fun table write => set write.1 write.2 table) table) = some value ↔
        (∃ before after, writes = before ++ (key, value) :: after ∧ key ∉ keys after) ∨
          key ∉ keys writes ∧ get? key table = some value by
    rw [← get?_eq_some_iff (nodup_keys_ofWrites writes), ofWrites, h []]
    simp
  induction writes with
  | nil => simp [keys]
  | cons write rest ih =>
    intro table
    rw [List.foldl_cons, ih, get?_set]
    simp only [keys, List.map_cons, List.mem_cons, not_or]
    constructor
    -- The last write under the key is among the rest, or it is the first of all, or the key was in
    -- the table before and no write is under it.
    · rintro (⟨before, after, rfl, hafter⟩ | ⟨hrest, h⟩)
      · exact .inl ⟨write :: before, after, rfl, hafter⟩
      · split at h
        · rename_i hkey
          cases h
          exact .inl ⟨[], rest, by rw [← hkey]; rfl, hrest⟩
        · rename_i hkey
          exact .inr ⟨⟨Ne.symm hkey, hrest⟩, h⟩
    · rintro (⟨before, after, h, hafter⟩ | ⟨⟨hwrite, hrest⟩, h⟩)
      · cases before with
        | nil =>
          cases h
          exact .inr ⟨hafter, if_pos rfl⟩
        | cons first before =>
          cases h
          exact .inl ⟨before, after, rfl, hafter⟩
      · exact .inr ⟨hrest, by rw [if_neg (Ne.symm hwrite), h]⟩

/-- A lookup in a table whose values are changed answers the changed value. -/
theorem get?_map_values (f : α → β) (table : Table α) (key : String) :
    get? key (table.map fun entry => (entry.1, f entry.2)) = (get? key table).map f := by
  induction table with
  | nil => rfl
  | cons entry rest ih =>
    rw [List.map_cons, get?_cons, get?_cons, ih]
    split <;> rfl

/-- A write adds its key to the keys of a table and takes none away. -/
theorem mem_keys_set {table : Table α} {key other : String} {value : α} :
    other ∈ (table.set key value).keys ↔ other = key ∨ other ∈ table.keys := by
  simp only [mem_keys_iff, get?_set]
  by_cases h : key = other
  · simp [h]
  · simp [h, Ne.symm h]

/-- The keys that are left are those that were written. -/
theorem mem_keys_ofWrites {writes : List (String × α)} {key : String} :
    key ∈ (ofWrites writes).keys ↔ key ∈ keys writes := by
  suffices h : ∀ table : Table α,
      key ∈ keys (writes.foldl (fun table write => set write.1 write.2 table) table) ↔
        key ∈ table.keys ∨ key ∈ keys writes from
    (h []).trans (or_iff_right List.not_mem_nil)
  induction writes with
  | nil => simp [keys]
  | cons write rest ih =>
    intro table
    rw [List.foldl_cons, ih, mem_keys_set]
    simp only [keys, List.map_cons, List.mem_cons]
    tauto

/-- Writes leave an entry each exactly if their keys are distinct. -/
theorem length_ofWrites_eq_iff {writes : List (String × α)} :
    (ofWrites writes).length = writes.length ↔ (keys writes).Nodup := by
  refine ⟨fun h => ?_, fun distinct => by rw [ofWrites_eq_self distinct]⟩
  -- The keys that are left are the distinct keys of the writes.
  have hperm : (ofWrites writes).keys.Perm (keys writes).dedup :=
    (List.perm_ext_iff_of_nodup (nodup_keys_ofWrites writes) (List.nodup_dedup _)).mpr
      fun key => by rw [mem_keys_ofWrites, List.mem_dedup]
  have hlength : (keys writes).dedup.length = (keys writes).length := by
    rw [← hperm.length_eq, keys, keys, List.length_map, List.length_map, h]
  exact (List.dedup_sublist (keys writes)).eq_of_length hlength ▸ List.nodup_dedup _

/-! ## Entries that items may have -/

section

variable (key : β → String) (value? : β → Option α) {items : List β}

/-- The keys of the entries are those of the items that have one, in their order. -/
theorem keys_filterMap_sublist :
    (keys (items.filterMap fun item => (value? item).map (key item, ·))).Sublist
      (items.map key) := by
  induction items with
  | nil => exact .slnil
  | cons item rest ih =>
    cases h : value? item with
    | none => simpa [h] using ih.cons (key item)
    | some value => simpa [h, keys] using ih.cons_cons (key item)

/-- Under distinct keys a lookup answers what the item of the key has. -/
theorem get?_filterMap (distinct : (items.map key).Nodup) {item : β} (mem : item ∈ items) :
    get? (key item) (items.filterMap fun item => (value? item).map (key item, ·)) =
      value? item := by
  have hkeys := distinct.sublist (keys_filterMap_sublist key value?)
  cases h : value? item with
  | some value =>
    rw [get?_eq_some_iff hkeys, List.mem_filterMap]
    exact ⟨item, mem, by simp [h]⟩
  -- An entry under the key would come from an item with this key, and there is no other than the
  -- one that has nothing.
  | none =>
    rw [get?_eq_none_iff]
    intro hmem
    obtain ⟨entry, hentry, hkey⟩ := List.mem_map.mp hmem
    obtain ⟨other, hother, hsome⟩ := List.mem_filterMap.mp hentry
    obtain ⟨value, hvalue, rfl⟩ := Option.map_eq_some_iff.mp hsome
    rw [List.inj_on_of_nodup_map distinct hother mem hkey, h] at hvalue
    cases hvalue

end

end TypedQuery.Table
