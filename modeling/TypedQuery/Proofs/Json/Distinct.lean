import TypedQuery.Json.Record
import TypedQuery.Proofs.Checked
import TypedQuery.Proofs.Table

/-!
# JSON values with distinct keys

An object of JSON holds every key once. The type of values leaves this open, and the predicate
`hasDistinctKeys` says it of a value and of everything inside it.

Reading a value from a draft keeps the last of the members with one key, so every value that is read
has distinct keys (`value?_hasDistinctKeys`), and a value that has them is read back unchanged
(`value?_ofJson`).
-/

namespace TypedQuery.Json

mutual

/-- Whether no object in a value holds a key twice. -/
def hasDistinctKeys : Json → Bool
  | null | bool _ | number _ | string _ => true
  | list items => itemsHaveDistinctKeys items
  | object members => decide (Table.keys members).Nodup && membersHaveDistinctKeys members

/-- Whether no object in a list of values holds a key twice. -/
def itemsHaveDistinctKeys : List Json → Bool
  | [] => true
  | item :: rest => hasDistinctKeys item && itemsHaveDistinctKeys rest

/-- Whether no object below a list of members holds a key twice. -/
def membersHaveDistinctKeys : List (String × Json) → Bool
  | [] => true
  | (_, value) :: rest => hasDistinctKeys value && membersHaveDistinctKeys rest

end

/-- Items have distinct keys just if each of them has. -/
theorem itemsHaveDistinctKeys_iff {items : List Json} :
    itemsHaveDistinctKeys items = true ↔ ∀ item ∈ items, item.hasDistinctKeys = true := by
  induction items with
  | nil => simp [itemsHaveDistinctKeys]
  | cons item rest ih => simp [itemsHaveDistinctKeys, ih]

/-- Members have distinct keys below them just if each of their values has. -/
theorem membersHaveDistinctKeys_iff {members : List (String × Json)} :
    membersHaveDistinctKeys members = true ↔
      ∀ entry ∈ members, entry.2.hasDistinctKeys = true := by
  induction members with
  | nil => simp [membersHaveDistinctKeys]
  | cons entry rest ih => simp [membersHaveDistinctKeys, ih]

@[simp] theorem hasDistinctKeys_list_iff {items : List Json} :
    (list items).hasDistinctKeys = true ↔ ∀ item ∈ items, item.hasDistinctKeys = true := by
  rw [hasDistinctKeys, itemsHaveDistinctKeys_iff]

/-- An object has distinct keys if it holds no key twice and its values have distinct keys. -/
@[simp] theorem hasDistinctKeys_object_iff {members : List (String × Json)} :
    (object members).hasDistinctKeys = true ↔
      (Table.keys members).Nodup ∧ ∀ entry ∈ members, entry.2.hasDistinctKeys = true := by
  rw [hasDistinctKeys, Bool.and_eq_true, decide_eq_true_iff, membersHaveDistinctKeys_iff]

/-! ## Reading values -/

mutual

/-- A value with distinct keys is read from its draft as it is. -/
theorem value?_ofJson : ∀ {value : Json}, value.hasDistinctKeys = true →
    (Draft.ofJson value).value? = .ok value
  | null, _ | bool _, _ | number _, _ | string _, _ => rfl
  | list items, h => by
    have hitems := items?_ofItems (hasDistinctKeys_list_iff.mp h)
    simp [Draft.ofJson, Draft.value?, hitems, Closing.fault?]
  | object members, h => by
    have hkeys := (hasDistinctKeys_object_iff.mp h).1
    have hmembers := members?_ofMembers (hasDistinctKeys_object_iff.mp h).2
    simp [Draft.ofJson, Draft.value?, hmembers, Closing.fault?, Table.ofWrites_eq_self hkeys]

/-- Items with distinct keys are read from their drafts as they are. -/
theorem items?_ofItems : ∀ {items : List Json}, (∀ item ∈ items, item.hasDistinctKeys = true) →
    Draft.items? (Draft.ofItems items) = .ok items
  | [], _ => rfl
  | item :: rest, h => by
    have hitem := value?_ofJson (h item List.mem_cons_self)
    have hrest := items?_ofItems fun item hm => h item (List.mem_cons_of_mem _ hm)
    simp [Draft.ofItems, Draft.items?, hitem, hrest]

/-- Members with distinct keys below them are read from their drafts as they are. -/
theorem members?_ofMembers : ∀ {members : List (String × Json)},
    (∀ entry ∈ members, entry.2.hasDistinctKeys = true) →
    Draft.members? (Draft.ofMembers members) = .ok members
  | [], _ => rfl
  | (key, value) :: rest, h => by
    have hvalue := value?_ofJson (h (key, value) List.mem_cons_self)
    have hrest := members?_ofMembers fun entry hm => h entry (List.mem_cons_of_mem _ hm)
    simp [Draft.ofMembers, Draft.members?, hvalue, hrest]

end

/-- A value with distinct keys is read from its draft as it is. -/
theorem readJson_ofJson {value : Json} (distinct : value.hasDistinctKeys = true) :
    (Draft.ofJson value).readJson = .ok value := by
  rw [Draft.readJson, value?_ofJson distinct]
  rfl

mutual

/-- A value that is read from a draft has distinct keys. -/
theorem value?_hasDistinctKeys : ∀ {draft : Draft} {value : Json},
    draft.value? = .ok value → value.hasDistinctKeys = true
  | .null, _, h | .bool _, _, h | .number _, _, h | .string _, _, h => by
    cases h
    rfl
  | .list items closing, value, h => by
    simp only [Draft.value?, Checked.bind_eq_ok] at h
    obtain ⟨values, hvalues, h⟩ := h
    split at h
    · cases h
    · obtain rfl := Checked.pure_eq_ok.mp h
      exact hasDistinctKeys_list_iff.mpr (items?_hasDistinctKeys hvalues)
  | .object members closing, value, h => by
    simp only [Draft.value?, Checked.bind_eq_ok] at h
    obtain ⟨values, hvalues, h⟩ := h
    split at h
    · cases h
    · obtain rfl := Checked.pure_eq_ok.mp h
      -- The members of the draft may repeat a key; what is read is what their writes leave.
      refine hasDistinctKeys_object_iff.mpr ⟨Table.nodup_keys_ofWrites _, fun entry hm => ?_⟩
      exact members?_hasDistinctKeys hvalues entry (Table.mem_of_mem_ofWrites hm)
  | .garbled _, _, h | .broken _, _, h => by cases h

/-- Items that are read from drafts have distinct keys. -/
theorem items?_hasDistinctKeys : ∀ {drafts : List Draft} {items : List Json},
    Draft.items? drafts = .ok items → ∀ item ∈ items, item.hasDistinctKeys = true
  | [], _, h => by
    cases h
    simp
  | draft :: rest, items, h => by
    simp only [Draft.items?, Checked.bind_eq_ok, Checked.pure_eq_ok] at h
    obtain ⟨value, hvalue, values, hvalues, rfl⟩ := h
    exact List.forall_mem_cons.mpr
      ⟨value?_hasDistinctKeys hvalue, items?_hasDistinctKeys hvalues⟩

/-- Members that are read from drafts have distinct keys below them. -/
theorem members?_hasDistinctKeys : ∀ {drafts : List (String × Draft)}
    {members : List (String × Json)}, Draft.members? drafts = .ok members →
    ∀ entry ∈ members, entry.2.hasDistinctKeys = true
  | [], _, h => by
    cases h
    simp
  | (key, draft) :: rest, members, h => by
    simp only [Draft.members?, Checked.bind_eq_ok, Checked.pure_eq_ok] at h
    obtain ⟨value, hvalue, values, hvalues, rfl⟩ := h
    exact List.forall_mem_cons.mpr
      ⟨value?_hasDistinctKeys hvalue, members?_hasDistinctKeys hvalues⟩

end

/-- Every JSON text that is read holds a value with distinct keys. -/
theorem parse_hasDistinctKeys {limit : Option Nat} {source : Source} {value : Json}
    (h : parse limit source = .ok value) : value.hasDistinctKeys = true := by
  simp only [parse, Checked.bind_eq_ok] at h
  obtain ⟨read, hread, h⟩ := h
  split at h
  · cases h
  · obtain rfl := Checked.pure_eq_ok.mp h
    exact value?_hasDistinctKeys hread

/-! ## Values inside values -/

/-- A member is smaller than its object. -/
theorem sizeOf_lt_of_get?_eq_some {members : List (String × Json)} {key : String} {value : Json}
    (h : Table.get? key members = some value) : sizeOf value < sizeOf (object members) := by
  have hmem := List.sizeOf_lt_of_mem (Table.mem_of_get?_eq_some h)
  simp only [object.sizeOf_spec, Prod.mk.sizeOf_spec] at hmem ⊢
  omega

/-- An item is smaller than its list. -/
theorem sizeOf_lt_of_mem {items : List Json} {item : Json} (h : item ∈ items) :
    sizeOf item < sizeOf (list items) := by
  have hmem := List.sizeOf_lt_of_mem h
  simp only [list.sizeOf_spec]
  omega

/-- Induction on values: a statement holds of a value if it holds of every smaller one. -/
@[elab_as_elim]
theorem size_induction {motive : Json → Prop}
    (step : ∀ value, (∀ part : Json, sizeOf part < sizeOf value → motive part) → motive value)
    (value : Json) : motive value :=
  step value fun part _ => size_induction step part
termination_by sizeOf value

end TypedQuery.Json
