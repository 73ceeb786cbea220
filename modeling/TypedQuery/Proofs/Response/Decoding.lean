import TypedQuery.Proofs.Response.Reading

/-!
# When decoding succeeds

A payload is decoded when no error is reported and every root of the data names a type that its
value can be read as (`decode_eq_ok_iff`). The payload is read as a record that skips the keys it
does not know; under distinct keys this is a lookup of `data` and one of `errors`.
-/

namespace TypedQuery

open Checked Json

/-! ## Payloads -/

namespace Payload

/-- The reader of the errors of a payload that is a value. -/
def readErrors : Reader (Option (List RemoteError)) := fun draft =>
  draft.readOptional (Draft.readList ((RemoteError.format .value).read .value))

/-- No error is reported. -/
inductive NoErrors : Option Json → Prop
  | absent : NoErrors none
  | null : NoErrors (some .null)
  | empty : NoErrors (some (.list []))

/-- The data of a payload; a `null` stands for none. -/
def dataOf : Option Json → Option Json
  | none | some .null => none
  | some value => some value

/-- The data of a payload is kept as it is, but for a `null`, which counts as no data. -/
theorem put_data {known : Payload} {value : Json} (distinct : value.hasDistinctKeys = true) :
    (format .value).put known "data" (Draft.ofJson value) =
      .ok { known with data := dataOf (some value) } := by
  have hread : (Draft.ofJson value).readOptional Draft.readJson = .ok (dataOf (some value)) := by
    cases value with
    | null => rfl
    | _ =>
      show some <$> Draft.readJson _ = _
      rw [readJson_ofJson distinct]
      rfl
  show (do return { known with data := ← _ } : Except ReadError Payload) = _
  rw [hread]
  rfl

theorem put_errors {known : Payload} {value : Json} :
    (format .value).put known "errors" (Draft.ofJson value) =
      (fun errors => { known with errors }) <$> readErrors (Draft.ofJson value) := rfl

/-- Members with distinct keys that were not read before are read as a payload by two lookups. -/
theorem readMembers_eq {members : List (String × Json)} {seen : List String} {known : Payload}
    (distinct : (Table.keys members).Nodup)
    (below : ∀ entry ∈ members, entry.2.hasDistinctKeys = true)
    (fresh : ∀ key ∈ Table.keys members, key ∉ seen) :
    (format .value).readMembers seen known (Draft.ofMembers members) =
      (fun errors => {
        data := (Table.get? "data" members).elim known.data fun value => dataOf (some value)
        errors }) <$>
      (Table.get? "errors" members).elim (.ok known.errors)
        fun value => readErrors (Draft.ofJson value) := by
  induction members generalizing seen known with
  | nil => rfl
  | cons entry rest ih =>
    obtain ⟨key, value⟩ := entry
    simp only [Table.keys, List.map_cons, List.nodup_cons, List.mem_cons, forall_eq_or_imp]
      at distinct below fresh ih
    -- The keys are distinct, so the rest neither repeats this key nor answers for it.
    have habsent : ∀ other, other = key → Table.get? other rest = none := by
      rintro _ rfl
      exact Table.get?_eq_none_iff.mpr distinct.1
    have hfresh : ∀ k ∈ rest.map Prod.fst, k ∉ key :: seen := by
      intro k hk hmem
      rcases List.mem_cons.mp hmem with rfl | hmem
      · exact distinct.1 hk
      · exact fresh.2 k hk hmem
    rw [Draft.ofMembers, RecordFormat.readMembers]
    by_cases hdata : key = "data"
    · subst hdata
      rw [if_pos (by decide), if_neg fresh.1, put_data below.1, ok_bind,
        ih distinct.2 below.2 hfresh, habsent "data" rfl, Table.get?_cons, if_pos rfl,
        Table.get?_cons, if_neg (by decide)]
      rfl
    · by_cases herrors : key = "errors"
      · subst herrors
        rw [if_pos (by decide), if_neg fresh.1, put_errors, Table.get?_cons, if_neg hdata,
          Table.get?_cons, if_pos rfl, Option.elim_some]
        cases readErrors (Draft.ofJson value) with
        | error error => rfl
        | ok errors =>
          show RecordFormat.readMembers _ _ _ _ = _
          rw [ih distinct.2 below.2 hfresh, habsent "errors" rfl]
          rfl
      · -- A key that a payload does not know is read and dropped.
        have hunknown : key ∉ (format .value).fields := by simp [format, hdata, herrors]
        have hlenient : ¬ (format .value).strict = true := by simp [format]
        rw [if_neg hunknown, if_neg hlenient, readJson_ofJson below.1, ok_bind,
          ih distinct.2 below.2 fresh.2, Table.get?_cons, if_neg hdata, Table.get?_cons,
          if_neg herrors]

/-- An object with distinct keys is read as a payload by a lookup of the data and one of the
errors. -/
theorem ofJson_eq {members : List (String × Json)}
    (distinct : (Json.object members).hasDistinctKeys = true) :
    ofJson (.object members) =
      (fun errors => { data := dataOf (Table.get? "data" members), errors }) <$>
        (Table.get? "errors" members).elim (.ok none)
          fun value => readErrors (Draft.ofJson value) := by
  obtain ⟨hkeys, hbelow⟩ := hasDistinctKeys_object_iff.mp distinct
  have hdata : (Table.get? "data" members).elim none (fun value => dataOf (some value)) =
      dataOf (Table.get? "data" members) := by
    cases Table.get? "data" members <;> rfl
  have hread : ofJson (.object members) =
      (format .value).readMembers [] {} (Draft.ofMembers members) :=
    bind_pure ((format .value).readMembers [] {} (Draft.ofMembers members))
  rw [hread, readMembers_eq hkeys hbelow fun _ _ => List.not_mem_nil, hdata]

/-- The errors of a payload are read as none exactly when it reports none. -/
theorem readErrors_eq_nil_iff {value? : Option Json} :
    (∃ errors, value?.elim (.ok none) (fun value => readErrors (Draft.ofJson value)) = .ok errors ∧
      errors.getD [] = []) ↔ NoErrors value? := by
  cases value? with
  | none => exact iff_of_true ⟨none, rfl, rfl⟩ .absent
  | some value =>
    cases value with
    | null => exact iff_of_true ⟨none, rfl, rfl⟩ .null
    | list items =>
      cases items with
      | nil => exact iff_of_true ⟨some [], rfl, rfl⟩ .empty
      | cons item rest =>
        -- A list with items is read as errors or not at all.
        refine iff_of_false ?_ ?_
        · rintro ⟨errors, hread, hempty⟩
          simp only [Option.elim_some, readErrors, Draft.ofJson, Draft.ofItems, Draft.readOptional,
            map_eq_ok, Draft.readList, List.mapM_cons, bind_eq_ok, pure_eq_ok] at hread
          obtain ⟨_, ⟨_, ⟨error, -, others, -, rfl⟩, -, -, rfl⟩, rfl⟩ := hread
          cases hempty
        · rintro ⟨⟩
    | _ =>
      refine iff_of_false ?_ ?_
      · rintro ⟨errors, hread, -⟩
        cases hread
      · rintro ⟨⟩

end Payload

/-! ## Roots and payloads -/

namespace Registry

open Payload

variable {registry : Registry} {base : ObjectType}

/-- The values under a root that are read as instances. -/
def rootItems : Json → List Json
  | .null => []
  | .list items => items.filter (!·.isNull)
  | value => [value]

/-- What is read as an instance is the value itself or an item of it. -/
theorem mem_rootItems {value item : Json} (h : item ∈ rootItems value) :
    item = value ∨ ∃ items, value = .list items ∧ item ∈ items := by
  cases value with
  | null => cases h
  | list items => exact .inr ⟨items, rfl, (List.mem_filter.mp h).1⟩
  | _ => exact .inl (List.mem_singleton.mp h)

/-- What is read as an instance is no larger than the value it stands in. -/
theorem sizeOf_le_of_mem_rootItems {value item : Json} (h : item ∈ rootItems value) :
    sizeOf item ≤ sizeOf value := by
  rcases mem_rootItems h with rfl | ⟨items, rfl, hitem⟩
  · exact Nat.le_refl _
  · exact Nat.le_of_lt (sizeOf_lt_of_mem hitem)

/-- What is read as an instance has distinct keys if the value it stands in has. -/
theorem hasDistinctKeys_of_mem_rootItems {value item : Json}
    (distinct : value.hasDistinctKeys = true) (h : item ∈ rootItems value) :
    item.hasDistinctKeys = true := by
  rcases mem_rootItems h with rfl | ⟨items, rfl, hitem⟩
  · exact distinct
  · exact hasDistinctKeys_list_iff.mp distinct item hitem

/-- The value of a root is read item by item. -/
theorem instantiateRoot_eq_mapM (value : Json) :
    registry.instantiateRoot base value = (rootItems value).mapM (registry.instantiate base) := by
  cases value with
  | null => rfl
  | list items => rfl
  | _ => simp [instantiateRoot, rootItems]

/-- Roots are decoded one by one, each by the type that has it. -/
theorem decodeRoots_eq_ok_iff {data : List (String × Json)} {groups : Table (List Instance)} :
    registry.decodeRoots data = .ok groups ↔
      List.Forall₂
        (fun entry group => group.1 = entry.1 ∧ ∃ base, registry.typeOfRoot? entry.1 = some base ∧
          List.Forall₂ (fun item object => registry.instantiate base item = .ok object)
            (rootItems entry.2) group.2)
        data groups := by
  rw [decodeRoots, mapM_eq_ok_iff]
  constructor
  · refine List.Forall₂.imp fun entry group h => ?_
    dsimp only at h
    split at h
    · rename_i base hroot
      simp only [bind_eq_ok, instantiateRoot_eq_mapM, mapM_eq_ok_iff, pure_eq_ok] at h
      obtain ⟨objects, read, rfl⟩ := h
      exact ⟨rfl, base, hroot, read⟩
    · cases h
  · refine List.Forall₂.imp fun entry group h => ?_
    obtain ⟨root, objects⟩ := group
    obtain ⟨rfl, base, hroot, read⟩ := h
    dsimp only
    rw [hroot]
    simp only [bind_eq_ok, instantiateRoot_eq_mapM, mapM_eq_ok_iff, pure_eq_ok]
    exact ⟨objects, read, rfl⟩

/-- The data of a payload, and the groups that it is read as. -/
inductive ReadsData (registry : Registry) : Option Json → Table (List Instance) → Prop
  | absent : ReadsData registry none []
  | null : ReadsData registry (some .null) []
  | roots {data : List (String × Json)} {groups : Table (List Instance)}
      (read : registry.decodeRoots data = .ok groups) :
      ReadsData registry (some (.object data)) groups

/-- The roots of the data of a payload, which are none if it has no data. -/
def rootsOf : Option Json → Except DecodeError (List (String × Json))
  | none | some .null => .ok []
  | some (.object roots) => .ok roots
  | some other => .error (.malformedPayload (.dataNotAnObject other.kind))

/-- Data that is `null` has no roots, as missing data has none. -/
theorem rootsOf_dataOf (data? : Option Json) : rootsOf (dataOf data?) = rootsOf data? := by
  cases data? with
  | none => rfl
  | some data => cases data <;> rfl

/-- The data of a payload is read by taking its roots and decoding them. -/
theorem readsData_iff {data? : Option Json} {groups : Table (List Instance)} :
    registry.ReadsData data? groups ↔ rootsOf data? >>= registry.decodeRoots = .ok groups := by
  constructor
  · rintro (_ | _ | read)
    · rfl
    · rfl
    · exact read
  · intro read
    cases data? with
    | none =>
      cases read
      exact .absent
    | some data =>
      cases data with
      | null =>
        cases read
        exact .null
      | object roots => exact .roots read
      | _ => cases read

/-- A payload is read first. If it reports no error, its roots are decoded. -/
theorem decode_object_eq (members : List (String × Json)) :
    registry.decode (.object members) = (do
      let payload ← (Payload.ofJson (.object members)).mapError fun error =>
        .malformedPayload (.unreadable error)
      match payload.errors.getD [] with
      | [] => Results.mk <$> (rootsOf payload.data >>= registry.decodeRoots)
      | errors => .error (.remoteOperationFailed errors)) := by
  rw [decode, if_neg (by simp [isObject])]
  refine bind_congr fun payload => ?_
  cases payload.errors.getD [] with
  | nil =>
    cases payload.data with
    | none => rfl
    | some data => cases data <;> rfl
  | cons => rfl

/-- An object is decoded just if it is a payload that reports no error and whose data is read. -/
theorem decode_object_eq_ok_iff {members : List (String × Json)} {results : Results} :
    registry.decode (.object members) = .ok results ↔
      ∃ payload, Payload.ofJson (.object members) = .ok payload ∧ payload.errors.getD [] = [] ∧
        registry.ReadsData payload.data results.groups := by
  obtain ⟨groups⟩ := results
  simp only [decode_object_eq, bind_eq_ok, mapError_eq_ok, readsData_iff]
  refine exists_congr fun payload => and_congr_right fun _ => ?_
  split
  · rename_i hnone
    simp [hnone]
  · rename_i errors hne
    exact iff_of_false (by simp) fun h => hne h.1

/-- Under distinct keys the errors and the roots of a payload are two lookups. -/
theorem decode_object_eq_of_distinct {members : List (String × Json)}
    (distinct : (Json.object members).hasDistinctKeys = true) :
    registry.decode (.object members) = (do
      let errors ← ((Table.get? "errors" members).elim (.ok none)
        fun value => readErrors (Draft.ofJson value)).mapError fun error =>
          .malformedPayload (.unreadable error)
      match errors.getD [] with
      | [] => Results.mk <$> (rootsOf (Table.get? "data" members) >>= registry.decodeRoots)
      | errors => .error (.remoteOperationFailed errors)) := by
  rw [decode_object_eq, Payload.ofJson_eq distinct, ← rootsOf_dataOf]
  cases (Table.get? "errors" members).elim (.ok none)
    fun value => readErrors (Draft.ofJson value) <;> rfl

/-- A payload is decoded when it reports no error and its data can be read. -/
theorem decode_eq_ok_iff {value : Json} (distinct : value.hasDistinctKeys = true)
    {results : Results} :
    registry.decode value = .ok results ↔
      ∃ members, value = .object members ∧ NoErrors (Table.get? "errors" members) ∧
        registry.ReadsData (Table.get? "data" members) results.groups := by
  cases value with
  | object members =>
    simp only [decode_object_eq_of_distinct distinct, bind_eq_ok, mapError_eq_ok, object.injEq,
      exists_eq_left', ← readErrors_eq_nil_iff, readsData_iff]
    constructor
    -- Errors are read before the data, and any of them is the end.
    · rintro ⟨errors, hread, h⟩
      split at h
      · rename_i hempty
        obtain ⟨groups, read, rfl⟩ := map_eq_ok.mp h
        exact ⟨⟨errors, hread, hempty⟩, bind_eq_ok.mp read⟩
      · cases h
    · rintro ⟨⟨errors, hread, hempty⟩, h⟩
      refine ⟨errors, hread, ?_⟩
      rw [hempty]
      exact map_eq_ok.mpr ⟨_, bind_eq_ok.mpr h, rfl⟩
  | _ =>
    refine iff_of_false ?_ ?_
    · simp [decode, isObject, bind, Except.bind]
    · simp

end Registry

end TypedQuery
