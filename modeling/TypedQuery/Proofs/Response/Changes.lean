import Mathlib.Data.List.Induction
import TypedQuery.Proofs.Response.Reading
import TypedQuery.Proofs.Schema.Building
import TypedQuery.Proofs.Table

/-!
# What an update sends

After any row of calls an instance sends, for each mutable field that was set and not cleared since,
the value last set. These entries are written to a table under the names that the fields have in
mutations, and nothing keeps two fields of a type from having one such name: building compares the
names in queries only. So entries are lost exactly if the fields to send share a name, and a type
never loses one exactly if no two of its mutable fields do (`changes_run`).

What is pending for a field is read off the calls alone (`lastSet?`). An instance holds it after
each call (`Tracks.update`), and so after a run.
-/

namespace TypedQuery

/-! ## Calls on an instance -/

/-- A call that changes an instance. -/
inductive Update where
  | set (field : String) (value : FieldValue)
  | clear

/-- The value last set for a field since the last clearing. -/
def lastSet? (field : String) (updates : List Update) : Option FieldValue :=
  updates.foldl (fun pending update =>
    match update with
    | .set name value => if name = field then some value else pending
    | .clear => none) none

/-- What the calls owe to a mutation: an entry for each mutable field that has a pending value. -/
def owed (type : ObjectType) (updates : List Update) : List (String × Json) :=
  (type.fields.filter (·.mutable)).filterMap fun field =>
    ((lastSet? field.label updates).bind fun value => value.toInput?.map field.outgoing).map
      (field.wireMutateName, ·)

@[simp] theorem lastSet?_nil (field : String) : lastSet? field [] = none := rfl

/-- A value that is set is pending for its field, and for no other. -/
theorem lastSet?_set (field name : String) (value : FieldValue) (updates : List Update) :
    lastSet? field (updates ++ [.set name value]) =
      if name = field then some value else lastSet? field updates := List.foldl_append

/-- After a clearing nothing is pending. -/
theorem lastSet?_clear (field : String) (updates : List Update) :
    lastSet? field (updates ++ [.clear]) = none := List.foldl_append

/-- One value is set for several fields. -/
theorem lastSet?_map_set (field : String) (value : FieldValue) (names : List String) :
    lastSet? field (names.map (.set · value)) = if field ∈ names then some value else none := by
  induction names using List.reverseRecOn with
  | nil => simp
  | append_singleton names name ih =>
    rw [List.map_append, List.map_singleton, lastSet?_set, ih]
    by_cases h : name = field
    · simp [h]
    · simp [h, Ne.symm h]

/-- If all mutable fields are set, an entry of each is owed. -/
theorem keys_owed_set (type : ObjectType) (value : Json) :
    Table.keys (owed type (((type.fields.filter (·.mutable)).map (·.label)).map
      (.set · (.raw value)))) = (type.fields.filter (·.mutable)).map (·.wireMutateName) := by
  have hvalue : ∀ field ∈ type.fields.filter (·.mutable),
      ((lastSet? field.label (((type.fields.filter (·.mutable)).map (·.label)).map
        (.set · (.raw value)))).bind fun value => value.toInput?.map field.outgoing).map
          (field.wireMutateName, ·) = some (field.wireMutateName, field.outgoing value) := by
    intro field hfield
    have hmem : field.label ∈ (type.fields.filter (·.mutable)).map (·.label) :=
      List.mem_map_of_mem hfield
    rw [lastSet?_map_set, if_pos hmem, Option.bind_some, FieldValue.toInput?, Option.map_some,
      Option.map_some]
  rw [owed, List.filterMap_congr hvalue]
  simp [Table.keys, Function.comp_def]

namespace Instance

/-- An instance after a call. Setting a field that is not declared leaves it as it is. -/
def update (object : Instance) : Update → Instance
  | .set field value =>
    match object.set field value with
    | .ok after => after
    | .error _ => object
  | .clear => object.clearChanges

/-- An instance after a row of calls. -/
def run (object : Instance) (updates : List Update) : Instance := updates.foldl update object

/-- Whether an instance holds the fields of its type and none was set yet. -/
structure Fresh (object : Instance) : Prop where
  keys : Table.keys object.values = object.type.fields.map (·.label)
  unchanged : object.changed = []

/-- A new instance is fresh. -/
theorem fresh_new (type : ObjectType) : (new type).Fresh where
  keys := by
    rw [Table.keys, new, List.map_map]
    rfl
  unchanged := rfl

/-- What is read from a reply is fresh. -/
theorem fresh_of_instantiate {registry : Registry} {base : ObjectType} {value : Json}
    {object : Instance} (read : registry.instantiate base value = .ok object) : object.Fresh := by
  obtain ⟨_, -, -, -, unchanged⟩ := Registry.instantiate_eq_ok_iff.mp read
  exact ⟨Registry.keys_values_of_instantiate read, unchanged⟩

/-! ## What an instance holds after calls -/

/-- Whether an instance of a type is as some calls leave a fresh one. -/
structure Tracks (type : ObjectType) (updates : List Update) (object : Instance) : Prop where
  type_eq : object.type = type
  keys : Table.keys object.values = type.fields.map (·.label)
  changed_iff : ∀ label ∈ type.fields.map (·.label),
    label ∈ object.changed ↔ (lastSet? label updates).isSome = true
  value : ∀ label ∈ type.fields.map (·.label), ∀ value, lastSet? label updates = some value →
    object.get? label = some value

variable {type : ObjectType} {updates : List Update} {object : Instance}

/-- A fresh instance is as no calls leave it. -/
theorem Fresh.tracks (fresh : object.Fresh) : Tracks object.type [] object where
  type_eq := rfl
  keys := fresh.keys
  changed_iff label _ := by simp [fresh.unchanged]
  value label _ value h := by simp at h

theorem Tracks.has_iff (tracks : Tracks type updates object) {field : String} :
    Table.has object.values field = true ↔ field ∈ type.fields.map (·.label) := by
  rw [Table.has_eq_true_iff, ← Table.mem_keys_iff, tracks.keys]

/-- A field is set exactly if it is declared. -/
theorem Tracks.update_set (tracks : Tracks type updates object) (field : String)
    (value : FieldValue) :
    object.update (.set field value) =
      if field ∈ type.fields.map (·.label) then
        { object with
          values := Table.set field value object.values
          changed := if field ∈ object.changed then object.changed else object.changed ++ [field] }
      else object := by
  rw [update, set]
  by_cases hfield : field ∈ type.fields.map (·.label)
  · rw [if_pos (tracks.has_iff.mpr hfield), if_pos hfield]
  · rw [if_neg fun h => hfield (tracks.has_iff.mp h), if_neg hfield]

/-- Clearing keeps the values that are held and leaves none of them pending. -/
theorem Tracks.update_clear (tracks : Tracks type updates object) :
    Tracks type (updates ++ [.clear]) (object.update .clear) := by
  refine ⟨tracks.type_eq, tracks.keys, fun label _ => ?_, fun label _ value h => ?_⟩
  · simp [Instance.update, clearChanges, lastSet?_clear]
  · rw [lastSet?_clear] at h
    cases h

/-- A declared field has its new value, and counts as changed. -/
theorem Tracks.update_declared (tracks : Tracks type updates object) {field : String}
    (declared : field ∈ type.fields.map (·.label)) (value : FieldValue) :
    Tracks type (updates ++ [.set field value]) (object.update (.set field value)) := by
  have hhas : Table.has object.values field = true := tracks.has_iff.mpr declared
  rw [tracks.update_set, if_pos declared]
  refine ⟨tracks.type_eq, ?_, fun label hlabel => ?_, fun label hlabel pending h => ?_⟩
  · rw [Table.keys_set, if_pos hhas, tracks.keys]
  -- The list of changed fields grows by this field, unless it is there already.
  · have hmem : label ∈ (if field ∈ object.changed then object.changed
        else object.changed ++ [field]) ↔ label = field ∨ label ∈ object.changed := by
      split
      · rename_i hchanged
        exact ⟨.inr, fun h => h.elim (fun heq => heq ▸ hchanged) id⟩
      · rw [List.mem_append, List.mem_singleton, or_comm]
    rw [hmem, lastSet?_set, tracks.changed_iff label hlabel]
    by_cases heq : field = label
    · simp [heq]
    · simp [heq, Ne.symm heq]
  · rw [lastSet?_set] at h
    rw [get?, Table.get?_set]
    by_cases heq : field = label
    · rwa [if_pos heq] at h ⊢
    · rw [if_neg heq] at h ⊢
      exact tracks.value label hlabel pending h

/-- A field that is not declared cannot be set, and nothing is pending for it. -/
theorem Tracks.update_undeclared (tracks : Tracks type updates object) {field : String}
    (undeclared : field ∉ type.fields.map (·.label)) (value : FieldValue) :
    Tracks type (updates ++ [.set field value]) (object.update (.set field value)) := by
  have hsame : ∀ label ∈ type.fields.map (·.label),
      lastSet? label (updates ++ [.set field value]) = lastSet? label updates := by
    intro label hlabel
    rw [lastSet?_set, if_neg]
    rintro rfl
    exact undeclared hlabel
  rw [tracks.update_set, if_neg undeclared]
  refine ⟨tracks.type_eq, tracks.keys, fun label hlabel => ?_, fun label hlabel pending h => ?_⟩
  · rw [hsame label hlabel]
    exact tracks.changed_iff label hlabel
  · rw [hsame label hlabel] at h
    exact tracks.value label hlabel pending h

/-- Each call is tracked. -/
theorem Tracks.update (tracks : Tracks type updates object) (update : Update) :
    Tracks type (updates ++ [update]) (object.update update) := by
  cases update with
  | clear => exact tracks.update_clear
  | set field value =>
    by_cases declared : field ∈ type.fields.map (·.label)
    · exact tracks.update_declared declared value
    · exact tracks.update_undeclared declared value

/-- Every row of calls on a fresh instance is tracked. -/
theorem Fresh.tracks_run (fresh : object.Fresh) (updates : List Update) :
    Tracks object.type updates (object.run updates) := by
  induction updates using List.reverseRecOn with
  | nil => exact fresh.tracks
  | append_singleton updates update ih =>
    rw [run, List.foldl_append]
    exact ih.update update

/-! ## What is sent -/

theorem inputValues_eq_map (values : List (String × FieldValue)) :
    inputValues values = values.map fun entry => (entry.1, entry.2.toInput?) := by
  induction values with
  | nil => rw [inputValues, List.map_nil]
  | cons entry rest ih =>
    obtain ⟨name, value⟩ := entry
    rw [inputValues, ih, List.map_cons]

/-- The input under a label is that of the value held under it, if it has one. -/
theorem join_get?_inputValues (values : List (String × FieldValue)) (label : String) :
    ((inputValues values).get? label).join = (Table.get? label values).bind (·.toInput?) := by
  rw [inputValues_eq_map, Table.get?_map_values]
  cases Table.get? label values <;> rfl

/-- An instance sends what the calls owe, an entry written after the other. -/
theorem Tracks.changes_eq (tracks : Tracks type updates object) :
    object.changes = Table.ofWrites (owed type updates) := by
  have hfilter : (type.fields.filter fun field =>
      field.mutable && object.changed.contains field.label) =
        (type.fields.filter (·.mutable)).filter fun field =>
          object.changed.contains field.label := by
    rw [List.filter_filter]
    simp only [Bool.and_comm]
  rw [changes, inputMembers, tracks.type_eq, hfilter, List.filterMap_filter, owed]
  -- Both sides go through the mutable fields in order. One asks whether a field was changed, the
  -- other whether a value of it is pending.
  refine congrArg Table.ofWrites (List.filterMap_congr fun field hfield => ?_)
  have hlabel : field.label ∈ type.fields.map (·.label) :=
    List.mem_map_of_mem (List.mem_filter.mp hfield).1
  have hchanged := tracks.changed_iff field.label hlabel
  rw [join_get?_inputValues]
  cases hpending : lastSet? field.label updates with
  | none => simp [hchanged, hpending]
  | some value =>
    have hvalue := tracks.value field.label hlabel value hpending
    rw [get?] at hvalue
    simp [hchanged, hpending, hvalue, Function.comp_def]

/-- An instance sends what the calls on it owe, one entry written after the other: as many entries
as fields have one to send exactly if these differ in their names in mutations. So a type loses no
entry, whatever is called, exactly if its mutable fields differ in these names. Building sees to
that only for fields that have the same name in queries. -/
theorem changes_run {object : Instance} (fresh : object.Fresh) :
    (∀ updates, (object.run updates).changes = Table.ofWrites (owed object.type updates) ∧
      ((object.run updates).changes.length = (owed object.type updates).length ↔
        (Table.keys (owed object.type updates)).Nodup)) ∧
    ((∀ updates, (object.run updates).changes = owed object.type updates) ↔
      ((object.type.fields.filter (·.mutable)).map (·.wireMutateName)).Nodup) ∧
    (object.type.Built →
      (∀ field ∈ object.type.fields, field.mutable = true →
        field.wireMutateName = field.wireQueryName) →
      ∀ updates, (object.run updates).changes = owed object.type updates) := by
  have hchanges : ∀ updates, (object.run updates).changes =
      Table.ofWrites (owed object.type updates) :=
    fun updates => (fresh.tracks_run updates).changes_eq
  have hlossless : (∀ updates, (object.run updates).changes = owed object.type updates) ↔
      ((object.type.fields.filter (·.mutable)).map (·.wireMutateName)).Nodup := by
    refine ⟨fun h => ?_, fun distinct updates => ?_⟩
    · -- Setting every mutable field brings out every name.
      have hall := h (((object.type.fields.filter (·.mutable)).map (·.label)).map
        (.set · (.raw .null)))
      rw [← keys_owed_set object.type .null, ← hall, hchanges]
      exact Table.nodup_keys_ofWrites _
    · rw [hchanges]
      exact Table.ofWrites_eq_self (distinct.sublist (Table.keys_filterMap_sublist _ _))
  refine ⟨fun updates => ⟨hchanges updates, ?_⟩, hlossless, fun built same => ?_⟩
  · rw [hchanges]
    exact Table.length_ofWrites_eq_iff
  -- If the names are those of queries, building has seen to it that they differ.
  · refine hlossless.mpr ?_
    have hsame : (object.type.fields.filter (·.mutable)).map (·.wireMutateName) =
        (object.type.fields.filter (·.mutable)).map (·.wireQueryName) :=
      List.map_congr_left fun field hfield =>
        same field (List.mem_filter.mp hfield).1 (List.mem_filter.mp hfield).2
    rw [hsame]
    exact built.separate.wireNames.sublist (List.filter_sublist.map _)

/-- A book with a title, under a name of its own in mutations, and a name. -/
def bookUnder (name : String) : TypeDeclaration where
  name := "Book"
  fields := [{ name := "title", field := { mutateName := some name } }, { name := "name" }]

/-- Building accepts the type whatever its title is called in mutations. -/
theorem built_bookUnder (name : String) : (bookUnder name).built.Built := by
  refine ⟨bookUnder name, fun declared h => ?_, rfl⟩
  simp only [bookUnder, List.mem_cons, List.not_mem_nil, or_false] at h
  rcases h with rfl | rfl
  · exact Field.Made.new.options none (some name) none true none
  · exact .new

/-- Both fields are set twice, once before a clearing. -/
def titleAndName : List Update :=
  [.set "title" (.raw (.string "A")), .set "name" (.raw (.string "B")), .clear,
    .set "name" (.raw (.string "C")), .set "title" (.raw (.string "D"))]

/-- Under a name that no other field has, the title is sent beside the name. -/
theorem bookUnder_heading_changes :
    (new (bookUnder "heading").built).Fresh ∧
      ((new (bookUnder "heading").built).run titleAndName).changes =
        [("heading", .string "D"), ("name", .string "C")] :=
  have fresh := fresh_new (bookUnder "heading").built
  ⟨fresh, ((changes_run fresh).2.1.mpr (by decide) titleAndName).trans rfl⟩

/-- A title that is sent under the name of another field is lost. -/
theorem bookUnder_name_loses_title :
    (bookUnder "name").build = .ok (bookUnder "name").built ∧ (bookUnder "name").built.Built ∧
      owed (bookUnder "name").built titleAndName =
        [("name", .string "D"), ("name", .string "C")] ∧
      ((new (bookUnder "name").built).run titleAndName).changes = [("name", .string "C")] :=
  ⟨rfl, built_bookUnder "name", rfl, rfl⟩

end Instance

end TypedQuery
