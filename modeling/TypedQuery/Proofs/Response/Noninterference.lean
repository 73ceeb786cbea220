import TypedQuery.Proofs.Response.Changes

/-!
# What an update does not tell

The input of an update names the mutable fields that changed, and nothing else of an instance gets
into it: not the value of another field, not a field of a nested instance that is read-only, and not
which fields of a nested instance changed. Two instances that differ in these only have the same
input (`changes_eq_of_alike`).

`FieldValue.Alike` relates the values that may not be told apart. It goes through instances and
lists at any depth. The relation of the top level differs from that of the levels below: there only
fields that changed count, whereas a nested instance is sent whole.
-/

namespace TypedQuery

mutual

/-- Values of a field that are the same to the server: they differ in read-only fields of nested
instances only, and in which fields of these changed. -/
inductive FieldValue.Alike : FieldValue → FieldValue → Prop
  | unset : FieldValue.Alike .unset .unset
  | raw (value : Json) : FieldValue.Alike (.raw value) (.raw value)
  | object {a b : Instance} (alike : Instance.Alike a b) : FieldValue.Alike (.object a) (.object b)
  | list {as bs : List FieldValue} (alike : ItemsAlike as bs) :
      FieldValue.Alike (.list as) (.list bs)

/-- Items that are the same to the server, one by one. -/
inductive ItemsAlike : List FieldValue → List FieldValue → Prop
  | nil : ItemsAlike [] []
  | cons {a b : FieldValue} {as bs : List FieldValue} (first : FieldValue.Alike a b)
      (rest : ItemsAlike as bs) : ItemsAlike (a :: as) (b :: bs)

/-- Instances of one type whose mutable fields hold the same to the server. -/
inductive Instance.Alike : Instance → Instance → Prop
  | mk {a b : Instance} (type : a.type = b.type)
      (mutable : ∀ field ∈ a.type.fields, field.mutable = true →
        HeldAlike (a.get? field.label) (b.get? field.label)) : Instance.Alike a b

/-- What two instances hold for a field, if it is the same to the server. -/
inductive HeldAlike : Option FieldValue → Option FieldValue → Prop
  | none : HeldAlike none none
  | some {a b : FieldValue} (alike : FieldValue.Alike a b) : HeldAlike (some a) (some b)

end

/-- An input looks at the values of its fields only. -/
theorem inputMembers_congr {fields : List Field} {written other : Table (Option Json)}
    (same : ∀ field ∈ fields,
      (written.get? field.label).join = (other.get? field.label).join) :
    inputMembers fields written = inputMembers fields other := by
  rw [inputMembers, inputMembers]
  refine congrArg Table.ofWrites (List.filterMap_congr fun field hfield => ?_)
  rw [same field hfield]

/-- An instance is sent as an object with its mutable fields, whatever changed of them. -/
theorem Instance.toInput_eq_object (object : Instance) :
    object.toInput = .object (inputMembers (object.type.fields.filter (·.mutable))
      (inputValues object.values)) := by
  obtain ⟨type, values, changed⟩ := object
  rw [Instance.toInput]

mutual

/-- Values that are alike have the same input. -/
theorem FieldValue.Alike.toInput?_eq : ∀ {a b : FieldValue}, a.Alike b → a.toInput? = b.toInput?
  | _, _, .unset => rfl
  | _, _, .raw _ => rfl
  | _, _, .object alike => by
    rw [FieldValue.toInput?, FieldValue.toInput?, Instance.Alike.toInput_eq alike]
  | _, _, .list alike => by
    rw [FieldValue.toInput?, FieldValue.toInput?, ItemsAlike.inputItems_eq alike]

/-- Items that are alike have the same inputs. -/
theorem ItemsAlike.inputItems_eq : ∀ {as bs : List FieldValue},
    ItemsAlike as bs → inputItems as = inputItems bs
  | _, _, .nil => rfl
  | _, _, .cons first rest => by
    rw [inputItems, inputItems, FieldValue.Alike.toInput?_eq first, ItemsAlike.inputItems_eq rest]

/-- Instances that are alike have the same input. -/
theorem Instance.Alike.toInput_eq : ∀ {a b : Instance}, a.Alike b → a.toInput = b.toInput
  | a, b, .mk type mutable => by
    rw [Instance.toInput_eq_object a, Instance.toInput_eq_object b, ← type]
    refine congrArg Json.object (inputMembers_congr fun field hfield => ?_)
    have hfield := List.mem_filter.mp hfield
    rw [Instance.join_get?_inputValues, Instance.join_get?_inputValues]
    exact HeldAlike.bind_toInput?_eq (mutable field hfield.1 hfield.2)

/-- Fields that hold the same to the server have the same input. -/
theorem HeldAlike.bind_toInput?_eq : ∀ {a b : Option FieldValue},
    HeldAlike a b → a.bind (·.toInput?) = b.bind (·.toInput?)
  | _, _, .none => rfl
  | _, _, .some alike => FieldValue.Alike.toInput?_eq alike

end

/-- A value has an input just if it is set. -/
theorem FieldValue.exists_toInput?_iff {value : FieldValue} :
    (∃ input, value.toInput? = some input) ↔ value ≠ .unset := by
  cases value <;> simp [FieldValue.toInput?]

namespace Instance

/-- The names in an input are those of its fields that are set. -/
theorem mem_keys_inputMembers {fields : List Field} {values : List (String × FieldValue)}
    {key : String} :
    key ∈ Table.keys (inputMembers fields (inputValues values)) ↔
      ∃ field ∈ fields, field.wireMutateName = key ∧
        ∃ value, Table.get? field.label values = some value ∧ value ≠ .unset := by
  rw [inputMembers, Table.mem_keys_ofWrites, Table.keys]
  simp only [join_get?_inputValues, List.mem_map, List.mem_filterMap, Option.map_eq_some_iff,
    Option.bind_eq_some_iff, ← FieldValue.exists_toInput?_iff]
  constructor
  · rintro ⟨_, ⟨field, hfield, input, ⟨value, hget, hinput⟩, rfl⟩, rfl⟩
    exact ⟨field, hfield, rfl, value, hget, input, hinput⟩
  · rintro ⟨field, hfield, rfl, value, hget, input, hinput⟩
    exact ⟨_, ⟨field, hfield, input, ⟨value, hget, hinput⟩, rfl⟩, rfl⟩

/-- Instances of one type in which the same fields changed have the same input for an update if
these fields hold the same to the server, as far as they are mutable. All else may differ. The names
in an input are those of the changed and mutable fields that are set. -/
theorem changes_eq_of_alike {a b : Instance} (type : a.type = b.type)
    (changed : ∀ label, label ∈ a.changed ↔ label ∈ b.changed)
    (alike : ∀ field ∈ a.type.fields, field.mutable = true → field.label ∈ a.changed →
      HeldAlike (a.get? field.label) (b.get? field.label)) :
    a.changes = b.changes ∧
    ∀ key, key ∈ Table.keys a.changes ↔ ∃ field ∈ a.type.fields,
      field.mutable = true ∧ field.label ∈ a.changed ∧
        (∃ value, a.get? field.label = some value ∧ value ≠ .unset) ∧
        field.wireMutateName = key := by
  -- The same fields are sent, since the lists of changed fields differ in their order at most.
  have hsent : (fun field : Field => field.mutable && b.changed.contains field.label) =
      fun field => field.mutable && a.changed.contains field.label := by
    funext field
    simp only [List.contains_eq_mem, changed]
  refine ⟨?_, fun key => ?_⟩
  · rw [Instance.changes, Instance.changes, hsent, ← type]
    refine inputMembers_congr fun field hfield => ?_
    simp only [List.mem_filter, Bool.and_eq_true, List.contains_eq_mem, decide_eq_true_eq] at hfield
    obtain ⟨hfield, hmutable, hchanged⟩ := hfield
    rw [join_get?_inputValues, join_get?_inputValues]
    exact (alike field hfield hmutable hchanged).bind_toInput?_eq
  · rw [Instance.changes, mem_keys_inputMembers]
    simp only [List.mem_filter, Bool.and_eq_true, List.contains_eq_mem, decide_eq_true_eq]
    constructor
    · rintro ⟨field, ⟨hfield, hmutable, hchanged⟩, hkey, hvalue⟩
      exact ⟨field, hfield, hmutable, hchanged, hvalue, hkey⟩
    · rintro ⟨field, hfield, hmutable, hchanged, hvalue, hkey⟩
      exact ⟨field, ⟨hfield, hmutable, hchanged⟩, hkey, hvalue⟩

/-- A writer, of whom the year of birth is read-only and the name is sent in an object. -/
def writer (born : FieldValue) (changed : List String) : Instance where
  type := TypeDeclaration.built { name := "Writer", fields := [
    { name := "name"
      field := { transform := some fun field value => .object [(field.wireMutateName, value)] } },
    { name := "born", field := { mutable := false } }] }
  values := [("name", .raw (.string "Ada")), ("born", born)]
  changed

/-- A collection of texts by one writer, with a number that is read-only. -/
def anthology (title number : String) (writer : Instance) (changed : List String) : Instance where
  type := TypeDeclaration.built { name := "Anthology", fields := [
    { name := "title" }, { name := "number", field := { mutable := false } },
    { name := "writers", type := .list (.object "Writer"),
      field := { mutateName := some "authors" } }] }
  values := [("title", .raw (.string title)), ("number", .raw (.string number)),
    ("writers", .list [.object writer, .unset])]
  changed

/-- Poems by a writer whose year of birth is known. -/
def poems : Instance :=
  anthology "Poems" "1" (writer (.raw (.string "1815")) []) ["number", "writers"]

/-- Stories by a writer whose year of birth was unset. -/
def stories : Instance := anthology "Stories" "2" (writer .unset ["born"]) ["writers", "number"]

/-- Writers are sent without what is known of their birth. -/
theorem alike_writer (born other : FieldValue) (changed others : List String) :
    (writer born changed).Alike (writer other others) := by
  refine .mk rfl fun field hfield hmutable => ?_
  simp only [writer, TypeDeclaration.built, List.map_cons, List.map_nil, List.mem_cons,
    List.not_mem_nil, or_false] at hfield
  rcases hfield with rfl | rfl
  · exact .some (.raw _)
  · cases hmutable

/-- The number changed, but is read-only; the title is mutable, but did not change; the writers
changed and are sent, each with all that is mutable. -/
theorem poems_changes_eq_stories :
    poems.type = stories.type ∧ (∀ label, label ∈ poems.changed ↔ label ∈ stories.changed) ∧
    (∀ field ∈ poems.type.fields, field.mutable = true → field.label ∈ poems.changed →
      HeldAlike (poems.get? field.label) (stories.get? field.label)) ∧
    poems.changes = stories.changes ∧
    poems.changes =
      [("authors", .list [.object [("name", .object [("name", .string "Ada")])], .null])] := by
  have htype : poems.type = stories.type := rfl
  have hchanged : ∀ label, label ∈ poems.changed ↔ label ∈ stories.changed := by
    intro label
    simp only [poems, stories, anthology, List.mem_cons, List.not_mem_nil, or_false]
    exact or_comm
  have halike : ∀ field ∈ poems.type.fields, field.mutable = true → field.label ∈ poems.changed →
      HeldAlike (poems.get? field.label) (stories.get? field.label) := by
    intro field hfield hmutable hfieldChanged
    simp only [poems, anthology, TypeDeclaration.built, List.map_cons, List.map_nil,
      List.mem_cons, List.not_mem_nil, or_false] at hfield
    rcases hfield with rfl | rfl | rfl
    · exact absurd hfieldChanged (by decide)
    · cases hmutable
    · exact .some (.list (.cons (.object (alike_writer _ _ _ _)) (.cons .unset .nil)))
  exact ⟨htype, hchanged, halike, (changes_eq_of_alike htype hchanged halike).1, rfl⟩

end Instance

end TypedQuery
