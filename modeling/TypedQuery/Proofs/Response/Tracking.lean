import Mathlib.Data.List.DropRight
import TypedQuery.Proofs.Response.Changes
import TypedQuery.Proofs.Response.Replay

/-!
# What an instance remembers of the calls on it

An instance keeps two records of the calls that were made on it: the values of its fields, and the
names of the fields that were set since the last clearing. Both can be told from the calls alone and
the values that the instance was made with. `settings` are the calls that count, which are those
that set a declared field; the others fail and leave no trace.

One call keeps both records right (`Recalls.update`), and so does a row of them. What is written as
a reply holds follows from the values, because building has seen to it that no two keys are the same
(`run_recalls`).
-/

namespace TypedQuery

open Checked

/-! ## Calls that count -/

/-- The settings among calls that set a field with one of some names, in order. -/
def settings (names : List String) (updates : List Update) : List (String × FieldValue) :=
  updates.filterMap fun
    | .set field value => if field ∈ names then some (field, value) else none
    | .clear => none

/-- The value of the last setting of a field. -/
def lastSetting? (names : List String) (updates : List Update) (field : String) :
    Option FieldValue :=
  (((settings names updates).filter (·.1 = field)).getLast?).map Prod.snd

/-- The calls after the last clearing. -/
def sinceClear (updates : List Update) : List Update :=
  updates.rtakeWhile fun
    | .set _ _ => true
    | .clear => false

/-- The fields that calls leave changed: those set since the last clearing, each where it was set
for the first time. -/
def changedNames (names : List String) (updates : List Update) : List String :=
  ((settings names (sinceClear updates)).map Prod.fst).eraseDups

variable {names : List String} {updates : List Update} {field : String} {value : FieldValue}

/-- The settings among calls that follow one another follow one another. -/
theorem settings_append (names : List String) (updates more : List Update) :
    settings names (updates ++ more) = settings names updates ++ settings names more :=
  List.filterMap_append

/-- A call that sets a declared field counts. -/
theorem settings_declared (declared : field ∈ names) :
    settings names [.set field value] = [(field, value)] := by
  simp [settings, declared]

/-- A call that sets another field does not count. -/
theorem settings_undeclared (undeclared : field ∉ names) :
    settings names [.set field value] = [] := by
  simp [settings, undeclared]

/-- A call to set a field is one since the last clearing. -/
theorem sinceClear_append_set (updates : List Update) (field : String) (value : FieldValue) :
    sinceClear (updates ++ [.set field value]) = sinceClear updates ++ [.set field value] :=
  List.rtakeWhile_concat_pos _ _ _ rfl

/-- After a clearing no call is left to remember. -/
theorem sinceClear_append_clear (updates : List Update) :
    sinceClear (updates ++ [.clear]) = [] :=
  List.rtakeWhile_concat_neg _ _ _ Bool.false_ne_true

/-- A setting is the last one of its field, and does not matter for others. -/
theorem lastSetting?_declared (declared : field ∈ names) (other : String) :
    lastSetting? names (updates ++ [.set field value]) other =
      if field = other then some value else lastSetting? names updates other := by
  rw [lastSetting?, settings_append, settings_declared declared, List.filter_append]
  by_cases h : field = other
  · simp [h]
  · simp [h, lastSetting?]

/-- A name is remembered where it comes first. -/
theorem eraseDups_append_singleton (earlier : List String) (name : String) :
    (earlier ++ [name]).eraseDups =
      if name ∈ earlier.eraseDups then earlier.eraseDups else earlier.eraseDups ++ [name] := by
  rw [List.eraseDups_append]
  simp only [List.mem_eraseDups]
  by_cases h : name ∈ earlier
  · simp [List.removeAll, h]
  · simp [List.removeAll, h, List.eraseDups_cons]

namespace Instance

variable {origin object : Instance}

/-! ## One call after the other -/

/-- Whether an instance holds and remembers what calls have left of the one that it was. -/
structure Recalls (names : List String) (origin : Instance) (updates : List Update)
    (object : Instance) : Prop where
  value : ∀ field, object.get? field = (lastSetting? names updates field).or (origin.get? field)
  changed : object.changed = changedNames names updates
  nodup : object.changed.Nodup

/-- A fresh instance recalls that there were no calls. -/
theorem Fresh.recalls (fresh : object.Fresh) (names : List String) :
    Recalls names object [] object where
  value _ := rfl
  changed := fresh.unchanged
  nodup := by simp [fresh.unchanged]

/-- A clearing forgets which fields changed and keeps what they hold. -/
theorem Recalls.update_clear (recalls : Recalls names origin updates object) :
    Recalls names origin (updates ++ [.clear]) (object.update .clear) where
  value field := by
    have hsettings : settings names (updates ++ [.clear]) = settings names updates := by
      rw [settings_append]
      exact List.append_nil _
    rw [lastSetting?, hsettings]
    exact recalls.value field
  changed := by
    rw [changedNames, sinceClear_append_clear]
    rfl
  nodup := List.nodup_nil

/-- A field that is not declared is not set. -/
theorem Recalls.update_undeclared (recalls : Recalls names origin updates object)
    (undeclared : field ∉ names) (unchanged : object.update (.set field value) = object) :
    Recalls names origin (updates ++ [.set field value]) (object.update (.set field value)) := by
  have hsettings : ∀ earlier, settings names (earlier ++ [.set field value]) =
      settings names earlier := by
    intro earlier
    rw [settings_append, settings_undeclared undeclared, List.append_nil]
  rw [unchanged]
  refine ⟨fun other => ?_, ?_, recalls.nodup⟩
  · rw [lastSetting?, hsettings]
    exact recalls.value other
  · rw [changedNames, sinceClear_append_set, hsettings]
    exact recalls.changed

/-- A declared field holds its new value, and is remembered behind those that changed before. -/
theorem Recalls.update_declared (recalls : Recalls names origin updates object)
    (declared : field ∈ names) (changed : object.update (.set field value) =
      { object with
        values := Table.set field value object.values
        changed := if field ∈ object.changed then object.changed else object.changed ++ [field] }) :
    Recalls names origin (updates ++ [.set field value]) (object.update (.set field value)) := by
  rw [changed]
  refine ⟨fun other => ?_, ?_, ?_⟩
  · rw [get?, Table.get?_set, lastSetting?_declared declared]
    by_cases h : field = other
    · rw [if_pos h, if_pos h, Option.some_or]
    · rw [if_neg h, if_neg h]
      exact recalls.value other
  -- The instance looks for the field among those that changed, and the record drops repetitions.
  · have hnames : (settings names (sinceClear updates ++ [.set field value])).map Prod.fst =
        (settings names (sinceClear updates)).map Prod.fst ++ [field] := by
      rw [settings_append, settings_declared declared, List.map_append]
      rfl
    rw [changedNames, sinceClear_append_set, hnames, eraseDups_append_singleton]
    rw [recalls.changed, changedNames]
  · dsimp only
    split
    · exact recalls.nodup
    · rename_i hnew
      simpa [List.nodup_append] using ⟨recalls.nodup, fun _ hname heq => hnew (heq ▸ hname)⟩

/-- Each call is recalled. -/
theorem Recalls.update {type : ObjectType} (tracks : Tracks type updates object)
    (recalls : Recalls (type.fields.map (·.label)) origin updates object) (update : Update) :
    Recalls (type.fields.map (·.label)) origin (updates ++ [update]) (object.update update) := by
  cases update with
  | clear => exact recalls.update_clear
  | set field value =>
    have hupdate := tracks.update_set field value
    by_cases declared : field ∈ type.fields.map (·.label)
    · exact recalls.update_declared declared (hupdate.trans (if_pos declared))
    · exact recalls.update_undeclared declared (hupdate.trans (if_neg declared))

/-- Every row of calls is recalled. -/
theorem Fresh.recalls_run (fresh : object.Fresh) (updates : List Update) :
    Recalls (object.type.fields.map (·.label)) object updates (object.run updates) := by
  induction updates using List.reverseRecOn with
  | nil => exact fresh.recalls _
  | append_singleton updates update ih =>
    have htracks := fresh.tracks_run updates
    rw [run, List.foldl_append]
    exact ih.update htracks update

/-- A call to set a field succeeds exactly if the field is declared. -/
theorem Tracks.set_eq {type : ObjectType} (tracks : Tracks type updates object) (field : String)
    (value : FieldValue) :
    (field ∈ type.fields.map (·.label) → ∃ next, object.set field value = .ok next) ∧
    (field ∉ type.fields.map (·.label) → object.set field value = .error ⟨type.name, field⟩) := by
  rw [set, tracks.type_eq]
  exact ⟨fun declared => ⟨_, if_pos (tracks.has_iff.mpr declared)⟩,
    fun undeclared => if_neg fun h => undeclared (tracks.has_iff.mp h)⟩

end Instance

/-! ## Instances before any call -/

/-- Whether an instance is the value of a field, or one of its items at any depth. -/
inductive FieldValue.Holds (object : Instance) : FieldValue → Prop
  | object : FieldValue.Holds object (.object object)
  | item {items : List FieldValue} {item : FieldValue} (mem : item ∈ items)
      (holds : FieldValue.Holds object item) : FieldValue.Holds object (.list items)

/-- The instances that there are before any call: new ones, those that a value or a reply is decoded
to, and those inside of them. -/
inductive Instance.Made : Instance → Prop
  | new (type : ObjectType) : Instance.Made (.new type)
  | instantiated {registry : Registry} {base : ObjectType} {value : Json} {object : Instance}
      (read : registry.instantiate base value = .ok object) : Instance.Made object
  | decoded {registry : Registry} {payload : Json} {results : Results}
      {group : String × List Instance} {object : Instance}
      (decoded : registry.decode payload = .ok results) (mem : group ∈ results.groups)
      (object_mem : object ∈ group.2) : Instance.Made object
  | inside {outer object : Instance} {field : String} {held : FieldValue}
      (made : Instance.Made outer) (get : outer.get? field = some held)
      (holds : held.Holds object) : Instance.Made object

/-- What a reply is decoded to is read from values. -/
theorem Registry.exists_instantiate_of_decode {registry : Registry} {payload : Json}
    {results : Results} (decoded : registry.decode payload = .ok results)
    {group : String × List Instance} (mem : group ∈ results.groups) {object : Instance}
    (object_mem : object ∈ group.2) :
    ∃ base value, registry.instantiate base value = .ok object := by
  cases payload with
  | object members =>
    obtain ⟨payload, -, -, data⟩ := Registry.decode_object_eq_ok_iff.mp decoded
    generalize payload.data = data? at data
    generalize results.groups = groups at data mem
    cases data with
    | absent => cases mem
    | null => cases mem
    | roots read =>
      obtain ⟨entry, -, -, base, -, objects⟩ :=
        exists_left_of_mem (Registry.decodeRoots_eq_ok_iff.mp read) mem
      obtain ⟨value, -, read⟩ := exists_left_of_mem objects object_mem
      exact ⟨base, value, read⟩
  | _ => cases decoded

/-- What is inside of an instance that is read is read from a value, too. -/
theorem Registry.exists_instantiate_of_holds {registry : Registry} {base : ObjectType}
    {value : Json} {outer object : Instance} (read : registry.instantiate base value = .ok outer)
    {field : String} {held : FieldValue} (get : outer.get? field = some held)
    (holds : held.Holds object) : ∃ base value, registry.instantiate base value = .ok object := by
  obtain ⟨members, -, -, fields, -⟩ := Registry.instantiate_eq_ok_iff.mp read
  obtain ⟨declared, -, -, readField⟩ := exists_left_of_mem fields (Table.mem_of_get?_eq_some get)
  generalize Table.get? declared.wireQueryName members = value? at readField
  cases readField with
  -- A default is raw or unset, so there is nothing inside of it.
  | absent =>
    split at holds <;> cases holds
  | present reads =>
    cases reads with
    | null => cases holds
    | raw _ _ _ => cases holds
    | object _ _ _ read =>
      cases holds
      exact ⟨_, _, read⟩
    | list _ _ _ items =>
      cases holds with
      | item mem holds =>
        obtain ⟨item, -, readItem⟩ := exists_left_of_mem items mem
        cases readItem with
        | null => cases holds
        | object read =>
          cases holds
          exact ⟨_, _, read⟩

namespace Instance

variable {object : Instance}

/-- An instance before any call is new, or read from a value. -/
theorem Made.new_or_read (made : object.Made) :
    (∃ type, object = .new type) ∨
      ∃ registry : Registry, ∃ base value, registry.instantiate base value = .ok object := by
  induction made with
  | new type => exact .inl ⟨type, rfl⟩
  | instantiated read => exact .inr ⟨_, _, _, read⟩
  | decoded decoded mem object_mem =>
    exact .inr ⟨_, Registry.exists_instantiate_of_decode decoded mem object_mem⟩
  | inside _ get holds ih =>
    rcases ih with ⟨type, rfl⟩ | ⟨registry, base, value, read⟩
    · -- All fields of a new instance are unset.
      obtain ⟨declared, -, heq⟩ := List.mem_map.mp (Table.mem_of_get?_eq_some get)
      obtain ⟨-, rfl⟩ := Prod.mk.inj heq
      cases holds
    · exact .inr ⟨registry, Registry.exists_instantiate_of_holds read get holds⟩

/-- An instance before any call is fresh. -/
theorem Made.fresh (made : object.Made) : object.Fresh := by
  rcases made.new_or_read with ⟨type, rfl⟩ | ⟨registry, base, value, read⟩
  · exact fresh_new type
  · exact fresh_of_instantiate read

/-! ## As a reply holds it -/

/-- The members that an instance has for declared fields: one for each field that is not unset,
under its wire name, with its value written. -/
inductive Written (object : Instance) : List FieldDeclaration → List (String × Json) → Prop
  | nil : Written object [] []
  | unset {declared : FieldDeclaration} {fields : List FieldDeclaration}
      {members : List (String × Json)} (get : object.get? declared.name = some .unset)
      (rest : Written object fields members) : Written object (declared :: fields) members
  | set {declared : FieldDeclaration} {fields : List FieldDeclaration}
      {members : List (String × Json)} {value : FieldValue} {json : Json}
      (get : object.get? declared.name = some value) (written : value.toJson? = some json)
      (rest : Written object fields members) :
      Written object (declared :: fields) ((declared.wireName, json) :: members)

/-- What is written of fields that all hold a value is what these fields say one by one. -/
theorem written_filterMap {fields : List FieldDeclaration}
    (held : ∀ declared ∈ fields, ∃ value, object.get? declared.name = some value) :
    Written object fields (fields.filterMap fun declared =>
      ((object.get? declared.name).bind (·.toJson?)).map (declared.wireName, ·)) := by
  induction fields with
  | nil => exact .nil
  | cons declared rest ih =>
    rw [List.forall_mem_cons] at held
    obtain ⟨⟨value, hvalue⟩, held⟩ := held
    cases hjson : value.toJson? with
    | none =>
      rw [List.filterMap_cons_none (by rw [hvalue, Option.bind_some, hjson]; rfl)]
      -- Nothing but an unset field is left out.
      cases value with
      | unset => exact .unset hvalue (ih held)
      | _ => simp [FieldValue.toJson?] at hjson
    | some json =>
      rw [List.filterMap_cons_some (by rw [hvalue, Option.bind_some, hjson]; rfl)]
      exact .set hvalue hjson (ih held)

/-- An instance of a built type is written with its typename and then with its fields, each under a
key of its own. -/
theorem exists_written {declaration : TypeDeclaration}
    (built : declaration.build = .ok object.type)
    (keys : Table.keys object.values = declaration.fields.map (·.name)) :
    ∃ members, object.toJson =
        .object ((discriminator, .string declaration.wireTypename) :: members) ∧
      Written object declaration.fields members ∧
      (discriminator :: Table.keys members).Nodup := by
  obtain ⟨-, separate, htype⟩ := TypeDeclaration.build_eq_ok_iff.mp built
  -- The wire names are distinct, so nothing that is written is overwritten.
  have hmembers : replyMembers object.type (replyValues object.values) =
      (discriminator, .string declaration.wireTypename) ::
        declaration.fields.filterMap fun declared =>
          ((object.get? declared.name).bind (·.toJson?)).map (declared.wireName, ·) := by
    have separate : SeparateFields object.type.fields := by rwa [htype]
    rw [replyMembers_eq separate, htype, TypeDeclaration.built, List.filterMap_map]
    simp only [join_get?_replyValues, Function.comp_def, FieldDeclaration.label_bound,
      FieldDeclaration.wireQueryName_bound]
    rfl
  refine ⟨_, (object.toJson_eq).trans (congrArg Json.object hmembers), ?_, ?_⟩
  · refine written_filterMap fun declared hdeclared => ?_
    rw [get?, ← Table.mem_keys_iff, keys]
    exact List.mem_map_of_mem hdeclared
  · -- The members are what their writes leave.
    have hnodup : (Table.keys (replyMembers object.type (replyValues object.values))).Nodup :=
      Table.nodup_keys_ofWrites _
    rwa [hmembers] at hnodup

/-- After any row of calls an instance of a built type has just the declared fields, in order. Each
holds what it was last set to, or else what it was made with, and the fields that were set since the
last clearing are remembered, each once, in the order in which they were first set. Setting a field
that is not declared fails and changes nothing. The instance is written with its typename and then
with every field that is not unset, in the order of declaration, under keys that are all
distinct. -/
theorem run_recalls {declaration : TypeDeclaration} (built : declaration.build = .ok object.type)
    (made : object.Made) (updates : List Update) :
    Table.keys (object.run updates).values = declaration.fields.map (·.name) ∧
    Recalls (declaration.fields.map (·.name)) object updates (object.run updates) ∧
    (∀ field value,
      (field ∈ declaration.fields.map (·.name) →
        ∃ next, (object.run updates).set field value = .ok next) ∧
      (field ∉ declaration.fields.map (·.name) →
        (object.run updates).set field value = .error ⟨declaration.name, field⟩ ∧
          (object.run updates).update (.set field value) = object.run updates)) ∧
    ∃ members, (object.run updates).toJson =
        .object ((discriminator, .string declaration.wireTypename) :: members) ∧
      Written (object.run updates) declaration.fields members ∧
      (discriminator :: Table.keys members).Nodup := by
  obtain ⟨-, -, htype⟩ := TypeDeclaration.build_eq_ok_iff.mp built
  have hnames : object.type.fields.map (·.label) = declaration.fields.map (·.name) := by
    simp [htype, TypeDeclaration.built, Function.comp_def]
  have tracks := made.fresh.tracks_run updates
  have recalls := made.fresh.recalls_run updates
  have hkeys := tracks.keys
  rw [hnames] at recalls hkeys
  refine ⟨hkeys, recalls, fun field value => ?_, ?_⟩
  -- The fields of an instance never change, so what can be set does not depend on the calls.
  · obtain ⟨hdeclared, hundeclared⟩ := tracks.set_eq field value
    rw [hnames] at hdeclared hundeclared
    refine ⟨hdeclared, fun undeclared => ?_⟩
    have herror := hundeclared undeclared
    have hname : object.type.name = declaration.name := by rw [htype]; rfl
    rw [hname] at herror
    exact ⟨herror, by rw [Instance.update, herror]⟩
  · exact exists_written (tracks.type_eq ▸ built) hkeys

/-- The atlas on the lone shelf. -/
def loneAtlas : Instance where
  type := Registry.libraryType "atlas"
  values := [("title", .unset), ("scale", .raw (.ofInt 5))]
  changed := []

/-- The lone shelf, decoded: its first book is missing, and its floor is the default. -/
def decodedShelf : Instance where
  type := Registry.libraryType "shelf"
  values := [("label", .raw .null), ("first", .unset),
    ("books", .list [.raw .null, .object loneAtlas]), ("floor", .raw (.ofInt 1))]
  changed := []

/-- The atlas stands in what the lone shelf is decoded to. -/
theorem loneAtlas_made : loneAtlas.Made := by
  have hdecoded : Registry.library.decode Registry.loneShelf =
      .ok ⟨[("shelves", [decodedShelf])]⟩ := rfl
  have made : decodedShelf.Made := .decoded hdecoded List.mem_cons_self List.mem_cons_self
  have hbooks : decodedShelf.get? "books" = some (.list [.raw .null, .object loneAtlas]) := rfl
  exact made.inside hbooks (.item (List.mem_cons_of_mem _ List.mem_cons_self) .object)

/-- The scale is set twice after a clearing, once before and once after the title is unset. It is
not found under the name that it has in replies. -/
def redrawings : List Update :=
  [.set "title" (.raw (.string "Alps")), .clear, .set "scale" (.raw (.ofInt 7)),
    .set "mapScale" (.raw .null), .set "title" .unset, .set "scale" (.raw (.ofInt 8))]

/-- The atlas holds the last scale and no title, and knows which one was set first. -/
theorem loneAtlas_recalls :
    Registry.libraryDocument.types[1].declaration.build = .ok loneAtlas.type ∧ loneAtlas.Made ∧
      (loneAtlas.run redrawings).get? "scale" = some (.raw (.ofInt 8)) ∧
      (loneAtlas.run redrawings).changed = ["scale", "title"] ∧
      (loneAtlas.run redrawings).set "mapScale" .unset = .error ⟨"atlas", "mapScale"⟩ ∧
      (loneAtlas.run redrawings).toJson =
        .object [("__typename", .string "Atlas"), ("mapScale", .ofInt 8)] := by
  have built : Registry.libraryDocument.types[1].declaration.build = .ok loneAtlas.type := rfl
  obtain ⟨-, recalls, sets, -⟩ := run_recalls built loneAtlas_made redrawings
  exact ⟨built, loneAtlas_made, recalls.value "scale", recalls.changed,
    ((sets "mapScale" .unset).2 (by decide)).1, rfl⟩

end Instance

end TypedQuery
