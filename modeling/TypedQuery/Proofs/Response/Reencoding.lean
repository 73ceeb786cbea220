import TypedQuery.Proofs.Json.Retract
import TypedQuery.Proofs.Response.Decoding

/-!
# Payloads that are written and read again

A payload has several written forms: a part that is `null` is read like one that is left out, and
unknown keys are dropped. Writing keeps one form of each payload, and reading gives that payload
back. So whatever a registry makes of a value it makes of what is written for its payload, reported
errors included (`Payload.decode_toJson`).

Locations, errors and payloads are each read back from what is written for them (`retracts`), the
first as records of numbers and the others as records of lists of the one before.
-/

namespace TypedQuery

open Checked Json

/-! ## Locations -/

/-- Both parts of a location are naturals of 32 bits. -/
structure Location.Readable (location : Location) : Prop where
  line : location.line < Nat.pow 2 32
  column : location.column < Nat.pow 2 32

namespace Location

/-- What is known of a location while it is read. -/
structure KnownParts (parts : Option Nat × Option Nat) : Prop where
  line : ∀ line ∈ parts.1, line < Nat.pow 2 32
  column : ∀ column ∈ parts.2, column < Nat.pow 2 32

/-- Each member that is read for a location keeps the parts known so far within 32 bits. -/
theorem KnownParts.put {parts next : Option Nat × Option Nat} {key : String} {draft : Draft}
    (known : KnownParts parts) (h : format.put parts key draft = .ok next) : KnownParts next := by
  simp only [format] at h
  split at h
  -- The members of a location are its line, its column, and unknown ones.
  · obtain ⟨line, hread, hnext⟩ := bind_eq_ok.mp h
    cases hnext
    exact ⟨by simpa using retracts_readWord.gives hread, known.column⟩
  · obtain ⟨column, hread, hnext⟩ := bind_eq_ok.mp h
    cases hnext
    exact ⟨known.line, by simpa using retracts_readWord.gives hread⟩
  · cases h
    exact known

/-- A location is read back from what is written for it, and what is read is always within 32
bits. -/
theorem retracts : Retracts (format.read .value) toJson Readable where
  gives {draft location} h := by
    obtain ⟨parts, known, hfinish⟩ := RecordFormat.exists_known
      (show KnownParts (none, none) from ⟨by simp, by simp⟩) KnownParts.put h
    simp only [format, bind_eq_ok, required_eq_ok, pure_eq_ok] at hfinish
    obtain ⟨line, hline, column, hcolumn, rfl⟩ := hfinish
    exact ⟨known.line line hline, known.column column hcolumn⟩
  back {location} h := by
    rw [toJson, RecordFormat.read_object (by decide) (.refl _)]
    simp only [RecordFormat.putMembers, List.foldlM_cons, format, retracts_readWord.back h.line,
      retracts_readWord.back h.column, ok_bind]
    rfl
  distinct _ := rfl

end Location

/-! ## Errors -/

/-- The locations of an error can be read, and the items of its path have distinct keys. -/
structure RemoteError.Readable (error : RemoteError) : Prop where
  locations : ∀ location ∈ error.locations, location.Readable
  path : ∀ path ∈ error.path, ∀ item ∈ path, item.hasDistinctKeys = true

namespace RemoteError

/-- The members of an error. -/
def members (error : RemoteError) : List (String × Json) :=
  ("message", .string error.message) ::
    (optionalMember "locations"
      (if error.locations.isEmpty then none
        else some (.list (error.locations.map Location.toJson))) ++
    optionalMember "path" (error.path.map .list))

/-- An error is written as the object of its members. -/
theorem toJson_eq (error : RemoteError) : error.toJson = .object error.members := by
  obtain ⟨message, locations, path⟩ := error
  cases locations <;> cases path <;> rfl

/-- An error has at most its three members, in their order, so their keys are distinct. -/
theorem keys_members_sublist (error : RemoteError) :
    (Table.keys error.members).Sublist ["message", "locations", "path"] := by
  simp only [members, Table.keys, List.map_cons, List.map_append]
  exact (keys_optionalMember_sublist.append keys_optionalMember_sublist).cons_cons _

theorem put_locations {parts : Parts} {draft : Draft} :
    (format .value).put parts "locations" draft =
      (fun locations => { parts with locations }) <$>
        draft.readOptional (Draft.readList (Location.format.read .value)) := rfl

theorem put_path {parts : Parts} {draft : Draft} :
    (format .value).put parts "path" draft =
      (fun path => { parts with path }) <$>
        draft.readOptional (Draft.readList Draft.readJson) := rfl

/-- Reading the members of an error gives its parts back. An empty list of locations is not written,
and not found. -/
theorem putMembers_members {error : RemoteError} (h : error.Readable) :
    (format .value).putMembers {} error.members = .ok {
      message := some error.message
      locations := if error.locations.isEmpty then none else some error.locations
      path := error.path } := by
  obtain ⟨message, locations, path⟩ := error
  -- One member after the other is read into the parts that are known by then. The path comes last,
  -- so it is read into whatever parts the locations leave.
  have hmessage : (format .value).putMembers {} [("message", .string message)] =
      .ok { message := some message } := rfl
  have hlocations : (format .value).putMembers { message := some message }
      (optionalMember "locations"
        (if locations.isEmpty then none else some (.list (locations.map Location.toJson)))) =
      .ok {
        message := some message
        locations := if locations.isEmpty then none else some locations } := by
    cases locations with
    | nil => rfl
    | cons location rest =>
      refine RecordFormat.putMembers_optionalMember (by simp) ?_
      rintro _ ⟨⟩
      rw [put_locations]
      show _ <$> some <$> Draft.readList _ _ = _
      rw [Location.retracts.list.back h.locations]
      rfl
  have hpath : ∀ parts : Parts, parts.path = none → (format .value).putMembers parts
      (optionalMember "path" (path.map .list)) = .ok { parts with path } := by
    rintro ⟨_, _, _⟩ ⟨⟩
    cases path with
    | none => rfl
    | some path =>
      refine RecordFormat.putMembers_optionalMember (by simp) ?_
      rintro _ ⟨⟩
      have hread := retracts_readJson.list.back (h.path path rfl)
      rw [List.map_id] at hread
      rw [put_path]
      show _ <$> some <$> Draft.readList _ _ = _
      rw [hread]
      rfl
  exact (RecordFormat.putMembers_append hmessage).trans
    ((RecordFormat.putMembers_append hlocations).trans (hpath _ rfl))

/-- What is known of an error while it is read. -/
structure Parts.Readable (parts : Parts) : Prop where
  locations : ∀ locations ∈ parts.locations, ∀ location ∈ locations, location.Readable
  path : ∀ path ∈ parts.path, ∀ item ∈ path, item.hasDistinctKeys = true

/-- Each member that is read for an error keeps its locations and its path readable. -/
theorem Parts.Readable.put {parts next : Parts} {key : String} {draft : Draft}
    (known : parts.Readable) (h : (format .value).put parts key draft = .ok next) :
    next.Readable := by
  simp only [format] at h
  split at h
  -- The message, the locations, the path and unknown members.
  · obtain ⟨message, -, hnext⟩ := bind_eq_ok.mp h
    cases hnext
    exact ⟨known.locations, known.path⟩
  · obtain ⟨locations, hread, hnext⟩ := bind_eq_ok.mp h
    cases hnext
    exact ⟨Location.retracts.list.gives_of_optional hread, known.path⟩
  · obtain ⟨path, hread, hnext⟩ := bind_eq_ok.mp h
    cases hnext
    exact ⟨known.locations, retracts_readJson.list.gives_of_optional hread⟩
  · cases h
    exact known

/-- An error is read back from what is written for it, and what is read has readable parts. -/
theorem retracts : Retracts ((format .value).read .value) toJson Readable where
  gives {draft error} h := by
    obtain ⟨parts, known, hfinish⟩ := RecordFormat.exists_known
      (show Parts.Readable {} from ⟨by simp, by simp⟩) Parts.Readable.put h
    simp only [format, bind_eq_ok, required_eq_ok, pure_eq_ok] at hfinish
    obtain ⟨message, hmessage, rfl⟩ := hfinish
    refine ⟨fun location hlocation => ?_, known.path⟩
    -- Locations that are left out are read as an empty list.
    cases hlocations : parts.locations with
    | none => simp [hlocations] at hlocation
    | some locations =>
      simp only [hlocations, Option.getD_some] at hlocation
      exact known.locations locations hlocations location hlocation
  back {error} h := by
    rw [toJson_eq, RecordFormat.read_object (by decide) (keys_members_sublist error)]
    refine (congrArg (· >>= _) (putMembers_members h)).trans ?_
    obtain ⟨message, locations, path⟩ := error
    cases locations <;> rfl
  distinct {error} h := by
    have hlocations := Location.retracts.list.distinct h.locations
    rw [toJson_eq]
    refine hasDistinctKeys_object_iff.mpr
      ⟨(keys_members_sublist error).nodup (by decide), List.forall_mem_cons.mpr ⟨rfl, ?_⟩⟩
    intro entry hentry
    -- What stands under the keys: locations, which are not written if there are none, and the path.
    rcases List.mem_append.mp hentry with hentry | hentry
    · have hvalue := eq_of_mem_optionalMember hentry
      split at hvalue
      · cases hvalue
      · rwa [← Option.some.inj hvalue]
    · obtain ⟨path, hpath, hvalue⟩ := Option.map_eq_some_iff.mp (eq_of_mem_optionalMember hentry)
      rw [← hvalue]
      exact hasDistinctKeys_list_iff.mpr (h.path path hpath)

end RemoteError

/-! ## Payloads -/

namespace Payload

/-- The data of a payload is not `null` and has distinct keys, and its errors can be read. These are
the payloads that are read from some value (`readable_iff`). -/
structure Readable (payload : Payload) : Prop where
  data : ∀ data ∈ payload.data, data ≠ .null ∧ data.hasDistinctKeys = true
  errors : ∀ errors ∈ payload.errors, ∀ error ∈ errors, error.Readable

/-- The members of a payload. -/
def members (payload : Payload) : List (String × Json) :=
  optionalMember "data" payload.data ++
    optionalMember "errors" (payload.errors.map fun errors =>
      .list (errors.map RemoteError.toJson))

/-- A payload is written as the object of its members. -/
theorem toJson_eq (payload : Payload) : payload.toJson = .object payload.members := by
  obtain ⟨data, errors⟩ := payload
  cases data <;> cases errors <;> rfl

/-- A payload has at most its two members, in their order. -/
theorem keys_members_sublist (payload : Payload) :
    (Table.keys payload.members).Sublist ["data", "errors"] := by
  simp only [members, Table.keys, List.map_append]
  exact keys_optionalMember_sublist.append keys_optionalMember_sublist

/-- Reading the members of a readable payload gives the payload back. -/
theorem putMembers_members {payload : Payload} (h : payload.Readable) :
    (format .value).putMembers {} payload.members = .ok payload := by
  obtain ⟨data, errors⟩ := payload
  have hdata : (format .value).putMembers {} (optionalMember "data" data) = .ok { data } := by
    refine RecordFormat.putMembers_optionalMember (by rintro rfl; rfl) fun value hvalue => ?_
    obtain ⟨nonnull, distinct⟩ := h.data value hvalue
    rw [put_data distinct, Option.mem_def.mp hvalue]
    -- If the data were `null`, it would be read as if it were left out.
    cases value with
    | null => exact absurd rfl nonnull
    | _ => rfl
  have herrors : (format .value).putMembers { data }
      (optionalMember "errors" (errors.map fun errors =>
        .list (errors.map RemoteError.toJson))) = .ok { data, errors } := by
    cases errors with
    | none => rfl
    | some errors =>
      refine RecordFormat.putMembers_optionalMember (by simp) ?_
      rintro _ ⟨⟩
      rw [put_errors]
      show _ <$> some <$> Draft.readList _ _ = _
      rw [RemoteError.retracts.list.back (h.errors errors rfl)]
      rfl
  exact (RecordFormat.putMembers_append hdata).trans herrors

/-- Each member that is read for a payload keeps it readable. -/
theorem Readable.put {payload next : Payload} {key : String} {draft : Draft}
    (known : payload.Readable) (h : (format .value).put payload key draft = .ok next) :
    next.Readable := by
  simp only [format] at h
  split at h
  · obtain ⟨data, hread, hnext⟩ := bind_eq_ok.mp h
    cases hnext
    refine ⟨fun value hvalue => ⟨?_, retracts_readJson.gives_of_optional hread value hvalue⟩,
      known.errors⟩
    -- Data that is `null` is read as none.
    rintro rfl
    cases hvalue
    exact readOptional_readJson_ne hread
  · obtain ⟨errors, hread, hnext⟩ := bind_eq_ok.mp h
    cases hnext
    exact ⟨known.data, RemoteError.retracts.list.gives_of_optional hread⟩
  · cases h
    exact known

/-- A payload is read back from what is written for it, and what is read is always readable. -/
theorem retracts : Retracts ((format .value).read .value) toJson Readable where
  gives {draft payload} h := by
    obtain ⟨known, readable, hfinish⟩ := RecordFormat.exists_known
      (show Readable {} from ⟨by simp, by simp⟩) Readable.put h
    cases hfinish
    exact readable
  back {payload} h := by
    rw [toJson_eq, RecordFormat.read_object (by decide) (keys_members_sublist payload)]
    exact congrArg (· >>= _) (putMembers_members h)
  distinct {payload} h := by
    rw [toJson_eq]
    refine hasDistinctKeys_object_iff.mpr
      ⟨(keys_members_sublist payload).nodup (by decide), ?_⟩
    intro entry hentry
    rcases List.mem_append.mp hentry with hentry | hentry
    · exact (h.data entry.2 (eq_of_mem_optionalMember hentry)).2
    · obtain ⟨errors, herrors, hvalue⟩ :=
        Option.map_eq_some_iff.mp (eq_of_mem_optionalMember hentry)
      rw [← hvalue]
      exact RemoteError.retracts.list.distinct (h.errors errors herrors)

/-- The payloads that are read from some value. -/
theorem readable_iff {payload : Payload} :
    payload.Readable ↔ ∃ value, ofJson value = .ok payload :=
  ⟨fun h => ⟨payload.toJson, retracts.back h⟩, fun ⟨_, h⟩ => retracts.gives h⟩

end Payload

namespace Registry

/-- A payload that reports errors is decoded to these errors. -/
theorem decode_eq_remote {value : Json} {payload : Payload} {errors : List RemoteError}
    {registry : Registry} (isObject : value.isObject = true)
    (read : Payload.ofJson value = .ok payload) (failed : payload.errors = some errors)
    (nonempty : errors ≠ []) :
    registry.decode value = .error (.remoteOperationFailed errors) := by
  cases value with
  | object members =>
    rw [decode_object_eq, read]
    cases errors with
    | nil => exact absurd rfl nonempty
    | cons error rest => simp [Except.mapError, failed]
  | _ => cases isObject

end Registry

namespace Payload

/-- A payload that is written is read back as it was, and every registry makes of it what it made
of the value that it was read from. -/
theorem decode_toJson {value : Json} {payload : Payload} (read : ofJson value = .ok payload) :
    ofJson payload.toJson = .ok payload ∧
      payload.toJson.hasDistinctKeys = true ∧
      ∀ registry : Registry, value.isObject = true →
        registry.decode payload.toJson = registry.decode value ∧
        ∀ errors ∈ payload.errors, errors ≠ [] →
          registry.decode payload.toJson = .error (.remoteOperationFailed errors) := by
  have readable : payload.Readable := readable_iff.mpr ⟨value, read⟩
  have hback : ofJson payload.toJson = .ok payload := retracts.back readable
  refine ⟨hback, retracts.distinct readable, fun registry hobject =>
    ⟨?_, fun errors herrors nonempty => ?_⟩⟩
  -- Decoding looks at a value only through the payload that is read from it.
  · cases value with
    | object members =>
      rw [Registry.decode_object_eq, read]
      show registry.decode (.object _) = _
      rw [Registry.decode_object_eq]
      show Except.mapError _ (ofJson payload.toJson) >>= _ = _
      rw [hback]
    | _ => cases hobject
  · exact Registry.decode_eq_remote rfl hback herrors nonempty

/-- A reply whose data is `null`, with an error for each form of its parts and with unknown keys. -/
def lostReply : Json :=
  .object [
    ("extensions", .object [("cost", .ofInt 3)]),
    ("errors", .list [
      .object [("path", .list [.string "shelf", .ofInt 0]), ("message", .string "gone"),
        ("locations", .null)],
      .object [("message", .string "late"), ("code", .ofInt 7), ("path", .null),
        ("locations", .list [.object [("column", .ofInt 2), ("line", .ofInt 1)]])],
      .object [("message", .string "odd"), ("locations", .list [])]]),
    ("data", .null)]

/-- The payload of the reply. -/
def lostPayload : Payload where
  errors := some [
    { message := "gone", path := some [.string "shelf", .ofInt 0] },
    { message := "late", locations := [⟨1, 2⟩] },
    { message := "odd" }]

/-- The payload of the reply is written without its unknown keys and with its `null` parts left out,
and is decoded to the same errors as the reply. -/
theorem lostReply_decode_toJson :
    ofJson lostReply = .ok lostPayload ∧ lostReply.isObject = true ∧
      ofJson lostPayload.toJson = .ok lostPayload ∧
      lostPayload.toJson.hasDistinctKeys = true ∧
      Registry.empty.decode lostPayload.toJson = Registry.empty.decode lostReply ∧
      Registry.empty.decode lostPayload.toJson =
        .error (.remoteOperationFailed (lostPayload.errors.getD [])) := by
  have read : ofJson lostReply = .ok lostPayload := rfl
  obtain ⟨back, distinct, same⟩ := decode_toJson read
  obtain ⟨decoded, remote⟩ := same Registry.empty rfl
  exact ⟨read, rfl, back, distinct, decoded, remote _ rfl (List.cons_ne_nil _ _)⟩

end Payload

end TypedQuery
