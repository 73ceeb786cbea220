import TypedQuery.Json.Record
import TypedQuery.Proofs.Json.Distinct

/-!
# Values that are written and read back

A reader and a writer meet in a predicate (`Retracts`): the reader gives only values that satisfy
it, and reads each of these back from what is written. Readers of lists inherit this from the
readers of their items (`Retracts.list`).

A record inherits it from its fields. Whatever its reader gives, each of its parts was given by the
reader of a field (`RecordFormat.exists_known`); and an object with some of the fields in the order
of their declaration is read field by field (`RecordFormat.read_object`).
-/

namespace TypedQuery

open Checked

namespace Json

variable {σ α : Type} {read : Reader α} {write : α → Json} {Good : α → Prop}

/-- A reader and a writer meet in a predicate. -/
structure Retracts (read : Reader α) (write : α → Json) (Good : α → Prop) : Prop where
  /-- The reader gives only values that satisfy it. -/
  gives : ∀ {draft : Draft} {value : α}, read draft = .ok value → Good value
  /-- A value that satisfies it is read back from what is written. -/
  back : ∀ {value : α}, Good value → read (Draft.ofJson (write value)) = .ok value
  /-- What is written for it holds every key once. -/
  distinct : ∀ {value : α}, Good value → (write value).hasDistinctKeys = true

/-- Values with distinct keys are read back as they are. -/
theorem retracts_readJson :
    Retracts Draft.readJson id fun value => value.hasDistinctKeys = true where
  gives h := value?_hasDistinctKeys (mapError_eq_ok.mp h)
  back h := readJson_ofJson h
  distinct h := h

/-- Naturals of 32 bits are read back as they are, and no other number is read as one. -/
theorem retracts_readWord :
    Retracts Draft.readWord (fun n : Nat => ofInt n) (· < Nat.pow 2 32) where
  gives {draft n} h := by
    cases draft with
    | number number =>
      cases number with
      | integer value =>
        rw [Draft.readWord] at h
        split at h
        · rename_i hword
          cases h
          omega
        · cases h
      | float _ => cases h
    | _ => cases h
  back {n} h := by
    have hword : (0 : Int) ≤ n ∧ (n : Int) < Nat.pow 2 32 := ⟨by omega, by exact_mod_cast h⟩
    show Draft.readWord (.number (.integer n)) = _
    rw [Draft.readWord, if_pos hword]
    rfl
  distinct _ := rfl

/-- Lists are written and read item by item. -/
theorem Retracts.list (items : Retracts read write Good) :
    Retracts (Draft.readList read) (fun values => .list (values.map write))
      fun values => ∀ value ∈ values, Good value where
  gives {draft values} h := by
    cases draft with
    | list drafts closing =>
      simp only [Draft.readList, bind_eq_ok, exists_unit, pure_eq_ok] at h
      obtain ⟨_, hread, -, rfl⟩ := h
      intro value hvalue
      obtain ⟨draft, -, h⟩ := exists_left_of_mem (mapM_eq_ok_iff.mp hread) hvalue
      exact items.gives h
    | _ => cases h
  back {values} h := by
    -- Nothing is left behind the items, so only the items have to be read.
    have hread : (Draft.ofItems (values.map write)).mapM read = .ok values := by
      rw [mapM_eq_ok_iff]
      induction values with
      | nil => exact .nil
      | cons value rest ih =>
        rw [List.forall_mem_cons] at h
        exact .cons (items.back h.1) (ih h.2)
    rw [Draft.ofJson, Draft.readList, hread]
    rfl
  distinct h := hasDistinctKeys_list_iff.mpr (List.forall_mem_map.mpr fun value hvalue =>
    items.distinct (h value hvalue))

/-- A value that is read in the place of an optional one is a value that the reader gives. -/
theorem Retracts.gives_of_optional (values : Retracts read write Good) {draft : Draft}
    {optional : Option α} (h : draft.readOptional read = .ok optional) :
    ∀ value ∈ optional, Good value := by
  have hread : ∀ draft : Draft, some <$> read draft = .ok optional →
      ∀ value ∈ optional, Good value := by
    intro draft h
    obtain ⟨_, hvalue, rfl⟩ := map_eq_ok.mp h
    rintro _ ⟨⟩
    exact values.gives hvalue
  cases draft with
  | null =>
    cases h
    simp
  | _ => exact hread _ h

/-- Only `null` is read as `null`. -/
theorem eq_null_of_value? {draft : Draft} (h : draft.value? = .ok .null) : draft = .null := by
  cases draft with
  | null => rfl
  | list items closing | object members closing =>
    obtain ⟨_, -, hread⟩ := bind_eq_ok.mp h
    split at hread <;> cases hread
  | _ => cases h

/-- Where a value may be missing, `null` is read as no value. -/
theorem readOptional_readJson_ne {draft : Draft} :
    draft.readOptional Draft.readJson ≠ .ok (some .null) := by
  have hread : ∀ draft : Draft, some <$> draft.readJson = .ok (some .null) → draft = .null := by
    intro draft h
    obtain ⟨_, hread, ⟨⟩⟩ := map_eq_ok.mp h
    exact eq_null_of_value? (mapError_eq_ok.mp hread)
  intro h
  cases draft with
  | null => cases h
  | _ => cases hread _ h

/-- A part that is required has to be there. -/
theorem required_eq_ok {name : String} {part : Option α} {value : α} :
    required name part = .ok value ↔ part = some value := by
  cases part <;> simp [required]

/-! ## Records -/

/-- The member of an object that is left out if it has no value. -/
def optionalMember (key : String) (value? : Option Json) : List (String × Json) :=
  value?.elim [] fun value => [(key, value)]

/-- A member that may be left out has no other key. -/
theorem keys_optionalMember_sublist {key : String} {value? : Option Json} :
    (Table.keys (optionalMember key value?)).Sublist [key] := by
  cases value? <;> simp [optionalMember, Table.keys]

/-- A member that is not left out holds the value. -/
theorem eq_of_mem_optionalMember {key : String} {value? : Option Json} {entry : String × Json}
    (h : entry ∈ optionalMember key value?) : value? = some entry.2 := by
  cases value? with
  | none => cases h
  | some value => rw [List.mem_singleton.mp h]

namespace RecordFormat

variable {format : RecordFormat σ α} {Known : σ → Prop}

/-- What every field keeps holds after the members of an object, unknown ones included. -/
theorem readMembers_known
    (put : ∀ {known next key draft}, Known known → format.put known key draft = .ok next →
      Known next)
    {members : List (String × Draft)} {seen : List String} {known next : σ} (h : Known known)
    (read : format.readMembers seen known members = .ok next) : Known next := by
  induction members generalizing seen known with
  | nil =>
    cases read
    exact h
  | cons member rest ih =>
    -- A member is a field of the record or is skipped, and either fails if its key was seen before.
    rw [readMembers] at read
    split at read
    · split at read
      · cases read
      · obtain ⟨_, hput, read⟩ := bind_eq_ok.mp read
        exact ih (put h hput) read
    · split at read
      · cases read
      · obtain ⟨_, -, read⟩ := bind_eq_ok.mp read
        exact ih h read

/-- What every field keeps holds after the items of a list, which are taken for the fields in
order. -/
theorem readItems_known
    (put : ∀ {known next key draft}, Known known → format.put known key draft = .ok next →
      Known next)
    {closing : Closing} {fields : List String} {items extra : List Draft} {position : Nat}
    {known next : σ} (h : Known known)
    (read : format.readItems closing position known fields items = .ok (next, extra)) :
    Known next := by
  induction fields generalizing items position known with
  | nil =>
    cases read
    exact h
  | cons field fields ih =>
    -- A list that is too short fails at a mandatory field and passes over the others.
    cases items with
    | nil =>
      rw [readItems] at read
      obtain ⟨_, -, read⟩ := bind_eq_ok.mp read
      split at read
      · cases read
      · exact ih h read
    | cons item items =>
      obtain ⟨_, hput, read⟩ := bind_eq_ok.mp read
      exact ih (put h hput) read

/-- What holds at the start of a record and is kept by every field holds of all that is known when
the record ends. -/
theorem exists_known (start : Known format.start)
    (put : ∀ {known next key draft}, Known known → format.put known key draft = .ok next →
      Known next)
    {origin : Origin} {draft : Draft} {record : α} (h : format.read origin draft = .ok record) :
    ∃ known, Known known ∧ format.finish known = .ok record := by
  cases draft with
  | object members closing =>
    simp only [read, bind_eq_ok] at h
    obtain ⟨known, hread, _, -, hfinish⟩ := h
    exact ⟨known, readMembers_known put start hread, hfinish⟩
  | list items closing =>
    simp only [read, bind_eq_ok, pure_eq_ok] at h
    obtain ⟨⟨known, extra⟩, hread, _, hfinish, _, -, rfl⟩ := h
    exact ⟨known, readItems_known put start hread, hfinish⟩
  | _ => cases h

/-- Reads members one after the other into the fields of a record. -/
def putMembers (format : RecordFormat σ α) (known : σ) (members : List (String × Json)) :
    Except ReadError σ :=
  members.foldlM (fun known member => format.put known member.1 (Draft.ofJson member.2)) known

/-- If all members are fields of a record and none is there twice, an object is read by putting one
member after the other. -/
theorem readMembers_eq_putMembers {members : List (String × Json)} {seen : List String} {known : σ}
    (fields : ∀ key ∈ Table.keys members, key ∈ format.fields)
    (distinct : (Table.keys members).Nodup) (fresh : ∀ key ∈ Table.keys members, key ∉ seen) :
    format.readMembers seen known (Draft.ofMembers members) = format.putMembers known members := by
  induction members generalizing seen known with
  | nil => rfl
  | cons member rest ih =>
    obtain ⟨key, value⟩ := member
    simp only [Table.keys, List.map_cons, List.nodup_cons, List.forall_mem_cons] at *
    -- The keys seen so far grow by the one that is read, and the rest does not have it.
    have hfresh : ∀ other ∈ rest.map Prod.fst, other ∉ key :: seen := by
      intro other hother hmem
      rcases List.mem_cons.mp hmem with rfl | hmem
      · exact distinct.1 hother
      · exact fresh.2 other hother hmem
    rw [Draft.ofMembers, readMembers, if_pos fields.1, if_neg fresh.1, putMembers, List.foldlM_cons]
    exact bind_congr fun next => ih fields.2 distinct.2 hfresh

/-- An object that holds some fields of a record in the order of their declaration is read field by
field. -/
theorem read_object {members : List (String × Json)} {origin : Origin}
    (distinct : format.fields.Nodup) (fields : (Table.keys members).Sublist format.fields) :
    format.read origin (Draft.ofJson (.object members)) =
      format.putMembers format.start members >>= format.finish := by
  rw [Draft.ofJson, read, readMembers_eq_putMembers (fun _ h => fields.subset h)
    (fields.nodup distinct) fun _ _ => List.not_mem_nil]
  rfl

/-- Members are put one after the other. -/
theorem putMembers_append {known next : σ} {members others : List (String × Json)}
    (h : format.putMembers known members = .ok next) :
    format.putMembers known (members ++ others) = format.putMembers next others := by
  rw [putMembers, List.foldlM_append]
  exact (congrArg (· >>= _) h).trans (ok_bind _ _)

/-- A member that may be left out is put if it is there, and changes nothing if it is not. -/
theorem putMembers_optionalMember {known next : σ} {key : String} {value? : Option Json}
    (absent : value? = none → known = next)
    (present : ∀ value ∈ value?, format.put known key (Draft.ofJson value) = .ok next) :
    format.putMembers known (optionalMember key value?) = .ok next := by
  cases value? with
  | none => exact congrArg Except.ok (absent rfl)
  | some value => exact (bind_pure _).trans (present value rfl)

end RecordFormat

end Json

end TypedQuery
