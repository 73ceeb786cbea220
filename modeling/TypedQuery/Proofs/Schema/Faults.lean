import TypedQuery.Proofs.Schema.Building

/-!
# The first fault of a declaration

What can be wrong with a field of a declaration is said by `FieldDeclaration.Fault`, from what the
declaration gives for it and for the fields before it: something is bound to it already, a name of
it is reserved, or it has a name in common with an earlier field. These are looked for in this
order, and each has its own error.

Building goes through the fields from left to right and stops at the first one with a fault
(`foldlM_addField_eq_error_iff`). So a type is built exactly when no field has one, which is to say
that names and wire names are distinct and not reserved (`build_outcome_iff`).
-/

namespace TypedQuery

open Checked

namespace FieldDeclaration

/-- What is wrong with a field after some others, by the error of it. Only an unbound field can have
a name that is reserved or taken, and a field with a reserved name is not compared with others. -/
inductive Fault (typeName : String) (earlier : List FieldDeclaration)
    (declared : FieldDeclaration) : DeclarationError → Prop
  | nameBound (bound : declared.field.name ≠ none) :
      Fault typeName earlier declared (.fieldAlreadyBound declared.name .name)
  | typeBound (unnamed : declared.field.name = none) (bound : declared.field.typeBound = true) :
      Fault typeName earlier declared (.fieldAlreadyBound declared.name .type)
  | reserved (unbound : declared.Unbound)
      (reserved : declared.name = discriminator ∨ declared.wireName = discriminator) :
      Fault typeName earlier declared (.reservedFieldName typeName declared.name)
  | taken (unbound : declared.Unbound)
      (free : ¬ (declared.name = discriminator ∨ declared.wireName = discriminator))
      (taken : ∃ other ∈ earlier, other.name = declared.name ∨ other.wireName = declared.wireName) :
      Fault typeName earlier declared (.duplicateField typeName declared.name)

/-- Whether no field of a row has a fault after the ones before it. -/
def Faultless (typeName : String) (fields : List FieldDeclaration) : Prop :=
  ∀ earlier declared later, fields = earlier ++ declared :: later →
    ∀ error, ¬ declared.Fault typeName earlier error

/-- Fields that can be declared together: nothing is bound to them, names and wire names tell them
apart, and none of these is the discriminator. -/
structure Consistent (fields : List FieldDeclaration) : Prop where
  unbound : ∀ declared ∈ fields, declared.Unbound
  names : (fields.map (·.name)).Nodup
  wireNames : (fields.map (·.wireName)).Nodup
  name_ne : ∀ declared ∈ fields, declared.name ≠ discriminator
  wireName_ne : ∀ declared ∈ fields, declared.wireName ≠ discriminator

/-- What a declared field is in its type: bound, found under its own name, and with the options of
the declaration. A wire name that was not chosen is its own name. -/
structure StandsIn (type : ObjectType) (declared : FieldDeclaration) (field : Field) : Prop where
  isBound : field.isBound = true
  name : field.name = some declared.name
  found : type.field? declared.name = some field
  queryName : field.queryName = some declared.wireName
  mutateName : field.mutateName = some (declared.field.mutateName.getD declared.name)
  default : field.default = declared.field.default
  mutable : field.mutable = declared.field.mutable
  transform : field.transform = declared.field.transform

/-- Fields can be declared together just if they are unbound and, when bound, separate. -/
theorem consistent_iff {fields : List FieldDeclaration} :
    Consistent fields ↔ (∀ declared ∈ fields, declared.Unbound) ∧
      SeparateFields (fields.map bound) := by
  rw [separateFields_bound_iff]
  constructor
  · rintro ⟨unbound, names, wireNames, name_ne, wireName_ne⟩
    exact ⟨unbound, names, wireNames, name_ne, wireName_ne⟩
  · rintro ⟨unbound, names, wireNames, name_ne, wireName_ne⟩
    exact ⟨unbound, names, wireNames, name_ne, wireName_ne⟩

end FieldDeclaration

namespace TypeDeclaration

open FieldDeclaration

variable {typeName : String} {earlier fields : List FieldDeclaration} {declared : FieldDeclaration}
  {error : DeclarationError}

/-! ## One field -/

/-- An unbound field is added or refused for its names alone. -/
theorem addField_eq_of_unbound (unbound : declared.Unbound) :
    addField typeName (earlier.map bound) declared =
      if declared.name = discriminator ∨ declared.wireName = discriminator then
        .error (.reservedFieldName typeName declared.name)
      else if earlier.any (·.wireName = declared.wireName) then
        .error (.duplicateField typeName declared.name)
      else if earlier.any (·.name = declared.name) then
        .error (.duplicateField typeName declared.name)
      else .ok ((earlier ++ [declared]).map bound) := by
  have hbind : declared.bind = .ok declared.bound := bind_eq_ok_iff.mpr ⟨unbound, rfl⟩
  rw [addField_eq, hbind, ok_bind]
  simp only [wireQueryName_bound, List.any_map, Function.comp_def, label_bound, List.map_append]
  rfl

/-- A field that is not unbound is refused whatever its names are. -/
theorem addField_eq_error_of_bound (bound : ¬ declared.Unbound) :
    addField typeName (earlier.map FieldDeclaration.bound) declared = .error error ↔
      declared.Fault typeName earlier error := by
  have hbind : ∀ field, declared.bind ≠ .ok field :=
    fun field h => bound (bind_eq_ok_iff.mp h).1
  rw [addField_eq, bind_eq_error, bind_eq_error_iff]
  constructor
  · rintro ((⟨hname, rfl⟩ | ⟨hname, htype, rfl⟩) | ⟨field, h, -⟩)
    · exact .nameBound hname
    · exact .typeBound hname htype
    · exact absurd h (hbind field)
  · rintro (hname | ⟨hname, htype⟩ | ⟨unbound, -⟩ | ⟨unbound, -, -⟩)
    · exact .inl (.inl ⟨hname, rfl⟩)
    · exact .inl (.inr ⟨hname, htype, rfl⟩)
    · exact absurd unbound bound
    · exact absurd unbound bound

/-- A field is refused with the error of its fault, and only if it has one. -/
theorem addField_eq_error_iff :
    addField typeName (earlier.map bound) declared = .error error ↔
      declared.Fault typeName earlier error := by
  by_cases unbound : declared.Unbound
  · rw [addField_eq_of_unbound unbound]
    constructor
    · intro h
      -- Reserved names are looked at first, then wire names, then names.
      split_ifs at h with hreserved hwire hname
      · obtain rfl := Except.error.inj h
        exact .reserved unbound hreserved
      · obtain rfl := Except.error.inj h
        obtain ⟨other, hother, hsame⟩ := List.any_eq_true.mp hwire
        exact .taken unbound hreserved ⟨other, hother, .inr (of_decide_eq_true hsame)⟩
      · obtain rfl := Except.error.inj h
        obtain ⟨other, hother, hsame⟩ := List.any_eq_true.mp hname
        exact .taken unbound hreserved ⟨other, hother, .inl (of_decide_eq_true hsame)⟩
    · rintro (hname | ⟨-, htype⟩ | ⟨-, hreserved⟩ | ⟨-, hfree, other, hother, hsame⟩)
      · exact absurd unbound.1 hname
      · rw [unbound.2] at htype
        cases htype
      · rw [if_pos hreserved]
      · rw [if_neg hfree]
        split_ifs with hwire hname
        · rfl
        · rfl
        · -- Neither name is taken, but one of them is.
          simp only [List.any_eq_true, decide_eq_true_eq, not_exists, not_and] at hwire hname
          exact hsame.elim (absurd · (hname other hother)) (absurd · (hwire other hother))
  · exact addField_eq_error_of_bound unbound

/-! ## All fields -/

/-- Fields are added one after the other exactly when they can be declared together. -/
theorem foldlM_addField_iff_consistent {all : List Field} :
    fields.foldlM (addField typeName) [] = .ok all ↔
      Consistent fields ∧ all = fields.map bound := by
  rw [foldlM_addField_eq_ok_iff .nil, consistent_iff, List.nil_append, and_assoc]

/-- The fields are refused for the first one that has a fault. -/
theorem foldlM_addField_eq_error_iff :
    fields.foldlM (addField typeName) [] = .error error ↔
      ∃ before declared after, fields = before ++ declared :: after ∧
        Consistent before ∧ declared.Fault typeName before error := by
  rw [foldlM_eq_error_iff]
  constructor
  · rintro ⟨before, declared, after, reached, hsplit, hbefore, h⟩
    obtain ⟨consistent, rfl⟩ := foldlM_addField_iff_consistent.mp hbefore
    exact ⟨before, declared, after, hsplit, consistent, addField_eq_error_iff.mp h⟩
  · rintro ⟨before, declared, after, hsplit, consistent, fault⟩
    exact ⟨before, declared, after, before.map bound, hsplit,
      foldlM_addField_iff_consistent.mpr ⟨consistent, rfl⟩, addField_eq_error_iff.mpr fault⟩

/-- No field has a fault exactly when all can be declared together. -/
theorem faultless_iff_consistent : Faultless typeName fields ↔ Consistent fields := by
  constructor
  · intro faultless
    cases h : fields.foldlM (addField typeName) [] with
    | ok all => exact (foldlM_addField_iff_consistent.mp h).1
    | error error =>
      obtain ⟨before, declared, after, hsplit, -, fault⟩ := foldlM_addField_eq_error_iff.mp h
      exact absurd fault (faultless before declared after hsplit error)
  · rintro consistent before declared after rfl error fault
    have hok : (before ++ declared :: after).foldlM (addField typeName) [] = .ok _ :=
      foldlM_addField_iff_consistent.mpr ⟨consistent, rfl⟩
    -- The fields before the faulty one can be declared together as well, so the fold comes to it.
    have hbefore : Consistent before := by
      rw [consistent_iff] at consistent ⊢
      refine ⟨fun other h => consistent.1 other (List.mem_append_left _ h), ?_⟩
      exact consistent.2.sublist ((List.sublist_append_left _ _).map _)
    rw [foldlM_addField_eq_error_iff.mpr ⟨before, declared, after, rfl, hbefore, fault⟩] at hok
    cases hok

/-! ## Types -/

/-- A declared field stands in a type as it is bound. -/
theorem standsIn_bound {type : ObjectType} (separate : SeparateFields type.fields)
    (mem : declared.bound ∈ type.fields) : declared.StandsIn type declared.bound := by
  have hfound := separate.field?_eq mem
  rw [label_bound] at hfound
  obtain ⟨hmutate, hdefault, hmutable, htransform⟩ :=
    (declared.field.withName declared.name).withType_options declared.type
  have hname : declared.bound.name = some declared.name := Field.withType_name _ _
  have htyped : declared.bound.typeBound = true := Field.withType_typeBound _ _
  exact ⟨by rw [FieldTraits.isBound, hname, htyped]; rfl, hname, hfound,
    Field.withType_queryName _ _, hmutate, hdefault, hmutable, htransform⟩

/-- A type is built exactly when its fields can be declared together, and then it has just these
fields, in order, each bound and with its options. It is refused with an error exactly when this is
the error of the first field that has a fault. -/
theorem build_outcome_iff (declaration : TypeDeclaration) :
    ((∃ type, declaration.build = .ok type) ↔ Consistent declaration.fields) ∧
    (∀ type, declaration.build = .ok type →
      List.Forall₂ (StandsIn type) declaration.fields type.fields) ∧
    ∀ error, declaration.build = .error error ↔
      ∃ before declared after, declaration.fields = before ++ declared :: after ∧
        Faultless declaration.name before ∧ declared.Fault declaration.name before error := by
  refine ⟨?_, fun type hbuild => ?_, fun error => ?_⟩
  · simp only [build_eq_ok_iff, exists_and_left, exists_eq, and_true, consistent_iff]
  · obtain ⟨-, separate, rfl⟩ := build_eq_ok_iff.mp hbuild
    rw [built, List.forall₂_map_right_iff, List.forall₂_same]
    exact fun declared hdeclared => standsIn_bound separate (List.mem_map_of_mem hdeclared)
  · simp only [faultless_iff_consistent, ← foldlM_addField_eq_error_iff]
    rw [build, bind_eq_error]
    refine or_iff_left ?_
    -- Once all fields are added, the type is there.
    rintro ⟨_, -, h⟩
    cases h

/-- The second field is the first with a fault: its wire name is the name of the first one. -/
example : build { name := "Book", fields :=
      [{ name := "title" }, { name := "heading", field := { queryName := some "title" } },
        { name := "__typename" }] } = .error (.duplicateField "Book" "heading") := rfl

end TypeDeclaration

end TypedQuery
