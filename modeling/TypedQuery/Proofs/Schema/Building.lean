import Mathlib.Data.List.Nodup
import TypedQuery.Proofs.Checked
import TypedQuery.Schema.ObjectType

/-!
# Bound fields and built types

Binding succeeds on a field to which nothing is bound, and what it makes of the field is a function
of the name and the declared type (`bind_eq_ok_iff`). A type is built exactly when all its fields
are unbound and the bound ones are separate: no label, no wire name twice, and none of them the
discriminator (`build_eq_ok_iff`).

`Field.Made` are the fields that there are: one begins without anything bound, and only options and
the two bindings change it. Such a field refuses objects only if its target is scalar
(`Made.acceptsObject_iff`).
-/

namespace TypedQuery

open Checked

/-! ## Binding -/

namespace Field

/-- A field under its name. A wire name that was not chosen is the name. -/
def withName (field : Field) (name : String) : Field :=
  { field with
    name := some name
    queryName := some (field.queryName.getD name)
    mutateName := some (field.mutateName.getD name) }

/-- A field with its declared type taken apart. -/
def withType (field : Field) (declared : DeclaredType) : Field :=
  match declared with
  | .list inner =>
    { field with target := inner.terminal, isCollection := true, typeBound := true }
  | .map inner =>
    { field with
      target := if inner.terminal = .scalar then .mapping else inner.terminal
      allowsMapping := true
      typeBound := true }
  | terminal => { field with target := terminal.terminal, typeBound := true }

/-- A name is bound just to a field to which nothing is bound. -/
theorem bindName_eq_ok_iff {field named : Field} {name : String} :
    field.bindName name = .ok named ↔
      field.name = none ∧ field.typeBound = false ∧ named = field.withName name := by
  rw [bindName]
  split
  · rename_i h
    simp [Option.isSome_iff_ne_none.mp h]
  · rename_i h
    rw [Bool.not_eq_true, Option.isSome_eq_false_iff, Option.isNone_iff_eq_none] at h
    cases hb : field.typeBound <;> simp [h, hb, withName, eq_comm]

/-- A type is bound just to a field to which none is bound. -/
theorem bindType_eq_ok_iff {field typed : Field} {declared : DeclaredType} :
    field.bindType declared = .ok typed ↔
      field.typeBound = false ∧ typed = field.withType declared := by
  cases hb : field.typeBound with
  | true => simp [bindType, hb]
  | false => cases declared <;> simp [bindType, hb, withType, eq_comm]

@[simp] theorem withType_name (field : Field) (declared : DeclaredType) :
    (field.withType declared).name = field.name := by
  cases declared <;> rfl

@[simp] theorem withType_queryName (field : Field) (declared : DeclaredType) :
    (field.withType declared).queryName = field.queryName := by
  cases declared <;> rfl

@[simp] theorem withType_typeBound (field : Field) (declared : DeclaredType) :
    (field.withType declared).typeBound = true := by
  cases declared <;> rfl

/-- The type of a field says nothing of its options. -/
theorem withType_options (field : Field) (declared : DeclaredType) :
    (field.withType declared).mutateName = field.mutateName ∧
      (field.withType declared).default = field.default ∧
      (field.withType declared).mutable = field.mutable ∧
      (field.withType declared).transform = field.transform := by
  cases declared <;> exact ⟨rfl, rfl, rfl, rfl⟩

/-- A field as options and bindings make it. -/
inductive Made : Field → Prop
  | new : Made {}
  /-- Options may be chosen at any time. -/
  | options {field : Field} (made : Made field) (queryName mutateName : Option String)
      (default : Option Json) (mutable : Bool)
      (transform : Option (FieldTraits → Json → Json)) :
      Made { field with queryName, mutateName, default, mutable, transform }
  | bindName {field named : Field} {name : String} (made : Made field)
      (bound : field.bindName name = .ok named) : Made named
  | bindType {field typed : Field} {declared : DeclaredType} (made : Made field)
      (bound : field.bindType declared = .ok typed) : Made typed

/-- What a field says of its type fits together. -/
structure TypeFits (field : Field) : Prop where
  unbound : field.typeBound = false →
    field.target = .scalar ∧ field.isCollection = false ∧ field.allowsMapping = false
  mapping : field.allowsMapping = true → field.target ≠ .scalar

/-- A type that is bound to a field without one fits. -/
theorem TypeFits.withType {field : Field} (fits : field.TypeFits)
    (unbound : field.typeBound = false) (declared : DeclaredType) :
    (field.withType declared).TypeFits := by
  obtain ⟨-, -, hmapping⟩ := fits.unbound unbound
  refine ⟨fun h => ?_, fun h => ?_⟩
  · rw [withType_typeBound] at h
    cases h
  · cases declared with
    | map inner =>
      -- A map of scalars is a mapping; of anything else it keeps the inner target.
      by_cases hinner : inner.terminal = .scalar <;> simp [Field.withType, hinner]
    | _ =>
      have hnone : field.allowsMapping = true := h
      rw [hmapping] at hnone
      cases hnone

/-- What a field says of its type fits together, however options and bindings made it. -/
theorem Made.typeFits {field : Field} (made : field.Made) : field.TypeFits := by
  induction made with
  | new => exact ⟨fun _ => ⟨rfl, rfl, rfl⟩, fun h => by cases h⟩
  | options _ _ _ _ _ _ ih => exact ⟨ih.unbound, ih.mapping⟩
  | bindName _ bound ih =>
    obtain ⟨-, -, rfl⟩ := bindName_eq_ok_iff.mp bound
    exact ⟨ih.unbound, ih.mapping⟩
  | bindType _ bound ih =>
    obtain ⟨unbound, rfl⟩ := bindType_eq_ok_iff.mp bound
    exact ih.withType unbound _

/-- A field takes objects exactly when its target is not scalar. -/
theorem TypeFits.acceptsObject_iff {field : Field} (fits : field.TypeFits) :
    field.acceptsObject = true ↔ field.target ≠ .scalar := by
  rw [FieldTraits.acceptsObject, Bool.or_eq_true, bne_iff_ne]
  exact ⟨fun h => h.elim fits.mapping id, .inr⟩

end Field

/-! ## Building -/

namespace FieldDeclaration

/-- Binds the field of a declaration. -/
def bind (declared : FieldDeclaration) : Except DeclarationError Field := do
  let named ← declared.field.bindName declared.name
  named.bindType declared.type

/-- The field of a declaration when it is bound. -/
def bound (declared : FieldDeclaration) : Field :=
  (declared.field.withName declared.name).withType declared.type

/-- The name of the field in queries: the chosen one, or its own name. -/
def wireName (declared : FieldDeclaration) : String := declared.field.queryName.getD declared.name

/-- Whether nothing is bound to the field of a declaration. -/
def Unbound (declared : FieldDeclaration) : Prop :=
  declared.field.name = none ∧ declared.field.typeBound = false

/-- The field of a declaration can be bound just if nothing is bound to it. -/
theorem bind_eq_ok_iff {declared : FieldDeclaration} {field : Field} :
    declared.bind = .ok field ↔ declared.Unbound ∧ field = declared.bound := by
  simp only [bind, bind_eq_ok, Field.bindName_eq_ok_iff, Field.bindType_eq_ok_iff]
  constructor
  · rintro ⟨_, ⟨hname, htype, rfl⟩, -, rfl⟩
    exact ⟨⟨hname, htype⟩, rfl⟩
  · rintro ⟨⟨hname, htype⟩, rfl⟩
    exact ⟨_, ⟨hname, htype, rfl⟩, htype, rfl⟩

/-- A bound name is noticed before a bound type. -/
theorem bind_eq_error_iff {declared : FieldDeclaration} {error : DeclarationError} :
    declared.bind = .error error ↔
      (declared.field.name ≠ none ∧ error = .fieldAlreadyBound declared.name .name) ∨
      (declared.field.name = none ∧ declared.field.typeBound = true ∧
        error = .fieldAlreadyBound declared.name .type) := by
  rw [bind, Field.bindName]
  cases hname : declared.field.name with
  | some name => simp [eq_comm (a := error)]
  | none =>
    cases declared.field.typeBound with
    | true => simp [eq_comm (a := error)]
    | false => simp [Field.bindType]

/-- A bound field is found under the name that the declaration gives. -/
@[simp] theorem label_bound (declared : FieldDeclaration) :
    declared.bound.label = declared.name := by
  simp [bound, FieldTraits.label, Field.withName]

/-- A bound field has the wire name that the declaration gives. -/
@[simp] theorem wireQueryName_bound (declared : FieldDeclaration) :
    declared.bound.wireQueryName = declared.wireName := by
  simp [bound, wireName, FieldTraits.wireQueryName, Field.withName]

end FieldDeclaration

/-- Fields that can stand in one type: labels and wire names tell them apart, and none of these is
the discriminator. -/
structure SeparateFields (fields : List Field) : Prop where
  labels : (fields.map (·.label)).Nodup
  wireNames : (fields.map (·.wireQueryName)).Nodup
  label_ne : ∀ field ∈ fields, field.label ≠ discriminator
  wireName_ne : ∀ field ∈ fields, field.wireQueryName ≠ discriminator

theorem SeparateFields.nil : SeparateFields [] :=
  ⟨List.nodup_nil, List.nodup_nil, by simp, by simp⟩

/-- Some of separate fields are separate. -/
theorem SeparateFields.sublist {part all : List Field} (sublist : part.Sublist all)
    (separate : SeparateFields all) : SeparateFields part :=
  ⟨separate.labels.sublist (sublist.map _), separate.wireNames.sublist (sublist.map _),
    fun field hf => separate.label_ne field (sublist.subset hf),
    fun field hf => separate.wireName_ne field (sublist.subset hf)⟩

/-- Fields with one wire name are one field. -/
theorem SeparateFields.eq_of_wireName {fields : List Field} (separate : SeparateFields fields)
    {a b : Field} (ha : a ∈ fields) (hb : b ∈ fields)
    (same : a.wireQueryName = b.wireQueryName) : a = b :=
  List.inj_on_of_nodup_map separate.wireNames ha hb same

/-- Fields with one label are one field. -/
theorem SeparateFields.eq_of_label {fields : List Field} (separate : SeparateFields fields)
    {a b : Field} (ha : a ∈ fields) (hb : b ∈ fields) (same : a.label = b.label) : a = b :=
  List.inj_on_of_nodup_map separate.labels ha hb same

/-- A field of separate ones is found under its label. -/
theorem SeparateFields.field?_eq {type : ObjectType} (separate : SeparateFields type.fields)
    {field : Field} (hfield : field ∈ type.fields) : type.field? field.label = some field := by
  obtain ⟨before, after, hsplit⟩ := List.append_of_mem hfield
  refine List.find?_eq_some_iff_append.mpr ⟨by simp, before, after, hsplit, fun other hother => ?_⟩
  -- An earlier field with this label would be the field itself, and stand there twice.
  have hlabels := separate.labels
  rw [hsplit, List.map_append, List.map_cons, List.nodup_append] at hlabels
  have hne := hlabels.2.2 other.label (List.mem_map_of_mem hother) field.label List.mem_cons_self
  simpa using hne

/-- One more field is separate from others just if its names are not theirs and not reserved. -/
theorem separateFields_append_singleton_iff {fields : List Field} {field : Field} :
    SeparateFields (fields ++ [field]) ↔
      SeparateFields fields ∧ (∀ f ∈ fields, f.label ≠ field.label) ∧
        (∀ f ∈ fields, f.wireQueryName ≠ field.wireQueryName) ∧
        field.label ≠ discriminator ∧ field.wireQueryName ≠ discriminator := by
  constructor
  · rintro ⟨hlabels, hwires, hlabel, hwire⟩
    simp only [List.map_append, List.map_cons, List.map_nil, List.nodup_append, List.mem_map,
      List.mem_singleton, List.mem_append, forall_eq, or_imp, forall_and] at *
    refine ⟨⟨hlabels.1, hwires.1, hlabel.1, hwire.1⟩, fun f hf => ?_, fun f hf => ?_, hlabel.2,
      hwire.2⟩
    · exact hlabels.2.2 _ ⟨f, hf, rfl⟩
    · exact hwires.2.2 _ ⟨f, hf, rfl⟩
  · rintro ⟨⟨hlabels, hwires, hlabel, hwire⟩, hnewLabel, hnewWire, hne, hwne⟩
    refine ⟨?_, ?_, ?_, ?_⟩
    · simpa [List.nodup_append, hlabels] using hnewLabel
    · simpa [List.nodup_append, hwires] using hnewWire
    · simpa [or_imp, forall_and] using ⟨hlabel, hne⟩
    · simpa [or_imp, forall_and] using ⟨hwire, hwne⟩

/-- Declared fields are separate by the names that the declaration gives. -/
theorem separateFields_bound_iff {fields : List FieldDeclaration} :
    SeparateFields (fields.map FieldDeclaration.bound) ↔
      (fields.map (·.name)).Nodup ∧ (fields.map (·.wireName)).Nodup ∧
        (∀ declared ∈ fields, declared.name ≠ discriminator) ∧
        ∀ declared ∈ fields, declared.wireName ≠ discriminator := by
  have hlabels : (fields.map FieldDeclaration.bound).map (·.label) = fields.map (·.name) := by
    simp [Function.comp_def]
  have hwires : (fields.map FieldDeclaration.bound).map (·.wireQueryName) =
      fields.map (·.wireName) := by
    simp [Function.comp_def]
  constructor
  · rintro ⟨labels, wireNames, label_ne, wireName_ne⟩
    exact ⟨hlabels ▸ labels, hwires ▸ wireNames, by simpa using label_ne,
      by simpa using wireName_ne⟩
  · rintro ⟨names, wireNames, name_ne, wireName_ne⟩
    exact ⟨hlabels ▸ names, hwires ▸ wireNames, by simpa using name_ne, by simpa using wireName_ne⟩

namespace TypeDeclaration

/-- A field is bound first, and then its names are compared with those of the earlier ones. -/
theorem addField_eq (typeName : String) (earlier : List Field) (declared : FieldDeclaration) :
    addField typeName earlier declared = declared.bind >>= fun field =>
      if declared.name = discriminator ∨ field.wireQueryName = discriminator then
        .error (.reservedFieldName typeName declared.name)
      else if earlier.any (·.wireQueryName = field.wireQueryName) then
        .error (.duplicateField typeName declared.name)
      else if earlier.any (·.label = declared.name) then
        .error (.duplicateField typeName declared.name)
      else return earlier ++ [field] := by
  rw [addField, FieldDeclaration.bind]
  cases declared.field.bindName declared.name <;> rfl

/-- One more field is added exactly when it can be bound and is separate from the earlier ones. -/
theorem addField_eq_ok_iff {typeName : String} {earlier fields : List Field}
    {declared : FieldDeclaration} (separate : SeparateFields earlier) :
    addField typeName earlier declared = .ok fields ↔
      declared.Unbound ∧ SeparateFields (earlier ++ [declared.bound]) ∧
        fields = earlier ++ [declared.bound] := by
  -- The three refusals, negated, are what separates the new field from the earlier ones.
  simp only [addField_eq, bind_eq_ok, FieldDeclaration.bind_eq_ok_iff,
    separateFields_append_singleton_iff, separate, true_and, FieldDeclaration.label_bound]
  constructor
  · rintro ⟨_, ⟨hunbound, rfl⟩, h⟩
    split_ifs at h with hreserved hwire hlabel
    rw [pure_eq_ok] at h
    simp only [not_or, List.any_eq_true, decide_eq_true_eq, not_exists, not_and] at *
    exact ⟨hunbound, ⟨hlabel, hwire, hreserved⟩, h.symm⟩
  · rintro ⟨hunbound, ⟨hlabel, hwire, hreserved⟩, rfl⟩
    refine ⟨_, ⟨hunbound, rfl⟩, ?_⟩
    rw [if_neg (by simpa using hreserved), if_neg (by simpa using hwire),
      if_neg (by simpa using hlabel), pure_eq_ok]

/-- Fields are added one after the other just if they are unbound and all are separate. -/
theorem foldlM_addField_eq_ok_iff {typeName : String} {declared : List FieldDeclaration}
    {earlier fields : List Field} (separate : SeparateFields earlier) :
    declared.foldlM (addField typeName) earlier = .ok fields ↔
      (∀ d ∈ declared, d.Unbound) ∧
        SeparateFields (earlier ++ declared.map FieldDeclaration.bound) ∧
        fields = earlier ++ declared.map FieldDeclaration.bound := by
  induction declared generalizing earlier with
  | nil =>
    rw [List.foldlM_nil, pure_eq_ok]
    simp [separate, eq_comm]
  | cons d rest ih =>
    -- The field that is added next moves from the declared ones to the earlier ones.
    have happend : earlier ++ (d :: rest).map FieldDeclaration.bound =
        (earlier ++ [d.bound]) ++ rest.map FieldDeclaration.bound := by simp
    rw [List.foldlM_cons, bind_eq_ok, happend, List.forall_mem_cons]
    constructor
    · rintro ⟨next, hnext, h⟩
      obtain ⟨hunbound, hseparate, rfl⟩ := (addField_eq_ok_iff separate).mp hnext
      obtain ⟨hrest, hall, rfl⟩ := (ih hseparate).mp h
      exact ⟨⟨hunbound, hrest⟩, hall, rfl⟩
    · rintro ⟨⟨hunbound, hrest⟩, hall, rfl⟩
      have hseparate : SeparateFields (earlier ++ [d.bound]) :=
        hall.sublist (List.sublist_append_left _ _)
      exact ⟨_, (addField_eq_ok_iff separate).mpr ⟨hunbound, hseparate, rfl⟩,
        (ih hseparate).mpr ⟨hrest, hall, rfl⟩⟩

/-- A type with the fields of a declaration bound. -/
def built (declaration : TypeDeclaration) : ObjectType where
  name := declaration.name
  typename := declaration.wireTypename
  queryRoot := declaration.queryRoot
  mutateRoot := declaration.mutateRoot
  parent := declaration.parent
  fields := declaration.fields.map FieldDeclaration.bound

/-- A type is built exactly when its fields can be bound and are separate. -/
theorem build_eq_ok_iff {declaration : TypeDeclaration} {type : ObjectType} :
    declaration.build = .ok type ↔
      (∀ d ∈ declaration.fields, d.Unbound) ∧
        SeparateFields (declaration.fields.map FieldDeclaration.bound) ∧
        type = declaration.built := by
  simp only [build, bind_eq_ok, foldlM_addField_eq_ok_iff SeparateFields.nil, List.nil_append,
    pure_eq_ok]
  constructor
  · rintro ⟨_, ⟨hunbound, hseparate, rfl⟩, rfl⟩
    exact ⟨hunbound, hseparate, rfl⟩
  · rintro ⟨hunbound, hseparate, rfl⟩
    exact ⟨_, ⟨hunbound, hseparate, rfl⟩, rfl⟩

/-- Whether every field of a declaration is one that there is. -/
def Made (declaration : TypeDeclaration) : Prop :=
  ∀ declared ∈ declaration.fields, declared.field.Made

end TypeDeclaration

namespace ObjectType

/-- The types that there are: those that a declaration builds. -/
def Built (type : ObjectType) : Prop :=
  ∃ declaration : TypeDeclaration, declaration.Made ∧ declaration.build = .ok type

/-- The fields of a built type are separate. -/
theorem Built.separate {type : ObjectType} (built : type.Built) : SeparateFields type.fields := by
  obtain ⟨declaration, -, hbuild⟩ := built
  obtain ⟨-, hseparate, rfl⟩ := TypeDeclaration.build_eq_ok_iff.mp hbuild
  exact hseparate

/-- What a field of a built type says of its type fits together. -/
theorem Built.typeFits {type : ObjectType} (built : type.Built) {field : Field}
    (hfield : field ∈ type.fields) : field.TypeFits := by
  obtain ⟨declaration, hmade, hbuild⟩ := built
  obtain ⟨hunbound, -, rfl⟩ := TypeDeclaration.build_eq_ok_iff.mp hbuild
  obtain ⟨declared, hdeclared, rfl⟩ := List.mem_map.mp hfield
  have hbind := FieldDeclaration.bind_eq_ok_iff.mpr ⟨hunbound _ hdeclared, rfl⟩
  rw [FieldDeclaration.bind, bind_eq_ok] at hbind
  obtain ⟨named, hnamed, htyped⟩ := hbind
  exact (((hmade _ hdeclared).bindName hnamed).bindType htyped).typeFits

/-- A field that a type finds is one of its fields. -/
theorem mem_of_field? {type : ObjectType} {name : String} {field : Field}
    (h : type.field? name = some field) : field ∈ type.fields :=
  List.mem_of_find?_eq_some h

end ObjectType

end TypedQuery
