import TypedQuery.Proofs.Schema.Lineage
import TypedQuery.Proofs.Schema.Run

/-!
# Consistent schema documents

`SchemaDocument.Consistent` says of the text of a document alone that its types can live together:
which names have to differ, what a type may extend, and whom it may list as implementers. A document
loads into an empty registry exactly when it is consistent (`exists_load_iff`).

## Two passes

Loading declares the types in order and adds the listed implementers afterwards. The first pass
keeps `Represents`: the registry holds the built types of the entries so far and was filled by
declarations only. The second pass keeps `Extended`: beyond the descendants, the implementers are
the listed pairs so far. Each step of a pass succeeds exactly when the entry joins the earlier ones
(`Joins`), or the pair can be added (`Addable`).
-/

namespace TypedQuery

open Checked Relation

/-! ## What a document has to say -/

/-- The wire name of a field in queries: the chosen one, or its own name. -/
def FieldEntry.wireQueryName (entry : FieldEntry) : String := entry.queryName.getD entry.name

namespace TypeEntry

/-- The name of a type on the wire: the chosen one, or the title case of its own name. -/
def wireTypename (entry : TypeEntry) : String := entry.typename.getD (Text.titleCase entry.name)

/-- Whether a name is a root of a type; an empty name is none. -/
def HasRoot (entry : TypeEntry) (root : String) : Prop :=
  root ≠ "" ∧ (root = entry.queryRoot ∨ root = entry.mutateRoot)

/-- The fields of a type have distinct names and distinct wire names, none of them the
discriminator. -/
structure FieldsConsistent (entry : TypeEntry) : Prop where
  names : (entry.fields.map (·.name)).Nodup
  wireNames : (entry.fields.map (·.wireQueryName)).Nodup
  name_ne : ∀ field ∈ entry.fields, field.name ≠ discriminator
  wireName_ne : ∀ field ∈ entry.fields, field.wireQueryName ≠ discriminator

end TypeEntry

/-- Types that can be declared in their order. -/
structure ConsistentTypes (types : List TypeEntry) : Prop where
  names : (types.map (·.name)).Nodup
  typenames : (types.map (·.wireTypename)).Nodup
  roots : types.Pairwise fun a b => ∀ root, a.HasRoot root → ¬ b.HasRoot root
  /-- A type extends only a type that is declared before it. -/
  parents : ∀ earlier entry later, types = earlier ++ entry :: later →
    ∀ parent, entry.parent = some parent → ∃ other ∈ earlier, other.name = parent
  fields : ∀ entry ∈ types, entry.FieldsConsistent

/-- Whether a type of a document extends another one, both given by declared names. -/
def SchemaDocument.Extends (document : SchemaDocument) (child parent : String) : Prop :=
  ∃ entry ∈ document.types, entry.name = child ∧ entry.parent = some parent

/-- A document whose types and implementers can live together. -/
structure SchemaDocument.Consistent (document : SchemaDocument) : Prop extends
    ConsistentTypes document.types where
  listed_once : ∀ entry ∈ document.types, entry.implementers.Nodup
  listed_known : ∀ entry ∈ document.types, ∀ name ∈ entry.implementers,
    ∃ other ∈ document.types, other.name = name
  listed_other : ∀ entry ∈ document.types, entry.name ∉ entry.implementers
  /-- No descendant is listed. -/
  listed_unrelated : ∀ entry ∈ document.types, ∀ name ∈ entry.implementers,
    ¬ TransGen document.Extends name entry.name

/-! ## One more type -/

/-- Whether a type can be declared after some others. -/
structure Joins (entries : List TypeEntry) (entry : TypeEntry) : Prop where
  name : ∀ e ∈ entries, e.name ≠ entry.name
  typename : ∀ e ∈ entries, e.wireTypename ≠ entry.wireTypename
  roots : ∀ e ∈ entries, ∀ root, e.HasRoot root → ¬ entry.HasRoot root
  parent : ∀ parent, entry.parent = some parent → ∃ e ∈ entries, e.name = parent
  fields : entry.FieldsConsistent

/-- Types with one more are consistent just if they are without it and it joins them. -/
theorem consistentTypes_append_singleton_iff {entries : List TypeEntry} {entry : TypeEntry} :
    ConsistentTypes (entries ++ [entry]) ↔ ConsistentTypes entries ∧ Joins entries entry := by
  constructor
  · rintro ⟨names, typenames, roots, parents, fields⟩
    rw [forall_split_append_singleton_iff] at parents
    simp only [List.map_append, List.map_cons, List.map_nil, List.nodup_append, List.mem_map,
      List.mem_singleton, forall_eq, List.pairwise_append, List.mem_append, or_imp,
      forall_and, forall_exists_index, and_imp, forall_apply_eq_imp_iff₂]
      at names typenames roots fields
    exact ⟨⟨names.1, typenames.1, roots.1, parents.1, fields.1⟩,
      ⟨names.2.2, typenames.2.2, roots.2.2, parents.2, fields.2⟩⟩
  · rintro ⟨⟨names, typenames, roots, parents, fields⟩, name, typename, root, parent, field⟩
    refine ⟨?_, ?_, ?_, forall_split_append_singleton_iff.mpr ⟨parents, parent⟩, ?_⟩
    · simpa [List.nodup_append, names] using name
    · simpa [List.nodup_append, typenames] using typename
    · simpa [List.pairwise_append, roots] using root
    · simpa [or_imp, forall_and] using ⟨fields, field⟩

/-- The first types of consistent ones are consistent. -/
theorem ConsistentTypes.of_append {entries rest : List TypeEntry}
    (consistent : ConsistentTypes (entries ++ rest)) : ConsistentTypes entries := by
  obtain ⟨names, typenames, roots, parents, fields⟩ := consistent
  rw [List.map_append] at names typenames
  refine ⟨names.of_append_left, typenames.of_append_left, (List.pairwise_append.mp roots).1, ?_,
    fun entry hentry => fields entry (List.mem_append_left _ hentry)⟩
  intro earlier entry later hsplit
  refine parents earlier entry (later ++ rest) ?_
  rw [hsplit, List.append_assoc, List.cons_append]

/-! ## The first pass -/

namespace TypeEntry

variable {entry : TypeEntry}

/-- The bound fields of an entry are separate just if its own fields are consistent. -/
theorem separateFields_iff :
    SeparateFields (entry.declaration.fields.map FieldDeclaration.bound) ↔
      entry.FieldsConsistent := by
  rw [separateFields_bound_iff, declaration, List.map_map, List.map_map]
  simp only [List.forall_mem_map]
  exact ⟨fun ⟨names, wireNames, name_ne, wireName_ne⟩ => ⟨names, wireNames, name_ne, wireName_ne⟩,
    fun ⟨names, wireNames, name_ne, wireName_ne⟩ => ⟨names, wireNames, name_ne, wireName_ne⟩⟩

/-- The fields of an entry are unbound, so only their names can keep a type from being built. -/
theorem build_eq_ok_iff {type : ObjectType} :
    entry.declaration.build = .ok type ↔
      entry.FieldsConsistent ∧ type = entry.declaration.built := by
  have hunbound : ∀ declared ∈ entry.declaration.fields, declared.Unbound := by
    intro declared hdeclared
    obtain ⟨field, -, rfl⟩ := List.mem_map.mp hdeclared
    exact ⟨rfl, rfl⟩
  rw [TypeDeclaration.build_eq_ok_iff, separateFields_iff, and_iff_right hunbound]

/-- The built type of an entry has the roots that the entry names. -/
theorem hasRoot_built_iff {root : String} :
    entry.declaration.built.HasRoot root ↔ entry.HasRoot root := by
  rw [ObjectType.hasRoot_iff, HasRoot, eq_comm (a := root), eq_comm (a := root)]
  rfl

end TypeEntry

/-- A registry that was filled by declaring some entries. -/
structure Represents (entries : List TypeEntry) (registry : Registry) : Prop where
  declared : registry.Declared
  type?_iff : ∀ {name type}, registry.type? name = some type ↔
    ∃ entry ∈ entries, entry.name = name ∧ entry.declaration.built = type

namespace Represents

variable {entries : List TypeEntry} {entry : TypeEntry} {registry : Registry}

/-- The empty registry represents no entries. -/
theorem empty : Represents [] .empty := by
  refine ⟨.empty, fun {name type} => iff_of_false ?_ ?_⟩
  · intro h
    cases h
  · rintro ⟨entry, h, -⟩
    cases h

/-- The registered types are the built types of the entries. -/
theorem registered_iff (represents : Represents entries registry) {type : ObjectType} :
    registry.Registered type ↔ ∃ entry ∈ entries, entry.declaration.built = type := by
  rw [Registry.Registered, represents.type?_iff]
  constructor
  · rintro ⟨entry, hentry, -, rfl⟩
    exact ⟨entry, hentry, rfl⟩
  · rintro ⟨entry, hentry, rfl⟩
    exact ⟨entry, hentry, rfl, rfl⟩

/-- The names of a new type are free when no earlier entry has them. -/
theorem checkAvailable_eq_ok_iff (represents : Represents entries registry) :
    registry.checkAvailable entry.declaration.built = .ok () ↔
      (∀ e ∈ entries, e.name ≠ entry.name) ∧
        (∀ e ∈ entries, e.wireTypename ≠ entry.wireTypename) ∧
        ∀ e ∈ entries, ∀ root, e.HasRoot root → ¬ entry.HasRoot root := by
  have coherent := represents.declared.coherent
  rw [Registry.checkAvailable_eq_ok_iff]
  -- One check after the other: the name, the typename and the roots.
  refine and_congr ?_ (and_congr ?_ ?_)
  · rw [Option.eq_none_iff_forall_ne_some]
    simp only [ne_eq, represents.type?_iff, not_exists, not_and]
    exact ⟨fun h e he hname => h _ e he hname rfl, fun h _ e he hname _ => h e he hname⟩
  · rw [Option.eq_none_iff_forall_ne_some]
    simp only [ne_eq, coherent.typename_iff, represents.registered_iff]
    constructor
    · exact fun h e he htypename => h _ ⟨⟨e, he, rfl⟩, htypename⟩
    · rintro h _ ⟨⟨e, he, rfl⟩, htypename⟩
      exact h e he htypename
  · simp only [TypeEntry.hasRoot_built_iff, ← Bool.not_eq_true, coherent.hasRoot_iff,
      represents.registered_iff]
    constructor
    · exact fun h e he root hroot hnew => h root hnew ⟨_, ⟨e, he, rfl⟩,
        TypeEntry.hasRoot_built_iff.mpr hroot⟩
    · rintro h root hnew ⟨_, ⟨e, he, rfl⟩, hroot⟩
      exact h e he root (TypeEntry.hasRoot_built_iff.mp hroot) hnew

/-- An entry is declared exactly when it joins the earlier ones. -/
theorem exists_declare_iff (represents : Represents entries registry) :
    (∃ result, registry.declare entry.declaration = .ok result) ↔ Joins entries entry := by
  rw [represents.declared.exists_declare_iff]
  simp only [TypeEntry.build_eq_ok_iff, represents.type?_iff]
  constructor
  · rintro ⟨hparent, type, ⟨hfields, rfl⟩, available⟩
    obtain ⟨hname, htypename, hroots⟩ := represents.checkAvailable_eq_ok_iff.mp available
    refine ⟨hname, htypename, hroots, fun parent h => ?_, hfields⟩
    obtain ⟨_, e, he, heq, -⟩ := hparent parent h
    exact ⟨e, he, heq⟩
  · rintro ⟨hname, htypename, hroots, hparent, hfields⟩
    refine ⟨fun parent h => ?_, _, ⟨hfields, rfl⟩,
      represents.checkAvailable_eq_ok_iff.mpr ⟨hname, htypename, hroots⟩⟩
    obtain ⟨e, he, heq⟩ := hparent parent h
    exact ⟨_, e, he, heq, rfl⟩

/-- Declaring an entry adds it to those that the registry represents. -/
theorem declare (represents : Represents entries registry) {after : Registry} {type : ObjectType}
    (h : registry.declare entry.declaration = .ok (after, type)) :
    Represents (entries ++ [entry]) after := by
  refine ⟨represents.declared.declare h, fun {name found} => ?_⟩
  obtain ⟨-, -, hbuild, available, -⟩ := Registry.declare_eq_ok_iff.mp h
  obtain ⟨-, rfl⟩ := TypeEntry.build_eq_ok_iff.mp hbuild
  obtain ⟨hfresh, -⟩ := represents.checkAvailable_eq_ok_iff.mp available
  -- The new name finds the new type, and was free, so that no earlier entry has it.
  rw [Registry.type?_declare h]
  simp only [List.mem_append, List.mem_singleton, or_and_right, exists_or, exists_eq_left]
  split
  · rename_i hname
    rw [Option.some.injEq]
    constructor
    · exact fun heq => .inr ⟨hname, heq⟩
    · rintro (⟨e, he, hsame, -⟩ | ⟨-, heq⟩)
      · exact absurd (hsame.trans hname.symm) (hfresh e he)
      · exact heq
  · rename_i hname
    rw [represents.type?_iff]
    refine ⟨.inl, fun h => h.resolve_right ?_⟩
    rintro ⟨hsame, -⟩
    exact hname hsame

/-- A first pass that goes through adds all its entries to those that the registry represents. -/
theorem declareTypes (represents : Represents entries registry) {rest : List TypeEntry}
    {after : Registry} (h : SchemaDocument.declareTypes registry rest = (after, none)) :
    Represents (entries ++ rest) after := by
  induction rest generalizing entries registry with
  | nil =>
    obtain rfl := congrArg Prod.fst h
    rwa [List.append_nil]
  | cons entry rest ih =>
    obtain ⟨next, type, hdeclare, hrest⟩ := SchemaDocument.declareTypes_cons_eq_none_iff.mp h
    rw [List.append_cons]
    exact ih (represents.declare hdeclare) hrest

/-- The first pass goes through exactly when every entry joins the ones before it. -/
theorem exists_declareTypes_iff (represents : Represents entries registry)
    (consistent : ConsistentTypes entries) {rest : List TypeEntry} :
    (∃ after, SchemaDocument.declareTypes registry rest = (after, none)) ↔
      ConsistentTypes (entries ++ rest) := by
  -- A declared entry moves from the rest to the entries that the registry represents.
  induction rest generalizing entries registry with
  | nil => simpa [SchemaDocument.declareTypes] using consistent
  | cons entry rest ih =>
    rw [SchemaDocument.declareTypes, List.append_cons]
    split
    · rename_i next type hdeclare
      have joins := represents.exists_declare_iff.mp ⟨_, hdeclare⟩
      exact ih (represents.declare hdeclare)
        (consistentTypes_append_singleton_iff.mpr ⟨consistent, joins⟩)
    · rename_i error hdeclare
      refine iff_of_false (by simp) fun hall => ?_
      have joins := (consistentTypes_append_singleton_iff.mp hall.of_append).2
      obtain ⟨result, h⟩ := represents.exists_declare_iff.mpr joins
      rw [hdeclare] at h
      cases h

end Represents

/-! ## The second pass -/

namespace Registry

variable {declared registry : Registry} {pairs : List (String × String)} {base concrete : String}

/-- A registry with the implementers of some listed pairs beyond those that declarations left. -/
structure Extended (declared : Registry) (pairs : List (String × String)) (registry : Registry) :
    Prop where
  type?_eq : ∀ name, registry.type? name = declared.type? name
  implementer_iff : ∀ {base typename type}, registry.implementer? base typename = some type ↔
    declared.implementer? base typename = some type ∨
      ∃ concrete, (base, concrete) ∈ pairs ∧ declared.type? concrete = some type ∧
        type.typename = typename

/-- Whether a type can be listed by another one that declarations left. -/
structure Addable (declared : Registry) (base concrete : String) : Prop where
  known : ∃ type, declared.type? base = some type
  known_concrete : ∃ type, declared.type? concrete = some type
  other : concrete ≠ base
  unrelated : ¬ TransGen declared.Extends concrete base

/-- A pair is added exactly when it can be and was not added before. -/
theorem Extended.exists_addImplementer_iff (extended : Extended declared pairs registry)
    (holds : declared.Declared) :
    (∃ after, SchemaDocument.addImplementer registry base concrete = .ok after) ↔
      declared.Addable base concrete ∧ (base, concrete) ∉ pairs := by
  have coherent := holds.coherent
  simp only [SchemaDocument.addImplementer_eq_ok_iff, addImplementer_eq_ok_iff, extended.type?_eq]
  constructor
  · rintro ⟨after, baseType, concreteType, hbase, hconcrete, -, -, hother, hfree, -⟩
    rw [coherent.name_eq hbase] at hfree
    have hname := coherent.name_eq hconcrete
    -- Each of the ways to be refused would show in the registry: as the base itself, as a
    -- descendant, or as a pair that was added before.
    refine ⟨⟨⟨_, hbase⟩, ⟨_, hconcrete⟩, fun hsame => ?_, fun htrans => ?_⟩, fun hlisted => ?_⟩
    · rw [hsame, hbase, Option.some.injEq] at hconcrete
      exact hother (congrArg _ hconcrete.symm)
    · -- A descendant, like a pair that was added, would have taken the typename already.
      have hfound := extended.implementer_iff.mpr (.inl (holds.implementer_iff.mpr
        ⟨coherent.registered hconcrete, rfl, hname.symm ▸ htrans⟩))
      rw [hfree] at hfound
      cases hfound
    · have hfound := extended.implementer_iff.mpr (.inr ⟨_, hlisted, hconcrete, rfl⟩)
      rw [hfree] at hfound
      cases hfound
  · rintro ⟨⟨⟨baseType, hbase⟩, ⟨concreteType, hconcrete⟩, hother, hunrelated⟩, hnew⟩
    refine ⟨_, baseType, concreteType, hbase, hconcrete, ⟨baseType, ?_⟩, ⟨concreteType, ?_⟩,
      fun hsame => ?_, ?_, rfl⟩
    · exact coherent.registered hbase
    · exact coherent.registered hconcrete
    · exact hother (coherent.eq_of_typename hconcrete hbase hsame)
    -- The typename is free below the base: whatever stood there would be this type, since typenames
    -- are those of one type each.
    · rw [coherent.name_eq hbase, Option.eq_none_iff_forall_ne_some]
      intro type hfound
      rcases extended.implementer_iff.mp hfound with hfound | ⟨name, hlisted, hfound, htypename⟩
      · obtain ⟨registered, htypename, htrans⟩ := holds.implementer_iff.mp hfound
        rw [coherent.eq_of_typename registered hconcrete htypename] at htrans
        exact hunrelated htrans
      · rw [coherent.eq_of_typename hfound hconcrete htypename] at hlisted
        exact hnew hlisted

/-- An implementer that is added goes to the listed pairs. -/
theorem Extended.addImplementer (extended : Extended declared pairs registry)
    (coherent : declared.Coherent) {after : Registry}
    (h : SchemaDocument.addImplementer registry base concrete = .ok after) :
    Extended declared ((base, concrete) :: pairs) after := by
  obtain ⟨baseType, concreteType, hbase, hconcrete, hadd⟩ :=
    SchemaDocument.addImplementer_eq_ok_iff.mp h
  obtain ⟨-, -, -, hfree, rfl⟩ := addImplementer_eq_ok_iff.mp hadd
  rw [extended.type?_eq] at hbase hconcrete
  refine ⟨extended.type?_eq, fun {name typename type} => ?_⟩
  rw [implementer?_insertImplementer, coherent.name_eq hbase]
  simp only [List.mem_cons, Prod.mk.injEq, or_and_right, exists_or, and_assoc]
  -- Under the key of the pair there is the new implementer, and nothing was there before. Under any
  -- other key all is as it was.
  split
  · rename_i hkey
    obtain ⟨rfl, rfl⟩ := hkey
    rw [coherent.name_eq hbase] at hfree
    constructor
    · intro heq
      rw [← Option.some.inj heq]
      exact .inr (.inl ⟨concrete, rfl, rfl, hconcrete, rfl⟩)
    · rintro (hold | ⟨_, -, rfl, hfound, -⟩ | hlisted)
      · have hfound := extended.implementer_iff.mpr (.inl hold)
        rw [hfree] at hfound
        cases hfound
      · rw [← hconcrete, hfound]
      · have hfound := extended.implementer_iff.mpr (.inr hlisted)
        rw [hfree] at hfound
        cases hfound
  · rename_i hkey
    rw [extended.implementer_iff]
    refine or_congr_right ⟨.inr, fun h => h.resolve_left ?_⟩
    rintro ⟨_, rfl, rfl, hfound, htypename⟩
    rw [hconcrete, Option.some.injEq] at hfound
    exact hkey ⟨rfl, hfound ▸ htypename⟩

/-- What the second pass adds when it goes through. -/
theorem Extended.addImplementers (extended : Extended declared pairs registry)
    (coherent : declared.Coherent) {rest : List (String × String)} {after : Registry}
    (h : SchemaDocument.addImplementers registry rest = (after, none)) :
    Extended declared (rest.reverse ++ pairs) after := by
  induction rest generalizing pairs registry with
  | nil =>
    obtain rfl := congrArg Prod.fst h
    exact extended
  | cons pair rest ih =>
    obtain ⟨next, hadd, hrest⟩ := SchemaDocument.addImplementers_cons_eq_none_iff.mp h
    rw [List.reverse_cons, List.append_assoc, List.singleton_append]
    exact ih (extended.addImplementer coherent hadd) hrest

/-- The second pass goes through exactly when every pair can be added and none comes twice. -/
theorem Extended.exists_addImplementers_iff (extended : Extended declared pairs registry)
    (holds : declared.Declared) {rest : List (String × String)} :
    (∃ after, SchemaDocument.addImplementers registry rest = (after, none)) ↔
      (∀ pair ∈ rest, declared.Addable pair.1 pair.2 ∧ pair ∉ pairs) ∧ rest.Nodup := by
  induction rest generalizing pairs registry with
  | nil => simp [SchemaDocument.addImplementers]
  | cons pair rest ih =>
    obtain ⟨base, concrete⟩ := pair
    rw [SchemaDocument.addImplementers, List.forall_mem_cons, List.nodup_cons]
    split
    · rename_i after hadd
      have hfirst := (extended.exists_addImplementer_iff holds).mp ⟨after, hadd⟩
      rw [ih (extended.addImplementer holds.coherent hadd)]
      -- The pair that was added counts among the earlier ones for the rest, which is how a second
      -- one of it is refused.
      simp only [List.mem_cons, not_or]
      constructor
      · rintro ⟨hrest, hnodup⟩
        exact ⟨⟨hfirst, fun pair hpair => ⟨(hrest pair hpair).1, (hrest pair hpair).2.2⟩⟩,
          fun hmem => (hrest _ hmem).2.1 rfl, hnodup⟩
      · rintro ⟨⟨-, hrest⟩, hmem, hnodup⟩
        refine ⟨fun pair hpair => ⟨(hrest pair hpair).1, ?_, (hrest pair hpair).2⟩, hnodup⟩
        rintro rfl
        exact hmem hpair
    · rename_i error hadd
      -- The pass stops here, so one of the conditions on this pair fails.
      refine iff_of_false (by simp) fun h => ?_
      obtain ⟨after, hok⟩ := (extended.exists_addImplementer_iff holds).mpr h.1.1
      rw [hadd] at hok
      cases hok

end Registry

/-! ## Both passes -/

namespace SchemaDocument

variable {document : SchemaDocument}

/-- A document is loaded without error when both passes go through. -/
theorem loadInto_eq_none_iff {registry after : Registry} :
    document.loadInto registry = (after, none) ↔
      ∃ declared, declareTypes registry document.types = (declared, none) ∧
        addImplementers declared document.implementerPairs = (after, none) := by
  rw [loadInto]
  cases htypes : declareTypes registry document.types with
  | mk declared error => cases error <;> simp

/-- A document loads when both passes go through. -/
theorem load_eq_ok_iff {registry : Registry} :
    document.load = .ok registry ↔
      ∃ declared, declareTypes .empty document.types = (declared, none) ∧
        addImplementers declared document.implementerPairs = (registry, none) := by
  rw [← loadInto_eq_none_iff, load]
  cases hload : document.loadInto .empty with
  | mk registry error => cases error <;> simp

/-- A document loads just if both of its passes go through. -/
theorem exists_load_iff_passes :
    (∃ registry, document.load = .ok registry) ↔
      ∃ declared, declareTypes .empty document.types = (declared, none) ∧
        ∃ registry, addImplementers declared document.implementerPairs = (registry, none) := by
  simp only [load_eq_ok_iff]
  rw [exists_comm]
  simp only [exists_and_left]

/-- The pairs of a document come once if every list names its types once. -/
theorem nodup_implementerPairs_iff (names : (document.types.map (·.name)).Nodup) :
    document.implementerPairs.Nodup ↔ ∀ entry ∈ document.types, entry.implementers.Nodup := by
  rw [implementerPairs, List.nodup_flatMap]
  have hinj : ∀ entry : TypeEntry, (entry.implementers.map fun name => (entry.name, name)).Nodup ↔
      entry.implementers.Nodup := by
    intro entry
    exact List.nodup_map_iff fun a b h => congrArg Prod.snd h
  simp only [hinj]
  refine and_iff_left ?_
  -- The pairs of two types differ in their first parts.
  refine (List.pairwise_map.mp names).imp fun {a b} hne => ?_
  intro pair ha hb
  obtain ⟨_, -, rfl⟩ := List.mem_map.mp ha
  obtain ⟨_, -, heq⟩ := List.mem_map.mp hb
  exact hne (congrArg Prod.fst heq).symm

/-- The types extend each other in the registry as they do in the document. -/
theorem extends_eq {registry : Registry} (represents : Represents document.types registry) :
    registry.Extends = document.Extends := by
  funext child parent
  apply propext
  constructor
  · rintro ⟨type, hfound, hparent⟩
    obtain ⟨entry, hentry, hname, rfl⟩ := represents.type?_iff.mp hfound
    exact ⟨entry, hentry, hname, hparent⟩
  · rintro ⟨entry, hentry, hname, hparent⟩
    exact ⟨_, represents.type?_iff.mpr ⟨entry, hentry, hname, rfl⟩, hparent⟩

/-- The implementers of a document can be added when the lists keep to the rules of a consistent
one. -/
theorem exists_addImplementers_iff {declared : Registry}
    (represents : Represents document.types declared)
    (consistent : ConsistentTypes document.types) :
    (∃ registry, addImplementers declared document.implementerPairs = (registry, none)) ↔
      document.Consistent := by
  have extended : declared.Extended [] declared := ⟨fun _ => rfl, by simp⟩
  -- Both sides speak of the same types, one through the registry and the other through the
  -- document.
  have known : ∀ name, (∃ type, declared.type? name = some type) ↔
      ∃ other ∈ document.types, other.name = name := by
    intro name
    simp only [represents.type?_iff]
    constructor
    · rintro ⟨_, other, hother, hname, -⟩
      exact ⟨other, hother, hname⟩
    · rintro ⟨other, hother, hname⟩
      exact ⟨_, other, hother, hname, rfl⟩
  rw [extended.exists_addImplementers_iff represents.declared,
    nodup_implementerPairs_iff consistent.names]
  simp only [List.not_mem_nil, not_false_eq_true, and_true]
  constructor
  · rintro ⟨haddable, hnodup⟩
    have hentry : ∀ entry ∈ document.types, ∀ name ∈ entry.implementers,
        declared.Addable entry.name name := fun entry hentry name hname =>
      haddable (entry.name, name)
        (List.mem_flatMap.mpr ⟨entry, hentry, List.mem_map.mpr ⟨name, hname, rfl⟩⟩)
    refine ⟨consistent, hnodup, ?_, ?_, ?_⟩
    · exact fun entry he name hname => (known name).mp (hentry entry he name hname).known_concrete
    · exact fun entry he hself => (hentry entry he entry.name hself).other rfl
    · intro entry he name hname
      rw [← extends_eq represents]
      exact (hentry entry he name hname).unrelated
  · rintro ⟨-, hnodup, hknown, hother, hunrelated⟩
    refine ⟨fun pair hpair => ?_, hnodup⟩
    obtain ⟨entry, hentry, hpair⟩ := List.mem_flatMap.mp hpair
    obtain ⟨name, hname, rfl⟩ := List.mem_map.mp hpair
    refine ⟨(known _).mpr ⟨entry, hentry, rfl⟩, (known _).mpr (hknown entry hentry name hname),
      ?_, ?_⟩
    · exact fun hself : name = entry.name => hother entry hentry (hself ▸ hname)
    · rw [extends_eq represents]
      exact hunrelated entry hentry name hname

/-- A document loads into an empty registry exactly when it is consistent. -/
theorem exists_load_iff : (∃ registry, document.load = .ok registry) ↔ document.Consistent := by
  have htypes : (∃ declared, declareTypes .empty document.types = (declared, none)) ↔
      ConsistentTypes document.types := by
    refine Represents.empty.exists_declareTypes_iff ⟨?_, ?_, ?_, ?_, ?_⟩ <;> simp
  rw [exists_load_iff_passes]
  constructor
  · rintro ⟨declared, hdeclared, hpairs⟩
    have represents := Represents.empty.declareTypes hdeclared
    exact (exists_addImplementers_iff represents (htypes.mp ⟨declared, hdeclared⟩)).mp hpairs
  -- The implementers are looked at in the registry that the first pass has left.
  · intro consistent
    obtain ⟨declared, hdeclared⟩ := htypes.mpr consistent.toConsistentTypes
    have represents := Represents.empty.declareTypes hdeclared
    exact ⟨declared, hdeclared,
      (exists_addImplementers_iff represents consistent.toConsistentTypes).mpr consistent⟩

end SchemaDocument

end TypedQuery
