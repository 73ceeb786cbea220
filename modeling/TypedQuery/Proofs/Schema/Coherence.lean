import TypedQuery.Proofs.Checked
import TypedQuery.Proofs.Table
import TypedQuery.Schema.Registry

/-!
# Coherent registries

The tables of a registry are views of one set of types: each type stands under its own declared
name, its typename and its roots, and no root belongs to two types (`Coherent`). The checks before
an insertion are what keeps it so (`Coherent.insert`), and implementers do not touch it.

The lookups after each operation are said here once; nothing later opens `insert` or
`insertImplementer`.
-/

namespace TypedQuery

/-- Whether a name is one of the roots of a type. -/
def ObjectType.HasRoot (type : ObjectType) (root : String) : Prop :=
  type.queryRoot? = some root ∨ type.mutateRoot? = some root

/-- The roots of a type are its root names that are not empty. -/
theorem ObjectType.hasRoot_iff {type : ObjectType} {root : String} :
    type.HasRoot root ↔ root ≠ "" ∧ (type.queryRoot = root ∨ type.mutateRoot = root) := by
  rw [HasRoot, queryRoot?, mutateRoot?]
  split_ifs <;> grind

namespace Registry

open Checked

variable {registry : Registry} {type other : ObjectType}

/-- Whether a type is found under its own declared name. -/
def Registered (registry : Registry) (type : ObjectType) : Prop :=
  registry.type? type.name = some type

/-- The tables show the same types, each under its own names, and a root has one type. -/
structure Coherent (registry : Registry) : Prop where
  name_eq : ∀ {name type}, registry.type? name = some type → type.name = name
  typename_iff : ∀ {typename type}, registry.typeOfTypename? typename = some type ↔
    registry.Registered type ∧ type.typename = typename
  queryRoot_iff : ∀ {root type}, registry.queryRoots.get? root = some type ↔
    registry.Registered type ∧ type.queryRoot? = some root
  mutateRoot_iff : ∀ {root type}, registry.mutateRoots.get? root = some type ↔
    registry.Registered type ∧ type.mutateRoot? = some root
  root_unique : ∀ {root a b}, registry.Registered a → registry.Registered b →
    a.HasRoot root → b.HasRoot root → a = b

/-- A type that is found is found under its own name. -/
theorem Coherent.registered (coherent : registry.Coherent) {name : String}
    (found : registry.type? name = some type) : registry.Registered type := by
  rwa [Registered, coherent.name_eq found]

/-- Types with one typename are found under one name. -/
theorem Coherent.eq_of_typename (coherent : registry.Coherent) {name otherName : String}
    (found : registry.type? name = some type) (otherFound : registry.type? otherName = some other)
    (same : type.typename = other.typename) : name = otherName := by
  have htype := coherent.typename_iff.mpr ⟨coherent.registered found, same⟩
  rw [coherent.typename_iff.mpr ⟨coherent.registered otherFound, rfl⟩, Option.some.injEq] at htype
  rw [← coherent.name_eq found, ← coherent.name_eq otherFound, htype]

/-- A registry without types is coherent. -/
theorem Coherent.empty : Coherent .empty := by
  constructor <;> simp [Registry.empty, Registered, type?, typeOfTypename?]

/-! ## Lookups after an insertion -/

/-- After an insertion a name finds the new type or what it found before. -/
theorem type?_insert (name : String) :
    (registry.insert type).type? name =
      if type.name = name then some type else registry.type? name :=
  Table.get?_set ..

/-- After an insertion a typename finds the new type or what it found before. -/
theorem typeOfTypename?_insert (typename : String) :
    (registry.insert type).typeOfTypename? typename =
      if type.typename = typename then some type else registry.typeOfTypename? typename :=
  Table.get?_set ..

/-- A root that is set finds the new type, unless the type has none of this kind. -/
theorem get?_setRoot (root? : Option String) (table : Table ObjectType) (root : String) :
    (setRoot root? type table).get? root =
      if root? = some root then some type else table.get? root := by
  cases root? with
  | none => simp [setRoot]
  | some name =>
    rw [setRoot, Table.get?_set]
    simp

/-- An insertion under a new name registers the new type beside the others. -/
theorem registered_insert_iff (fresh : registry.type? type.name = none) :
    (registry.insert type).Registered other ↔ other = type ∨ registry.Registered other := by
  rw [Registered, type?_insert]
  split
  · rename_i h
    rw [Option.some.injEq, Registered, ← h, fresh]
    simp [eq_comm]
  · rename_i h
    rw [Registered]
    exact ⟨.inr, fun hor => hor.resolve_left fun heq => h (by rw [heq])⟩

/-! ## The checks before an insertion -/

/-- A root is taken just if a registered type has it. -/
theorem Coherent.hasRoot_iff (coherent : registry.Coherent) {root : String} :
    registry.hasRoot root = true ↔ ∃ type, registry.Registered type ∧ type.HasRoot root := by
  rw [hasRoot, Bool.or_eq_true, Table.has_eq_true_iff, Table.has_eq_true_iff]
  simp only [coherent.queryRoot_iff, coherent.mutateRoot_iff, ObjectType.HasRoot]
  constructor
  · rintro (⟨type, h, hroot⟩ | ⟨type, h, hroot⟩)
    · exact ⟨type, h, .inl hroot⟩
    · exact ⟨type, h, .inr hroot⟩
  · rintro ⟨type, h, hroot | hroot⟩
    · exact .inl ⟨type, h, hroot⟩
    · exact .inr ⟨type, h, hroot⟩

/-- The type of a root is the registered type that has it. -/
theorem Coherent.typeOfRoot?_iff (coherent : registry.Coherent) {root : String} :
    registry.typeOfRoot? root = some type ↔ registry.Registered type ∧ type.HasRoot root := by
  rw [typeOfRoot?]
  split
  · -- The roots of queries are looked up first, but the type is the same by the other table.
    rename_i found hfound
    have hroot := coherent.queryRoot_iff.mp hfound
    constructor
    · intro h
      obtain rfl := Option.some.inj h
      exact ⟨hroot.1, .inl hroot.2⟩
    · rintro ⟨registered, htype⟩
      rw [coherent.root_unique hroot.1 registered (.inl hroot.2) htype]
  · rename_i hnone
    rw [coherent.mutateRoot_iff]
    refine and_congr_right fun registered => ⟨.inr, fun htype => ?_⟩
    -- No query has this root, or it would have been found.
    refine htype.resolve_left fun hquery => ?_
    rw [coherent.queryRoot_iff.mpr ⟨registered, hquery⟩] at hnone
    cases hnone

/-- A type is available when no name of it is taken. -/
theorem checkAvailable_eq_ok_iff :
    registry.checkAvailable type = .ok () ↔
      registry.type? type.name = none ∧ registry.typeOfTypename? type.typename = none ∧
        ∀ root, type.HasRoot root → registry.hasRoot root = false := by
  have hany : ∀ root? : Option String, root?.any registry.hasRoot = true ↔
      ∃ root, root? = some root ∧ registry.hasRoot root = true := by
    intro root?
    cases root? <;> simp
  rw [checkAvailable, type?, typeOfTypename?, ← Table.has_eq_false_iff, ← Table.has_eq_false_iff]
  -- One case for each check that fails, and one in which all pass.
  split_ifs with hname htypename hquery hmutate
  · simp [hname]
  · simp [htypename]
  · obtain ⟨root, hroot, htaken⟩ := (hany _).mp hquery
    simp only [false_iff, not_and, not_forall]
    exact fun _ _ => ⟨root, .inl hroot, by simp [htaken]⟩
  · obtain ⟨root, hroot, htaken⟩ := (hany _).mp hmutate
    simp only [false_iff, not_and, not_forall]
    exact fun _ _ => ⟨root, .inr hroot, by simp [htaken]⟩
  · simp only [hany, not_exists, not_and, Bool.not_eq_true] at *
    refine iff_of_true trivial ⟨hname, htypename, fun root hroot => ?_⟩
    exact hroot.elim (hquery root) (hmutate root)

/-- No registered type has a root of an available type. -/
theorem Coherent.not_hasRoot (coherent : registry.Coherent)
    (available : registry.checkAvailable type = .ok ()) {root : String} (hroot : type.HasRoot root)
    (registered : registry.Registered other) : ¬ other.HasRoot root := by
  intro hother
  have htaken := coherent.hasRoot_iff.mpr ⟨other, registered, hother⟩
  rw [(checkAvailable_eq_ok_iff.mp available).2.2 root hroot] at htaken
  cases htaken

/-- A lookup that finds the registered types with a property finds them after an insertion too, if
the inserted type is the only one with the property or does not have it. -/
theorem lookup_insert_iff {p : ObjectType → Prop} [Decidable (p type)] {found? : Option ObjectType}
    (fresh : registry.type? type.name = none)
    (old : ∀ found, found? = some found ↔ registry.Registered found ∧ p found)
    (alone : p type → ∀ found, registry.Registered found → ¬ p found) (found : ObjectType) :
    (if p type then some type else found?) = some found ↔
      (registry.insert type).Registered found ∧ p found := by
  rw [registered_insert_iff fresh]
  split
  · rename_i hp
    constructor
    · intro h
      obtain rfl := Option.some.inj h
      exact ⟨.inl rfl, hp⟩
    -- The new type is the only one that is found, since an old one with the property is ruled out.
    · rintro ⟨rfl | h, hfound⟩
      · rfl
      · exact absurd hfound (alone hp found h)
  · rename_i hp
    rw [old]
    constructor
    · exact fun ⟨h, hfound⟩ => ⟨.inr h, hfound⟩
    · rintro ⟨rfl | h, hfound⟩
      · exact absurd hfound hp
      · exact ⟨h, hfound⟩

/-- Inserting an available type keeps the tables coherent. -/
theorem Coherent.insert (coherent : registry.Coherent)
    (available : registry.checkAvailable type = .ok ()) : (registry.insert type).Coherent := by
  obtain ⟨hname, htypename, -⟩ := checkAvailable_eq_ok_iff.mp available
  -- Names, typenames and the two tables of roots, each by what its check has ruled out; at last
  -- that a root has one type.
  refine ⟨?_, ?_, ?_, ?_, ?_⟩
  · intro name found h
    rw [type?_insert] at h
    split at h
    · rename_i heq
      rw [← Option.some.inj h, heq]
    · exact coherent.name_eq h
  · intro typename found
    rw [typeOfTypename?_insert]
    refine lookup_insert_iff (p := (·.typename = typename)) hname
      (fun _ => coherent.typename_iff) (fun heq found hfound hsame => ?_) found
    rw [heq, coherent.typename_iff.mpr ⟨hfound, hsame⟩] at htypename
    cases htypename
  · intro root found
    show (setRoot type.queryRoot? type registry.queryRoots).get? root = _ ↔ _
    rw [get?_setRoot]
    exact lookup_insert_iff (p := (·.queryRoot? = some root)) hname
      (fun _ => coherent.queryRoot_iff)
      (fun heq _ hfound hroot => coherent.not_hasRoot available (.inl heq) hfound (.inl hroot))
      found
  · intro root found
    show (setRoot type.mutateRoot? type registry.mutateRoots).get? root = _ ↔ _
    rw [get?_setRoot]
    exact lookup_insert_iff (p := (·.mutateRoot? = some root)) hname
      (fun _ => coherent.mutateRoot_iff)
      (fun heq _ hfound hroot => coherent.not_hasRoot available (.inr heq) hfound (.inr hroot))
      found
  · intro root a b ha hb hroota hrootb
    -- An old type cannot have a root of the new one.
    rcases (registered_insert_iff hname).mp ha with rfl | holda <;>
      rcases (registered_insert_iff hname).mp hb with rfl | holdb
    · rfl
    · exact absurd hrootb (coherent.not_hasRoot available hroota holdb)
    · exact absurd hroota (coherent.not_hasRoot available hrootb holda)
    · exact coherent.root_unique holda holdb hroota hrootb

/-! ## Implementers -/

/-- An implementer is written to the table of its base type alone. -/
theorem implementersOf_insertImplementer (base typename name : String) (concrete : ObjectType) :
    (registry.insertImplementer base typename concrete).implementersOf name =
      if base = name then (registry.implementersOf base).set typename concrete
      else registry.implementersOf name := by
  rw [implementersOf, insertImplementer, Table.get?_set]
  split <;> rfl

/-- An implementer is found under its base type and its typename, and all others as before. -/
theorem implementer?_insertImplementer (base typename name wire : String) (concrete : ObjectType) :
    (registry.insertImplementer base typename concrete).implementer? name wire =
      if base = name ∧ typename = wire then some concrete else registry.implementer? name wire := by
  rw [implementer?, implementersOf_insertImplementer]
  by_cases hbase : base = name
  · rw [if_pos hbase, Table.get?_set, hbase, implementer?]
    simp
  · rw [if_neg hbase, if_neg fun h => hbase h.1, implementer?]

/-- Makes a type an implementer of every base type of a list, under its own typename. -/
def insertBelow (registry : Registry) (above : List String) (type : ObjectType) : Registry :=
  above.foldl (fun r base => r.insertImplementer base type.typename type) registry

/-- Implementers are all that `insertBelow` writes. -/
theorem insertBelow_eq (above : List String) (type : ObjectType) :
    ∃ implementers, registry.insertBelow above type = { registry with implementers } := by
  induction above generalizing registry with
  | nil => exact ⟨registry.implementers, rfl⟩
  | cons base rest ih =>
    obtain ⟨implementers, h⟩ := @ih (registry.insertImplementer base type.typename type)
    exact ⟨implementers, h⟩

/-- Implementers below a list of base types change no name. -/
theorem type?_insertBelow (above : List String) (type : ObjectType) (name : String) :
    (registry.insertBelow above type).type? name = registry.type? name := by
  obtain ⟨implementers, h⟩ := @insertBelow_eq registry above type
  rw [h, Registry.type?, Registry.type?]

/-- After implementers are written below a list of base types, the type is found below each of
them. -/
theorem implementer?_insertBelow (above : List String) (type : ObjectType) (name wire : String) :
    (registry.insertBelow above type).implementer? name wire =
      if name ∈ above ∧ type.typename = wire then some type
      else registry.implementer? name wire := by
  induction above generalizing registry with
  | nil => simp [insertBelow]
  | cons base rest ih =>
    rw [insertBelow, List.foldl_cons, ← insertBelow, ih, implementer?_insertImplementer]
    -- A base may stand in the list twice; the last write under it is the same as the first.
    by_cases hrest : name ∈ rest ∧ type.typename = wire
    · simp [hrest]
    · by_cases hbase : base = name ∧ type.typename = wire
      · simp [hbase.1, hbase.2]
      · rw [if_neg hrest, if_neg hbase, if_neg]
        rintro ⟨hmem, hwire⟩
        rcases List.mem_cons.mp hmem with rfl | hmem
        · exact hbase ⟨rfl, hwire⟩
        · exact hrest ⟨hmem, hwire⟩

/-- Coherence does not speak of implementers. -/
theorem Coherent.withImplementers (coherent : registry.Coherent)
    (implementers : Table (Table ObjectType)) : Coherent { registry with implementers } :=
  ⟨coherent.name_eq, coherent.typename_iff, coherent.queryRoot_iff, coherent.mutateRoot_iff,
    coherent.root_unique⟩

/-! ## Declarations -/

/-- The types above a new one, given the name of its parent. -/
def above (registry : Registry) : Option String → Except DeclarationError (List String)
  | some parent => registry.ancestors parent
  | none => .ok []

/-- A typename is free below a base type just if no implementer stands under it. -/
theorem checkImplementer_eq_ok_iff {base typename : String} :
    registry.checkImplementer base typename = .ok () ↔
      registry.implementer? base typename = none := by
  rw [checkImplementer, implementer?, ← Table.has_eq_false_iff]
  split <;> rename_i h <;> simp [h]

/-- A declaration looks up its ancestors, builds the type and checks every name before it writes. -/
theorem declare_eq (registry : Registry) (declaration : TypeDeclaration) :
    registry.declare declaration = (do
      let above ← registry.above declaration.parent
      let type ← declaration.build
      registry.checkAvailable type
      above.forM (registry.checkImplementer · type.typename)
      return ((registry.insert type).insertBelow above type, type)) := by
  rw [declare]
  cases declaration.parent <;> rfl

/-- A declaration succeeds when its ancestors are there, it builds, and every name is free; then the
type is inserted and stands for itself below every ancestor. -/
theorem declare_eq_ok_iff {declaration : TypeDeclaration} {after : Registry} :
    registry.declare declaration = .ok (after, type) ↔
      ∃ above, registry.above declaration.parent = .ok above ∧ declaration.build = .ok type ∧
        registry.checkAvailable type = .ok () ∧
        (∀ base ∈ above, registry.implementer? base type.typename = none) ∧
        after = (registry.insert type).insertBelow above type := by
  rw [declare_eq]
  simp only [bind_eq_ok, exists_unit, forM_eq_ok_iff, checkImplementer_eq_ok_iff, pure_eq_ok,
    Prod.mk.injEq]
  constructor
  · rintro ⟨above, habove, _, hbuild, havailable, hfree, rfl, rfl⟩
    exact ⟨above, habove, hbuild, havailable, hfree, rfl⟩
  · rintro ⟨above, habove, hbuild, havailable, hfree, rfl⟩
    exact ⟨above, habove, type, hbuild, havailable, hfree, rfl, rfl⟩

/-- After a declaration a name finds the new type or what it found before. -/
theorem type?_declare {declaration : TypeDeclaration} {after : Registry}
    (h : registry.declare declaration = .ok (after, type)) (name : String) :
    after.type? name = if type.name = name then some type else registry.type? name := by
  obtain ⟨above, -, -, -, -, rfl⟩ := declare_eq_ok_iff.mp h
  rw [type?_insertBelow, type?_insert]

/-- A declaration registers one more type. -/
theorem registered_declare_iff {declaration : TypeDeclaration} {after : Registry}
    (h : registry.declare declaration = .ok (after, type)) :
    after.Registered other ↔ other = type ∨ registry.Registered other := by
  obtain ⟨above, -, -, available, -, rfl⟩ := declare_eq_ok_iff.mp h
  rw [Registered, type?_insertBelow]
  exact registered_insert_iff (checkAvailable_eq_ok_iff.mp available).1

/-- A declaration keeps the tables coherent. -/
theorem Coherent.declare (coherent : registry.Coherent) {declaration : TypeDeclaration}
    {after : Registry} (h : registry.declare declaration = .ok (after, type)) : after.Coherent := by
  obtain ⟨above, -, -, available, -, rfl⟩ := declare_eq_ok_iff.mp h
  obtain ⟨implementers, heq⟩ := @insertBelow_eq (registry.insert type) above type
  rw [heq]
  exact (coherent.insert available).withImplementers implementers

/-- A registration succeeds just if every name of the type is free; then the type is inserted. -/
theorem register_eq_ok_iff {after : Registry} :
    registry.register type = .ok after ↔
      registry.checkAvailable type = .ok () ∧ after = registry.insert type := by
  simp only [register, bind_eq_ok, exists_unit, pure_eq_ok]
  exact and_congr_right fun _ => eq_comm

/-- An implementer is added when both types are there and the typename is neither the base type's
own nor taken. -/
theorem addImplementer_eq_ok_iff {base concrete : ObjectType} {typename : String}
    {after : Registry} :
    registry.addImplementer base typename concrete = .ok after ↔
      (∃ found, registry.type? base.name = some found) ∧
        (∃ found, registry.type? concrete.name = some found) ∧ typename ≠ base.typename ∧
        registry.implementer? base.name typename = none ∧
        after = registry.insertImplementer base.name typename concrete := by
  simp only [type?, ← Table.has_eq_true_iff]
  rw [addImplementer]
  split_ifs with hbase hconcrete hown
  · simp_all
  · simp_all
  · simp [hown]
  · simp only [bind_eq_ok, exists_unit, checkImplementer_eq_ok_iff, pure_eq_ok, Bool.not_eq_true',
      Bool.not_eq_false] at *
    constructor
    · rintro ⟨hfree, rfl⟩
      exact ⟨hbase, hconcrete, hown, hfree, rfl⟩
    · rintro ⟨-, -, -, hfree, rfl⟩
      exact ⟨hfree, rfl⟩

end Registry

end TypedQuery
