import Mathlib.Logic.Relation
import TypedQuery.Proofs.Schema.Building
import TypedQuery.Proofs.Schema.Coherence
import TypedQuery.Schema.Document

/-!
# Reachable registries

A registry is filled by calls: declarations, registrations, further implementers and whole schema
documents, in any order and with any arguments that there are. A call that fails leaves the registry
as it was, except that a document keeps what it declared before its first error.

What a call does is a row of *steps*, each a declaration, a registration or an implementer that
succeeded (`perform_steps`). A call that fails takes no step, and a document takes those before its
first error. A step writes one available type into the tables of names, or writes nothing there
(`Step.tables`). So the tables of a reachable registry are coherent, and it holds built types only.
-/

namespace TypedQuery

open Relation

/-- A call that may change a registry. -/
inductive Registry.Call where
  | declare (declaration : TypeDeclaration)
  | register (type : ObjectType)
  | addImplementer (base : ObjectType) (typename : String) (concrete : ObjectType)
  | load (document : SchemaDocument)

/-- Whether the arguments of a call are among those that there are. -/
def Registry.Call.Made : Registry.Call → Prop
  | .declare declaration => declaration.Made
  | .register type => type.Built
  | .addImplementer base _ concrete => base.Built ∧ concrete.Built
  | .load _ => True

namespace Registry

/-- The registry after a call, whether it succeeds or fails. -/
def perform (registry : Registry) : Call → Registry
  | .declare declaration =>
    match registry.declare declaration with
    | .ok (after, _) => after
    | .error _ => registry
  | .register type =>
    match registry.register type with
    | .ok after => after
    | .error _ => registry
  | .addImplementer base typename concrete =>
    match registry.addImplementer base typename concrete with
    | .ok after => after
    | .error _ => registry
  | .load document => (document.loadInto registry).1

/-- The registries that a run of calls leaves. -/
inductive Reachable : Registry → Prop
  | empty : Reachable .empty
  | perform {registry : Registry} (reachable : Reachable registry) {call : Call}
      (made : call.Made) : Reachable (registry.perform call)

end Registry

/-! ## Documents as calls -/

/-- A field of a document is made with the calls of its builder. -/
theorem FieldEntry.made_declaration (entry : FieldEntry) : entry.declaration.field.Made :=
  .options .new entry.queryName entry.mutateName entry.default entry.mutable none

/-- So the declaration of a type in a document is among those that there are. -/
theorem TypeEntry.made_declaration (entry : TypeEntry) : entry.declaration.Made := by
  intro declared hdeclared
  obtain ⟨field, -, rfl⟩ := List.mem_map.mp hdeclared
  exact field.made_declaration

namespace SchemaDocument

variable {p : Registry → Prop} {registry : Registry}

/-- The first pass goes through when the first type is declared and it goes through the rest. -/
theorem declareTypes_cons_eq_none_iff {entry : TypeEntry} {rest : List TypeEntry}
    {after : Registry} :
    declareTypes registry (entry :: rest) = (after, none) ↔
      ∃ next type, registry.declare entry.declaration = .ok (next, type) ∧
        declareTypes next rest = (after, none) := by
  rw [declareTypes]
  split
  · rename_i next type hdeclare
    simp [hdeclare]
  · rename_i error hdeclare
    simp [hdeclare]

/-- The second pass goes through when the first implementer is added and it goes through the
rest. -/
theorem addImplementers_cons_eq_none_iff {pair : String × String} {rest : List (String × String)}
    {after : Registry} :
    addImplementers registry (pair :: rest) = (after, none) ↔
      ∃ next, addImplementer registry pair.1 pair.2 = .ok next ∧
        addImplementers next rest = (after, none) := by
  rw [addImplementers]
  split
  · rename_i next hadd
    simp [hadd]
  · rename_i error hadd
    simp [hadd]

/-- What declarations keep, the declarations of a list of types keep. -/
theorem declareTypes_invariant
    (declare : ∀ {registry after : Registry} {declaration : TypeDeclaration} {type},
      p registry → declaration.Made → registry.declare declaration = .ok (after, type) → p after)
    (entries : List TypeEntry) (h : p registry) : p (declareTypes registry entries).1 := by
  induction entries generalizing registry with
  | nil => exact h
  | cons entry rest ih =>
    rw [declareTypes]
    split
    · rename_i after type hdeclare
      exact ih (declare h entry.made_declaration hdeclare)
    · exact h

/-- A document adds an implementer from two registered types. -/
theorem addImplementer_eq_ok_iff {base concrete : String} {after : Registry} :
    addImplementer registry base concrete = .ok after ↔
      ∃ baseType concreteType, registry.type? base = some baseType ∧
        registry.type? concrete = some concreteType ∧
        registry.addImplementer baseType concreteType.typename concreteType = .ok after := by
  rw [addImplementer]
  cases hbase : registry.type? base with
  | none => simp
  | some baseType =>
    cases hconcrete : registry.type? concrete <;> simp

/-- What implementers keep, a list of implementers keeps. -/
theorem addImplementers_invariant
    (add : ∀ {registry after : Registry} {base concrete : String},
      p registry → addImplementer registry base concrete = .ok after → p after)
    (pairs : List (String × String)) (h : p registry) : p (addImplementers registry pairs).1 := by
  induction pairs generalizing registry with
  | nil => exact h
  | cons pair rest ih =>
    rw [addImplementers]
    split
    · rename_i after hadd
      exact ih (add h hadd)
    · exact h

/-- What declarations and implementers keep, a document keeps, however far it comes. -/
theorem loadInto_invariant
    (declare : ∀ {registry after : Registry} {declaration : TypeDeclaration} {type},
      p registry → declaration.Made → registry.declare declaration = .ok (after, type) → p after)
    (add : ∀ {registry after : Registry} {base concrete : String},
      p registry → addImplementer registry base concrete = .ok after → p after)
    (document : SchemaDocument) (h : p registry) : p (document.loadInto registry).1 := by
  have htypes := declareTypes_invariant declare document.types h
  rw [loadInto]
  split
  · rename_i declared heq
    rw [heq] at htypes
    exact addImplementers_invariant add _ htypes
  · rename_i declared error heq
    rwa [heq] at htypes

end SchemaDocument

/-! ## Calls as steps -/

namespace Registry

variable {registry after : Registry}

/-- A successful operation on one type. -/
inductive Step (registry : Registry) : Registry → Prop
  | declare {declaration : TypeDeclaration} {type : ObjectType} {after : Registry}
      (h : registry.declare declaration = .ok (after, type)) : Step registry after
  | register {type : ObjectType} {after : Registry} (h : registry.register type = .ok after) :
      Step registry after
  | addImplementer {base concrete : ObjectType} {typename : String} {after : Registry}
      (h : registry.addImplementer base typename concrete = .ok after) : Step registry after

/-- A document takes a step for every type that it declares and for every implementer that it
adds. -/
theorem load_steps (document : SchemaDocument) :
    ReflTransGen Step registry (registry.perform (.load document)) := by
  refine SchemaDocument.loadInto_invariant (fun steps _ h => steps.tail (.declare h))
    (fun steps h => ?_) document .refl
  obtain ⟨base, concrete, -, -, hadd⟩ := SchemaDocument.addImplementer_eq_ok_iff.mp h
  exact steps.tail (.addImplementer hadd)

/-- Every call is a row of steps, which is empty if the call fails. -/
theorem perform_steps (registry : Registry) (call : Call) :
    ReflTransGen Step registry (registry.perform call) := by
  cases call with
  | declare declaration =>
    rw [perform]
    split
    · rename_i h
      exact .single (.declare h)
    -- A refused call leaves the registry as it was.
    · exact .refl
  | register type =>
    rw [perform]
    split
    · rename_i h
      exact .single (.register h)
    · exact .refl
  | addImplementer base typename concrete =>
    rw [perform]
    split
    · rename_i h
      exact .single (.addImplementer h)
    · exact .refl
  | load document => exact load_steps document

/-- What every step keeps, a row of steps keeps. -/
theorem steps_invariant {p : Registry → Prop}
    (step : ∀ {registry after : Registry}, p registry → registry.Step after → p after)
    (h : p registry) (steps : ReflTransGen Step registry after) : p after := by
  induction steps with
  | refl => exact h
  | tail _ last ih => exact step ih last

/-- A step writes one type whose names are free under these names, or none. -/
theorem Step.tables (step : registry.Step after) : ∃ implementers,
    after = { registry with implementers } ∨
      ∃ type, registry.checkAvailable type = .ok () ∧
        after = { registry.insert type with implementers } := by
  cases step with
  | @declare _ type _ h =>
    obtain ⟨above, -, -, available, -, rfl⟩ := declare_eq_ok_iff.mp h
    -- Below its ancestors the type is written to their implementers, and nowhere else.
    obtain ⟨implementers, heq⟩ := @insertBelow_eq (registry.insert type) above type
    exact ⟨implementers, .inr ⟨type, available, heq⟩⟩
  | @register type _ h =>
    obtain ⟨available, rfl⟩ := register_eq_ok_iff.mp h
    exact ⟨registry.implementers, .inr ⟨type, available, rfl⟩⟩
  | addImplementer h =>
    obtain ⟨-, -, -, -, rfl⟩ := addImplementer_eq_ok_iff.mp h
    exact ⟨_, .inl rfl⟩

/-- A step keeps the tables coherent. -/
theorem Coherent.step (coherent : registry.Coherent) (step : registry.Step after) :
    after.Coherent := by
  obtain ⟨implementers, rfl | ⟨type, available, rfl⟩⟩ := step.tables
  · exact coherent.withImplementers implementers
  · exact (coherent.insert available).withImplementers implementers

end Registry

/-! ## Invariants -/

namespace Registry

variable {registry : Registry}

/-- Whether the types of a registry are among those that there are. -/
structure HoldsBuilt (registry : Registry) : Prop where
  type : ∀ {name type}, registry.type? name = some type → type.Built
  implementer : ∀ {base typename type}, registry.implementer? base typename = some type → type.Built

/-- The empty registry holds no types. -/
theorem HoldsBuilt.empty : HoldsBuilt .empty := by
  constructor <;> simp [Registry.empty, type?, implementer?, implementersOf]

/-- A built implementer keeps the types of a registry built. -/
theorem HoldsBuilt.insertImplementer (holds : registry.HoldsBuilt) {concrete : ObjectType}
    (built : concrete.Built) (base typename : String) :
    (registry.insertImplementer base typename concrete).HoldsBuilt := by
  refine ⟨holds.type, fun {name wire type} h => ?_⟩
  rw [implementer?_insertImplementer] at h
  split at h
  · exact Option.some.inj h ▸ built
  · exact holds.implementer h

/-- A built type keeps them built when it is inserted under its names. -/
theorem HoldsBuilt.insert (holds : registry.HoldsBuilt) {type : ObjectType} (built : type.Built) :
    (registry.insert type).HoldsBuilt := by
  refine ⟨fun {name found} h => ?_, holds.implementer⟩
  rw [type?_insert] at h
  split at h
  · exact Option.some.inj h ▸ built
  · exact holds.type h

/-- A built type keeps them built when it becomes an implementer of other types. -/
theorem HoldsBuilt.insertBelow (holds : registry.HoldsBuilt) {type : ObjectType}
    (built : type.Built) (above : List String) : (registry.insertBelow above type).HoldsBuilt := by
  induction above generalizing registry with
  | nil => exact holds
  | cons base rest ih => exact ih (holds.insertImplementer built base type.typename)

/-- A statement that every successful step keeps is kept by every call. A document's implementers
are types that the registry holds already, so the statement must make these built. -/
theorem perform_invariant {p : Registry → Prop}
    (declare : ∀ {registry after : Registry} {declaration : TypeDeclaration} {type},
      p registry → declaration.Made → registry.declare declaration = .ok (after, type) → p after)
    (register : ∀ {registry after : Registry} {type : ObjectType},
      p registry → type.Built → registry.register type = .ok after → p after)
    (addImplementer : ∀ {registry after : Registry} {base concrete : ObjectType} {typename},
      p registry → base.Built → concrete.Built →
      registry.addImplementer base typename concrete = .ok after → p after)
    (built : ∀ {registry : Registry} {name type},
      p registry → registry.type? name = some type → type.Built)
    (h : p registry) {call : Call} (made : call.Made) : p (registry.perform call) := by
  cases call with
  | declare declaration =>
    rw [perform]
    split
    · rename_i hdeclare
      exact declare h made hdeclare
    · exact h
  | register type =>
    rw [perform]
    split
    · rename_i hregister
      exact register h made hregister
    · exact h
  | addImplementer base typename concrete =>
    rw [perform]
    split
    · rename_i hadd
      exact addImplementer h made.1 made.2 hadd
    · exact h
  | load document =>
    -- The implementers of a document are named in it, and the registry holds their types by then.
    refine SchemaDocument.loadInto_invariant declare (fun hp hadd => ?_) document h
    obtain ⟨base, concrete, hbase, hconcrete, hadd⟩ :=
      SchemaDocument.addImplementer_eq_ok_iff.mp hadd
    exact addImplementer hp (built hp hbase) (built hp hconcrete) hadd

/-- What is declared is built by the declaration itself. -/
theorem HoldsBuilt.declare (holds : registry.HoldsBuilt) {declaration : TypeDeclaration}
    (made : declaration.Made) {after : Registry} {type : ObjectType}
    (h : registry.declare declaration = .ok (after, type)) : after.HoldsBuilt := by
  obtain ⟨above, -, hbuild, -, -, rfl⟩ := declare_eq_ok_iff.mp h
  have hbuilt : type.Built := ⟨declaration, made, hbuild⟩
  exact (holds.insert hbuilt).insertBelow hbuilt above

/-- A registration adds the given type alone. -/
theorem HoldsBuilt.register (holds : registry.HoldsBuilt) {type : ObjectType} (built : type.Built)
    {after : Registry} (h : registry.register type = .ok after) : after.HoldsBuilt := by
  obtain ⟨-, rfl⟩ := register_eq_ok_iff.mp h
  exact holds.insert built

/-- A further implementer adds the given concrete type alone. -/
theorem HoldsBuilt.addImplementer (holds : registry.HoldsBuilt) {base concrete : ObjectType}
    (built : concrete.Built) {typename : String} {after : Registry}
    (h : registry.addImplementer base typename concrete = .ok after) : after.HoldsBuilt := by
  obtain ⟨-, -, -, -, rfl⟩ := addImplementer_eq_ok_iff.mp h
  exact holds.insertImplementer built base.name typename

/-- A reachable registry holds built types only. -/
theorem Reachable.holdsBuilt (reachable : registry.Reachable) : registry.HoldsBuilt := by
  induction reachable with
  | empty => exact .empty
  | perform _ made ih =>
    exact perform_invariant (fun holds made h => holds.declare made h)
      (fun holds built h => holds.register built h)
      (fun holds _ built h => holds.addImplementer built h) (fun holds => holds.type) ih made

/-- A reachable registry is left by a row of steps. -/
theorem Reachable.steps (reachable : registry.Reachable) : ReflTransGen Step .empty registry := by
  induction reachable with
  | empty => exact .refl
  | perform _ _ ih => exact ih.trans (perform_steps _ _)

/-- The tables of a reachable registry are coherent. -/
theorem Reachable.coherent (reachable : registry.Reachable) : registry.Coherent :=
  steps_invariant (fun coherent step => coherent.step step) .empty reachable.steps

/-! ## A small library -/

/-- Shelves of books, some of which are atlases. -/
def libraryDocument : SchemaDocument where
  types := [
    { name := "book", typename := some "Book", fields := [{ name := "title" }] },
    { name := "atlas", typename := some "Atlas", parent := some "book",
      fields := [{ name := "title" }, { name := "scale", queryName := some "mapScale" }] },
    { name := "shelf", typename := some "Shelf", queryRoot := "shelves", mutateRoot := "addShelf",
      fields := [
        { name := "label" },
        { name := "first", type := .object "book", queryName := some "firstBook" },
        { name := "books", type := .list (.object "book") },
        { name := "floor", default := some (.ofInt 1) }] }]

/-- The registry of the library. -/
def library : Registry := Registry.empty.perform (.load libraryDocument)

/-- A type of the library. -/
def libraryType (name : String) : ObjectType := (library.type? name).getD default

/-- A field of a type of the library. -/
def libraryField (type name : String) : Field := ((libraryType type).field? name).getD default

/-- The library is left by one call, which loads a document. -/
theorem library_reachable : library.Reachable :=
  @Reachable.perform _ .empty (.load libraryDocument) trivial

end Registry

end TypedQuery
