import Mathlib.Data.List.Perm.Basic
import TypedQuery.Proofs.Schema.Agreement
import TypedQuery.Proofs.Schema.Implementers

/-!
# Documents that are merged

Two documents that load one after the other can be loaded as one (`exists_loadInto_append`). In the
merged document all types are declared before any listed implementer is added, so the implementers
that the first document lists come after the types of the second.

What carries this is that the two kinds of steps can change places: an implementer that is added
before a declaration can be added after it (`exists_declare_of_addImplementer`). The declaration
then sees fewer implementers, and the implementer is known under a typename that no new type can
have. The registries on both ways hold the same tables, except that a map of implementers may list
its entries in another order (`SameTables`).
-/

namespace TypedQuery

open Checked Registry

variable {registry other middle last after : Registry} {type : ObjectType}
  {declaration : TypeDeclaration}

namespace Registry

/-! ## Registries up to the order of implementers -/

/-- Whether two registries have the same tables, but for the order in which implementers stand. -/
structure SameTables (registry other : Registry) : Prop where
  byName : registry.byName = other.byName
  byTypename : registry.byTypename = other.byTypename
  queryRoots : registry.queryRoots = other.queryRoots
  mutateRoots : registry.mutateRoots = other.mutateRoots
  implementer? : ∀ base typename,
    registry.implementer? base typename = other.implementer? base typename

theorem SameTables.refl (registry : Registry) : registry.SameTables registry :=
  ⟨rfl, rfl, rfl, rfl, fun _ _ => rfl⟩

/-- Registries with the same tables as a third one have the same tables. -/
theorem SameTables.trans (same : registry.SameTables other) (next : other.SameTables last) :
    registry.SameTables last where
  byName := same.byName.trans next.byName
  byTypename := same.byTypename.trans next.byTypename
  queryRoots := same.queryRoots.trans next.queryRoots
  mutateRoots := same.mutateRoots.trans next.mutateRoots
  implementer? base typename :=
    (same.implementer? base typename).trans (next.implementer? base typename)

theorem SameTables.symm (same : registry.SameTables other) : other.SameTables registry where
  byName := same.byName.symm
  byTypename := same.byTypename.symm
  queryRoots := same.queryRoots.symm
  mutateRoots := same.mutateRoots.symm
  implementer? base typename := (same.implementer? base typename).symm

theorem SameTables.type?_eq (same : registry.SameTables other) (name : String) :
    registry.type? name = other.type? name := by
  rw [Registry.type?, Registry.type?, same.byName]

/-- Registries with the same tables answer every lookup alike. -/
theorem SameTables.agrees (same : registry.SameTables other) : registry.Agrees other where
  type?_eq := same.type?_eq
  typename?_eq typename := by rw [typeOfTypename?, typeOfTypename?, same.byTypename]
  root?_eq root := by rw [typeOfRoot?, typeOfRoot?, same.queryRoots, same.mutateRoots]
  implementer?_eq := same.implementer?

/-- The implementers of a type are the same, though perhaps in another order. -/
theorem SameTables.perm_implementersOf (same : registry.SameTables other) (mapped : registry.Mapped)
    (otherMapped : other.Mapped) (base : String) :
    (registry.implementersOf base).Perm (other.implementersOf base) := by
  have keys := mapped.nodup_implementersOf base
  have otherKeys := otherMapped.nodup_implementersOf base
  rw [List.perm_ext_iff_of_nodup keys.of_map otherKeys.of_map]
  rintro ⟨typename, concrete⟩
  rw [← Table.get?_eq_some_iff keys, ← Table.get?_eq_some_iff otherKeys]
  exact Eq.congr_left (same.implementer? base typename)

/-- The types above a new one are found in the table of names alone. -/
theorem above_congr (h : registry.byName = other.byName) (parent : Option String) :
    registry.above parent = other.above parent := by
  have hwithin : ∀ steps name,
      registry.ancestorsWithin steps name = other.ancestorsWithin steps name := by
    intro steps
    induction steps with
    | zero => exact fun _ => rfl
    | succ steps ih =>
      intro name
      simp only [ancestorsWithin, Registry.type?, h, ih]
  cases parent with
  | none => rfl
  | some parent => simp only [Registry.above, ancestors, hwithin, h]

/-- The same names are free over the same tables. -/
theorem SameTables.checkAvailable_eq (same : registry.SameTables other) (type : ObjectType) :
    registry.checkAvailable type = other.checkAvailable type := by
  have hroot : registry.hasRoot = other.hasRoot := by
    funext root
    rw [hasRoot, hasRoot, same.queryRoots, same.mutateRoots]
  simp only [checkAvailable, hroot, same.byName, same.byTypename]

/-- Tables stay the same after one insertion in both. -/
theorem SameTables.insert (same : registry.SameTables other) (type : ObjectType) :
    (registry.insert type).SameTables (other.insert type) where
  byName := by simp only [Registry.insert, same.byName]
  byTypename := by simp only [Registry.insert, same.byTypename]
  queryRoots := by simp only [Registry.insert, same.queryRoots]
  mutateRoots := by simp only [Registry.insert, same.mutateRoots]
  implementer? := same.implementer?

/-- Tables stay the same after one implementer in both, in whichever place it lands. -/
theorem SameTables.insertImplementer (same : registry.SameTables other) (base typename : String)
    (concrete : ObjectType) :
    (registry.insertImplementer base typename concrete).SameTables
      (other.insertImplementer base typename concrete) where
  byName := same.byName
  byTypename := same.byTypename
  queryRoots := same.queryRoots
  mutateRoots := same.mutateRoots
  implementer? name wire := by
    rw [implementer?_insertImplementer, implementer?_insertImplementer, same.implementer?]

/-- Tables stay the same after implementers below the same bases in both. -/
theorem SameTables.insertBelow (same : registry.SameTables other) (above : List String)
    (type : ObjectType) :
    (registry.insertBelow above type).SameTables (other.insertBelow above type) := by
  induction above generalizing registry other with
  | nil => exact same
  | cons base rest ih => exact ih (same.insertImplementer base type.typename type)

/-- What can be declared in a registry can be declared in one with the same tables. -/
theorem SameTables.declare (same : registry.SameTables other)
    (h : registry.declare declaration = .ok (after, type)) :
    ∃ next, other.declare declaration = .ok (next, type) ∧ after.SameTables next := by
  obtain ⟨above, habove, hbuild, available, free, rfl⟩ := declare_eq_ok_iff.mp h
  refine ⟨_, declare_eq_ok_iff.mpr ⟨above, ?_, hbuild, ?_, ?_, rfl⟩,
    (same.insert type).insertBelow above type⟩
  · rwa [← above_congr same.byName]
  · rwa [← same.checkAvailable_eq]
  · simpa only [← same.implementer?] using free

end Registry

namespace SchemaDocument

variable {base concrete : String} {pairs : List (String × String)} {entries : List TypeEntry}

/-- A listed implementer that can be added over some tables can be added over the same ones. -/
theorem addImplementer_of_sameTables (same : registry.SameTables other)
    (h : addImplementer registry base concrete = .ok after) :
    ∃ next, addImplementer other base concrete = .ok next ∧ after.SameTables next := by
  simp only [addImplementer_eq_ok_iff, Registry.addImplementer_eq_ok_iff, same.type?_eq,
    same.implementer?] at h ⊢
  obtain ⟨baseType, concreteType, hbase, hconcrete, known, knownConcrete, hother, free, rfl⟩ := h
  exact ⟨_, ⟨baseType, concreteType, hbase, hconcrete, known, knownConcrete, hother, free, rfl⟩,
    same.insertImplementer _ _ _⟩

/-- The first pass goes through in the same way over registries with the same tables. -/
theorem declareTypes_of_sameTables (same : registry.SameTables other)
    (h : declareTypes registry entries = (after, none)) :
    ∃ next, declareTypes other entries = (next, none) ∧ after.SameTables next := by
  induction entries generalizing registry other with
  | nil =>
    obtain rfl := congrArg Prod.fst h
    exact ⟨other, rfl, same⟩
  | cons entry rest ih =>
    obtain ⟨declared, type, hdeclare, hrest⟩ := declareTypes_cons_eq_none_iff.mp h
    obtain ⟨next, hnext, still⟩ := same.declare hdeclare
    obtain ⟨final, hfinal, again⟩ := ih still hrest
    exact ⟨final, declareTypes_cons_eq_none_iff.mpr ⟨next, type, hnext, hfinal⟩, again⟩

/-- The second pass goes through in the same way over registries with the same tables. -/
theorem addImplementers_of_sameTables (same : registry.SameTables other)
    (h : addImplementers registry pairs = (after, none)) :
    ∃ next, addImplementers other pairs = (next, none) ∧ after.SameTables next := by
  induction pairs generalizing registry other with
  | nil =>
    obtain rfl := congrArg Prod.fst h
    exact ⟨other, rfl, same⟩
  | cons pair rest ih =>
    obtain ⟨added, hadd, hrest⟩ := addImplementers_cons_eq_none_iff.mp h
    obtain ⟨next, hnext, still⟩ := addImplementer_of_sameTables same hadd
    obtain ⟨final, hfinal, again⟩ := ih still hrest
    exact ⟨final, addImplementers_cons_eq_none_iff.mpr ⟨next, hnext, hfinal⟩, again⟩

end SchemaDocument

/-! ## Steps that change places -/

namespace Registry

variable {base typename : String} {concrete : ObjectType}

/-- Implementers under different typenames can be written in any order. -/
theorem sameTables_insertImplementer_comm {name wire : String} {variant : ObjectType}
    (distinct : wire ≠ typename) :
    ((registry.insertImplementer base typename concrete).insertImplementer name wire
      variant).SameTables ((registry.insertImplementer name wire variant).insertImplementer base
        typename concrete) := by
  refine ⟨rfl, rfl, rfl, rfl, fun other own => ?_⟩
  simp only [implementer?_insertImplementer]
  by_cases hbefore : base = other ∧ typename = own
  · rw [if_neg fun hafter => distinct (hafter.2.trans hbefore.2.symm), if_pos hbefore,
      if_pos hbefore]
  · rw [if_neg hbefore, if_neg hbefore]

/-- An implementer can be written before or after those of a type with another typename. -/
theorem sameTables_insertBelow_comm (distinct : type.typename ≠ typename) (above : List String) :
    ((registry.insertImplementer base typename concrete).insertBelow above type).SameTables
      ((registry.insertBelow above type).insertImplementer base typename concrete) := by
  induction above generalizing registry with
  | nil => exact .refl _
  | cons name rest ih =>
    exact ((sameTables_insertImplementer_comm distinct).insertBelow rest type).trans ih

end Registry

namespace SchemaDocument

variable {base concrete : String} {pairs : List (String × String)} {entries : List TypeEntry}

/-- An implementer that is added before a declaration can be added after it. -/
theorem exists_declare_of_addImplementer (coherent : registry.Coherent)
    (added : addImplementer registry base concrete = .ok middle)
    (declared : middle.declare declaration = .ok (last, type)) :
    ∃ next, registry.declare declaration = .ok (next, type) ∧
      ∃ merged, addImplementer next base concrete = .ok merged ∧ last.SameTables merged := by
  obtain ⟨baseType, concreteType, hbase, hconcrete, hadd⟩ := addImplementer_eq_ok_iff.mp added
  obtain ⟨-, -, hother, free, rfl⟩ := Registry.addImplementer_eq_ok_iff.mp hadd
  obtain ⟨above, habove, hbuild, available, freeBelow, rfl⟩ := declare_eq_ok_iff.mp declared
  replace available : registry.checkAvailable type = .ok () := available
  have hsame : registry.byName =
      (registry.insertImplementer baseType.name concreteType.typename concreteType).byName := rfl
  rw [← above_congr hsame] at habove
  -- The declaration finds fewer implementers in its way.
  have hfree : ∀ name ∈ above, registry.implementer? name type.typename = none := by
    intro name hname
    have hfree := freeBelow name hname
    rw [implementer?_insertImplementer] at hfree
    split at hfree
    · cases hfree
    · exact hfree
  -- The new type cannot have the typename of the implementer, which is registered.
  have hdistinct : type.typename ≠ concreteType.typename := by
    intro heq
    have htaken := coherent.typename_iff.mpr ⟨coherent.registered hconcrete, rfl⟩
    rw [← heq, (checkAvailable_eq_ok_iff.mp available).2.1] at htaken
    cases htaken
  have hnext := declare_eq_ok_iff.mpr ⟨above, habove, hbuild, available, hfree, rfl⟩
  have grows := Grows.declare hnext
  have hstill : ((registry.insert type).insertBelow above type).implementer? baseType.name
      concreteType.typename = none := by
    rw [implementer?_insertBelow, if_neg fun h => hdistinct h.2]
    exact free
  -- All that the implementer asks for was there before the declaration and is still there.
  have hmerged := Registry.addImplementer_eq_ok_iff.mpr
    ⟨⟨_, grows _ _ (coherent.registered hbase)⟩, ⟨_, grows _ _ (coherent.registered hconcrete)⟩,
      hother, hstill, rfl⟩
  exact ⟨_, hnext, _, addImplementer_eq_ok_iff.mpr
    ⟨baseType, concreteType, grows _ _ hbase, grows _ _ hconcrete, hmerged⟩,
    @sameTables_insertBelow_comm (registry.insert type) _ _ _ _ hdistinct above⟩

/-- A listed implementer keeps the registry coherent. -/
theorem coherent_of_addImplementer (coherent : registry.Coherent)
    (h : addImplementer registry base concrete = .ok after) : after.Coherent := by
  obtain ⟨baseType, concreteType, -, -, hadd⟩ := addImplementer_eq_ok_iff.mp h
  exact coherent.step (.addImplementer hadd)

/-- Implementers that are added before a declaration can be added after it. -/
theorem exists_declare_of_addImplementers (coherent : registry.Coherent)
    (added : addImplementers registry pairs = (middle, none))
    (declared : middle.declare declaration = .ok (last, type)) :
    ∃ next, registry.declare declaration = .ok (next, type) ∧
      ∃ merged, addImplementers next pairs = (merged, none) ∧ last.SameTables merged := by
  induction pairs generalizing registry with
  | nil =>
    obtain rfl := congrArg Prod.fst added
    exact ⟨last, declared, last, rfl, .refl last⟩
  | cons pair rest ih =>
    obtain ⟨first, hfirst, hrest⟩ := addImplementers_cons_eq_none_iff.mp added
    -- The declaration passes the rest of the pairs, and then the first one.
    obtain ⟨next, hnext, merged, hmerged, same⟩ :=
      ih (coherent_of_addImplementer coherent hfirst) hrest
    obtain ⟨start, hstart, second, hsecond, again⟩ :=
      exists_declare_of_addImplementer coherent hfirst hnext
    obtain ⟨final, hfinal, still⟩ := addImplementers_of_sameTables again hmerged
    have hpairs := addImplementers_cons_eq_none_iff.mpr ⟨second, hsecond, hfinal⟩
    exact ⟨start, hstart, final, hpairs, same.trans still⟩

/-- Implementers that are added before some declarations can be added after them. -/
theorem exists_declareTypes_of_addImplementers (coherent : registry.Coherent)
    (added : addImplementers registry pairs = (middle, none))
    (declared : declareTypes middle entries = (last, none)) :
    ∃ next, declareTypes registry entries = (next, none) ∧
      ∃ merged, addImplementers next pairs = (merged, none) ∧ last.SameTables merged := by
  induction entries generalizing registry middle last with
  | nil =>
    obtain rfl := congrArg Prod.fst declared
    exact ⟨registry, rfl, middle, added, .refl middle⟩
  | cons entry rest ih =>
    obtain ⟨first, type, hfirst, hrest⟩ := declareTypes_cons_eq_none_iff.mp declared
    -- The pairs pass the first entry; the others are then declared over the same tables.
    obtain ⟨next, hnext, merged, hmerged, same⟩ :=
      exists_declare_of_addImplementers coherent added hfirst
    obtain ⟨others, hothers, still⟩ := declareTypes_of_sameTables same hrest
    obtain ⟨final, hfinal, last, hlast, again⟩ := ih (coherent.declare hnext) hmerged hothers
    have htypes := declareTypes_cons_eq_none_iff.mpr ⟨next, type, hnext, hfinal⟩
    exact ⟨final, htypes, last, hlast, still.trans again⟩

/-! ## Documents one after the other -/

/-- Entries that follow others are declared in what those leave. -/
theorem declareTypes_append (h : declareTypes registry entries = (middle, none))
    (more : List TypeEntry) :
    declareTypes registry (entries ++ more) = declareTypes middle more := by
  induction entries generalizing registry with
  | nil =>
    obtain rfl := congrArg Prod.fst h
    rfl
  | cons entry rest ih =>
    obtain ⟨next, type, hdeclare, hrest⟩ := declareTypes_cons_eq_none_iff.mp h
    rw [List.cons_append, declareTypes, hdeclare]
    exact ih hrest

/-- Pairs that follow others are added to what those leave. -/
theorem addImplementers_append (h : addImplementers registry pairs = (middle, none))
    (more : List (String × String)) :
    addImplementers registry (pairs ++ more) = addImplementers middle more := by
  induction pairs generalizing registry with
  | nil =>
    obtain rfl := congrArg Prod.fst h
    rfl
  | cons pair rest ih =>
    obtain ⟨next, hadd, hrest⟩ := addImplementers_cons_eq_none_iff.mp h
    rw [List.cons_append, addImplementers, hadd]
    exact ih hrest

/-- The document with the types of two documents. -/
def append (first second : SchemaDocument) : SchemaDocument where
  types := first.types ++ second.types

/-- The pairs of two documents that are put together follow one another. -/
theorem implementerPairs_append (first second : SchemaDocument) :
    (first.append second).implementerPairs =
      first.implementerPairs ++ second.implementerPairs :=
  List.flatMap_append

/-- Two documents that load one after the other load as one, into the same tables. -/
theorem exists_loadInto_append (coherent : registry.Coherent) {first second : SchemaDocument}
    (loaded : first.loadInto registry = (middle, none))
    (next : second.loadInto middle = (last, none)) :
    ∃ merged, (first.append second).loadInto registry = (merged, none) ∧
      last.SameTables merged := by
  obtain ⟨declared, htypes, hpairs⟩ := loadInto_eq_none_iff.mp loaded
  obtain ⟨further, hfurther, hmorePairs⟩ := loadInto_eq_none_iff.mp next
  have declaredCoherent := declareTypes_invariant (fun coherent _ h => Coherent.declare coherent h)
    first.types coherent
  rw [htypes] at declaredCoherent
  -- The types of the second document pass the implementers of the first.
  obtain ⟨all, hall, added, hadded, same⟩ :=
    exists_declareTypes_of_addImplementers declaredCoherent hpairs hfurther
  obtain ⟨merged, hmerged, still⟩ := addImplementers_of_sameTables same hmorePairs
  refine ⟨merged, loadInto_eq_none_iff.mpr ⟨all, ?_, ?_⟩, still⟩
  · rw [append, declareTypes_append htypes]
    exact hall
  · rw [implementerPairs_append, addImplementers_append hadded]
    exact hmerged

/-- Two documents that load one after the other into a reachable registry can be loaded as one. The
types are then listed in the same order, and every lookup answers the same; only the implementers
of a type may be listed in another order. -/
theorem loadInto_append_agrees (reachable : registry.Reachable) {first second : SchemaDocument}
    (loaded : first.loadInto registry = (middle, none))
    (next : second.loadInto middle = (last, none)) :
    ∃ merged, (first.append second).loadInto registry = (merged, none) ∧
      merged.types = last.types ∧ merged.Agrees last ∧
      ∀ base, (merged.implementersOf base).Perm (last.implementersOf base) := by
  obtain ⟨merged, hmerged, same⟩ := exists_loadInto_append reachable.coherent loaded next
  have mapped : registry.Mapped :=
    steps_invariant (fun mapped step => mapped.step step) .empty reachable.steps
  have middleMapped := (mapped.adds_load first).mapped
  rw [loaded] at middleMapped
  have lastMapped := (middleMapped.adds_load second).mapped
  have mergedMapped := (mapped.adds_load (first.append second)).mapped
  rw [next] at lastMapped
  rw [hmerged] at mergedMapped
  refine ⟨merged, hmerged, ?_, same.symm.agrees, fun base => ?_⟩
  · rw [Registry.types, Registry.types, same.byName]
  · exact same.symm.perm_implementersOf mergedMapped lastMapped base

/-- Media, which stand for the books of a library and for authors. -/
def media : SchemaDocument where
  types := [
    { name := "author", typename := some "Author" },
    { name := "medium", typename := some "Medium", implementers := ["author", "book"] }]

/-- Films, which are media. -/
def films : SchemaDocument where
  types := [{ name := "film", typename := some "Film", parent := some "medium" }]

/-- The library with the media. -/
def mediaLibrary : Registry := library.perform (.load media)

/-- The library with the media and the films. -/
def filmLibrary : Registry := mediaLibrary.perform (.load films)

/-- The films come before the listed media when both documents are loaded as one, since they are
declared before any list is applied. -/
theorem media_append_films :
    media.loadInto library = (mediaLibrary, none) ∧
    films.loadInto mediaLibrary = (filmLibrary, none) ∧
    (filmLibrary.implementersOf "medium").keys = ["Author", "Book", "Film"] ∧
    ∃ merged, (media.append films).loadInto library = (merged, none) ∧
      (merged.implementersOf "medium").keys = ["Film", "Author", "Book"] ∧
      merged.types = filmLibrary.types ∧ merged.Agrees filmLibrary := by
  have loaded : media.loadInto library = (mediaLibrary, none) := rfl
  have next : films.loadInto mediaLibrary = (filmLibrary, none) := rfl
  obtain ⟨merged, hmerged, htypes, agrees, -⟩ :=
    loadInto_append_agrees library_reachable loaded next
  obtain rfl : ((media.append films).loadInto library).1 = merged := congrArg Prod.fst hmerged
  exact ⟨loaded, next, rfl, _, hmerged, rfl, htypes, agrees⟩

end SchemaDocument

end TypedQuery
