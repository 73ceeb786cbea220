import Mathlib.Data.List.Induction
import Mathlib.Logic.Relation
import TypedQuery.Proofs.Schema.Reachable

/-!
# Runs of calls

A run is a list of calls with any arguments, whether they succeed or fail. Every call is a row of
steps, so a run is one as well (`run_steps`), and whatever every step keeps, every run keeps.

The tables of names are views of one list of types (`Tabulated`), to which a step adds an available
type or nothing. Hence they agree after every run (`run_tables_agree`).
-/

namespace TypedQuery

open Relation

/-- What holds wherever a list is split holds wherever the list without its last item is split, and
at the last item. -/
theorem forall_split_append_singleton_iff {α : Type} {items : List α} {last : α}
    {p : List α → α → Prop} :
    (∀ before item after, items ++ [last] = before ++ item :: after → p before item) ↔
      (∀ before item after, items = before ++ item :: after → p before item) ∧ p items last := by
  constructor
  · intro h
    refine ⟨fun before item after hsplit => h before item (after ++ [last]) ?_, h items last [] rfl⟩
    rw [hsplit, List.append_assoc, List.cons_append]
  · rintro ⟨h, hlast⟩ before item after hsplit
    -- The split is at the last item, or inside the items before it.
    rcases List.eq_nil_or_concat after with rfl | ⟨after, other, rfl⟩
    · obtain ⟨rfl, heq⟩ := List.append_inj' hsplit rfl
      obtain rfl := List.singleton_inj.mp heq
      exact hlast
    · rw [List.concat_eq_append, ← List.cons_append, ← List.append_assoc] at hsplit
      exact h before item after (List.append_inj' hsplit rfl).1

namespace Registry

variable {registry after : Registry} {type : ObjectType}

/-- The registry that a run of calls leaves. -/
def run (calls : List Call) : Registry := calls.foldl perform .empty

/-- A run is prolonged by performing one more call. -/
theorem run_append_singleton (calls : List Call) (call : Call) :
    run (calls ++ [call]) = (run calls).perform call := by
  rw [run, List.foldl_append]
  rfl

/-- A run leaves what a row of steps leaves. -/
theorem run_steps (calls : List Call) : ReflTransGen Step .empty (run calls) := by
  induction calls using List.reverseRecOn with
  | nil => exact .refl
  | append_singleton calls call ih =>
    rw [run_append_singleton]
    exact ih.trans (perform_steps _ call)

/-! ## The tables of names -/

/-- The tables by declared name and by typename as views of the list of types, in which every type
stands once. -/
structure Tabulated (registry : Registry) : Prop where
  byName_eq : registry.byName = registry.types.map fun type => (type.name, type)
  byTypename_eq : registry.byTypename = registry.types.map fun type => (type.typename, type)
  names : (registry.types.map (·.name)).Nodup
  typenames : (registry.types.map (·.typename)).Nodup

/-- The table by declared name has the names of the types, in the order of the types. -/
theorem Tabulated.keys_byName (tabulated : registry.Tabulated) :
    registry.byName.keys = registry.types.map (·.name) := by
  rw [tabulated.byName_eq, Table.keys, List.map_map]
  rfl

/-- The table by typename has their typenames, in the same order. -/
theorem Tabulated.keys_byTypename (tabulated : registry.Tabulated) :
    registry.byTypename.keys = registry.types.map (·.typename) := by
  rw [tabulated.byTypename_eq, Table.keys, List.map_map]
  rfl

/-- The types in the list are the registered ones. -/
theorem Tabulated.mem_types_iff (tabulated : registry.Tabulated) :
    type ∈ registry.types ↔ registry.Registered type := by
  have hkeys : registry.byName.keys.Nodup := tabulated.keys_byName ▸ tabulated.names
  rw [Registered, Registry.type?, Table.get?_eq_some_iff hkeys, tabulated.byName_eq, List.mem_map]
  constructor
  · exact fun h => ⟨type, h, rfl⟩
  · rintro ⟨other, hother, heq⟩
    obtain rfl : other = type := congrArg Prod.snd heq
    exact hother

/-- An available type is added at the end of every table. -/
theorem Tabulated.insert (tabulated : registry.Tabulated)
    (available : registry.checkAvailable type = .ok ()) : (registry.insert type).Tabulated := by
  obtain ⟨hname, htypename, -⟩ := checkAvailable_eq_ok_iff.mp available
  have freshName := Table.get?_eq_none_iff.mp hname
  have freshTypename := Table.get?_eq_none_iff.mp htypename
  -- Both names are new, so the tables grow at the end and nothing in them is overwritten.
  have hbyName : (registry.insert type).byName = registry.byName ++ [(type.name, type)] :=
    Table.set_eq_append freshName type
  have hbyTypename : (registry.insert type).byTypename =
      registry.byTypename ++ [(type.typename, type)] := Table.set_eq_append freshTypename type
  have htypes : (registry.insert type).types = registry.types ++ [type] := by
    rw [Registry.types, hbyName, Table.values, List.map_append]
    rfl
  rw [tabulated.keys_byName] at freshName
  rw [tabulated.keys_byTypename] at freshTypename
  refine ⟨?_, ?_, ?_, ?_⟩
  · rw [hbyName, htypes, List.map_append, ← tabulated.byName_eq]
    rfl
  · rw [hbyTypename, htypes, List.map_append, ← tabulated.byTypename_eq]
    rfl
  · rw [htypes, List.map_append]
    exact tabulated.names.append (List.nodup_singleton _) (List.disjoint_singleton.mpr freshName)
  · rw [htypes, List.map_append]
    exact tabulated.typenames.append (List.nodup_singleton _)
      (List.disjoint_singleton.mpr freshTypename)

/-- A step adds an available type to both tables, or writes to neither. -/
theorem Tabulated.step (tabulated : registry.Tabulated) (step : registry.Step after) :
    after.Tabulated := by
  obtain ⟨implementers, rfl | ⟨type, available, rfl⟩⟩ := step.tables
  · exact ⟨tabulated.byName_eq, tabulated.byTypename_eq, tabulated.names, tabulated.typenames⟩
  · have inserted := tabulated.insert available
    exact ⟨inserted.byName_eq, inserted.byTypename_eq, inserted.names, inserted.typenames⟩

/-- In an empty registry there is nothing to tabulate. -/
theorem Tabulated.empty : Tabulated .empty :=
  ⟨rfl, rfl, List.nodup_nil, List.nodup_nil⟩

/-- After every run the tables agree. Those by declared name and by typename list the same types,
each once and under its own name. A name is looked up as a root exactly when it is a root of a
registered type, so it has one type in both root tables. And every registered type is found under
all its names. -/
theorem run_tables_agree (calls : List Call) :
    (run calls).Tabulated ∧
    (∀ root type, (run calls).typeOfRoot? root = some type ↔
      type ∈ (run calls).types ∧ root ≠ "" ∧ (type.queryRoot = root ∨ type.mutateRoot = root)) ∧
    (∀ root a b,
      (run calls).queryRoots.get? root = some a ∨ (run calls).mutateRoots.get? root = some a →
      (run calls).queryRoots.get? root = some b ∨ (run calls).mutateRoots.get? root = some b →
      a = b) ∧
    ∀ type ∈ (run calls).types,
      (run calls).type? type.name = some type ∧
      (run calls).typeOfTypename? type.typename = some type ∧
      ∀ root, root ≠ "" → type.queryRoot = root ∨ type.mutateRoot = root →
        (run calls).typeOfRoot? root = some type := by
  have coherent : (run calls).Coherent :=
    steps_invariant (fun coherent step => coherent.step step) .empty (run_steps calls)
  have tabulated : (run calls).Tabulated :=
    steps_invariant (fun tabulated step => tabulated.step step) .empty (run_steps calls)
  -- A name is looked up in both root tables, so whatever either of them has is the type of the
  -- root.
  have hroot : ∀ root type, (run calls).typeOfRoot? root = some type ↔
      type ∈ (run calls).types ∧ root ≠ "" ∧ (type.queryRoot = root ∨ type.mutateRoot = root) := by
    intro root type
    rw [coherent.typeOfRoot?_iff, tabulated.mem_types_iff, ObjectType.hasRoot_iff]
  have htables : ∀ root type,
      (run calls).queryRoots.get? root = some type ∨ (run calls).mutateRoots.get? root = some type →
      (run calls).typeOfRoot? root = some type := by
    intro root type h
    rw [coherent.typeOfRoot?_iff]
    rcases h with h | h
    · obtain ⟨registered, hquery⟩ := coherent.queryRoot_iff.mp h
      exact ⟨registered, .inl hquery⟩
    · obtain ⟨registered, hmutate⟩ := coherent.mutateRoot_iff.mp h
      exact ⟨registered, .inr hmutate⟩
  refine ⟨tabulated, hroot, fun root a b ha hb => ?_, fun type htype => ?_⟩
  · exact Option.some.inj ((htables root a ha).symm.trans (htables root b hb))
  · have registered := tabulated.mem_types_iff.mp htype
    exact ⟨registered, coherent.typename_iff.mpr ⟨registered, rfl⟩,
      fun root hne hname => (hroot root type).mpr ⟨htype, hne, hname⟩⟩

end Registry

end TypedQuery
