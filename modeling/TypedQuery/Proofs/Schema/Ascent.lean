import Mathlib.Data.List.Perm.Subperm
import TypedQuery.Proofs.Schema.Lineage
import TypedQuery.Proofs.Schema.Run

/-!
# Walks that end

The walk up from a type follows parents until nothing is extended any more. It ends exactly when it
meets no name twice, and then it is no longer than there are types, so the steps that `ancestors`
allows are enough (`ends_iff_ancestors`). A declaration goes on forever exactly when the walk from
its parent does.

## What closes a loop

A new type adds one link, from its own name to its parent. Walks that ended still end afterwards
unless the parent leads back to that name (`ends_insert_iff`). A declaration rules that out, since
all that its parent leads to is registered and its own name is not. A registration does not look at
the parent, so it may close a loop (`ClosesLoop`), and nothing else does (`run_ends_iff`). The
smallest loop is a type that extends itself (`ouroboros_never_ends`).
-/

namespace TypedQuery

open Checked Relation

/-! ## Failures of declarations -/

/-- No type is built out of a circle of types. -/
theorem TypeDeclaration.build_ne_endless (declaration : TypeDeclaration) (name : String) :
    declaration.build ≠ .error (.endlessAncestry name) := by
  intro h
  rw [build, bind_eq_error] at h
  -- Adding a field can fail in three ways, and each says something of the field.
  rcases h with h | ⟨_, -, h⟩
  · obtain ⟨earlier, declared, -, h⟩ := exists_of_foldlM_eq_error h
    simp only [addField, bind_eq_error] at h
    rcases h with h | ⟨named, -, h | ⟨field, -, h⟩⟩
    · rw [Field.bindName] at h
      split_ifs at h <;> cases h
    · simp only [Field.bindType] at h
      split_ifs at h
      cases h
    · split_ifs at h <;> cases h
  · cases h

namespace Registry

variable {registry after : Registry} {type : ObjectType} {name parent : String}
  {met : List String}

/-- A declaration goes round in a circle when the walk up from its parent does. -/
theorem declare_eq_endless_iff {declaration : TypeDeclaration} :
    registry.declare declaration = .error (.endlessAncestry name) ↔
      ∃ parent, declaration.parent = some parent ∧
        registry.ancestors parent = .error (.endlessAncestry name) := by
  have habove : registry.above declaration.parent = .error (.endlessAncestry name) ↔
      ∃ parent, declaration.parent = some parent ∧
        registry.ancestors parent = .error (.endlessAncestry name) := by
    cases declaration.parent <;> simp [above]
  rw [declare_eq, bind_eq_error, habove]
  refine or_iff_left ?_
  -- The checks that come after the walk say other things.
  rintro ⟨names, -, h⟩
  simp only [bind_eq_error] at h
  rcases h with h | ⟨type, -, h | ⟨_, -, h | ⟨_, -, h⟩⟩⟩
  · exact declaration.build_ne_endless name h
  · rw [checkAvailable] at h
    split_ifs at h <;> cases h
  · obtain ⟨base, -, h⟩ := exists_of_forM_eq_error h
    rw [checkImplementer] at h
    split_ifs at h
    cases h
  · cases h

/-! ## The walk up -/

/-- A type extends one type at most. -/
theorem Extends.unique {other : String} (h : registry.Extends name parent)
    (hother : registry.Extends name other) : parent = other := by
  obtain ⟨type, found, hparent⟩ := h
  rw [extends_iff found, hparent] at hother
  exact Option.some.inj hother

/-- A walk up from a name, and the names that it leaves for a parent. It stops at a type that
extends none, or at a name that no type has. -/
inductive Climb (registry : Registry) : String → List String → Prop
  | stop {name : String} (last : ∀ parent, ¬ registry.Extends name parent) : Climb registry name []
  | step {name parent : String} {met : List String} (next : registry.Extends name parent)
      (rest : Climb registry parent met) : Climb registry name (name :: met)

/-- Whether the walk up from a name ends. -/
def Ends (registry : Registry) (name : String) : Prop := ∃ met, registry.Climb name met

/-- A walk ends if it does from the parent on. -/
theorem Ends.step (next : registry.Extends name parent) (ends : registry.Ends parent) :
    registry.Ends name := by
  obtain ⟨met, climb⟩ := ends
  exact ⟨_, .step next climb⟩

/-- A walk that ends does not come back. -/
theorem Climb.not_transGen (climb : registry.Climb name met) :
    ¬ TransGen registry.Extends name name := by
  induction climb with
  | stop last =>
    intro h
    obtain ⟨parent, next, -⟩ := TransGen.head'_iff.mp h
    exact last parent next
  | @step name parent met next _ ih =>
    -- A way from a name back to it is also one from its parent back to that.
    intro h
    obtain ⟨other, hother, back⟩ := TransGen.head'_iff.mp h
    rw [← next.unique hother] at back
    exact ih (.tail' back next)

/-- What a walk leaves for a parent is above the name it starts from. -/
theorem Climb.reflTransGen_of_mem (climb : registry.Climb name met) {base : String}
    (hbase : base ∈ met) : ReflTransGen registry.Extends name base := by
  induction climb with
  | stop last => cases hbase
  | step next _ ih =>
    rcases List.mem_cons.mp hbase with rfl | hmem
    · exact .refl
    · exact .head next (ih hmem)

/-- A walk that ends meets no name twice. -/
theorem Climb.nodup (climb : registry.Climb name met) : met.Nodup := by
  induction climb with
  | stop last => exact List.nodup_nil
  | step next rest ih =>
    refine List.nodup_cons.mpr ⟨fun hmem => ?_, ih⟩
    exact (Climb.step next rest).not_transGen (.head' next (rest.reflTransGen_of_mem hmem))

/-- What a walk leaves for a parent is registered. -/
theorem Climb.subset (climb : registry.Climb name met) : met ⊆ registry.byName.keys := by
  induction climb with
  | stop last => exact List.nil_subset _
  | step next _ ih =>
    obtain ⟨type, found, -⟩ := next
    exact List.cons_subset.mpr ⟨Table.mem_keys_iff.mpr ⟨type, found⟩, ih⟩

/-- A walk that ends leaves every type at most once. -/
theorem Climb.length_le (climb : registry.Climb name met) :
    met.length ≤ registry.byName.length := by
  have hle := (climb.nodup.subperm climb.subset).length_le
  rwa [Table.keys, List.length_map] at hle

/-! ## The walk within some steps -/

/-- More steps than the walk needs are never used up. -/
theorem Climb.ancestorsWithin_ne (climb : registry.Climb name met) {steps : Nat}
    (enough : met.length < steps) (last : String) :
    registry.ancestorsWithin steps name ≠ .error (.endlessAncestry last) := by
  -- Each link of the walk uses up one step, so the number of steps is left general.
  induction climb generalizing steps with
  | @stop name top =>
    obtain ⟨steps, rfl⟩ := Nat.exists_eq_succ_of_ne_zero (by omega : steps ≠ 0)
    rw [ancestorsWithin]
    cases found : registry.type? name with
    | none => simp
    | some type =>
      have hparent : type.parent = none :=
        Option.eq_none_iff_forall_ne_some.mpr fun parent h => top parent ⟨type, found, h⟩
      simp [hparent]
  | @step name parent met next rest ih =>
    rw [List.length_cons] at enough
    obtain ⟨steps, rfl⟩ := Nat.exists_eq_succ_of_ne_zero (by omega : steps ≠ 0)
    obtain ⟨type, found, hparent⟩ := next
    simp only [ancestorsWithin, found, hparent]
    intro h
    rw [bind_eq_error] at h
    rcases h with h | ⟨above, -, h⟩
    · exact ih (by omega) h
    · cases h

/-- A walk that does not end uses up any number of steps. -/
theorem ancestorsWithin_of_not_ends (endless : ¬ registry.Ends name) (steps : Nat) :
    ∃ last, registry.ancestorsWithin steps name = .error (.endlessAncestry last) := by
  induction steps generalizing name with
  | zero => exact ⟨name, rfl⟩
  | succ steps ih =>
    -- Wherever the walk would stop, it would end.
    have hnext : ∃ parent, registry.Extends name parent := by
      by_contra h
      exact endless ⟨[], .stop (not_exists.mp h)⟩
    obtain ⟨parent, next⟩ := hnext
    obtain ⟨last, hlast⟩ := ih fun ends => endless (ends.step next)
    obtain ⟨type, found, hparent⟩ := next
    refine ⟨last, ?_⟩
    simp only [ancestorsWithin, found, hparent, hlast, error_bind]

/-- The steps that a walk may take are enough for every walk that ends. -/
theorem ends_iff_ancestors :
    registry.Ends name ↔ ∀ last, registry.ancestors name ≠ .error (.endlessAncestry last) := by
  constructor
  · rintro ⟨met, climb⟩
    exact climb.ancestorsWithin_ne (Nat.lt_succ_of_le climb.length_le)
  · intro h
    by_contra endless
    obtain ⟨last, hlast⟩ := ancestorsWithin_of_not_ends endless (registry.byName.length + 1)
    exact h last hlast

/-- All walks end exactly when every declaration comes to a result. -/
theorem forall_ends_iff_declare :
    (∀ name, registry.Ends name) ↔
      ∀ declaration last, registry.declare declaration ≠ .error (.endlessAncestry last) := by
  constructor
  · intro ends declaration last h
    obtain ⟨parent, -, hwalk⟩ := declare_eq_endless_iff.mp h
    exact ends_iff_ancestors.mp (ends parent) last hwalk
  · intro h name
    refine ends_iff_ancestors.mpr fun last hwalk => ?_
    refine h { name := "", parent := some name } last ?_
    exact declare_eq_endless_iff.mpr ⟨name, rfl, hwalk⟩

/-! ## One more link -/

/-- A walk that ends among some links ends among fewer. -/
theorem Ends.of_imp (imp : ∀ {child parent}, registry.Extends child parent →
    after.Extends child parent) (ends : after.Ends name) : registry.Ends name := by
  obtain ⟨met, climb⟩ := ends
  induction climb with
  | stop last => exact ⟨[], .stop fun parent next => last parent (imp next)⟩
  | @step name parent met next _ ih =>
    by_cases h : registry.Extends name parent
    · exact ih.step h
    · refine ⟨[], .stop fun other hother => h ?_⟩
      rwa [next.unique (imp hother)]

/-- Walks do not look at implementers. -/
theorem Ends.withImplementers (ends : registry.Ends name)
    (implementers : Table (Table ObjectType)) : Ends { registry with implementers } name := by
  have same : ∀ {child parent}, Extends { registry with implementers } child parent →
      registry.Extends child parent := fun h => h
  exact ends.of_imp same

/-- An insertion under a new name adds the link from this name to the parent, and no other. -/
theorem extends_insert_iff (fresh : registry.type? type.name = none) {child : String} :
    (registry.insert type).Extends child parent ↔
      registry.Extends child parent ∨ type.name = child ∧ type.parent = some parent := by
  simp only [Extends, type?_insert]
  split
  · rename_i hname
    subst hname
    simp [fresh]
  · rename_i hname
    simp [hname]

/-- An insertion under a new name takes no link away. -/
theorem extends_insert_of_extends (fresh : registry.type? type.name = none) {child parent : String}
    (h : registry.Extends child parent) : (registry.insert type).Extends child parent :=
  (extends_insert_iff fresh).mpr (.inl h)

/-- A walk that does not come to the name of a new type does not change. -/
theorem Climb.insert (fresh : registry.type? type.name = none) (climb : registry.Climb name met)
    (apart : ¬ ReflTransGen registry.Extends name type.name) :
    (registry.insert type).Climb name met := by
  induction climb with
  | stop last =>
    refine .stop fun parent next => ?_
    rcases (extends_insert_iff fresh).mp next with old | ⟨rfl, -⟩
    · exact last parent old
    · exact apart .refl
  | step next _ ih =>
    exact .step (extends_insert_of_extends fresh next) (ih fun h => apart (.head next h))

/-- The walk up from a new type ends if its parent does not lead back to it. -/
theorem ends_insert_self (fresh : registry.type? type.name = none)
    (ends : ∀ name, registry.Ends name)
    (apart : ∀ parent, type.parent = some parent →
      ¬ ReflTransGen registry.Extends parent type.name) :
    (registry.insert type).Ends type.name := by
  cases hparent : type.parent with
  | none =>
    refine ⟨[], .stop fun parent next => ?_⟩
    rcases (extends_insert_iff fresh).mp next with ⟨found, hfound, -⟩ | ⟨-, hsome⟩
    · rw [fresh] at hfound
      cases hfound
    · rw [hparent] at hsome
      cases hsome
  -- The walk from the parent ended and does not meet the new name, so the new link leads into it.
  | some parent =>
    obtain ⟨met, climb⟩ := ends parent
    have link := (extends_insert_iff fresh).mpr (.inr ⟨rfl, hparent⟩)
    exact ⟨_, .step link (climb.insert fresh (apart parent hparent))⟩

/-- Walks end after an insertion exactly when they did before, and the parent of the new type does
not lead back to it. -/
theorem ends_insert_iff (fresh : registry.type? type.name = none) :
    (∀ name, (registry.insert type).Ends name) ↔
      (∀ name, registry.Ends name) ∧
        ∀ parent, type.parent = some parent →
          ¬ ReflTransGen registry.Extends parent type.name := by
  constructor
  -- If the parent led back to the new name, the walk from there would go round.
  · intro ends
    refine ⟨fun name => (ends name).of_imp (extends_insert_of_extends fresh), ?_⟩
    intro parent hparent back
    have link := (extends_insert_iff fresh).mpr (.inr ⟨rfl, hparent⟩)
    have circle := TransGen.head' link
      (ReflTransGen.mono (fun _ _ h => extends_insert_of_extends fresh h) _ _ back)
    obtain ⟨met, climb⟩ := ends type.name
    exact climb.not_transGen circle
  · rintro ⟨ends, apart⟩ name
    -- A walk that stopped where nothing was registered may now go on from the new type.
    obtain ⟨met, climb⟩ := ends name
    induction climb with
    | @stop name last =>
      by_cases hname : type.name = name
      · exact hname ▸ ends_insert_self fresh ends apart
      · refine ⟨[], .stop fun parent next => ?_⟩
        rcases (extends_insert_iff fresh).mp next with old | ⟨hsame, -⟩
        · exact last parent old
        · exact hname hsame
    | step next _ ih => exact ih.step (extends_insert_of_extends fresh next)

/-! ## What closes a loop -/

/-- Whether a call registers a type whose parent leads back to it. -/
inductive ClosesLoop (registry : Registry) : Call → Prop
  | register {type : ObjectType} {parent : String}
      (available : registry.checkAvailable type = .ok ()) (next : type.parent = some parent)
      (back : ReflTransGen registry.Extends parent type.name) : ClosesLoop registry (.register type)

/-- A declaration closes no loop: what its parent leads to is registered, and its name is new. -/
theorem ends_declare (ends : ∀ name, registry.Ends name) {declaration : TypeDeclaration}
    (h : registry.declare declaration = .ok (after, type)) (name : String) : after.Ends name := by
  have hdeclared := parent_declare h
  obtain ⟨above, habove, -, available, -, rfl⟩ := declare_eq_ok_iff.mp h
  have fresh := (checkAvailable_eq_ok_iff.mp available).1
  have hinsert : ∀ name, (registry.insert type).Ends name := by
    refine (ends_insert_iff fresh).mpr ⟨ends, fun parent hparent back => ?_⟩
    rw [hdeclared, hparent, Registry.above, ancestors_eq_ok_iff] at habove
    obtain ⟨found, hfound⟩ := habove.1.exists_of_reflTransGen back
    rw [fresh] at hfound
    cases hfound
  obtain ⟨implementers, heq⟩ := @insertBelow_eq (registry.insert type) above type
  exact heq ▸ (hinsert name).withImplementers implementers

/-- An implementer closes no loop. -/
theorem ends_addImplementer (ends : ∀ name, registry.Ends name) {base concrete : ObjectType}
    {typename : String} (h : registry.addImplementer base typename concrete = .ok after)
    (name : String) : after.Ends name := by
  obtain ⟨-, -, -, -, rfl⟩ := addImplementer_eq_ok_iff.mp h
  exact (ends name).withImplementers _

/-- A step takes no link away. -/
theorem Step.extends {child : String} (h : registry.Extends child parent)
    (step : registry.Step after) : after.Extends child parent := by
  obtain ⟨implementers, rfl | ⟨type, available, rfl⟩⟩ := step.tables
  · exact h
  · exact extends_insert_of_extends (checkAvailable_eq_ok_iff.mp available).1 h

/-- Walks end after a call exactly when they did before and the call closes no loop. -/
theorem ends_perform_iff {call : Call} :
    (∀ name, (registry.perform call).Ends name) ↔
      (∀ name, registry.Ends name) ∧ ¬ registry.ClosesLoop call := by
  constructor
  · refine fun ends => ⟨fun name => (ends name).of_imp fun h => ?_, fun loop => ?_⟩
    · exact steps_invariant Step.extends h (perform_steps registry call)
    · obtain ⟨available, hparent, back⟩ := loop
      rw [perform, register_eq_ok_iff.mpr ⟨available, rfl⟩] at ends
      have fresh := (checkAvailable_eq_ok_iff.mp available).1
      exact ((ends_insert_iff fresh).mp ends).2 _ hparent back
  · rintro ⟨ends, apart⟩
    -- A refused call changes nothing, and of the accepted ones a registration alone can close a
    -- loop.
    cases call with
    | declare declaration =>
      rw [perform]
      split
      · rename_i hdeclare
        exact ends_declare ends hdeclare
      · exact ends
    | register type =>
      rw [perform]
      split
      · rename_i hregister
        obtain ⟨available, rfl⟩ := register_eq_ok_iff.mp hregister
        have fresh := (checkAvailable_eq_ok_iff.mp available).1
        exact (ends_insert_iff fresh).mpr ⟨ends, fun parent hparent back =>
          apart (.register available hparent back)⟩
      · exact ends
    | addImplementer base typename concrete =>
      rw [perform]
      split
      · rename_i hadd
        exact ends_addImplementer ends hadd
      · exact ends
    | load document =>
      refine SchemaDocument.loadInto_invariant (fun ends _ h => ends_declare ends h)
        (fun ends h => ?_) document ends
      obtain ⟨base, concrete, -, -, hadd⟩ := SchemaDocument.addImplementer_eq_ok_iff.mp h
      exact ends_addImplementer ends hadd

/-- In an empty registry every walk ends where it starts. -/
theorem ends_empty (name : String) : Ends .empty name := by
  refine ⟨[], .stop fun parent next => ?_⟩
  obtain ⟨type, found, -⟩ := next
  cases found

/-- After a run every walk ends exactly when no call of the run closed a loop in the registry that
the calls before it had left. And this is so exactly when every declaration comes to a result. -/
theorem run_ends_iff (calls : List Call) :
    ((∀ name, (run calls).Ends name) ↔
      ∀ before call after, calls = before ++ call :: after → ¬ (run before).ClosesLoop call) ∧
    ((∀ name, (run calls).Ends name) ↔
      ∀ declaration last,
        (run calls).declare declaration ≠ .error (.endlessAncestry last)) := by
  refine ⟨?_, forall_ends_iff_declare⟩
  induction calls using List.reverseRecOn with
  | nil => exact iff_of_true ends_empty (by simp)
  | append_singleton calls call ih =>
    rw [run_append_singleton, ends_perform_iff, ih, forall_split_append_singleton_iff]

/-- A type that extends itself. -/
def ouroboros : ObjectType where
  name := "A"
  typename := "A"
  parent := some "A"

/-- A type that extends itself is registered like any other. The walk up from it does not end, and
no type can be declared under it any more. -/
theorem ouroboros_never_ends :
    Call.Made (.register ouroboros) ∧
    (run [.register ouroboros]).type? "A" = some ouroboros ∧
    ¬ (run [.register ouroboros]).Ends "A" ∧
    (run [.register ouroboros]).declare { name := "B", typename := some "B", parent := some "A" } =
      .error (.endlessAncestry "A") := by
  have registered : (run [.register ouroboros]).type? "A" = some ouroboros := rfl
  refine ⟨?_, registered, fun ends => ?_, rfl⟩
  · exact ⟨{ name := "A", typename := some "A", parent := some "A" },
      by simp [TypeDeclaration.Made], rfl⟩
  · obtain ⟨met, climb⟩ := ends
    exact climb.not_transGen (.single ⟨ouroboros, registered, rfl⟩)

end Registry

end TypedQuery
