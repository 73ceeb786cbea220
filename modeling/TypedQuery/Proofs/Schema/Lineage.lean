import Mathlib.Logic.Relation
import TypedQuery.Proofs.Schema.Building
import TypedQuery.Proofs.Schema.Coherence

/-!
# Lines of ancestors

A type that extends another was declared after it, so the walk up from a type ends before it has
taken as many steps as there are types, and the names on the way are those that the type descends
from (`ancestors_eq_ok_iff`, `Coherent.mem_line_iff`).

## What declarations alone leave

In a registry that was filled by declarations only, every type has its line of ancestors, and the
implementers of a type are its descendants under their own typenames (`Declared`). So no declaration
is refused because of an implementer, and whether one succeeds is seen from the names of its type
(`Declared.exists_declare_iff`).
-/

namespace TypedQuery.Registry

open Checked Relation

variable {registry after : Registry} {type : ObjectType} {name base : String} {above : List String}

/-- Whether a registered type extends another one, both given by declared names. -/
def Extends (registry : Registry) (child parent : String) : Prop :=
  ∃ type, registry.type? child = some type ∧ type.parent = some parent

/-- What a registered type extends is its parent. -/
theorem extends_iff (found : registry.type? name = some type) {parent : String} :
    registry.Extends name parent ↔ type.parent = some parent := by
  constructor
  · rintro ⟨other, hother, hparent⟩
    rw [found, Option.some.injEq] at hother
    rwa [hother]
  · exact fun hparent => ⟨type, found, hparent⟩

/-- The names from a registered type up to one that extends none. -/
inductive Line (registry : Registry) : String → List String → Prop
  | top {name : String} {type : ObjectType} (found : registry.type? name = some type)
      (last : type.parent = none) : Line registry name [type.name]
  | step {name parent : String} {type : ObjectType} {above : List String}
      (found : registry.type? name = some type) (next : type.parent = some parent)
      (rest : Line registry parent above) : Line registry name (type.name :: above)

/-- A line starts at a registered type. -/
theorem Line.exists_type? (line : registry.Line name above) :
    ∃ type, registry.type? name = some type := by
  cases line with
  | top found _ => exact ⟨_, found⟩
  | step found _ _ => exact ⟨_, found⟩

/-- All that a line of ancestors leads to is registered. -/
theorem Line.exists_of_reflTransGen {above : List String} (line : registry.Line name above)
    {base : String} (h : ReflTransGen registry.Extends name base) :
    ∃ type, registry.type? base = some type := by
  induction line with
  | top found last =>
    rcases ReflTransGen.cases_head h with rfl | ⟨parent, next, -⟩
    · exact ⟨_, found⟩
    · rw [extends_iff found, last] at next
      cases next
  | step found hparent _ ih =>
    rcases ReflTransGen.cases_head h with rfl | ⟨parent, next, hrest⟩
    · exact ⟨_, found⟩
    · rw [extends_iff found, hparent, Option.some.injEq] at next
      exact ih (next ▸ hrest)

/-- The walk finds the line above a type when it may take as many steps as the line is long. -/
theorem ancestorsWithin_eq_ok_iff {steps : Nat} :
    registry.ancestorsWithin steps name = .ok above ↔
      registry.Line name above ∧ above.length ≤ steps := by
  -- Every step goes one type up and leaves one step less.
  induction steps generalizing name above with
  | zero =>
    refine iff_of_false (by simp [ancestorsWithin]) ?_
    rintro ⟨line, hlength⟩
    cases line <;> simp at hlength
  | succ steps ih =>
    rw [ancestorsWithin]
    cases found : registry.type? name with
    | none =>
      refine iff_of_false (by simp) fun h => ?_
      obtain ⟨type, hfound⟩ := h.1.exists_type?
      rw [found] at hfound
      cases hfound
    | some type =>
      dsimp only
      cases hparent : type.parent with
      | none =>
        rw [Except.ok.injEq]
        constructor
        · rintro rfl
          exact ⟨.top found hparent, by simp⟩
        · rintro ⟨line, -⟩
          cases line with
          | top hfound _ => rw [Option.some.inj (found.symm.trans hfound)]
          | step hfound next _ =>
            rw [← Option.some.inj (found.symm.trans hfound), hparent] at next
            cases next
      | some parent =>
        simp only [bind_eq_ok, pure_eq_ok, ih]
        constructor
        · rintro ⟨rest, ⟨line, hlength⟩, rfl⟩
          exact ⟨.step found hparent line, by rw [List.length_cons]; omega⟩
        · rintro ⟨line, hlength⟩
          cases line with
          | top hfound last =>
            rw [← Option.some.inj (found.symm.trans hfound), hparent] at last
            cases last
          | step hfound next rest =>
            obtain rfl := Option.some.inj (found.symm.trans hfound)
            obtain rfl := Option.some.inj (hparent.symm.trans next)
            rw [List.length_cons] at hlength
            exact ⟨_, ⟨rest, by omega⟩, rfl⟩

/-- The walk up from a type finds its line if this is no longer than there are types, and one
more. -/
theorem ancestors_eq_ok_iff :
    registry.ancestors name = .ok above ↔
      registry.Line name above ∧ above.length ≤ registry.byName.length + 1 :=
  ancestorsWithin_eq_ok_iff

/-- The names on a line are those that the type is or descends from. -/
theorem Coherent.mem_line_iff (coherent : registry.Coherent) (line : registry.Line name above) :
    base ∈ above ↔ ReflTransGen registry.Extends name base := by
  -- A type descends from itself, and from what its parent is or descends from.
  induction line with
  | top found last =>
    rw [ReflTransGen.cases_head_iff, List.mem_singleton, coherent.name_eq found, eq_comm]
    refine (or_iff_left ?_).symm
    rintro ⟨parent, hextends, -⟩
    rw [extends_iff found, last] at hextends
    cases hextends
  | step found next rest ih =>
    rw [ReflTransGen.cases_head_iff, List.mem_cons, coherent.name_eq found, eq_comm, ih]
    refine or_congr_right ⟨fun h => ⟨_, (extends_iff found).mpr next, h⟩, ?_⟩
    rintro ⟨parent, hextends, h⟩
    rw [extends_iff found, next, Option.some.injEq] at hextends
    rwa [hextends]

/-! ## Registries that grow -/

/-- Whether every type of a registry is found under the same name in a later one. -/
def Grows (registry after : Registry) : Prop :=
  ∀ name type, registry.type? name = some type → after.type? name = some type

/-- A declaration changes no type that is found by its name. -/
theorem Grows.declare {declaration : TypeDeclaration}
    (h : registry.declare declaration = .ok (after, type)) : registry.Grows after := by
  intro name found hfound
  rw [type?_declare h, if_neg]
  · exact hfound
  · rintro rfl
    obtain ⟨-, -, -, available, -⟩ := declare_eq_ok_iff.mp h
    rw [(checkAvailable_eq_ok_iff.mp available).1] at hfound
    cases hfound

/-- A declaration adds one type to the table of names. -/
theorem length_byName_declare {declaration : TypeDeclaration}
    (h : registry.declare declaration = .ok (after, type)) :
    after.byName.length = registry.byName.length + 1 := by
  obtain ⟨above, -, -, available, -, rfl⟩ := declare_eq_ok_iff.mp h
  obtain ⟨implementers, heq⟩ := @insertBelow_eq (registry.insert type) above type
  have hfresh := (checkAvailable_eq_ok_iff.mp available).1
  rw [heq]
  show (registry.byName.set type.name type).length = _
  rw [Table.set_eq_append (Table.get?_eq_none_iff.mp hfresh), List.length_append]
  rfl

/-- A line stays a line when the registry grows. -/
theorem Line.grow (grows : registry.Grows after) (line : registry.Line name above) :
    after.Line name above := by
  induction line with
  | top found last => exact .top (grows _ _ found) last
  | step found next _ ih => exact .step (grows _ _ found) next ih

/-! ## Registries filled by declarations -/

/-- What declarations alone leave: every type has its line of ancestors, no longer than there are
types, and the implementers of a type are the types that descend from it. -/
structure Declared (registry : Registry) : Prop where
  coherent : registry.Coherent
  line : ∀ {name type}, registry.type? name = some type →
    ∃ above, registry.Line name above ∧ above.length ≤ registry.byName.length
  implementer_iff : ∀ {base typename type}, registry.implementer? base typename = some type ↔
    registry.Registered type ∧ type.typename = typename ∧
      TransGen registry.Extends type.name base

/-- The empty registry is one that declarations leave. -/
theorem Declared.empty : Declared .empty := by
  refine ⟨.empty, ?_, ?_⟩
  · intro name type h
    cases h
  · intro base typename type
    refine iff_of_false ?_ ?_
    · intro h
      cases h
    · rintro ⟨h, -⟩
      cases h

/-- The parent of a registered type is registered. -/
theorem Declared.exists_of_extends (declared : registry.Declared) {child parent : String}
    (hextends : registry.Extends child parent) : ∃ type, registry.type? parent = some type := by
  obtain ⟨type, found, hparent⟩ := hextends
  obtain ⟨above, line, -⟩ := declared.line found
  cases line with
  | top hfound last =>
    rw [← Option.some.inj (found.symm.trans hfound), hparent] at last
    cases last
  | step hfound next rest =>
    rw [← Option.some.inj (found.symm.trans hfound), hparent, Option.some.injEq] at next
    exact next ▸ rest.exists_type?

/-- What a registered type descends from does not change when the registry grows. -/
theorem Declared.reflTransGen_iff (declared : registry.Declared) (grows : registry.Grows after)
    (found : registry.type? name = some type) :
    ReflTransGen after.Extends name base ↔ ReflTransGen registry.Extends name base := by
  constructor
  · intro h
    -- Whatever is met on the way up was registered before, so its parent has not changed.
    induction h using ReflTransGen.head_induction_on generalizing type with
    | refl => exact .refl
    | head hextends _ ih =>
      rw [extends_iff (grows _ _ found), ← extends_iff found] at hextends
      obtain ⟨parentType, hparent⟩ := declared.exists_of_extends hextends
      exact .head hextends (ih hparent)
  · refine ReflTransGen.mono (fun child parent => ?_) _ _
    rintro ⟨type, hfound, hparent⟩
    exact ⟨type, grows _ _ hfound, hparent⟩

/-- Neither do the proper ancestors of a registered type. -/
theorem Declared.transGen_iff (declared : registry.Declared) (grows : registry.Grows after)
    (found : registry.type? name = some type) :
    TransGen after.Extends name base ↔ TransGen registry.Extends name base := by
  rw [TransGen.head'_iff, TransGen.head'_iff]
  refine exists_congr fun parent => ?_
  rw [extends_iff (grows _ _ found), ← extends_iff found]
  refine and_congr_right fun hextends => ?_
  obtain ⟨parentType, hparent⟩ := declared.exists_of_extends hextends
  exact declared.reflTransGen_iff grows hparent

/-- The names above a new type are those that it descends from once it is registered. -/
theorem Declared.mem_above_iff (declared : registry.Declared) (grows : registry.Grows after)
    (found : after.type? name = some type) (habove : registry.above type.parent = .ok above) :
    base ∈ above ↔ TransGen after.Extends name base := by
  rw [TransGen.head'_iff]
  cases hparent : type.parent with
  | none =>
    rw [hparent, Registry.above, Except.ok.injEq] at habove
    subst habove
    refine iff_of_false List.not_mem_nil ?_
    rintro ⟨parent, hextends, -⟩
    rw [extends_iff found, hparent] at hextends
    cases hextends
  | some parent =>
    rw [hparent, Registry.above, ancestors_eq_ok_iff] at habove
    obtain ⟨parentType, hfound⟩ := habove.1.exists_type?
    -- The line was found before the declaration, and it is the same afterwards.
    rw [declared.coherent.mem_line_iff habove.1, ← declared.reflTransGen_iff grows hfound]
    constructor
    · exact fun h => ⟨parent, (extends_iff found).mpr hparent, h⟩
    · rintro ⟨other, hextends, h⟩
      rw [extends_iff found, hparent, Option.some.injEq] at hextends
      rwa [hextends]

/-- A declared type has the parent that its declaration names. -/
theorem parent_declare {declaration : TypeDeclaration}
    (h : registry.declare declaration = .ok (after, type)) : declaration.parent = type.parent := by
  obtain ⟨-, -, hbuild, -⟩ := declare_eq_ok_iff.mp h
  obtain ⟨-, -, rfl⟩ := TypeDeclaration.build_eq_ok_iff.mp hbuild
  rfl

/-- The names above a type that is declared are those that it descends from afterwards. -/
theorem Declared.mem_above_declare_iff (declared : registry.Declared)
    {declaration : TypeDeclaration} (h : registry.declare declaration = .ok (after, type))
    (habove : registry.above declaration.parent = .ok above) :
    base ∈ above ↔ TransGen after.Extends type.name base := by
  have hnew : after.type? type.name = some type := by rw [type?_declare h, if_pos rfl]
  rw [parent_declare h] at habove
  exact declared.mem_above_iff (.declare h) hnew habove

/-- The new type stands on top of the line of its parent, if it has one. -/
theorem Declared.exists_line (declared : registry.Declared) {declaration : TypeDeclaration}
    (h : registry.declare declaration = .ok (after, type)) {found : ObjectType}
    (registered : after.Registered found) :
    ∃ above, after.Line found.name above ∧ above.length ≤ after.byName.length := by
  rw [length_byName_declare h]
  rcases (registered_declare_iff h).mp registered with rfl | hold
  · obtain ⟨above, habove, -⟩ := declare_eq_ok_iff.mp h
    rw [parent_declare h] at habove
    cases hparent : found.parent with
    | none => exact ⟨_, .top registered hparent, by simp⟩
    | some parent =>
      rw [hparent, Registry.above, ancestors_eq_ok_iff] at habove
      obtain ⟨parentType, hfound⟩ := habove.1.exists_type?
      -- The line of the parent is no longer than the types before, so one more name still fits.
      obtain ⟨rest, line, hlength⟩ := declared.line hfound
      have hstep := Line.step registered hparent (line.grow (.declare h))
      exact ⟨_, hstep, by rw [List.length_cons]; omega⟩
  · obtain ⟨rest, line, hlength⟩ := declared.line hold
    exact ⟨rest, line.grow (.declare h), by omega⟩

/-- After a declaration, too, the implementers of a type are the types that descend from it. -/
theorem Declared.implementer?_declare (declared : registry.Declared)
    {declaration : TypeDeclaration} (h : registry.declare declaration = .ok (after, type))
    {typename : String} {found : ObjectType} :
    after.implementer? base typename = some found ↔
      after.Registered found ∧ found.typename = typename ∧
        TransGen after.Extends found.name base := by
  have grows : registry.Grows after := .declare h
  rw [registered_declare_iff h]
  obtain ⟨above, habove, -, -, hfree, rfl⟩ := declare_eq_ok_iff.mp h
  have hbelow := @Declared.mem_above_declare_iff _ _ _ base _ declared _ h habove
  have hold : (registry.insert type).implementer? base typename = some found ↔
      registry.Registered found ∧ found.typename = typename ∧
        TransGen registry.Extends found.name base := declared.implementer_iff
  rw [implementer?_insertBelow]
  -- The new type stands below the names above it, and elsewhere nothing has changed.
  split
  · rename_i hmem
    rw [Option.some.injEq]
    constructor
    · rintro rfl
      exact ⟨.inl rfl, hmem.2, hbelow.mp hmem.1⟩
    · rintro ⟨rfl | registered, htypename, htrans⟩
      · rfl
      · -- An old descendant with this typename would have kept the new type out.
        rw [declared.transGen_iff grows registered] at htrans
        have htaken := declared.implementer_iff.mpr ⟨registered, htypename, htrans⟩
        rw [← hmem.2, hfree base hmem.1] at htaken
        cases htaken
  · rename_i hnot
    rw [hold]
    constructor
    · rintro ⟨registered, htypename, htrans⟩
      exact ⟨.inr registered, htypename, (declared.transGen_iff grows registered).mpr htrans⟩
    · rintro ⟨rfl | registered, htypename, htrans⟩
      · exact absurd ⟨hbelow.mpr htrans, htypename⟩ hnot
      · exact ⟨registered, htypename, (declared.transGen_iff grows registered).mp htrans⟩

/-- A declaration in a registry that declarations have left leaves one again. -/
theorem Declared.declare (declared : registry.Declared) {declaration : TypeDeclaration}
    (h : registry.declare declaration = .ok (after, type)) : after.Declared := by
  have coherent := declared.coherent.declare h
  refine ⟨coherent, ?_, declared.implementer?_declare h⟩
  intro name found hfound
  rw [← coherent.name_eq hfound]
  exact declared.exists_line h (coherent.registered hfound)

/-- A declaration succeeds when its parent is registered, its type is built and no name is taken. -/
theorem Declared.exists_declare_iff (declared : registry.Declared) {declaration : TypeDeclaration} :
    (∃ result, registry.declare declaration = .ok result) ↔
      (∀ parent, declaration.parent = some parent → ∃ type, registry.type? parent = some type) ∧
        ∃ type, declaration.build = .ok type ∧ registry.checkAvailable type = .ok () := by
  constructor
  · rintro ⟨⟨after, type⟩, h⟩
    obtain ⟨above, habove, hbuild, available, -⟩ := declare_eq_ok_iff.mp h
    refine ⟨fun parent hparent => ?_, type, hbuild, available⟩
    rw [hparent, Registry.above, ancestors_eq_ok_iff] at habove
    exact habove.1.exists_type?
  · rintro ⟨hparent, type, hbuild, available⟩
    have habove : ∃ above, registry.above declaration.parent = .ok above := by
      cases hnext : declaration.parent with
      | none => exact ⟨[], rfl⟩
      | some parent =>
        obtain ⟨parentType, hfound⟩ := hparent parent hnext
        obtain ⟨above, line, hlength⟩ := declared.line hfound
        exact ⟨above, ancestors_eq_ok_iff.mpr ⟨line, by omega⟩⟩
    obtain ⟨above, habove⟩ := habove
    refine ⟨⟨_, type⟩, declare_eq_ok_iff.mpr ⟨above, habove, hbuild, available, ?_, rfl⟩⟩
    -- An implementer under the new typename would be a registered type with this typename.
    intro base _
    rw [Option.eq_none_iff_forall_ne_some]
    intro found hfound
    obtain ⟨registered, htypename, -⟩ := declared.implementer_iff.mp hfound
    have htaken := declared.coherent.typename_iff.mpr ⟨registered, htypename⟩
    rw [(checkAvailable_eq_ok_iff.mp available).2.1] at htaken
    cases htaken

end TypedQuery.Registry
