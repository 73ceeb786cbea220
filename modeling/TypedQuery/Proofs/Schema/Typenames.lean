import TypedQuery.Proofs.Schema.Building
import TypedQuery.Proofs.Schema.Reachable
import TypedQuery.Proofs.Text.TitleCase

/-!
# Typenames that are not chosen

A type without a typename of its own has the title case of its name. So two names are two types only
if their title cases differ, which for ASCII names is to say that they differ in more than case.

Of two declarations the second one is looked at as it meets the first: it is built, its ancestors
are known, and of what is registered nothing stands in its way but perhaps the first type
(`OnlyNamesMayClash`). What the first one adds is known from the lookups after it, so the second is
refused for its name, or else for its typename, or goes through (`declare_second`).
-/

namespace TypedQuery.Registry

open Checked Text

variable {registry after : Registry} {type : ObjectType} {first second : TypeDeclaration}

/-- Nothing stands in the way of a second type but the name and the typename of the first one, which
took a registry to the one after it: the second is built, its ancestors are known, its name and its
typename were free before the first, its roots are free after it, and none of its ancestors had an
implementer with its typename. -/
structure OnlyNamesMayClash (registry after : Registry) (second : TypeDeclaration) : Prop where
  builds : ∃ type, second.build = .ok type
  ancestors : ∃ above, after.above second.parent = .ok above ∧
    ∀ base ∈ above, registry.implementer? base second.wireTypename = none
  name : registry.type? second.name = none
  typename : registry.typeOfTypename? second.wireTypename = none
  roots : ∀ root, root ≠ "" → second.queryRoot = root ∨ second.mutateRoot = root →
    after.hasRoot root = false

/-! ## The tables after the first -/

/-- A declaration adds the typename of its type, and every other typename stands for what it stood
for. -/
theorem typeOfTypename?_declare (h : registry.declare first = .ok (after, type))
    (typename : String) :
    after.typeOfTypename? typename =
      if type.typename = typename then some type else registry.typeOfTypename? typename := by
  obtain ⟨above, -, -, -, -, rfl⟩ := declare_eq_ok_iff.mp h
  obtain ⟨implementers, heq⟩ := @insertBelow_eq (registry.insert type) above type
  rw [heq]
  exact typeOfTypename?_insert typename

/-- A type stands for no typename but its own. -/
theorem implementer?_declare_of_ne (h : registry.declare first = .ok (after, type))
    {typename : String} (other : type.typename ≠ typename) (base : String) :
    after.implementer? base typename = registry.implementer? base typename := by
  obtain ⟨above, -, -, -, -, rfl⟩ := declare_eq_ok_iff.mp h
  rw [implementer?_insertBelow, if_neg fun h => other h.2]
  rfl

/-- A declared type has the names of its declaration. -/
theorem names_of_declare (h : registry.declare first = .ok (after, type)) :
    type.name = first.name ∧ type.typename = first.wireTypename := by
  obtain ⟨above, -, hbuild, -, -, -⟩ := declare_eq_ok_iff.mp h
  obtain ⟨-, -, rfl⟩ := TypeDeclaration.build_eq_ok_iff.mp hbuild
  exact ⟨rfl, rfl⟩

/-! ## The second -/

/-- A type whose name is taken is refused for it, as the name is looked at first. -/
theorem checkAvailable_of_name_taken {found : ObjectType}
    (taken : registry.type? type.name = some found) :
    registry.checkAvailable type = .error (.duplicateRegistration .type type.name) := by
  rw [checkAvailable, if_pos (Table.has_eq_true_iff.mpr ⟨found, taken⟩)]

/-- A type whose name is free is refused for its typename if that is taken. -/
theorem checkAvailable_of_typename_taken {found : ObjectType}
    (free : registry.type? type.name = none)
    (taken : registry.typeOfTypename? type.typename = some found) :
    registry.checkAvailable type = .error (.duplicateRegistration .typename type.typename) := by
  have hname : ¬ registry.byName.has type.name = true := by
    rw [Bool.not_eq_true, Table.has_eq_false_iff]
    exact free
  rw [checkAvailable, if_neg hname, if_pos (Table.has_eq_true_iff.mpr ⟨found, taken⟩)]

/-- A declaration that is otherwise in order is refused as its names are. -/
theorem declare_of_checkAvailable_error {declaration : TypeDeclaration} {above : List String}
    {error : DeclarationError} (habove : registry.above declaration.parent = .ok above)
    (hbuild : declaration.build = .ok type) (h : registry.checkAvailable type = .error error) :
    registry.declare declaration = .error error := by
  rw [declare_eq, habove, ok_bind, hbuild, ok_bind, h]
  rfl

/-- A second type is refused for its name, or else for its typename, or it is declared. -/
theorem declare_second (h : registry.declare first = .ok (after, type))
    (only : OnlyNamesMayClash registry after second) :
    (second.name = first.name →
      after.declare second = .error (.duplicateRegistration .type second.name)) ∧
    (second.name ≠ first.name → second.wireTypename = first.wireTypename →
      after.declare second = .error (.duplicateRegistration .typename second.wireTypename)) ∧
    (second.name ≠ first.name → second.wireTypename ≠ first.wireTypename →
      ∃ next, after.declare second = .ok next) := by
  obtain ⟨hname, htypename⟩ := names_of_declare h
  obtain ⟨built, hbuild⟩ := only.builds
  obtain ⟨above, habove, hfree⟩ := only.ancestors
  obtain ⟨-, -, rfl⟩ := TypeDeclaration.build_eq_ok_iff.mp hbuild
  -- Both names were free before the first type, so now they stand for this type or for none.
  have hnames := type?_declare h second.name
  have htypenames := typeOfTypename?_declare h second.wireTypename
  rw [hname] at hnames
  rw [htypename] at htypenames
  refine ⟨fun same => ?_, fun other same => ?_, fun other otherTypename => ?_⟩
  · rw [if_pos same.symm] at hnames
    exact declare_of_checkAvailable_error habove hbuild (checkAvailable_of_name_taken hnames)
  · rw [if_neg (Ne.symm other), only.name] at hnames
    rw [if_pos same.symm] at htypenames
    exact declare_of_checkAvailable_error habove hbuild
      (checkAvailable_of_typename_taken hnames htypenames)
  · rw [if_neg (Ne.symm other), only.name] at hnames
    rw [if_neg (Ne.symm otherTypename), only.typename] at htypenames
    have hroots : ∀ root, second.built.HasRoot root → after.hasRoot root = false := by
      intro root hroot
      obtain ⟨hne, hroot⟩ := ObjectType.hasRoot_iff.mp hroot
      exact only.roots root hne hroot
    -- An ancestor of the second may list the first type by now, but under the typename of that one.
    refine ⟨_, declare_eq_ok_iff.mpr ⟨above, habove, hbuild, ?_, fun base hbase => ?_, rfl⟩⟩
    · exact checkAvailable_eq_ok_iff.mpr ⟨hnames, htypenames, hroots⟩
    · refine (implementer?_declare_of_ne h ?_ base).trans (hfree base hbase)
      rw [htypename]
      exact Ne.symm otherTypename

/-- ASCII names have one title case exactly if they are equal up to case. The title case of a name
is the name in another case, with the letters that begin a word in upper case and no others, and it
is its own title case. So two types that are called by such names, with no typenames of their own
and no other clash, cannot both be declared exactly if the names are equal up to case, and then it
is the name or the typename that is taken. -/
theorem titleCase_collides_iff {a b : String} (ha : IsAscii a) (hb : IsAscii b) :
    (titleCase a = titleCase b ↔ a.toLower = b.toLower) ∧
    TitleCaseOf a.toList (titleCase a).toList ∧ titleCase (titleCase a) = titleCase a ∧
    ∀ (registry after : Registry) (first second : TypeDeclaration) (type : ObjectType),
      first.name = a → first.typename = none → second.name = b → second.typename = none →
      registry.declare first = .ok (after, type) → OnlyNamesMayClash registry after second →
      ((∃ kind name, (kind = .type ∨ kind = .typename) ∧
          after.declare second = .error (.duplicateRegistration kind name)) ↔
        a.toLower = b.toLower) ∧
      (a.toLower ≠ b.toLower → ∃ next, after.declare second = .ok next) := by
  refine ⟨titleCase_eq_iff ha hb, titleCaseOf_titleCase ha, titleCase_titleCase ha, ?_⟩
  rintro registry after first second type rfl hfirst rfl hsecond h only
  obtain ⟨hname, htypename, hdeclared⟩ := declare_second h only
  -- Neither declaration chooses a typename, so their typenames are the title cases of their names.
  have hwire : second.wireTypename = first.wireTypename ↔
      first.name.toLower = second.name.toLower := by
    rw [TypeDeclaration.wireTypename, TypeDeclaration.wireTypename, hfirst, hsecond,
      Option.getD_none, Option.getD_none, eq_comm, titleCase_eq_iff ha hb]
  have hnext : first.name.toLower ≠ second.name.toLower →
      ∃ next, after.declare second = .ok next := fun differ =>
    hdeclared (fun same => differ (same ▸ rfl)) fun same => differ (hwire.mp same)
  refine ⟨⟨?_, fun same => ?_⟩, hnext⟩
  · rintro ⟨kind, name, -, hrefused⟩
    by_contra differ
    obtain ⟨next, hnext⟩ := hnext differ
    rw [hrefused] at hnext
    cases hnext
  · by_cases hsame : second.name = first.name
    · exact ⟨_, _, .inl rfl, hname hsame⟩
    · exact ⟨_, _, .inr rfl, htypename hsame (hwire.mpr same)⟩

/-- A map is a book. -/
def worldMap : TypeDeclaration := { name := "worldMap", parent := some "book" }

/-- An atlas of maps, under a name that differs from theirs in case alone. -/
def worldMaps : TypeDeclaration :=
  { name := "WorldMAP", parent := some "worldMap", queryRoot := "maps" }

/-- The library after the declaration of maps. -/
def mapLibrary : Registry := library.perform (.declare worldMap)

/-- An atlas of maps goes with the maps but for the two names. -/
theorem onlyNamesMayClash_worldMaps : OnlyNamesMayClash library mapLibrary worldMaps where
  builds := ⟨_, rfl⟩
  ancestors := ⟨["worldMap", "book"], rfl, by decide⟩
  name := rfl
  typename := rfl
  roots := by
    rintro root hne (rfl | rfl)
    · rfl
    · exact absurd rfl hne

/-- So an atlas of maps is refused by the library that has the maps, as the names differ in case
alone. -/
theorem worldMap_collides :
    IsAscii "worldMap" ∧ IsAscii "WorldMAP" ∧ titleCase "worldMap" = titleCase "WorldMAP" ∧
      OnlyNamesMayClash library mapLibrary worldMaps ∧
      ∃ kind name, (kind = .type ∨ kind = .typename) ∧
        mapLibrary.declare worldMaps = .error (.duplicateRegistration kind name) := by
  have ha : IsAscii "worldMap" := by simp [IsAscii]
  have hb : IsAscii "WorldMAP" := by simp [IsAscii]
  have hcase : "worldMap".toLower = "WorldMAP".toLower := by
    simp [← String.toList_inj, String.toLower]
  obtain ⟨htitle, -, -, hdeclare⟩ := titleCase_collides_iff ha hb
  obtain ⟨hrefused, -⟩ := hdeclare library mapLibrary worldMap worldMaps _ rfl rfl rfl rfl rfl
    onlyNamesMayClash_worldMaps
  exact ⟨ha, hb, htitle.mpr hcase, onlyNamesMayClash_worldMaps, hrefused.mpr hcase⟩

end TypedQuery.Registry
