import TypedQuery.Proofs.Schema.Ascent
import TypedQuery.Proofs.Schema.Consistency

/-!
# The subtypes of a document

The implementers of a type that a document declares are the types below it, at any distance, and the
types that it lists (`subtypes_of_load`). The first pass adds the former, one declaration after the
other, and the second pass the latter, which may be declared anywhere in the document.

The two kinds are kept apart, as the second pass refuses a typename that a descendant has taken. For
the same reason a list is good for its own type only: the types below a listed one are not added,
and the types above the one that lists are not told.
-/

namespace TypedQuery.SchemaDocument

open Relation

variable {document : SchemaDocument} {registry : Registry} {base name : String}

/-- Whether a type of a document lists another one as its implementer. -/
def Lists (document : SchemaDocument) (base name : String) : Prop :=
  ∃ entry ∈ document.types, entry.name = base ∧ name ∈ entry.implementers

/-- The pairs that the second pass goes through are the listed implementers. -/
theorem mem_implementerPairs_iff :
    (base, name) ∈ document.implementerPairs ↔ document.Lists base name := by
  rw [implementerPairs, List.mem_flatMap]
  refine exists_congr fun entry => and_congr_right fun _ => ?_
  rw [List.mem_map]
  constructor
  · rintro ⟨listed, hlisted, heq⟩
    obtain ⟨hbase, rfl⟩ := Prod.mk.inj heq
    exact ⟨hbase, hlisted⟩
  · rintro ⟨rfl, hlisted⟩
    exact ⟨name, hlisted, rfl⟩

/-! ## What loading leaves -/

/-- Loading is a call on the empty registry. -/
theorem eq_perform_of_load (h : document.load = .ok registry) :
    registry = Registry.empty.perform (.load document) := by
  obtain ⟨declared, htypes, hpairs⟩ := load_eq_ok_iff.mp h
  show registry = (document.loadInto .empty).1
  rw [loadInto, htypes]
  exact (congrArg Prod.fst hpairs).symm

/-- So what loading leaves is reachable. -/
theorem reachable_of_load (h : document.load = .ok registry) : registry.Reachable := by
  rw [eq_perform_of_load h]
  exact .perform .empty trivial

/-- The first pass leaves a registry of the declared types, and the second one adds the listed
implementers to it, each of which can be added. -/
theorem exists_declared_of_load (h : document.load = .ok registry) :
    ∃ declared, Represents document.types declared ∧
      declared.Extended document.implementerPairs.reverse registry ∧
      ∀ base name, document.Lists base name → declared.Addable base name := by
  obtain ⟨declared, htypes, hpairs⟩ := load_eq_ok_iff.mp h
  have represents := Represents.empty.declareTypes htypes
  have holds := represents.declared
  have start : declared.Extended [] declared := ⟨fun _ => rfl, by simp⟩
  have extended := start.addImplementers holds.coherent hpairs
  rw [List.append_nil] at extended
  refine ⟨declared, represents, extended, fun base name hlisted => ?_⟩
  have haddable := ((start.exists_addImplementers_iff holds).mp ⟨registry, hpairs⟩).1
  exact (haddable _ (mem_implementerPairs_iff.mpr hlisted)).1

/-- The ancestors of a loaded type are those that the document gives it. -/
theorem extends_eq_of_load (h : document.load = .ok registry) :
    registry.Extends = document.Extends := by
  obtain ⟨declared, represents, extended, -⟩ := exists_declared_of_load h
  rw [← extends_eq represents]
  funext child parent
  rw [Registry.Extends, Registry.Extends, extended.type?_eq]

/-- The implementers of a type are those below it and those that it lists. -/
theorem implementer?_eq_some_iff_of_load (h : document.load = .ok registry) {typename : String}
    {type : ObjectType} :
    registry.implementer? base typename = some type ↔
      registry.typeOfTypename? typename = some type ∧
        (TransGen document.Extends type.name base ∨ document.Lists base type.name) := by
  have coherent := (reachable_of_load h).coherent
  obtain ⟨declared, represents, extended, -⟩ := exists_declared_of_load h
  have hregistered : declared.Registered type ↔ registry.Registered type := by
    rw [Registry.Registered, Registry.Registered, extended.type?_eq]
  -- The second pass keeps the types of the first one and adds to its implementers the listed ones.
  rw [extended.implementer_iff, represents.declared.implementer_iff, extends_eq represents,
    coherent.typename_iff, hregistered]
  simp only [List.mem_reverse, mem_implementerPairs_iff]
  constructor
  · rintro (⟨registered, htypename, below⟩ | ⟨name, listed, found, htypename⟩)
    · exact ⟨⟨registered, htypename⟩, .inl below⟩
    · have hname := represents.declared.coherent.name_eq found
      subst hname
      exact ⟨⟨hregistered.mp found, htypename⟩, .inr listed⟩
  · rintro ⟨⟨registered, htypename⟩, below | listed⟩
    · exact .inl ⟨registered, htypename, below⟩
    · exact .inr ⟨type.name, listed, hregistered.mpr registered, htypename⟩

/-- Whatever is neither below a type nor listed by it is no implementer of it. -/
theorem implementer?_eq_none_of_load (h : document.load = .ok registry) {type : ObjectType}
    (registered : registry.Registered type) (apart : ¬ TransGen document.Extends type.name base)
    (unlisted : ¬ document.Lists base type.name) :
    registry.implementer? base type.typename = none := by
  have coherent := (reachable_of_load h).coherent
  rw [Option.eq_none_iff_forall_ne_some]
  intro found hfound
  obtain ⟨htypename, hsubtype⟩ := (implementer?_eq_some_iff_of_load h).mp hfound
  rw [coherent.typename_iff.mpr ⟨registered, rfl⟩, Option.some.injEq] at htypename
  exact hsubtype.elim (htypename ▸ apart) (htypename ▸ unlisted)

/-- No type descends from itself. -/
theorem not_transGen_self_of_load (h : document.load = .ok registry) :
    ¬ TransGen document.Extends name name := by
  have ends : registry.Ends name := by
    rw [eq_perform_of_load h]
    refine Registry.ends_perform_iff.mpr ⟨Registry.ends_empty, fun loop => ?_⟩ name
    cases loop
  obtain ⟨met, climb⟩ := ends
  rw [← extends_eq_of_load h]
  exact climb.not_transGen

/-- The implementers of a type in a loaded document are its subtypes: a typename stands for the type
that has it if this is below the base type or listed by it. It is never both. The types below a
listed one are implementers only if they are so themselves, and so are listed types of the types
above the one that lists them. And no type is an implementer of itself. -/
theorem subtypes_of_load (h : document.load = .ok registry) :
    (∀ base typename type, registry.implementer? base typename = some type ↔
      registry.typeOfTypename? typename = some type ∧
        (TransGen document.Extends type.name base ∨ document.Lists base type.name)) ∧
    (∀ base name, ¬ (TransGen document.Extends name base ∧ document.Lists base name)) ∧
    (∀ base name lower, document.Lists base name → registry.Registered lower →
      TransGen document.Extends lower.name name →
      ¬ TransGen document.Extends lower.name base → ¬ document.Lists base lower.name →
      registry.implementer? base lower.typename = none) ∧
    (∀ base type higher, document.Lists base type.name → registry.Registered type →
      TransGen document.Extends base higher →
      ¬ TransGen document.Extends type.name higher → ¬ document.Lists higher type.name →
      registry.implementer? higher type.typename = none) ∧
    ∀ type, registry.Registered type → registry.implementer? type.name type.typename = none := by
  obtain ⟨declared, represents, -, haddable⟩ := exists_declared_of_load h
  refine ⟨fun base typename type => implementer?_eq_some_iff_of_load h, ?_, ?_, ?_, ?_⟩
  · rintro base name ⟨below, listed⟩
    -- A descendant was an implementer after the first pass, so it could not have been added.
    rw [← extends_eq represents] at below
    exact (haddable base name listed).unrelated below
  · intro base name lower _ registered _ apart unlisted
    exact implementer?_eq_none_of_load h registered apart unlisted
  · intro base type higher _ registered _ apart unlisted
    exact implementer?_eq_none_of_load h registered apart unlisted
  · intro type registered
    refine implementer?_eq_none_of_load h registered (not_transGen_self_of_load h) fun listed => ?_
    exact (haddable type.name type.name listed).other rfl

/-- Results of a search, which lists types that are declared after it. -/
def catalogue : SchemaDocument where
  types := [
    { name := "result", typename := some "Result" },
    { name := "search", typename := some "Search", parent := some "result",
      implementers := ["book", "author"] },
    { name := "book", typename := some "Book" },
    { name := "ebook", typename := some "Ebook", parent := some "book" },
    { name := "audiobook", typename := some "Audiobook", parent := some "ebook" },
    { name := "author", typename := some "Author" }]

/-- The registry of the catalogue. -/
def catalogueRegistry : Registry := Registry.empty.perform (.load catalogue)

/-- A type of the catalogue. -/
def catalogueType (name : String) : ObjectType := (catalogueRegistry.type? name).getD default

/-- An audiobook is a book, two types down, and a search may find a book. But it finds no ebooks,
which it does not list, and a result in general is no book. No book stands for itself. -/
theorem catalogue_subtypes :
    catalogue.load = .ok catalogueRegistry ∧
    catalogueRegistry.implementer? "book" "Audiobook" = some (catalogueType "audiobook") ∧
    catalogueRegistry.implementer? "search" "Book" = some (catalogueType "book") ∧
    catalogueRegistry.implementer? "search" "Ebook" = none ∧
    catalogueRegistry.implementer? "result" "Book" = none ∧
    catalogueRegistry.implementer? "book" "Book" = none := by
  have hload : catalogue.load = .ok catalogueRegistry := rfl
  obtain ⟨subtypes, -, below, above, own⟩ := subtypes_of_load hload
  have hebook : catalogue.Extends "ebook" "book" := by simp [Extends, catalogue]
  have haudio : catalogue.Extends "audiobook" "ebook" := by simp [Extends, catalogue]
  have hsearch : catalogue.Extends "search" "result" := by simp [Extends, catalogue]
  have hbook : catalogue.Lists "search" "book" := by simp [Lists, catalogue]
  have hunlisted : ¬ catalogue.Lists "search" "ebook" := by simp [Lists, catalogue]
  -- A book extends nothing, so the way up from an ebook ends there and never comes to a search.
  have htop : ∀ base, ¬ TransGen catalogue.Extends "book" base := by
    intro base h
    obtain ⟨parent, next, -⟩ := TransGen.head'_iff.mp h
    simp [Extends, catalogue] at next
  have honly : ¬ TransGen catalogue.Extends "ebook" "search" := by
    intro h
    obtain ⟨parent, next, hrest⟩ := TransGen.head'_iff.mp h
    obtain rfl : parent = "book" := by simpa [Extends, catalogue, eq_comm] using next
    rcases hrest.cases_head with heq | ⟨other, next, -⟩
    · simp at heq
    · exact htop other (.single next)
  refine ⟨hload, ?_, ?_, ?_, ?_, ?_⟩
  · exact (subtypes "book" "Audiobook" _).mpr ⟨rfl, .inl (.head haudio (.single hebook))⟩
  · exact (subtypes "search" "Book" _).mpr ⟨rfl, .inr hbook⟩
  · exact below "search" "book" (catalogueType "ebook") hbook rfl (.single hebook) honly hunlisted
  · exact above "search" (catalogueType "book") "result" hbook rfl (.single hsearch) (htop _)
      (by simp [Lists, catalogue])
  · exact own (catalogueType "book") rfl

end TypedQuery.SchemaDocument
