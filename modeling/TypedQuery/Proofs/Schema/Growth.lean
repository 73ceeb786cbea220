import TypedQuery.Proofs.Query.Scopes
import TypedQuery.Proofs.Response.Decoding
import TypedQuery.Proofs.Schema.Run

/-!
# What a growing registry keeps

Calls only ever add to a registry: whatever a lookup finds stays what it finds (`KeptIn`), since a
step writes under names that are free. Reading a reply and resolving a document ask the registry by
lookups alone, so what they give stays as well.

A reply that is decoded never depends on a lookup that fails. The names of a selection document may:
below a field whose type is not declared they stand for themselves, and would be looked up in that
type once it is there. So documents keep their meaning if every type that is referred to is declared
(`Closed`).
-/

namespace TypedQuery.Registry

open Checked Json Relation

variable {registry after last : Registry} {type base owner : ObjectType} {field : Field}

/-! ## Lookups -/

/-- Whether what the lookups of a registry find is found in another one, too. -/
structure KeptIn (registry after : Registry) : Prop where
  type? : ∀ {name type}, registry.type? name = some type → after.type? name = some type
  typename? : ∀ {typename type}, registry.typeOfTypename? typename = some type →
    after.typeOfTypename? typename = some type
  root? : ∀ {root type}, registry.typeOfRoot? root = some type →
    after.typeOfRoot? root = some type
  implementer? : ∀ {base typename type}, registry.implementer? base typename = some type →
    after.implementer? base typename = some type

theorem KeptIn.refl (registry : Registry) : registry.KeptIn registry := ⟨id, id, id, id⟩

/-- What is found stays found from one registry to the next. -/
theorem KeptIn.trans (kept : registry.KeptIn after) (next : after.KeptIn last) :
    registry.KeptIn last where
  type? h := next.type? (kept.type? h)
  typename? h := next.typename? (kept.typename? h)
  root? h := next.root? (kept.root? h)
  implementer? h := next.implementer? (kept.implementer? h)

/-- A root name that is found is taken, so an available type does not have it. -/
theorem typeOfRoot?_insert (available : registry.checkAvailable type = .ok ()) {root : String}
    (found : registry.typeOfRoot? root = some base) :
    (registry.insert type).typeOfRoot? root = some base := by
  obtain ⟨-, -, hfree⟩ := checkAvailable_eq_ok_iff.mp available
  have htaken : registry.hasRoot root = true := by
    rw [typeOfRoot?] at found
    rw [hasRoot, Bool.or_eq_true, Table.has_eq_true_iff, Table.has_eq_true_iff]
    split at found
    · exact .inl ⟨_, ‹_›⟩
    · exact .inr ⟨_, found⟩
  -- The new type does not have this root, so neither table of roots changes at it.
  have hother : ¬ type.HasRoot root := by
    intro hroot
    rw [hfree root hroot] at htaken
    cases htaken
  have hquery : (registry.insert type).queryRoots.get? root = registry.queryRoots.get? root := by
    show (setRoot _ _ _).get? root = _
    rw [get?_setRoot, if_neg fun h => hother (.inl h)]
  have hmutate : (registry.insert type).mutateRoots.get? root = registry.mutateRoots.get? root := by
    show (setRoot _ _ _).get? root = _
    rw [get?_setRoot, if_neg fun h => hother (.inr h)]
  rw [typeOfRoot?, hquery, hmutate]
  exact found

/-- An available type is written under names that nothing is found by. -/
theorem keptIn_insert (available : registry.checkAvailable type = .ok ()) :
    registry.KeptIn (registry.insert type) := by
  obtain ⟨hname, htypename, -⟩ := checkAvailable_eq_ok_iff.mp available
  refine ⟨fun {name found} h => ?_, fun {typename found} h => ?_, typeOfRoot?_insert available, id⟩
  · rw [type?_insert, if_neg]
    · exact h
    · rintro rfl
      rw [hname] at h
      cases h
  · rw [typeOfTypename?_insert, if_neg]
    · exact h
    · rintro rfl
      rw [htypename] at h
      cases h

/-- Implementers are written under typenames that stand for nothing yet. -/
theorem keptIn_insertBelow {above : List String}
    (free : ∀ base ∈ above, registry.implementer? base type.typename = none) :
    registry.KeptIn (registry.insertBelow above type) := by
  obtain ⟨implementers, heq⟩ := @insertBelow_eq registry above type
  refine ⟨?_, ?_, ?_, fun {base typename found} h => ?_⟩
  · rw [heq]; exact id
  · rw [heq]; exact id
  · rw [heq]; exact id
  · rw [implementer?_insertBelow, if_neg]
    · exact h
    · rintro ⟨hbase, rfl⟩
      rw [free base hbase] at h
      cases h

/-- An implementer under a typename that stands for nothing hides nothing. -/
theorem keptIn_insertImplementer {name typename : String}
    (free : registry.implementer? name typename = none) (concrete : ObjectType) :
    registry.KeptIn (registry.insertImplementer name typename concrete) := by
  refine ⟨id, id, id, fun {base wire found} h => ?_⟩
  rw [implementer?_insertImplementer, if_neg]
  · exact h
  · rintro ⟨rfl, rfl⟩
    rw [free] at h
    cases h

/-- A step keeps what is found. -/
theorem Step.keptIn (step : registry.Step after) : registry.KeptIn after := by
  cases step with
  | declare h =>
    obtain ⟨above, -, -, available, free, rfl⟩ := declare_eq_ok_iff.mp h
    exact (keptIn_insert available).trans (keptIn_insertBelow free)
  | register h =>
    obtain ⟨available, rfl⟩ := register_eq_ok_iff.mp h
    exact keptIn_insert available
  | addImplementer h =>
    obtain ⟨-, -, -, free, rfl⟩ := addImplementer_eq_ok_iff.mp h
    exact keptIn_insertImplementer free _

/-- Steps keep what is found. -/
theorem keptIn_of_steps (steps : ReflTransGen Step registry after) : registry.KeptIn after :=
  steps_invariant (fun kept step => kept.trans step.keptIn) (.refl registry) steps

/-- Calls that follow a run, whether they succeed or fail, keep what is found after it. -/
theorem run_keptIn (calls more : List Call) : (run calls).KeptIn (run (calls ++ more)) := by
  refine keptIn_of_steps ?_
  induction more using List.reverseRecOn with
  | nil => rw [List.append_nil]
  | append_singleton more call ih =>
    rw [← List.append_assoc, run_append_singleton]
    exact ih.trans (perform_steps _ call)

/-! ## Replies -/

/-- A discriminator still chooses the same type. -/
theorem KeptIn.resolves (kept : registry.KeptIn after) {value? : Option Json}
    (resolves : registry.Resolves base value? type) : after.Resolves base value? type := by
  cases resolves with
  | absent => exact .absent
  | null => exact .null
  | own => exact .own
  | implementer other found => exact .implementer other (kept.implementer? found)

/-- The value of a field is read in the same way if the objects in it are. -/
theorem KeptIn.reads (kept : registry.KeptIn after) {value : Json} {held : FieldValue}
    (read : registry.Reads field value held)
    (objects : ∀ {type part object}, sizeOf part ≤ sizeOf value →
      registry.instantiate type part = .ok object → after.instantiate type part = .ok object) :
    after.Reads field value held := by
  cases read with
  | null => exact .null
  | raw present unreferenced fits => exact .raw present unreferenced fits
  | object target found single read =>
    exact .object target (kept.type? found) single (objects (Nat.le_refl _) read)
  | list target found collection read =>
    refine .list target (kept.type? found) collection ?_
    refine forall₂_imp_of_mem read fun item hitem held _ readItem => ?_
    cases readItem with
    | null => exact .null
    | object read => exact .object (objects (Nat.le_of_lt (sizeOf_lt_of_mem hitem)) read)

/-- A field that may be left out is read in the same way if the objects in it are. -/
theorem KeptIn.readsField (kept : registry.KeptIn after) {value? : Option Json} {held : FieldValue}
    (read : registry.ReadsField field value? held)
    (objects : ∀ {value type part object}, value? = some value → sizeOf part ≤ sizeOf value →
      registry.instantiate type part = .ok object → after.instantiate type part = .ok object) :
    after.ReadsField field value? held := by
  cases read with
  | absent => exact .absent
  | present read => exact .present (kept.reads read (objects rfl))

/-- An object is read in the same way. -/
theorem KeptIn.instantiate (kept : registry.KeptIn after) {value : Json} {object : Instance}
    (read : registry.instantiate base value = .ok object) :
    after.instantiate base value = .ok object := by
  induction value using size_induction generalizing base object with
  | step value ih =>
    obtain ⟨members, rfl, resolves, fields, unchanged⟩ := instantiate_eq_ok_iff.mp read
    refine instantiate_eq_ok_iff.mpr ⟨members, rfl, kept.resolves resolves, ?_, unchanged⟩
    refine fields.imp fun field entry h => ⟨h.1, kept.readsField h.2 fun hget hpart => ?_⟩
    exact ih _ (Nat.lt_of_le_of_lt hpart (sizeOf_lt_of_get?_eq_some hget))

/-- The roots of the data are decoded to the same groups. -/
theorem KeptIn.decodeRoots (kept : registry.KeptIn after) {data : List (String × Json)}
    {groups : Table (List Instance)} (read : registry.decodeRoots data = .ok groups) :
    after.decodeRoots data = .ok groups := by
  rw [decodeRoots_eq_ok_iff] at read ⊢
  refine read.imp fun entry group h => ?_
  obtain ⟨hroot, base, found, objects⟩ := h
  exact ⟨hroot, base, kept.root? found, objects.imp fun _ _ => kept.instantiate⟩

/-- The data of a payload is read as the same groups. -/
theorem KeptIn.readsData (kept : registry.KeptIn after) {data? : Option Json}
    {groups : Table (List Instance)} (read : registry.ReadsData data? groups) :
    after.ReadsData data? groups := by
  cases read with
  | absent => exact .absent
  | null => exact .null
  | roots read => exact .roots (kept.decodeRoots read)

/-- A payload is decoded to the same results. -/
theorem KeptIn.decode (kept : registry.KeptIn after) {value : Json} {results : Results}
    (read : registry.decode value = .ok results) : after.decode value = .ok results := by
  cases value with
  | object members =>
    obtain ⟨payload, hpayload, noErrors, data⟩ := decode_object_eq_ok_iff.mp read
    exact decode_object_eq_ok_iff.mpr ⟨payload, hpayload, noErrors, kept.readsData data⟩
  | _ => cases read

/-! ## Selection documents -/

/-- Whether every type that a field refers to is declared. -/
def Closed (registry : Registry) : Prop :=
  ∀ name type, registry.type? name = some type → ∀ field ∈ type.fields, ∀ target,
    field.referencedType? = some target → ∃ referenced, registry.type? target = some referenced

/-- Whether a scope is a declared type, if there is one. -/
def Scoped (registry : Registry) (scope : Option ObjectType) : Prop :=
  ∀ type, scope = some type → ∃ name, registry.type? name = some type

theorem scoped_none (registry : Registry) : registry.Scoped none := by
  rintro _ ⟨⟩

/-- A type that is found by a name is a declared scope. -/
theorem scoped_some {name : String} (found : registry.type? name = some type) :
    registry.Scoped (some type) := by
  rintro _ ⟨⟩
  exact ⟨name, found⟩

/-- The scope below a field is the same, and it is declared. -/
theorem KeptIn.scopeBelow (kept : registry.KeptIn after) (closed : registry.Closed)
    {scope inner : Option ObjectType} (known : registry.Scoped scope) (hscope : scope = some owner)
    {name : String} (hfield : owner.field? name = some field)
    (below : registry.ScopeBelow field inner) :
    after.ScopeBelow field inner ∧ registry.Scoped inner := by
  cases below with
  | declared target found => exact ⟨.declared target (kept.type? found), scoped_some found⟩
  | @undeclared target htarget missing =>
    -- What is not declared now is not referred to.
    obtain ⟨ownerName, howner⟩ := known owner hscope
    have hreferenced : field.referencedType? = some target := by
      rw [FieldTraits.referencedType?, htarget]
    have hmem := List.mem_of_find?_eq_some hfield
    obtain ⟨referenced, found⟩ := closed ownerName owner howner field hmem target hreferenced
    rw [missing] at found
    cases found
  | unreferenced noTarget => exact ⟨.unreferenced noTarget, scoped_none registry⟩

/-- A head is the same, and the scope below it is declared. -/
theorem KeptIn.headStandsFor (kept : registry.KeptIn after) (closed : registry.Closed)
    {scope inner : Option ObjectType} (known : registry.Scoped scope)
    {typeName name on : Option String} {arguments : List (String × String)} {head : Head}
    (names : registry.HeadStandsFor scope typeName name on arguments head inner) :
    after.HeadStandsFor scope typeName name on arguments head inner ∧ registry.Scoped inner := by
  cases names with
  | type found headed => exact ⟨.type (kept.type? found) headed, scoped_some found⟩
  | field hscope declared headed below =>
    obtain ⟨hbelow, hinner⟩ := kept.scopeBelow closed known hscope declared below
    exact ⟨.field hscope declared headed hbelow, hinner⟩
  | on found => exact ⟨.on (kept.type? found), scoped_some found⟩

mutual

/-- A node stands for the same selection. -/
theorem KeptIn.nodeStandsFor (kept : registry.KeptIn after) (closed : registry.Closed) :
    ∀ {scope : Option ObjectType} {node : OutlineNode} {selection : Selection},
      registry.Scoped scope → registry.NodeStandsFor scope node selection →
      after.NodeStandsFor scope node selection
  | _, _, _, known, .node names below => by
    obtain ⟨hnames, hinner⟩ := kept.headStandsFor closed known names
    exact .node hnames (KeptIn.itemsStandFor kept closed hinner below)

/-- A list of items stands for the same items. -/
theorem KeptIn.itemsStandFor (kept : registry.KeptIn after) (closed : registry.Closed) :
    ∀ {scope : Option ObjectType} {items : List OutlineItem} {resolved : List Item},
      registry.Scoped scope → registry.ItemsStandFor scope items resolved →
      after.ItemsStandFor scope items resolved
  | _, _, _, _, .nil => .nil
  | _, _, _, known, .cons first more =>
    .cons (KeptIn.itemStandsFor kept closed known first)
      (KeptIn.itemsStandFor kept closed known more)

/-- An item stands for the same item; a name that the scope does not declare stays a name. -/
theorem KeptIn.itemStandsFor (kept : registry.KeptIn after) (closed : registry.Closed) :
    ∀ {scope : Option ObjectType} {item : OutlineItem} {resolved : Item},
      registry.Scoped scope → registry.ItemStandsFor scope item resolved →
      after.ItemStandsFor scope item resolved
  | _, _, _, _, .field hscope declared => .field hscope declared
  | _, _, _, _, .verbatim undeclared => .verbatim undeclared
  | _, _, _, known, .node stands => .node (KeptIn.nodeStandsFor kept closed known stands)
  | _, _, _, _, .fragmentRef => .fragmentRef

end

/-- A fragment stands for the same definition. -/
theorem KeptIn.fragmentStandsFor (kept : registry.KeptIn after) (closed : registry.Closed)
    {outline : OutlineFragment} {fragment : Fragment}
    (stands : registry.FragmentStandsFor outline fragment) :
    after.FragmentStandsFor outline fragment := by
  cases stands with
  | fragment found below =>
    exact .fragment (kept.type? found) (kept.itemsStandFor closed (scoped_some found) below)

/-- A selection document is resolved to the same tree. -/
theorem KeptIn.resolve (kept : registry.KeptIn after) (closed : registry.Closed)
    {document : SelectionDocument} {tree : List Selection × List Fragment}
    (h : registry.resolve document = .ok tree) : after.resolve document = .ok tree := by
  obtain ⟨selections, fragments⟩ := tree
  rw [resolve_eq_ok_iff] at h ⊢
  exact ⟨h.1.imp fun _ _ => kept.nodeStandsFor closed (scoped_none registry),
    h.2.imp fun _ _ => kept.fragmentStandsFor closed⟩

/-! ## Runs that go on -/

/-- Whatever calls follow a run, every lookup that succeeded after it finds the same type, every
payload that was decoded is decoded to the same results, and if no reference to a type is left open,
every selection document that resolved is the same tree and so has the same text. -/
theorem run_append_conserves (calls more : List Call) :
    (run calls).KeptIn (run (calls ++ more)) ∧
    (∀ payload results, (run calls).decode payload = .ok results →
      (run (calls ++ more)).decode payload = .ok results) ∧
    ((run calls).Closed → ∀ document selections fragments,
      (run calls).resolve document = .ok (selections, fragments) →
      (run (calls ++ more)).resolve document = .ok (selections, fragments)) :=
  have kept := run_keptIn calls more
  ⟨kept, fun _ _ => kept.decode, fun closed _ _ _ => kept.resolve closed⟩

/-- Calls after the library is loaded: maps are a kind of atlas, and books are declared once
more. -/
def laterCalls : List Call :=
  [.declare { name := "map", typename := some "Map", parent := some "atlas" },
    .load libraryDocument]

/-- A shelf by name, with its first book. -/
def shelfOutline : SelectionDocument where
  selections := [
    ⟨some "shelf", none, none, [],
      [.name "label", .node ⟨none, some "first", none, [], [.name "title", .name "scale"]⟩]⟩]

/-- Every type that a field of the library refers to is declared in it. -/
theorem library_closed : library.Closed := by
  intro name type found field hfield target htarget
  have hmem := Table.mem_of_get?_eq_some found
  have hall : ∀ entry ∈ library.byName, ∀ field ∈ entry.2.fields, ∀ target,
      field.referencedType? = some target → target = "book" := by decide
  rw [hall _ hmem field hfield target htarget]
  exact ⟨libraryType "book", rfl⟩

/-- The shelf keeps its tree, in which the books have no scale of their own. -/
theorem library_conserves :
    (run [.load libraryDocument]).Closed ∧
    ∃ tree, (run [.load libraryDocument]).resolve shelfOutline = .ok tree ∧
      (run ([.load libraryDocument] ++ laterCalls)).resolve shelfOutline = .ok tree := by
  obtain ⟨-, -, resolved⟩ := run_append_conserves [.load libraryDocument] laterCalls
  exact ⟨library_closed, _, rfl, resolved library_closed shelfOutline _ _ rfl⟩

end TypedQuery.Registry
