import TypedQuery.Proofs.Schema.Growth
import TypedQuery.Proofs.Schema.Lineage

/-!
# Which types implementer maps hold

Every map of implementers belongs to a registered type, whatever is called. What a map holds is a
different matter: a call for an implementer compares the names of the types that it is given, so it
accepts types that were built apart from the registered ones of these names. Such a concrete type
gets into the map, and under such a base type the registered type's own typename does
(`run_implementers_iff`).

An entry comes from somewhere (`run_implementer_origin`). Declarations and documents write
registered types only, under typenames that are not the base type's own (`Sound`), and any other
entry was added by a call of its own. Since nothing that is found changes afterwards, an entry is as
good after the run as the call that added it.
-/

namespace TypedQuery.Registry

open Relation

variable {registry after last : Registry} {type concrete : ObjectType} {base typename : String}

/-! ## Maps -/

/-- Whether the tables are coherent and the maps of implementers list each base type and each
typename once, below registered types only. -/
structure Mapped (registry : Registry) : Prop where
  coherent : registry.Coherent
  bases : registry.implementers.keys.Nodup
  typenames : ∀ entry ∈ registry.implementers, entry.2.keys.Nodup
  registered : ∀ entry ∈ registry.implementers, ∃ type, registry.type? entry.1 = some type

theorem Mapped.empty : Mapped .empty where
  coherent := .empty
  bases := List.nodup_nil
  typenames _ h := nomatch h
  registered _ h := nomatch h

/-- The map below a base type is the one that is listed under its name. -/
theorem Mapped.get?_iff (mapped : registry.Mapped) {map : Table ObjectType} :
    registry.implementers.get? base = some map ↔ (base, map) ∈ registry.implementers :=
  Table.get?_eq_some_iff mapped.bases

/-- The map below a base type lists each typename once. -/
theorem Mapped.nodup_implementersOf (mapped : registry.Mapped) (base : String) :
    (registry.implementersOf base).keys.Nodup := by
  rw [implementersOf]
  cases hmap : registry.implementers.get? base with
  | none => exact List.nodup_nil
  | some map => exact mapped.typenames _ (mapped.get?_iff.mp hmap)

/-- The entries of maps are what is looked up. -/
theorem Mapped.forall_iff (mapped : registry.Mapped) {p : String → String → ObjectType → Prop} :
    (∀ entry ∈ registry.implementers, ∀ variant ∈ entry.2, p entry.1 variant.1 variant.2) ↔
      ∀ base typename concrete, registry.implementer? base typename = some concrete →
        p base typename concrete := by
  constructor
  · intro h base typename concrete found
    rw [implementer?, implementersOf] at found
    cases hmap : registry.implementers.get? base with
    | none => simp [hmap] at found
    | some map =>
      rw [hmap] at found
      exact h _ (mapped.get?_iff.mp hmap) _ (Table.mem_of_get?_eq_some found)
  -- Under distinct keys, what is listed is also what a lookup answers.
  · rintro h ⟨base, map⟩ hentry ⟨typename, concrete⟩ hvariant
    refine h base typename concrete ?_
    rw [implementer?, implementersOf, mapped.get?_iff.mpr hentry]
    exact (Table.get?_eq_some_iff (mapped.typenames _ hentry)).mpr hvariant

/-- A base type that has implementers is registered. -/
theorem Mapped.exists_type? (mapped : registry.Mapped)
    (found : registry.implementer? base typename = some concrete) :
    ∃ type, registry.type? base = some type :=
  (mapped.forall_iff (p := fun base _ _ => ∃ type, registry.type? base = some type)).mp
    (fun entry hentry _ _ => mapped.registered entry hentry) _ _ _ found

/-- An insertion keeps the maps, since their base types stay registered. -/
theorem Mapped.insert (mapped : registry.Mapped)
    (available : registry.checkAvailable type = .ok ()) : (registry.insert type).Mapped := by
  refine ⟨mapped.coherent.insert available, mapped.bases, mapped.typenames, fun entry hentry => ?_⟩
  rw [type?_insert]
  split
  · exact ⟨type, rfl⟩
  · exact mapped.registered entry hentry

/-- An implementer below a registered type keeps the maps in order. -/
theorem Mapped.insertImplementer (mapped : registry.Mapped)
    (registered : ∃ type, registry.type? base = some type) (typename : String)
    (concrete : ObjectType) : (registry.insertImplementer base typename concrete).Mapped := by
  refine ⟨mapped.coherent.withImplementers _, Table.nodup_keys_set mapped.bases _ _,
    fun entry hentry => ?_, fun entry hentry => ?_⟩
  · rcases Table.mem_set hentry with rfl | hold
    · exact Table.nodup_keys_set (mapped.nodup_implementersOf base) _ _
    · exact mapped.typenames entry hold
  · rcases Table.mem_set hentry with rfl | hold
    · exact registered
    · exact mapped.registered entry hold

/-- Implementers below registered types keep the maps in order. -/
theorem Mapped.insertBelow (mapped : registry.Mapped) {above : List String}
    (registered : ∀ base ∈ above, ∃ type, registry.type? base = some type) (type : ObjectType) :
    (registry.insertBelow above type).Mapped := by
  induction above generalizing registry with
  | nil => exact mapped
  | cons base rest ih =>
    rw [List.forall_mem_cons] at registered
    exact ih (mapped.insertImplementer registered.1 _ _) registered.2

/-- The types above a new one are registered. -/
theorem Coherent.exists_type?_of_mem_above (coherent : registry.Coherent) {parent : Option String}
    {above : List String} (h : registry.above parent = .ok above) (hbase : base ∈ above) :
    ∃ type, registry.type? base = some type := by
  cases parent with
  | none =>
    rw [Registry.above, Except.ok.injEq] at h
    subst h
    cases hbase
  | some parent =>
    rw [Registry.above, ancestors_eq_ok_iff] at h
    exact h.1.exists_of_reflTransGen ((coherent.mem_line_iff h.1).mp hbase)

/-- A step keeps the maps below registered types. -/
theorem Mapped.step (mapped : registry.Mapped) (step : registry.Step after) : after.Mapped := by
  cases step with
  | @declare _ type _ h =>
    obtain ⟨above, habove, -, available, -, rfl⟩ := declare_eq_ok_iff.mp h
    refine (mapped.insert available).insertBelow (fun base hbase => ?_) type
    obtain ⟨found, hfound⟩ := mapped.coherent.exists_type?_of_mem_above habove hbase
    exact ⟨found, (keptIn_insert available).type? hfound⟩
  | register h =>
    obtain ⟨available, rfl⟩ := register_eq_ok_iff.mp h
    exact mapped.insert available
  | addImplementer h =>
    obtain ⟨registered, -, -, -, rfl⟩ := addImplementer_eq_ok_iff.mp h
    exact mapped.insertImplementer registered _ _

/-- Every run leaves its maps below registered types. -/
theorem run_mapped (calls : List Call) : (run calls).Mapped :=
  steps_invariant (fun mapped step => mapped.step step) .empty (run_steps calls)

/-! ## Sound entries -/

/-- Whether an entry of a map holds a registered type, not under the base type's own typename. -/
structure Sound (registry : Registry) (base typename : String) (concrete : ObjectType) : Prop where
  registered : registry.Registered concrete
  other : ∀ own, registry.type? base = some own → typename ≠ own.typename

/-- An entry stays sound. -/
theorem Sound.keep (sound : registry.Sound base typename concrete) (kept : registry.KeptIn after)
    (hbase : ∃ own, registry.type? base = some own) : after.Sound base typename concrete := by
  refine ⟨kept.type? sound.registered, fun own found => ?_⟩
  obtain ⟨old, hold⟩ := hbase
  obtain rfl := Option.some.inj (found.symm.trans (kept.type? hold))
  exact sound.other own hold

/-- What a declaration adds is sound. -/
theorem sound_of_declare (coherent : registry.Coherent) {declaration : TypeDeclaration}
    (h : registry.declare declaration = .ok (after, type))
    (found : after.implementer? base typename = some concrete) :
    registry.implementer? base typename = some concrete ∨ after.Sound base typename concrete := by
  obtain ⟨above, habove, -, available, -, heq⟩ := declare_eq_ok_iff.mp h
  obtain ⟨hname, htypename, -⟩ := checkAvailable_eq_ok_iff.mp available
  rw [heq, implementer?_insertBelow] at found
  split at found
  · rename_i hnew
    obtain ⟨hbase, rfl⟩ := hnew
    obtain rfl := Option.some.inj found
    refine .inr ⟨(registered_declare_iff h).mpr (.inl rfl), fun own hown hsame => ?_⟩
    obtain ⟨old, hold⟩ := coherent.exists_type?_of_mem_above habove hbase
    -- The base type was there before, so the new typename is not its own.
    have hne : type.name ≠ base := by
      rintro rfl
      rw [hname] at hold
      cases hold
    rw [type?_declare h, if_neg hne] at hown
    rw [coherent.typename_iff.mpr ⟨coherent.registered hown, hsame.symm⟩] at htypename
    cases htypename
  · exact .inl found

/-- What is added from registered types is sound. -/
theorem sound_of_addImplementer {own : ObjectType} {name : String}
    (hown : registry.Registered own) (hconcrete : registry.Registered concrete)
    (h : registry.addImplementer own name concrete = .ok after) {variant : ObjectType}
    (found : after.implementer? base typename = some variant) :
    registry.implementer? base typename = some variant ∨ after.Sound base typename variant := by
  obtain ⟨-, -, hother, -, rfl⟩ := addImplementer_eq_ok_iff.mp h
  rw [implementer?_insertImplementer] at found
  split at found
  · rename_i hnew
    obtain ⟨rfl, rfl⟩ := hnew
    obtain rfl := Option.some.inj found
    refine .inr ⟨hconcrete, fun found hfound => ?_⟩
    obtain rfl := Option.some.inj (hown.symm.trans hfound)
    exact hother
  · exact .inl found

/-- Whether a registry came from another one by adding sound entries only. -/
structure Adds (registry after : Registry) : Prop where
  mapped : after.Mapped
  sound : ∀ {base typename concrete}, after.implementer? base typename = some concrete →
    registry.implementer? base typename = some concrete ∨ after.Sound base typename concrete

theorem Mapped.adds_refl (mapped : registry.Mapped) : registry.Adds registry := ⟨mapped, .inl⟩

/-- A step that adds sound entries keeps those before it sound. -/
theorem Adds.step (adds : registry.Adds after) (step : after.Step last)
    (sound : ∀ {base typename concrete}, last.implementer? base typename = some concrete →
      after.implementer? base typename = some concrete ∨ last.Sound base typename concrete) :
    registry.Adds last := by
  refine ⟨adds.mapped.step step, fun found => (sound found).elim (fun hold => ?_) .inr⟩
  exact (adds.sound hold).imp_right fun sound =>
    sound.keep step.keptIn (adds.mapped.exists_type? hold)

/-- What a document adds is sound. -/
theorem Mapped.adds_load (mapped : registry.Mapped) (document : SchemaDocument) :
    registry.Adds (document.loadInto registry).1 := by
  refine SchemaDocument.loadInto_invariant (fun adds _ h => ?_) (fun adds h => ?_) document
    mapped.adds_refl
  · exact adds.step (.declare h) fun found => sound_of_declare adds.mapped.coherent h found
  · obtain ⟨own, concrete, hown, hconcrete, hadd⟩ := SchemaDocument.addImplementer_eq_ok_iff.mp h
    have coherent := adds.mapped.coherent
    exact adds.step (.addImplementer hadd) fun found =>
      sound_of_addImplementer (coherent.registered hown) (coherent.registered hconcrete) hadd found

/-! ## Calls for implementers -/

/-- Whether a call succeeds in adding a type that is not registered. -/
def AddsForeign (registry : Registry) : Call → Prop
  | .addImplementer base typename concrete =>
    (∃ after, registry.addImplementer base typename concrete = .ok after) ∧
      ¬ registry.Registered concrete
  | _ => False

/-- Whether a call succeeds in adding an implementer under the own typename of the registered base
type. -/
def AddsOwnTypename (registry : Registry) : Call → Prop
  | .addImplementer base typename concrete =>
    (∃ after, registry.addImplementer base typename concrete = .ok after) ∧
      ∃ own, registry.type? base.name = some own ∧ typename = own.typename
  | _ => False

/-- An entry behind a call was there before, is sound, or is the one that the call is for. -/
theorem Mapped.perform_origin (mapped : registry.Mapped) {call : Call}
    (found : (registry.perform call).implementer? base typename = some concrete) :
    registry.implementer? base typename = some concrete ∨
      (registry.perform call).Sound base typename concrete ∨
      ∃ own after, call = .addImplementer own typename concrete ∧ own.name = base ∧
        registry.addImplementer own typename concrete = .ok after := by
  cases call with
  | declare declaration =>
    rw [perform] at found ⊢
    split at found
    · rename_i h
      exact (sound_of_declare mapped.coherent h found).imp_right .inl
    · exact .inl found
  | register type =>
    rw [perform] at found
    split at found
    · rename_i h
      obtain ⟨-, rfl⟩ := register_eq_ok_iff.mp h
      exact .inl found
    · exact .inl found
  | addImplementer own name variant =>
    rw [perform] at found
    split at found
    · rename_i h
      obtain ⟨-, -, -, -, rfl⟩ := addImplementer_eq_ok_iff.mp h
      rw [implementer?_insertImplementer] at found
      split at found
      -- The entry that is found is the one that this call writes.
      · rename_i hnew
        obtain ⟨rfl, rfl⟩ := hnew
        obtain rfl := Option.some.inj found
        exact .inr (.inr ⟨own, _, rfl, rfl, h⟩)
      · exact .inl found
    · exact .inl found
  | load document => exact ((mapped.adds_load document).sound found).imp_right .inl

/-- Every entry that a run leaves is sound or was added by a call of its own. -/
theorem run_implementer_origin {calls : List Call}
    (found : (run calls).implementer? base typename = some concrete) :
    (run calls).Sound base typename concrete ∨
      ∃ before own rest after, calls = before ++ .addImplementer own typename concrete :: rest ∧
        own.name = base ∧ (run before).addImplementer own typename concrete = .ok after := by
  -- The induction takes the last call off, since it is what may have added the entry.
  induction calls using List.reverseRecOn with
  | nil => cases found
  | append_singleton calls call ih =>
    rw [run_append_singleton] at found ⊢
    rcases (run_mapped calls).perform_origin found with hold | hsound | ⟨own, after, rfl, hname, h⟩
    · refine (ih hold).imp (fun sound => ?_) ?_
      · exact sound.keep (keptIn_of_steps (perform_steps _ call))
          ((run_mapped calls).exists_type? hold)
      · rintro ⟨before, own, rest, after, rfl, hname, h⟩
        exact ⟨before, own, rest ++ [call], after, List.append_assoc .., hname, h⟩
    · exact .inl hsound
    · exact .inr ⟨calls, own, [], after, rfl, hname, h⟩

/-- What a call of a run has added is found after the run. -/
theorem implementer?_run_of_addImplementer {before rest : List Call} {own : ObjectType}
    (h : (run before).addImplementer own typename concrete = .ok after) :
    (run (before ++ .addImplementer own typename concrete :: rest)).implementer? own.name typename =
      some concrete := by
  have hcall : (run (before ++ [.addImplementer own typename concrete])).implementer? own.name
      typename = some concrete := by
    rw [run_append_singleton, perform, h]
    obtain ⟨-, -, -, -, rfl⟩ := addImplementer_eq_ok_iff.mp h
    rw [implementer?_insertImplementer, if_pos ⟨rfl, rfl⟩]
  have hkept := (run_keptIn (before ++ [.addImplementer own typename concrete]) rest).implementer?
    hcall
  rwa [List.append_assoc] at hkept

/-- The implementers after a run are registered exactly if no call added a foreign one. -/
theorem forall_registered_iff (calls : List Call) :
    (∀ base typename concrete, (run calls).implementer? base typename = some concrete →
      (run calls).Registered concrete) ↔
      ∀ before call after, calls = before ++ call :: after → ¬ (run before).AddsForeign call := by
  constructor
  · rintro h before call rest rfl foreign
    cases call with
    | addImplementer own typename concrete =>
      obtain ⟨⟨after, hadd⟩, hforeign⟩ := foreign
      obtain ⟨-, ⟨found, hfound⟩, -⟩ := addImplementer_eq_ok_iff.mp hadd
      have registered := h _ _ _ (implementer?_run_of_addImplementer hadd)
      -- Another type had the name at the call, and has it still.
      obtain rfl := Option.some.inj
        (registered.symm.trans ((run_keptIn before _).type? hfound))
      exact hforeign hfound
    | _ => exact foreign.elim
  · intro h base typename concrete found
    rcases run_implementer_origin found with sound | ⟨before, own, rest, after, rfl, -, hadd⟩
    · exact sound.registered
    -- A call of its own added the entry, so it gave a type that was registered then, and still is.
    · have registered : (run before).Registered concrete := by
        by_contra hforeign
        exact h before _ rest rfl ⟨⟨after, hadd⟩, hforeign⟩
      exact (run_keptIn before _).type? registered

/-- No implementer stands under its base type's own typename after a run exactly if no call added
one there. -/
theorem forall_typename_ne_iff (calls : List Call) :
    (∀ base typename concrete, (run calls).implementer? base typename = some concrete →
      ∀ own, (run calls).type? base = some own → typename ≠ own.typename) ↔
      ∀ before call after, calls = before ++ call :: after →
        ¬ (run before).AddsOwnTypename call := by
  constructor
  · rintro h before call rest rfl taken
    cases call with
    | addImplementer own typename concrete =>
      obtain ⟨⟨after, hadd⟩, found, hfound, hsame⟩ := taken
      exact h _ _ _ (implementer?_run_of_addImplementer hadd) found
        ((run_keptIn before _).type? hfound) hsame
    | _ => exact taken.elim
  · intro h base typename concrete found type htype hsame
    rcases run_implementer_origin found with sound | ⟨before, own, rest, after, rfl, rfl, hadd⟩
    · exact sound.other type htype hsame
    -- The base type at the call is the one after the run.
    · obtain ⟨⟨old, hold⟩, -⟩ := addImplementer_eq_ok_iff.mp hadd
      obtain rfl := Option.some.inj (htype.symm.trans ((run_keptIn before _).type? hold))
      exact h before _ rest rfl ⟨⟨after, hadd⟩, type, hold, hsame⟩

/-- After a run every map of implementers belongs to a registered type. The maps hold registered
types only exactly if no call of the run added another one, and they leave out the base types' own
typenames exactly if no call added one of these. -/
theorem run_implementers_iff (calls : List Call) :
    (∀ entry ∈ (run calls).implementers, ∃ type, (run calls).type? entry.1 = some type) ∧
    ((∀ entry ∈ (run calls).implementers, ∀ variant ∈ entry.2, (run calls).Registered variant.2) ↔
      ∀ before call after, calls = before ++ call :: after → ¬ (run before).AddsForeign call) ∧
    ((∀ entry ∈ (run calls).implementers, ∀ variant ∈ entry.2, ∀ own,
        (run calls).type? entry.1 = some own → variant.1 ≠ own.typename) ↔
      ∀ before call after, calls = before ++ call :: after →
        ¬ (run before).AddsOwnTypename call) := by
  have mapped := run_mapped calls
  refine ⟨mapped.registered, ?_, ?_⟩
  · rw [mapped.forall_iff (p := fun _ _ concrete => (run calls).Registered concrete)]
    exact forall_registered_iff calls
  · rw [mapped.forall_iff (p := fun base typename _ => ∀ own,
      (run calls).type? base = some own → typename ≠ own.typename)]
    exact forall_typename_ne_iff calls

/-! ## A type apart -/

/-- A book. -/
def plainBook : TypeDeclaration := { name := "Book", fields := [{ name := "title" }] }

/-- Another type of the same name. -/
def otherBook : TypeDeclaration :=
  { name := "Book", typename := some "Other", fields := [{ name := "pages" }] }

/-- The book is declared, and the other type is given for a variant of it and for itself. -/
def mixedCalls : List Call :=
  [.declare plainBook, .addImplementer plainBook.built "Twin" otherBook.built,
    .addImplementer otherBook.built "Book" plainBook.built]

/-- After the calls the other type stands below the book although it is not registered, and the book
stands below itself. -/
theorem mixedCalls_break_map :
    (∀ call ∈ mixedCalls, call.Made) ∧
    (run mixedCalls).type? "Book" = some plainBook.built ∧
    (run mixedCalls).implementer? "Book" "Twin" = some otherBook.built ∧
    ¬ (run mixedCalls).Registered otherBook.built ∧
    (run mixedCalls).implementer? "Book" plainBook.built.typename = some plainBook.built := by
  have hplain : plainBook.Made := by
    intro declared h
    obtain rfl := List.mem_singleton.mp h
    exact .new
  have hother : otherBook.Made := by
    intro declared h
    obtain rfl := List.mem_singleton.mp h
    exact .new
  have plainBuilt : plainBook.built.Built := ⟨plainBook, hplain, rfl⟩
  have otherBuilt : otherBook.built.Built := ⟨otherBook, hother, rfl⟩
  have found : (run mixedCalls).type? "Book" = some plainBook.built := rfl
  refine ⟨fun call h => ?_, found, rfl, fun registered => ?_, rfl⟩
  · simp only [mixedCalls, List.mem_cons, List.not_mem_nil, or_false] at h
    rcases h with rfl | rfl | rfl
    · exact hplain
    · exact ⟨plainBuilt, otherBuilt⟩
    · exact ⟨otherBuilt, plainBuilt⟩
  · have heq : plainBook.built = otherBook.built := Option.some.inj (found.symm.trans registered)
    exact absurd (congrArg (·.fields.map (·.label)) heq) (by decide)

end TypedQuery.Registry
