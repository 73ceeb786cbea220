import TypedQuery.Proofs.Schema.Building
import TypedQuery.Schema.Binding

/-!
# A field is bound once

A new field has options and nothing bound. Whatever calls follow, it is one of the fields
`Options.bound`: the options with a name, or none, and a declared type, or none. The only call that
can name it is the first of all, and the only one that can type it is the first of its kind
(`run_fresh`). So at most one call of each kind is accepted, the name before the type, and what they
bound stays as it is.

A row of calls goes through three phases: a field with a type accepts nothing more (`run_typed`),
one with a name alone accepts the first type (`run_named`), and a new one accepts any call. What a
call does in each of them is said by `answer_name` and `answer_type`; nothing later opens the
computations in place.
-/

namespace TypedQuery

namespace DeclaredType

/-- Whether the outer layer of a declared type is a list. -/
def isList : DeclaredType → Bool
  | list _ => true
  | _ => false

/-- Whether the outer layer of a declared type is a map. -/
def isMap : DeclaredType → Bool
  | map _ => true
  | _ => false

/-- What the values of a field of a declared type are made of. A map of scalars is a mapping. -/
def fieldTarget : DeclaredType → Target
  | list inner => inner.terminal
  | map inner => if inner.terminal = .scalar then .mapping else inner.terminal
  | declared => declared.terminal

end DeclaredType

namespace Field

/-! ## Calls in place -/

/-- A call that binds a part of a field. -/
inductive Binding where
  | name (name : String)
  | type (declared : DeclaredType)

namespace Binding

/-- The name that a call gives. -/
def name? : Binding → Option String
  | name n => some n
  | type _ => none

/-- The type that a call gives. -/
def type? : Binding → Option DeclaredType
  | name _ => none
  | type declared => some declared

/-- A call as it is carried out. -/
def inPlace : Binding → InPlace Unit
  | name n => InPlace.bindName n
  | type declared => InPlace.bindType declared

/-- What a call makes of a field, or why it is refused. -/
def answer (field : Field) : Binding → Except DeclarationError Field
  | name n => field.bindName n
  | type declared => field.bindType declared

end Binding

/-- The field that a call leaves, whether it was refused or not. -/
def standing : EStateM.Result DeclarationError Field Unit → Field
  | .ok _ bound => bound
  | .error _ left => left

/-- The field after a row of calls. A refused call does not stop the others. -/
def run (field : Field) (calls : List Binding) : Field :=
  calls.foldl (fun field call => standing (call.inPlace.run field)) field

/-- The calls of a row that are not refused, in order. -/
def accepted : Field → List Binding → List Binding
  | _, [] => []
  | field, call :: rest =>
    match call.inPlace.run field with
    | .ok _ bound => call :: accepted bound rest
    | .error _ left => accepted left rest

/-- A call writes what the operation on whole fields answers, and nothing if that is an error. -/
theorem inPlace_run (call : Binding) (field : Field) :
    call.inPlace.run field =
      match call.answer field with
      | .ok bound => .ok () bound
      | .error error => .error error field := by
  -- Both check before they write: a name wants neither name nor type, and a type wants no type.
  cases call with
  | name name =>
    simp only [Binding.inPlace, Binding.answer, InPlace.bindName, bindName]
    cases hname : field.name with
    | some other => simp [hname, EStateM.run_bind, EStateM.run_throw]
    | none =>
      cases htype : field.typeBound <;> simp [hname, htype, EStateM.run_bind, EStateM.run_throw]
  | type declared =>
    simp only [Binding.inPlace, Binding.answer, InPlace.bindType]
    cases htype : field.typeBound with
    | true => simp [bindType, htype, EStateM.run_bind, EStateM.run_throw]
    | false => cases declared <;> simp [InPlace.unwrap, bindType, htype, EStateM.run_bind]

/-! ## Options, a name and a type -/

/-- What is chosen of a field before it is bound. -/
structure Options where
  queryName : Option String := none
  mutateName : Option String := none
  default : Option Json := none
  mutable : Bool := true
  transform : Option (FieldTraits → Json → Json) := none

namespace Options

/-- A new field with options. -/
def fresh (options : Options) : Field where
  queryName := options.queryName
  mutateName := options.mutateName
  default := options.default
  mutable := options.mutable
  transform := options.transform

/-- A field with options, to which a name and a type are bound, or not. A wire name is the chosen
one, or else the name. -/
def bound (options : Options) (name? : Option String) (type? : Option DeclaredType) : Field where
  name := name?
  queryName := options.queryName.or name?
  mutateName := options.mutateName.or name?
  default := options.default
  target := (type?.map DeclaredType.fieldTarget).getD .scalar
  typeBound := type?.isSome
  isCollection := type?.any DeclaredType.isList
  allowsMapping := type?.any DeclaredType.isMap
  mutable := options.mutable
  transform := options.transform

variable (options : Options)

theorem bound_none_none : options.bound none none = options.fresh := by
  simp [bound, fresh]

/-- A name is accepted by a field to which nothing is bound. -/
theorem answer_name (name? : Option String) (type? : Option DeclaredType) (name : String) :
    (Binding.name name).answer (options.bound name? type?) =
      match name?, type? with
      | none, none => .ok (options.bound (some name) none)
      | some _, _ => .error (.fieldAlreadyBound name .name)
      | none, some _ => .error (.fieldAlreadyBound name .type) := by
  rw [Binding.answer, bindName]
  cases name? with
  | some other => rfl
  | none =>
    cases type? with
    | some declared => rfl
    | none => cases options.queryName <;> cases options.mutateName <;> simp [bound, *]

/-- A type is accepted by a field to which none is bound. -/
theorem answer_type (name? : Option String) (type? : Option DeclaredType)
    (declared : DeclaredType) :
    (Binding.type declared).answer (options.bound name? type?) =
      match type? with
      | none => .ok (options.bound name? (some declared))
      | some _ => .error (.fieldAlreadyBound (name?.getD "") .type) := by
  rw [Binding.answer]
  cases type? with
  | some other => rfl
  | none => cases declared <;> rfl

end Options

/-! ## Rows of calls -/

/-- The name that a row of calls gives to a new field. -/
def namedBy (calls : List Binding) : Option String := calls.head?.bind Binding.name?

/-- The type that a row of calls gives to a field without one. -/
def typedBy (calls : List Binding) : Option DeclaredType := calls.findSome? Binding.type?

variable (options : Options)

/-- A call that is answered changes the field before the others come, and is one of those
accepted. -/
theorem run_cons_of_ok {field bound : Field} {call : Binding} (h : call.answer field = .ok bound)
    (rest : List Binding) :
    field.run (call :: rest) = bound.run rest ∧
      field.accepted (call :: rest) = call :: bound.accepted rest := by
  have hcall := inPlace_run call field
  rw [h] at hcall
  exact ⟨by rw [run, List.foldl_cons, hcall]; rfl, by rw [accepted, hcall]⟩

/-- A call that is refused does not matter for those after it. -/
theorem run_cons_of_error {field : Field} {call : Binding} {error : DeclarationError}
    (h : call.answer field = .error error) (rest : List Binding) :
    field.run (call :: rest) = field.run rest ∧
      field.accepted (call :: rest) = field.accepted rest := by
  have hcall := inPlace_run call field
  rw [h] at hcall
  exact ⟨by rw [run, List.foldl_cons, hcall]; rfl, by rw [accepted, hcall]⟩

/-- A field with a type accepts nothing more. -/
theorem run_typed (name? : Option String) (declared : DeclaredType) (calls : List Binding) :
    (options.bound name? (some declared)).run calls = options.bound name? (some declared) ∧
      (options.bound name? (some declared)).accepted calls = [] := by
  induction calls with
  | nil => exact ⟨rfl, rfl⟩
  | cons call rest ih =>
    have hrefused : ∃ error,
        call.answer (options.bound name? (some declared)) = .error error := by
      cases call with
      | name name => cases name? <;> exact ⟨_, options.answer_name ..⟩
      | type other => exact ⟨_, options.answer_type ..⟩
    obtain ⟨error, hrefused⟩ := hrefused
    obtain ⟨hrun, haccepted⟩ := run_cons_of_error hrefused rest
    exact ⟨hrun.trans ih.1, haccepted.trans ih.2⟩

/-- A field with a name and no type accepts the first type that is given. -/
theorem run_named (name : String) (calls : List Binding) :
    (options.bound (some name) none).run calls = options.bound (some name) (typedBy calls) ∧
      (options.bound (some name) none).accepted calls = ((typedBy calls).map .type).toList := by
  induction calls with
  | nil => exact ⟨rfl, rfl⟩
  | cons call rest ih =>
    cases call with
    | name other =>
      obtain ⟨hrun, haccepted⟩ :=
        run_cons_of_error (options.answer_name (some name) none other) rest
      exact ⟨hrun.trans ih.1, haccepted.trans ih.2⟩
    -- From here on there is a type, and nothing more is accepted.
    | type declared =>
      obtain ⟨hrun, haccepted⟩ :=
        run_cons_of_ok (options.answer_type (some name) none declared) rest
      obtain ⟨hlater, hnone⟩ := run_typed options (some name) declared rest
      exact ⟨hrun.trans hlater, haccepted.trans (congrArg _ hnone)⟩

/-- A row of calls binds the name that its first call gives, and the first type that is given. These
are the calls that are accepted. -/
theorem run_fresh (calls : List Binding) :
    options.fresh.run calls = options.bound (namedBy calls) (typedBy calls) ∧
      options.fresh.accepted calls =
        ((namedBy calls).map .name).toList ++ ((typedBy calls).map .type).toList := by
  rw [← options.bound_none_none]
  cases calls with
  | nil => exact ⟨rfl, rfl⟩
  | cons call rest =>
    cases call with
    | name name =>
      obtain ⟨hrun, haccepted⟩ := run_cons_of_ok (options.answer_name none none name) rest
      obtain ⟨hlater, htypes⟩ := run_named options name rest
      exact ⟨hrun.trans hlater, haccepted.trans (congrArg _ htypes)⟩
    -- A type that comes first closes the field for names as well.
    | type declared =>
      obtain ⟨hrun, haccepted⟩ := run_cons_of_ok (options.answer_type none none declared) rest
      obtain ⟨hlater, hnone⟩ := run_typed options none declared rest
      exact ⟨hrun.trans hlater, haccepted.trans (congrArg _ hnone)⟩

/-- What is bound is not given again. -/
theorem namedBy_append {calls : List Binding} {name : String} (h : namedBy calls = some name)
    (more : List Binding) : namedBy (calls ++ more) = some name := by
  cases calls with
  | nil => cases h
  | cons call rest => exact h

/-- The first type that is given is not replaced by later ones. -/
theorem typedBy_append {calls : List Binding} {declared : DeclaredType}
    (h : typedBy calls = some declared) (more : List Binding) :
    typedBy (calls ++ more) = some declared := by
  rw [typedBy] at h ⊢
  rw [List.findSome?_append, h, Option.some_or]

/-- A name is accepted just if it is what the first call gives. -/
theorem name_mem_accepted_iff {calls : List Binding} {name : String} :
    .name name ∈ options.fresh.accepted calls ↔ namedBy calls = some name := by
  rw [(run_fresh options calls).2]
  simp

/-- A type is accepted just if it is the first that is given. -/
theorem type_mem_accepted_iff {calls : List Binding} {declared : DeclaredType} :
    .type declared ∈ options.fresh.accepted calls ↔ typedBy calls = some declared := by
  rw [(run_fresh options calls).2]
  simp

/-- What a field says of its type is what its declared type says. -/
theorem Options.typeFits_bound (name? : Option String) (type? : Option DeclaredType) :
    (options.bound name? type?).TypeFits ∧
      ((options.bound name? type?).isCollection = true →
        (options.bound name? type?).allowsMapping = false) := by
  cases type? with
  | none => exact ⟨⟨fun _ => ⟨rfl, rfl, rfl⟩, nofun⟩, nofun⟩
  | some declared =>
    refine ⟨⟨nofun, fun h => ?_⟩, fun h => ?_⟩
    · cases declared with
      -- A map of scalars is a mapping, and any other map has the target of what it maps to.
      | map inner =>
        by_cases hinner : inner.terminal = .scalar <;>
          simp [bound, DeclaredType.fieldTarget, hinner]
      | _ => cases h
    · cases declared with
      | list inner => rfl
      | _ => cases h

/-- Of the calls on a new field at most one that gives a name is accepted and at most one that gives
a type, and the name comes first. A call that is refused leaves the field as it was. What was bound
stays bound in the same way, whatever is called later, and at every point the flags of the field
agree with its target. -/
theorem binds_at_most_once (calls : List Binding) :
    options.fresh.accepted calls =
        ((namedBy calls).map .name).toList ++ ((typedBy calls).map .type).toList ∧
    (∀ (field left : Field) (call : Binding) (error : DeclarationError),
      call.inPlace.run field = .error error left → left = field) ∧
    (∀ name more, .name name ∈ options.fresh.accepted calls →
      (options.fresh.run (calls ++ more)).name = some name ∧
      (options.fresh.run (calls ++ more)).queryName = some (options.queryName.getD name) ∧
      (options.fresh.run (calls ++ more)).mutateName = some (options.mutateName.getD name)) ∧
    (∀ declared more, .type declared ∈ options.fresh.accepted calls →
      (options.fresh.run (calls ++ more)).target = declared.fieldTarget ∧
      (options.fresh.run (calls ++ more)).isCollection = declared.isList ∧
      (options.fresh.run (calls ++ more)).allowsMapping = declared.isMap) ∧
    (options.fresh.run calls).TypeFits ∧
    ((options.fresh.run calls).isCollection = true →
      (options.fresh.run calls).allowsMapping = false) := by
  refine ⟨(run_fresh options calls).2, fun field left call error h => ?_, fun name more h => ?_,
    fun declared more h => ?_, ?_⟩
  · rw [inPlace_run] at h
    cases hanswer : call.answer field with
    | ok bound => rw [hanswer] at h; cases h
    | error cause => rw [hanswer] at h; cases h; rfl
  · have hname := namedBy_append ((name_mem_accepted_iff options).mp h) more
    rw [(run_fresh options (calls ++ more)).1, hname]
    exact ⟨rfl, Option.or_some .., Option.or_some ..⟩
  · have htype := typedBy_append ((type_mem_accepted_iff options).mp h) more
    rw [(run_fresh options (calls ++ more)).1, htype]
    exact ⟨rfl, rfl, rfl⟩
  · rw [(run_fresh options calls).1]
    exact options.typeFits_bound _ _

/-- A title with a wire name of its own. -/
def titleOptions : Options := { queryName := some "heading" }

/-- The title is named twice, typed twice, and named once more. -/
def titleCalls : List Binding :=
  [.name "title", .name "label", .type (.map .scalar), .type (.object "book"), .name "title"]

/-- The first name and the first type are bound for good, and the chosen wire name is kept. -/
theorem titleCalls_bind_once :
    titleOptions.fresh.accepted titleCalls = [.name "title", .type (.map .scalar)] ∧
      (titleOptions.fresh.run (titleCalls ++ titleCalls)).queryName = some "heading" ∧
      (titleOptions.fresh.run (titleCalls ++ titleCalls)).mutateName = some "title" ∧
      (titleOptions.fresh.run (titleCalls ++ titleCalls)).target = .mapping := by
  obtain ⟨haccepted, -, hname, htype, -⟩ := binds_at_most_once titleOptions titleCalls
  obtain ⟨-, hquery, hmutate⟩ :=
    hname "title" titleCalls ((name_mem_accepted_iff titleOptions).mpr rfl)
  obtain ⟨htarget, -⟩ :=
    htype (.map .scalar) titleCalls ((type_mem_accepted_iff titleOptions).mpr rfl)
  exact ⟨haccepted, hquery, hmutate, htarget⟩

end Field

end TypedQuery
