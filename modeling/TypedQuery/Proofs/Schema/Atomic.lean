import TypedQuery.Proofs.Schema.Run
import TypedQuery.Schema.InPlace

/-!
# Refusals leave no trace

A registry that changes in place could be left half written by a call that is refused. No
declaration, registration or further implementer does so: each of them looks at everything that can
refuse it before it writes anything. `commit` is the computation that comes to its whole result
first and writes it in one piece, and `look_bind_commit` is what carries the module: looks before a
commit make one commit with it. So each call is the commit of the operation that answers a new
registry (`declare_eq_commit`, `register_eq_commit`, `addImplementer_eq_commit`), and in place or
not, a run of calls leaves one registry (`session_eq_run`).

A document is a row of such calls and stops at the first that is refused. What it leaves is
therefore what the calls before that one leave, and nothing else (`refusals_leave_no_trace`).
-/

namespace TypedQuery.Registry.InPlace

variable {ε ε' α β : Type} {registry after left : Registry}

/-! ## Computations in place -/

/-- A chain of computations is refused where one of them is. -/
theorem run_bind_eq_error {x : InPlace ε α} {f : α → InPlace ε β} {error : ε} :
    (x >>= f).run registry = .error error left ↔ x.run registry = .error error left ∨
      ∃ value middle, x.run registry = .ok value middle ∧
        (f value).run middle = .error error left := by
  rw [EStateM.run_bind]
  cases x.run registry <;> simp

/-- A chain of computations goes through if each of them does, with the registry that the one before
leaves. -/
theorem run_bind_eq_ok {x : InPlace ε α} {f : α → InPlace ε β} {value : β} :
    (x >>= f).run registry = .ok value after ↔ ∃ first middle,
      x.run registry = .ok first middle ∧ (f first).run middle = .ok value after := by
  rw [EStateM.run_bind]
  cases x.run registry <;> simp

/-- Another wording of the error does not change what is left. -/
theorem run_adaptExcept_eq_error {x : InPlace ε α} {wrap : ε → ε'} {error : ε'} :
    (x.adaptExcept wrap).run registry = .error error left ↔
      ∃ cause, x.run registry = .error cause left ∧ wrap cause = error := by
  rw [EStateM.run_adaptExcept]
  cases x.run registry <;> simp [and_comm]

/-- A row of computations is refused at one of them, when those before it went through. -/
theorem run_forM_eq_error_iff {items : List α} {f : α → InPlace ε Unit} {error : ε} :
    (items.forM f).run registry = .error error left ↔
      ∃ before item later middle, items = before ++ item :: later ∧
        (before.forM f).run registry = .ok () middle ∧
        (f item).run middle = .error error left := by
  -- The registry is general, as the rest starts from what the first item leaves.
  induction items generalizing registry with
  | nil => simp [EStateM.run_pure]
  | cons first rest ih =>
    rw [List.forM_eq_forM] at ih ⊢
    rw [List.forM_cons, run_bind_eq_error]
    constructor
    · rintro (h | ⟨⟨⟩, next, hfirst, h⟩)
      · exact ⟨[], first, rest, registry, rfl, rfl, h⟩
      · obtain ⟨before, item, later, middle, rfl, hbefore, h⟩ := ih.mp h
        refine ⟨first :: before, item, later, middle, rfl, ?_, h⟩
        exact run_bind_eq_ok.mpr ⟨(), next, hfirst, hbefore⟩
    · rintro ⟨before, item, later, middle, hsplit, hbefore, h⟩
      cases before with
      | nil =>
        obtain ⟨rfl, rfl⟩ := List.cons.inj hsplit
        obtain ⟨-, rfl⟩ : () = () ∧ registry = middle := by simpa using hbefore
        exact .inl h
      | cons other before =>
        obtain ⟨rfl, rfl⟩ := List.cons.inj hsplit
        obtain ⟨⟨⟩, next, hfirst, hbefore⟩ := run_bind_eq_ok.mp hbefore
        exact .inr ⟨(), next, hfirst, ih.mpr ⟨before, item, later, middle, rfl, hbefore, h⟩⟩

/-! ## Commits -/

/-- The computation that comes to its whole result before it writes anything. -/
def commit (result : Registry → Except ε (Registry × α)) : InPlace ε α := fun registry =>
  match result registry with
  | .ok (after, value) => .ok value after
  | .error error => .error error registry

theorem commit_run (result : Registry → Except ε (Registry × α)) (registry : Registry) :
    (commit result).run registry =
      match result registry with
      | .ok (after, value) => .ok value after
      | .error error => .error error registry := rfl

/-- A commit that is refused leaves the registry as it was. -/
theorem run_commit_eq_error {result : Registry → Except ε (Registry × α)} {error : ε} :
    (commit result).run registry = .error error left ↔
      result registry = .error error ∧ left = registry := by
  rw [commit_run]
  cases result registry <;> simp [eq_comm]

/-- A look leaves the registry as it is, whatever it answers. -/
theorem look_run (answer : Registry → Except ε α) (registry : Registry) :
    (look answer).run registry =
      match answer registry with
      | .ok value => .ok value registry
      | .error error => .error error registry := by
  rw [look, EStateM.run_bind, EStateM.run_get]
  dsimp only
  cases answer registry <;> rfl

/-- A look before a commit makes one commit with it, since it writes nothing. -/
theorem look_bind_commit (answer : Registry → Except ε α)
    (result : α → Registry → Except ε (Registry × β)) :
    (look answer >>= fun value => commit (result value)) =
      commit fun registry => answer registry >>= fun value => result value registry := by
  funext registry
  show (look answer >>= fun value => commit (result value)).run registry = (commit _).run registry
  rw [EStateM.run_bind, look_run, commit_run]
  cases answer registry <;> rfl

/-- Looks one after the other are one look. -/
theorem forM_look (items : List α) (check : Registry → α → Except ε Unit) :
    (items.forM fun item => look (check · item)) =
      look fun registry => items.forM (check registry) := by
  induction items with
  | nil => rfl
  | cons item rest ih =>
    rw [List.forM_eq_forM] at ih ⊢
    rw [List.forM_cons, ih]
    funext registry
    show (_ >>= _ : InPlace ε Unit).run registry = (look _).run registry
    rw [EStateM.run_bind, look_run, look_run, List.forM_eq_forM, List.forM_cons]
    cases check registry item <;> first | rfl | exact look_run ..

/-! ## Every call is a commit -/

/-- The writes of an insertion are one write. -/
theorem insert_eq_modify (type : ObjectType) :
    (insert type : InPlace ε Unit) = modify (·.insert type) := by
  funext registry
  show (insert type).run registry = (modify _ : InPlace ε Unit).run registry
  rw [insert, EStateM.run_modify, Registry.insert]
  cases type.queryRoot? <;> cases type.mutateRoot? <;> rfl

/-- Writes one after the other are one write. -/
theorem forM_modify (items : List α) (write : α → Registry → Registry) :
    (items.forM fun item => (modify (write item) : InPlace ε Unit)) = modify fun registry =>
      items.foldl (fun registry item => write item registry) registry := by
  induction items with
  | nil => rfl
  | cons item rest ih =>
    rw [List.forM_eq_forM] at ih ⊢
    rw [List.forM_cons, ih]
    rfl

/-- A declaration looks everything up before it writes, and writes what `Registry.declare`
answers. -/
theorem declare_eq_commit (declaration : TypeDeclaration) :
    declare declaration = commit (·.declare declaration) := by
  -- What a declaration writes comes after all of its looks, so it is a commit of its own.
  have hwrite : ∀ (above : List String) (type : ObjectType),
      (do insert type
          above.forM fun base => modify (·.insertImplementer base type.typename type)
          return type : InPlace DeclarationError ObjectType) =
        commit fun registry => .ok ((registry.insert type).insertBelow above type, type) := by
    intro above type
    rw [insert_eq_modify, forM_modify]
    rfl
  have hresult : (fun registry : Registry => registry.declare declaration) = _ :=
    funext fun registry => declare_eq registry declaration
  rw [declare, hresult]
  simp only [forM_look, hwrite, look_bind_commit]
  cases declaration.parent <;> rfl

/-- A registration looks at its names before it writes. -/
theorem register_eq_commit (type : ObjectType) :
    register type = commit fun registry => (·, type) <$> registry.register type := by
  have hwrite : (do insert type; return type : InPlace DeclarationError ObjectType) =
      commit fun registry => .ok (registry.insert type, type) := by
    rw [insert_eq_modify]
    rfl
  rw [register, hwrite, look_bind_commit]
  congr 1
  funext registry
  rw [Registry.register]
  cases registry.checkAvailable type <;> rfl

/-- An implementer is looked at in all respects before it is written. -/
theorem addImplementer_eq_commit (base : ObjectType) (typename : String) (concrete : ObjectType) :
    addImplementer base typename concrete =
      commit fun registry => (·, ()) <$> registry.addImplementer base typename concrete := by
  have hwrite : (modify (·.insertImplementer base.name typename concrete) :
      InPlace DeclarationError Unit) =
      commit fun registry => .ok (registry.insertImplementer base.name typename concrete, ()) := rfl
  simp only [addImplementer, forM_look, hwrite, look_bind_commit]
  -- The two have the same checks in the same order; what is left is to go through them.
  congr 1
  funext registry
  rw [Registry.addImplementer, List.forM_eq_forM, List.forM_cons, List.forM_cons, checkDeclared,
    checkDeclared, checkOther]
  cases registry.byName.has base.name with
  | false => rfl
  | true =>
    cases registry.byName.has concrete.name with
    | false => rfl
    | true =>
      by_cases hown : typename = base.typename
      · simp only [hown, if_true]
        rfl
      · simp only [hown, if_false]
        cases registry.checkImplementer base.name typename <;> rfl

/-- What stands for a schema document looks up both types before it adds the implementer. -/
theorem implement_eq_commit (base concrete : String) :
    implement base concrete =
      commit fun registry => (·, ()) <$> SchemaDocument.addImplementer registry base concrete := by
  simp only [implement, declared, addImplementer_eq_commit, look_bind_commit]
  congr 1
  funext registry
  rw [SchemaDocument.addImplementer]
  cases registry.type? base with
  | none => rfl
  | some baseType => cases registry.type? concrete <;> rfl

/-! ## Atomic computations -/

/-- Whether a computation that is refused leaves the registry as it was. -/
def Atomic (x : InPlace ε α) : Prop :=
  ∀ registry left error, x.run registry = .error error left → left = registry

/-- A commit that is refused leaves nothing behind. -/
theorem atomic_commit (result : Registry → Except ε (Registry × α)) : (commit result).Atomic :=
  fun _ _ _ h => (run_commit_eq_error.mp h).2

/-- Another wording of the error keeps a computation atomic. -/
theorem Atomic.adaptExcept {x : InPlace ε α} (atomic : x.Atomic) (wrap : ε → ε') :
    Atomic (x.adaptExcept wrap) := by
  intro registry left error h
  obtain ⟨cause, hx, -⟩ := run_adaptExcept_eq_error.mp h
  exact atomic registry left cause hx

/-- A result that is not needed is thrown away after the computation. -/
theorem run_discard (x : InPlace ε α) (registry : Registry) :
    (discard x).run registry = (x >>= fun _ => pure ()).run registry := by
  rw [Functor.discard]
  rfl

/-- A computation whose result is thrown away stays atomic. -/
theorem Atomic.discard {x : InPlace ε α} (atomic : x.Atomic) : Atomic (discard x) := by
  intro registry left error h
  rw [run_discard, run_bind_eq_error] at h
  rcases h with h | ⟨value, middle, -, h⟩
  · exact atomic registry left error h
  · cases h

theorem atomic_declare (declaration : TypeDeclaration) : (declare declaration).Atomic := by
  rw [declare_eq_commit]
  exact atomic_commit _

theorem atomic_register (type : ObjectType) : (register type).Atomic := by
  rw [register_eq_commit]
  exact atomic_commit _

theorem atomic_addImplementer (base : ObjectType) (typename : String) (concrete : ObjectType) :
    (addImplementer base typename concrete).Atomic := by
  rw [addImplementer_eq_commit]
  exact atomic_commit _

theorem atomic_implement (base concrete : String) : (implement base concrete).Atomic := by
  rw [implement_eq_commit]
  exact atomic_commit _

/-! ## Documents -/

/-- A row of atomic computations that is refused leaves what those before the refused one leave. -/
theorem run_forM_eq_error_iff_of_atomic {items : List β} {f : β → InPlace ε Unit} {error : ε}
    (atomic : ∀ item, (f item).Atomic) :
    (items.forM f).run registry = .error error left ↔
      ∃ before item later, items = before ++ item :: later ∧
        (before.forM f).run registry = .ok () left ∧ (f item).run left = .error error left := by
  rw [run_forM_eq_error_iff]
  constructor
  · rintro ⟨before, item, later, middle, hsplit, hbefore, h⟩
    obtain rfl := atomic item middle left error h
    exact ⟨before, item, later, hsplit, hbefore, h⟩
  · rintro ⟨before, item, later, hsplit, hbefore, h⟩
    exact ⟨before, item, later, left, hsplit, hbefore, h⟩

/-- Declaring an entry of a document is atomic. -/
theorem atomic_declareEntry (entry : TypeEntry) : (declareEntry entry).Atomic :=
  (atomic_declare entry.declaration).discard.adaptExcept _

/-- Adding a listed implementer is atomic. -/
theorem atomic_implementPair (pair : String × String) : (implementPair pair).Atomic :=
  (atomic_implement pair.1 pair.2).adaptExcept _

/-- An entry of a document is refused for the reason for which its declaration is. -/
theorem run_declareEntry_eq_error {entry : TypeEntry} {error : DocumentError} :
    (declareEntry entry).run registry = .error error left ↔ ∃ cause,
      (declare entry.declaration).run registry = .error cause left ∧
        error = .refused entry.name cause := by
  rw [declareEntry, run_adaptExcept_eq_error]
  refine exists_congr fun cause => ?_
  rw [run_discard, run_bind_eq_error, or_iff_left nofun, eq_comm (a := error)]

/-- A listed implementer is refused for the reason for which adding it is. -/
theorem run_implementPair_eq_error {pair : String × String} {error : DocumentError} :
    (implementPair pair).run registry = .error error left ↔ ∃ cause,
      (implement pair.1 pair.2).run registry = .error cause left ∧
        error = .refused pair.1 cause := by
  rw [implementPair, run_adaptExcept_eq_error]
  exact exists_congr fun cause => and_congr_right fun _ => eq_comm

/-! ## Sessions -/

/-- The registry that a computation leaves, whether it was refused or not. -/
def standing : EStateM.Result ε Registry α → Registry
  | .ok _ after => after
  | .error _ left => left

/-- A call as it is carried out in place. -/
def ofCall : Call → InPlace (DeclarationError ⊕ DocumentError) Unit
  | .declare declaration => (discard (declare declaration)).adaptExcept .inl
  | .register type => (discard (register type)).adaptExcept .inl
  | .addImplementer base typename concrete =>
    (addImplementer base typename concrete).adaptExcept .inl
  | .load document => (load document).adaptExcept .inr

/-- The registry after a row of calls in place. A refused call does not stop the others. -/
def session (registry : Registry) (calls : List Call) : Registry :=
  calls.foldl (fun registry call => standing ((ofCall call).run registry)) registry

/-- Whether a call is that of a document, which consists of many. -/
def isDocument : Call → Bool
  | .load _ => true
  | _ => false

/-- The calls of a session without those that are refused. Documents stay, since a refused document
may have declared some of its types. -/
def withoutRefused : Registry → List Call → List Call
  | _, [] => []
  | registry, call :: rest =>
    match (ofCall call).run registry with
    | .ok _ after => call :: withoutRefused after rest
    | .error _ left =>
      if isDocument call then call :: withoutRefused left rest else withoutRefused left rest

/-- A call other than that of a document is atomic. -/
theorem atomic_ofCall {call : Call} (single : isDocument call = false) : (ofCall call).Atomic := by
  cases call with
  | declare declaration => exact (atomic_declare declaration).discard.adaptExcept _
  | register type => exact (atomic_register type).discard.adaptExcept _
  | addImplementer base typename concrete =>
    exact (atomic_addImplementer base typename concrete).adaptExcept _
  | load document => cases single

/-- A session is its first call, and then the session of the others in what that call leaves. -/
theorem session_cons (registry : Registry) (call : Call) (rest : List Call) :
    session registry (call :: rest) = session (standing ((ofCall call).run registry)) rest := rfl

/-- The calls that are refused may be left out of a session. -/
theorem session_withoutRefused (registry : Registry) (calls : List Call) :
    session registry (withoutRefused registry calls) = session registry calls := by
  induction calls generalizing registry with
  | nil => rfl
  | cons call rest ih =>
    rw [withoutRefused, session_cons]
    cases h : (ofCall call).run registry with
    | ok _ after =>
      show session registry (call :: withoutRefused after rest) = session after rest
      rw [session_cons, h]
      exact ih after
    | error error left =>
      show session registry (if isDocument call then _ else _) = session left rest
      cases hsingle : isDocument call with
      | true =>
        rw [if_pos rfl, session_cons, h]
        exact ih left
      -- The call is left out, and being atomic it had left the registry as it was.
      | false =>
        obtain rfl := atomic_ofCall hsingle registry left error h
        exact ih left

/-! ## In place or not -/

/-- What a pass over a document comes to, given the registry and the error that it answers. -/
def outcome : Registry × Option DocumentError → EStateM.Result DocumentError Registry Unit
  | (left, none) => .ok () left
  | (left, some error) => .error error left

/-- Declaring the entries of a document in place comes to what the pass over them answers. -/
theorem forM_declareEntry_run (entries : List TypeEntry) :
    (entries.forM declareEntry).run registry =
      outcome (SchemaDocument.declareTypes registry entries) := by
  induction entries generalizing registry with
  | nil => rfl
  | cons entry rest ih =>
    rw [List.forM_eq_forM] at ih ⊢
    rw [List.forM_cons, EStateM.run_bind, declareEntry, EStateM.run_adaptExcept, run_discard,
      EStateM.run_bind, declare_eq_commit, commit_run, SchemaDocument.declareTypes]
    cases registry.declare entry.declaration with
    | ok result => exact ih
    | error error => rfl

/-- Adding the implementers in place comes to what the pass over them answers. -/
theorem forM_implementPair_run (pairs : List (String × String)) :
    (pairs.forM implementPair).run registry =
      outcome (SchemaDocument.addImplementers registry pairs) := by
  induction pairs generalizing registry with
  | nil => rfl
  | cons pair rest ih =>
    rw [List.forM_eq_forM] at ih ⊢
    rw [List.forM_cons, EStateM.run_bind, implementPair, EStateM.run_adaptExcept,
      implement_eq_commit, commit_run, SchemaDocument.addImplementers]
    cases SchemaDocument.addImplementer registry pair.1 pair.2 with
    | ok after => exact ih
    | error error => rfl

/-- A document leaves in place what `loadInto` answers. -/
theorem load_run (document : SchemaDocument) :
    (load document).run registry = outcome (document.loadInto registry) := by
  rw [load, EStateM.run_bind, forM_declareEntry_run, SchemaDocument.loadInto]
  obtain ⟨declared, _ | error⟩ := SchemaDocument.declareTypes registry document.types
  · exact forM_implementPair_run _
  · rfl

/-- A call leaves in place what it leaves as an operation that answers a new registry. -/
theorem standing_ofCall (call : Call) :
    standing ((ofCall call).run registry) = registry.perform call := by
  cases call with
  | declare declaration =>
    rw [ofCall, EStateM.run_adaptExcept, run_discard, EStateM.run_bind, declare_eq_commit,
      commit_run, perform]
    cases registry.declare declaration <;> rfl
  | register type =>
    rw [ofCall, EStateM.run_adaptExcept, run_discard, EStateM.run_bind, register_eq_commit,
      commit_run, perform]
    cases registry.register type <;> rfl
  | addImplementer base typename concrete =>
    rw [ofCall, EStateM.run_adaptExcept, addImplementer_eq_commit, commit_run, perform]
    cases registry.addImplementer base typename concrete <;> rfl
  | load document =>
    rw [ofCall, EStateM.run_adaptExcept, load_run, perform]
    obtain ⟨left, _ | error⟩ := document.loadInto registry <;> rfl

/-- A session leaves the registry of its run. -/
theorem session_eq_run (calls : List Call) : session .empty calls = run calls := by
  simp only [session, standing_ofCall, run]

/-- No call that is refused leaves a trace, unless it is a document. That leaves what the types
before the refused one leave when they are declared in order, or, if all types are declared, what is
left when the implementers before the refused one are added to them in order. So the refused calls
of a session may be left out. -/
theorem refusals_leave_no_trace :
    (∀ declaration, (declare declaration).Atomic) ∧ (∀ type, (register type).Atomic) ∧
    (∀ base typename concrete, (addImplementer base typename concrete).Atomic) ∧
    (∀ document registry left error, (load document).run registry = .error error left ↔
      (∃ before entry later cause, document.types = before ++ entry :: later ∧
        (before.forM declareEntry).run registry = .ok () left ∧
        (declare entry.declaration).run left = .error cause left ∧
        error = .refused entry.name cause) ∨
      ∃ declared before base concrete later cause,
        (document.types.forM declareEntry).run registry = .ok () declared ∧
        document.implementerPairs = before ++ (base, concrete) :: later ∧
        (before.forM implementPair).run declared = .ok () left ∧
        (implement base concrete).run left = .error cause left ∧ error = .refused base cause) ∧
    ∀ registry calls,
      session registry (withoutRefused registry calls) = session registry calls := by
  refine ⟨atomic_declare, atomic_register, atomic_addImplementer,
    fun document registry left error => ?_, session_withoutRefused⟩
  rw [load, run_bind_eq_error, run_forM_eq_error_iff_of_atomic atomic_declareEntry]
  simp only [run_forM_eq_error_iff_of_atomic atomic_implementPair, run_declareEntry_eq_error,
    run_implementPair_eq_error]
  -- A document stops in its first pass or in its second; what follows regroups each of the two.
  refine or_congr ⟨?_, ?_⟩ ⟨?_, ?_⟩
  · rintro ⟨before, entry, later, hsplit, hbefore, cause, h, rfl⟩
    exact ⟨before, entry, later, cause, hsplit, hbefore, h, rfl⟩
  · rintro ⟨before, entry, later, cause, hsplit, hbefore, h, rfl⟩
    exact ⟨before, entry, later, hsplit, hbefore, cause, h, rfl⟩
  · rintro ⟨⟨⟩, declared, htypes, before, ⟨base, concrete⟩, later, hsplit, hbefore, cause, h, rfl⟩
    exact ⟨declared, before, base, concrete, later, cause, htypes, hsplit, hbefore, h, rfl⟩
  · rintro ⟨declared, before, base, concrete, later, cause, htypes, hsplit, hbefore, h, rfl⟩
    exact ⟨(), declared, htypes, before, (base, concrete), later, hsplit, hbefore, cause, h, rfl⟩

/-- A document that declares a new type and then one that the library has. -/
def mapAndAtlas : SchemaDocument where
  types := [{ name := "map" }, { name := "atlas" }, { name := "globe" }]

/-- The document is refused at the second type and leaves the first, while an atlas alone is refused
without a trace. -/
theorem mapAndAtlas_leaves_map :
    (∃ left error, (declare { name := "atlas" }).run library = .error error left ∧
      left = library) ∧
    ∃ left, (declareEntry { name := "map" }).run library = .ok () left ∧
      (load mapAndAtlas).run library =
        .error (.refused "atlas" (.duplicateRegistration .type "atlas")) left := by
  obtain ⟨declaration, -, -, document, -⟩ := refusals_leave_no_trace
  refine ⟨⟨_, _, rfl, ?_⟩, _, rfl, ?_⟩
  · exact declaration { name := "atlas" } library _ _ rfl
  · refine (document mapAndAtlas library _ _).mpr (.inl ?_)
    exact ⟨[{ name := "map" }], { name := "atlas" }, [{ name := "globe" }], _, rfl, rfl, rfl, rfl⟩

end TypedQuery.Registry.InPlace
