import Mathlib.Data.List.Forall2

/-!
# Computations that may fail

A chain of steps succeeds exactly when every step does. The lemmas below take a success apart into
the successes of its steps, and put it together again; those at the end trace a failure to the step
that failed.
-/

namespace TypedQuery.Checked

variable {ε α β : Type}

/-- A chain of two steps succeeds just if both do. -/
@[simp] theorem bind_eq_ok {x : Except ε α} {f : α → Except ε β} {b : β} :
    x >>= f = .ok b ↔ ∃ a, x = .ok a ∧ f a = .ok b := by
  cases x <;> simp [Bind.bind, Except.bind]

/-- A step that succeeds hands its result on. -/
@[simp] theorem ok_bind (a : α) (f : α → Except ε β) : Except.ok a >>= f = f a := rfl

/-- A step that fails ends the chain. -/
@[simp] theorem error_bind (e : ε) (f : α → Except ε β) : Except.error e >>= f = .error e := rfl

/-- A check answers nothing but that it passes. -/
@[simp] theorem exists_unit {p : Unit → Prop} : (∃ u, p u) ↔ p () :=
  ⟨fun ⟨_, h⟩ => h, fun h => ⟨(), h⟩⟩

@[simp] theorem pure_eq_ok {a b : α} : (pure a : Except ε α) = .ok b ↔ a = b := by
  simp [pure, Except.pure]

/-- What is done with a result does not make a step fail. -/
@[simp] theorem map_eq_ok {x : Except ε α} {f : α → β} {b : β} :
    f <$> x = .ok b ↔ ∃ a, x = .ok a ∧ f a = b := by
  cases x <;> simp [Functor.map, Except.map]

/-- What is made of an error does not matter for a success. -/
@[simp] theorem mapError_eq_ok {ε' : Type} {x : Except ε α} {f : ε → ε'} {a : α} :
    x.mapError f = .ok a ↔ x = .ok a := by
  cases x <;> simp [Except.mapError]

/-- A list is mapped item by item. -/
theorem mapM_eq_ok_iff {f : α → Except ε β} {xs : List α} {ys : List β} :
    xs.mapM f = .ok ys ↔ List.Forall₂ (fun x y => f x = .ok y) xs ys := by
  induction xs generalizing ys with
  | nil => simp [pure, Except.pure, eq_comm]
  | cons x xs ih =>
    simp only [List.mapM_cons, bind_eq_ok, pure_eq_ok, ih]
    constructor
    · rintro ⟨y, hy, rest, hrest, rfl⟩
      exact .cons hy hrest
    · rintro (_ | ⟨hy, hrest⟩)
      exact ⟨_, hy, _, hrest, rfl⟩

/-- Items that each have a partner have a list of partners. -/
theorem exists_forall₂_iff {r : α → β → Prop} {xs : List α} :
    (∃ ys, List.Forall₂ r xs ys) ↔ ∀ x ∈ xs, ∃ y, r x y := by
  induction xs with
  | nil => simp
  | cons x xs ih =>
    rw [List.forall_mem_cons, ← ih]
    constructor
    · rintro ⟨_, _ | ⟨hy, hrest⟩⟩
      exact ⟨⟨_, hy⟩, _, hrest⟩
    · rintro ⟨⟨y, hy⟩, rest, hrest⟩
      exact ⟨_, .cons hy hrest⟩

/-- Every item on the right has a partner on the left. -/
theorem exists_left_of_mem {r : α → β → Prop} {xs : List α} {ys : List β}
    (h : List.Forall₂ r xs ys) {y : β} (mem : y ∈ ys) : ∃ x ∈ xs, r x y := by
  induction h with
  | nil => cases mem
  | cons hxy _ ih =>
    rcases List.mem_cons.mp mem with rfl | mem
    · exact ⟨_, List.mem_cons_self, hxy⟩
    · obtain ⟨x, hx, hr⟩ := ih mem
      exact ⟨x, List.mem_cons_of_mem _ hx, hr⟩

/-- A relation between partners may be replaced by one that it implies for the items of the
lists. -/
theorem forall₂_imp_of_mem {r s : α → β → Prop} {xs : List α} {ys : List β}
    (h : List.Forall₂ r xs ys) (imp : ∀ x ∈ xs, ∀ y ∈ ys, r x y → s x y) :
    List.Forall₂ s xs ys := by
  rw [List.forall₂_iff_zip] at h ⊢
  refine ⟨h.1, fun {x y} hxy => ?_⟩
  obtain ⟨hx, hy⟩ := List.of_mem_zip hxy
  exact imp x hx y hy (h.2 hxy)

/-- Partners with one image have one list of images. -/
theorem map_eq_of_forall₂ {γ : Type} {r : α → β → Prop} {f : α → γ} {g : β → γ} {xs : List α}
    {ys : List β} (h : List.Forall₂ r xs ys) (same : ∀ x y, r x y → g y = f x) :
    ys.map g = xs.map f := by
  rw [← List.forall₂_eq_eq_eq, List.forall₂_map_left_iff, List.forall₂_map_right_iff]
  exact (h.imp same).flip

/-- Checks one after the other pass exactly when each of them does. -/
theorem forM_eq_ok_iff {f : α → Except ε Unit} {xs : List α} :
    xs.forM f = .ok () ↔ ∀ x ∈ xs, f x = .ok () := by
  induction xs with
  | nil => simp [pure, Except.pure]
  | cons x xs ih =>
    rw [List.forM_eq_forM] at ih ⊢
    rw [List.forM_cons, bind_eq_ok, exists_unit, List.forall_mem_cons, ih]

/-! ## Failures -/

/-- A chain of steps fails where one of them does. -/
theorem bind_eq_error {x : Except ε α} {f : α → Except ε β} {e : ε} :
    x >>= f = .error e ↔ x = .error e ∨ ∃ a, x = .ok a ∧ f a = .error e := by
  cases x <;> simp [Bind.bind, Except.bind]

/-- A fold fails at the first item that it does not get past. -/
theorem foldlM_eq_error_iff {f : β → α → Except ε β} {xs : List α} {b : β} {e : ε} :
    xs.foldlM f b = .error e ↔ ∃ before x after reached, xs = before ++ x :: after ∧
      before.foldlM f b = .ok reached ∧ f reached x = .error e := by
  induction xs generalizing b with
  | nil => simp [pure, Except.pure]
  -- Either the first item fails, and nothing stands before it, or the fold goes on from what the
  -- first item leaves; the induction is therefore on all starting points.
  | cons x xs ih =>
    rw [List.foldlM_cons, bind_eq_error]
    constructor
    · rintro (h | ⟨next, hnext, h⟩)
      · exact ⟨[], x, xs, b, rfl, rfl, h⟩
      · obtain ⟨before, y, after, reached, rfl, hbefore, h⟩ := ih.mp h
        refine ⟨x :: before, y, after, reached, rfl, ?_, h⟩
        rw [List.foldlM_cons, hnext, ok_bind, hbefore]
    · rintro ⟨_ | ⟨first, before⟩, y, after, reached, hsplit, hbefore, h⟩
      · -- The first item is the one that fails.
        obtain ⟨rfl, rfl⟩ := List.cons.inj hsplit
        obtain rfl := Except.ok.inj hbefore
        exact .inl h
      · obtain ⟨rfl, rfl⟩ := List.cons.inj hsplit
        rw [List.foldlM_cons, bind_eq_ok] at hbefore
        obtain ⟨next, hnext, hbefore⟩ := hbefore
        exact .inr ⟨next, hnext, ih.mpr ⟨before, y, after, reached, rfl, hbefore, h⟩⟩

/-- A fold that fails does so at one of its items. -/
theorem exists_of_foldlM_eq_error {f : β → α → Except ε β} {xs : List α} {b : β} {e : ε}
    (h : xs.foldlM f b = .error e) : ∃ b, ∃ x ∈ xs, f b x = .error e := by
  obtain ⟨before, x, after, reached, rfl, -, h⟩ := foldlM_eq_error_iff.mp h
  exact ⟨reached, x, List.mem_append_right _ List.mem_cons_self, h⟩

/-- Checks one after the other fail at one of them. -/
theorem exists_of_forM_eq_error {f : α → Except ε Unit} {xs : List α} {e : ε}
    (h : xs.forM f = .error e) : ∃ x ∈ xs, f x = .error e := by
  induction xs with
  | nil => cases h
  | cons x xs ih =>
    rw [List.forM_eq_forM] at ih h
    rw [List.forM_cons, bind_eq_error] at h
    rcases h with h | ⟨_, -, h⟩
    · exact ⟨x, List.mem_cons_self, h⟩
    · obtain ⟨x, hx, h⟩ := ih h
      exact ⟨x, List.mem_cons_of_mem _ hx, h⟩

/-! ## Two computations side by side -/

/-- Two computations that fail with the same error, or both come to a result. -/
inductive Alike (r : α → β → Prop) : Except ε α → Except ε β → Prop
  | error (e : ε) : Alike r (.error e) (.error e)
  | ok {a : α} {b : β} (h : r a b) : Alike r (.ok a) (.ok b)

/-- Two results are alike just if they are related. -/
theorem alike_ok_iff {r : α → β → Prop} {a : α} {b : β} :
    Alike r (.ok a : Except ε α) (.ok b) ↔ r a b := by
  refine ⟨fun h => ?_, .ok⟩
  cases h with
  | ok h => exact h

/-- Computations that are alike can be chained with steps that are alike on related results. -/
theorem Alike.bind {α' β' : Type} {r : α → β → Prop} {s : α' → β' → Prop} {x : Except ε α}
    {y : Except ε β} {f : α → Except ε α'} {g : β → Except ε β'} (h : Alike r x y)
    (next : ∀ a b, r a b → Alike s (f a) (g b)) : Alike s (x >>= f) (y >>= g) := by
  cases h with
  | error e => exact .error e
  | ok h => exact next _ _ h

/-- What is done with related results keeps computations alike. -/
theorem Alike.map {α' β' : Type} {r : α → β → Prop} {s : α' → β' → Prop} {x : Except ε α}
    {y : Except ε β} {f : α → α'} {g : β → β'} (h : Alike r x y)
    (next : ∀ a b, r a b → s (f a) (g b)) : Alike s (f <$> x) (g <$> y) := by
  cases h with
  | error e => exact .error e
  | ok h => exact .ok (next _ _ h)

/-- One computation beside itself. -/
theorem Alike.self {r : α → α → Prop} (x : Except ε α) (h : ∀ a, x = .ok a → r a a) :
    Alike r x x := by
  cases x with
  | error e => exact .error e
  | ok a => exact .ok (h a rfl)

/-- Two lists are mapped item by item, up to the first items that fail. -/
theorem Alike.mapM {α' β' : Type} {r : α' → β' → Prop} {f : α → Except ε α'} {g : β → Except ε β'}
    {xs : List α} {ys : List β} (h : List.Forall₂ (fun x y => Alike r (f x) (g y)) xs ys) :
    Alike (List.Forall₂ r) (xs.mapM f) (ys.mapM g) := by
  induction h with
  | nil => exact .ok .nil
  | cons first _ ih =>
    rw [List.mapM_cons, List.mapM_cons]
    exact first.bind fun _ _ hfirst => ih.bind fun _ _ hrest => .ok (.cons hfirst hrest)

/-- One computation, with its result taken in two ways. -/
theorem Alike.map_same {α' β' : Type} {s : α' → β' → Prop} {f : α → α'} {g : α → β'}
    (x : Except ε α) (next : ∀ a, s (f a) (g a)) : Alike s (f <$> x) (g <$> x) := by
  cases x with
  | error e => exact .error e
  | ok a => exact .ok (next a)

end TypedQuery.Checked
