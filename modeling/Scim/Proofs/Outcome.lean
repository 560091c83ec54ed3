import Mathlib.Data.List.Forall2

/-!
Steps that can fail, taken apart: what a chain of steps gives when it succeeds, how it fails, and what two chains
have in common if their steps do.
-/

namespace Except

variable {ε ε' α β : Type}

theorem ok_bind {a : α} {f : α → Except ε β} : (Except.ok a >>= f) = f a :=
  rfl

theorem bind_eq_ok_iff {x : Except ε α} {f : α → Except ε β} {b : β} :
    (x >>= f) = .ok b ↔ ∃ a, x = .ok a ∧ f a = .ok b := by
  constructor
  · intro h
    cases x with
    | error e => exact nomatch h
    | ok a => exact ⟨a, rfl, h⟩
  · rintro ⟨a, rfl, hf⟩
    exact hf

theorem map_eq_ok_iff {x : Except ε α} {f : α → β} {b : β} :
    x.map f = .ok b ↔ ∃ a, x = .ok a ∧ f a = b := by
  constructor
  · intro h
    cases x with
    | error e => exact nomatch h
    | ok a => exact ⟨a, rfl, Except.ok.inj h⟩
  · rintro ⟨a, rfl, rfl⟩
    rfl

theorem mapError_eq_ok_iff {x : Except ε α} {f : ε → ε'} {a : α} :
    x.mapError f = .ok a ↔ x = .ok a := by
  constructor
  · intro h
    cases x with
    | error e => exact nomatch h
    | ok b => exact congrArg Except.ok (Except.ok.inj h)
  · rintro rfl
    rfl

theorem eq_ok_of_toOption {x : Except ε α} {a : α} (h : x.toOption = some a) : x = .ok a := by
  cases x with
  | error e => exact nomatch h
  | ok b => exact congrArg Except.ok (Option.some.inj h)

theorem isOk_iff {x : Except ε α} : x.isOk = true ↔ ∃ a, x = .ok a := by
  cases x with
  | error e => exact iff_of_false Bool.false_ne_true nofun
  | ok a => exact iff_of_true rfl ⟨a, rfl⟩

/-! Chains that succeed. -/

theorem exists_bind_eq_ok {x : Except ε α} {f : α → Except ε β} (hx : ∃ a, x = .ok a)
    (hf : ∀ a, x = .ok a → ∃ b, f a = .ok b) : ∃ b, (x >>= f) = .ok b := by
  obtain ⟨a, rfl⟩ := hx
  exact hf a rfl

theorem exists_map_eq_ok {x : Except ε α} {f : α → β} (hx : ∃ a, x = .ok a) : ∃ b, x.map f = .ok b := by
  obtain ⟨a, rfl⟩ := hx
  exact ⟨f a, rfl⟩

theorem exists_mapError_eq_ok {x : Except ε α} {f : ε → ε'} (hx : ∃ a, x = .ok a) :
    ∃ a, x.mapError f = .ok a := by
  obtain ⟨a, rfl⟩ := hx
  exact ⟨a, rfl⟩

/-! Chains that fail. -/

theorem bind_eq_error_iff {x : Except ε α} {f : α → Except ε β} {e : ε} :
    (x >>= f) = .error e ↔ x = .error e ∨ ∃ a, x = .ok a ∧ f a = .error e := by
  cases x with
  | error e' =>
    refine ⟨fun h => .inl (congrArg Except.error (Except.error.inj h)), ?_⟩
    rintro (h | ⟨a, ha, -⟩)
    · exact congrArg Except.error (Except.error.inj h)
    · exact nomatch ha
  | ok a =>
    refine ⟨fun h => .inr ⟨a, rfl, h⟩, ?_⟩
    rintro (h | ⟨b, hb, hf⟩)
    · exact nomatch h
    · obtain rfl := Except.ok.inj hb
      exact hf

/-- The error of an outcome, if it is one. -/
def error? : Except ε α → Option ε
  | error e => some e
  | ok _ => none

theorem error?_eq_some_iff {x : Except ε α} {e : ε} : x.error? = some e ↔ x = .error e := by
  cases x <;> simp [error?]

theorem error?_eq_none_iff {x : Except ε α} : x.error? = none ↔ ∃ a, x = .ok a := by
  cases x <;> simp [error?]

theorem error?_map {x : Except ε α} {f : α → β} : (x.map f).error? = x.error? := by
  cases x <;> rfl

-- The later step fails in the same way whatever the earlier one gives.
theorem error?_bind {x : Except ε α} {f : α → Except ε β} {later : Option ε}
    (h : ∀ a, x = .ok a → (f a).error? = later) : (x >>= f).error? = x.error?.or later := by
  cases x with
  | error e => rfl
  | ok a => exact h a rfl

theorem error?_bind_ok {x : Except ε α} {f : α → Except ε β} (h : ∀ a, (f a).error? = none) :
    (x >>= f).error? = x.error? := by
  rw [error?_bind fun a _ => h a, Option.or_none]

/-! A step taken for every member of a list. -/

theorem mapM_eq_ok_iff {f : α → Except ε β} {xs : List α} {ys : List β} :
    xs.mapM f = .ok ys ↔ List.Forall₂ (fun x y => f x = .ok y) xs ys := by
  induction xs generalizing ys with
  | nil => exact ⟨fun h => by obtain rfl := Except.ok.inj h; exact .nil, fun h => by cases h; rfl⟩
  | cons x rest ih =>
    simp only [List.mapM_cons, bind_eq_ok_iff, ih]
    constructor
    · rintro ⟨y, hy, more, hmore, h⟩
      obtain rfl := Except.ok.inj h
      exact .cons hy hmore
    · rintro (_ | ⟨hy, hmore⟩)
      exact ⟨_, hy, _, hmore, rfl⟩

theorem exists_of_mapM_eq_error {f : α → Except ε β} {xs : List α} {e : ε} (h : xs.mapM f = .error e) :
    ∃ x ∈ xs, f x = .error e := by
  induction xs with
  | nil => exact nomatch h
  | cons x rest ih =>
    rw [List.mapM_cons, bind_eq_error_iff] at h
    rcases h with h | ⟨y, -, h⟩
    · exact ⟨x, List.mem_cons_self, h⟩
    · rcases bind_eq_error_iff.mp h with h | ⟨more, -, h⟩
      · obtain ⟨z, hz, he⟩ := ih h
        exact ⟨z, List.mem_cons_of_mem _ hz, he⟩
      · exact nomatch h

/-! Two chains. -/

/-- Two outcomes are results of which a relation holds, or errors of which another does. -/
inductive Related {ε ε' α α' : Type} (E : ε → ε' → Prop) (R : α → α' → Prop) : Except ε α → Except ε' α' → Prop
  | ok {a : α} {a' : α'} (related : R a a') : Related E R (.ok a) (.ok a')
  | error {e : ε} {e' : ε'} (related : E e e') : Related E R (.error e) (.error e')

section Related

variable {α' β' ε₁ ε₁' : Type} {E : ε → ε → Prop} {E₁ : ε₁ → ε₁' → Prop} {R : α → α' → Prop} {S : β → β' → Prop}
  {x : Except ε α} {x' : Except ε α'}

theorem Related.outcomes (h : Related E R x x') :
    (∃ a a', x = .ok a ∧ x' = .ok a' ∧ R a a') ∨ ∃ e e', x = .error e ∧ x' = .error e' ∧ E e e' := by
  cases h with
  | ok related => exact .inl ⟨_, _, rfl, rfl, related⟩
  | error related => exact .inr ⟨_, _, rfl, rfl, related⟩

theorem Related.bind {f : α → Except ε β} {f' : α' → Except ε β'} (h : Related E R x x')
    (hf : ∀ a a', R a a' → Related E S (f a) (f' a')) : Related E S (x >>= f) (x' >>= f') := by
  cases h with
  | ok related => exact hf _ _ related
  | error related => exact .error related

theorem Related.map {f : α → β} {f' : α' → β'} (h : Related E R x x') (hf : ∀ a a', R a a' → S (f a) (f' a')) :
    Related E S (x.map f) (x'.map f') := by
  cases h with
  | ok related => exact .ok (hf _ _ related)
  | error related => exact .error related

theorem Related.mapError {f : ε → ε₁} {f' : ε → ε₁'} (h : Related E R x x') (hf : ∀ e e', E e e' → E₁ (f e) (f' e')) :
    Related E₁ R (x.mapError f) (x'.mapError f') := by
  cases h with
  | ok related => exact .ok related
  | error related => exact .error (hf _ _ related)

end Related

end Except
