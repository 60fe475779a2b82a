import Mathlib.Data.List.Forall2

/-!
# Computations that agree

Two runs of a computation on inputs that differ in what should not matter need not give the same
result, but their results stand in a relation. Where they fail, they fail with the same error, as
far as a folding of errors tells. Agreement (`Agree`) goes through every step of a computation, so
it is shown of a reader along its own text, with one law for each kind of step.
-/

namespace TrustSchema

variable {ε ε' α α' β β' : Type}

/-- Two computations agree: both succeed, with results in a relation, or both fail, with errors that
are folded into the same one. -/
inductive Agree (fold : ε → ε') (R : α → α' → Prop) : Except ε α → Except ε α' → Prop
  | ok {a : α} {a' : α'} (related : R a a') : Agree fold R (.ok a) (.ok a')
  | error {e e' : ε} (same : fold e = fold e') : Agree fold R (.error e) (.error e')

namespace Agree

variable {fold : ε → ε'} {R : α → α' → Prop} {S : β → β' → Prop} {x : Except ε α} {x' : Except ε α'}

theorem refl (x : Except ε α) : Agree fold Eq x x := by
  cases x with
  | ok a => exact .ok rfl
  | error e => exact .error rfl

/-- What goes on alike from related results agrees. -/
theorem bind (h : Agree fold R x x') {f : α → Except ε β} {f' : α' → Except ε β'}
    (hf : ∀ a a', R a a' → Agree fold S (f a) (f' a')) : Agree fold S (x >>= f) (x' >>= f') := by
  cases h with
  | ok related => exact hf _ _ related
  | error same => exact .error same

/-- What goes on alike from equal results agrees. -/
theorem bind_eq {x x' : Except ε α} (h : Agree fold Eq x x') {f : α → Except ε β}
    {f' : α → Except ε β'} (hf : ∀ a, Agree fold S (f a) (f' a)) :
    Agree fold S (x >>= f) (x' >>= f') :=
  h.bind fun a _ heq => heq ▸ hf a

theorem map (h : Agree fold R x x') {f : α → β} {f' : α' → β'}
    (hf : ∀ a a', R a a' → S (f a) (f' a')) : Agree fold S (f <$> x) (f' <$> x') := by
  cases h with
  | ok related => exact .ok (hf _ _ related)
  | error same => exact .error same

theorem ite {c : Prop} [Decidable c] {y : Except ε α} {y' : Except ε α'} (hx : Agree fold R x x')
    (hy : Agree fold R y y') : Agree fold R (if c then x else y) (if c then x' else y') := by
  split
  · exact hx
  · exact hy

/-- Errors stay the same under another wording, if this keeps what the folding tells. -/
theorem mapError {δ δ' : Type} {fold' : δ → δ'} (h : Agree fold R x x') {g : ε → δ}
    (hg : ∀ e e', fold e = fold e' → fold' (g e) = fold' (g e')) :
    Agree fold' R (x.mapError g) (x'.mapError g) := by
  cases h with
  | ok related => exact .ok related
  | error same => exact .error (hg _ _ same)

/-- Lists with related elements are gone through alike. -/
theorem mapM_eq {f : α → Except ε β} {f' : α' → Except ε β} {as : List α} {as' : List α'}
    (h : List.Forall₂ R as as') (hf : ∀ a a', R a a' → Agree fold Eq (f a) (f' a')) :
    Agree fold Eq (as.mapM f) (as'.mapM f') := by
  induction h with
  | nil => exact .ok rfl
  | cons related _ ih =>
    rw [List.mapM_cons, List.mapM_cons]
    exact (hf _ _ related).bind_eq fun b => ih.bind_eq fun bs => .ok rfl

/-- Computations that agree with equal results have the same result, or the same error up to the
folding. -/
theorem eq_or {x x' : Except ε α} (h : Agree fold Eq x x') : (∃ a, x = .ok a ∧ x' = .ok a) ∨
    ∃ e e', x = .error e ∧ x' = .error e' ∧ fold e = fold e' := by
  cases h with
  | ok related =>
    subst related
    exact .inl ⟨_, rfl, rfl⟩
  | error same => exact .inr ⟨_, _, rfl, rfl, same⟩

end Agree

end TrustSchema
