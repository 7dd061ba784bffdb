import OrgOutline.Proofs.Runs

/-!
# Runs side by side

Two runs go side by side (`Run.Related`) when they give the same notices and end in the same way: with the same fault, or with
results that are related. Runs that are put together of such runs are such runs (`Run.Related.bind`).
-/

namespace OrgOutline

variable {α β γ δ : Type}

/-- Two outcomes that are the same fault or related results. -/
def RelatedOutcomes (R : α → β → Prop) : Except Fault α → Except Fault β → Prop
  | .ok a, .ok b => R a b
  | .error e, .error e' => e = e'
  | _, _ => False

namespace RelatedOutcomes

variable {R : α → β → Prop} {Q : γ → δ → Prop} {x : Except Fault α} {y : Except Fault β}

theorem refl {S : α → α → Prop} (h : ∀ a, S a a) (x : Except Fault α) : RelatedOutcomes S x x := by
  cases x with
  | ok a => exact h a
  | error e => exact rfl

theorem mono {R' : α → β → Prop} (h : RelatedOutcomes R x y) (hR : ∀ a b, R a b → R' a b) : RelatedOutcomes R' x y := by
  cases x with
  | ok a =>
    cases y with
    | ok b => exact hR a b h
    | error e => exact h.elim
  | error e =>
    cases y with
    | ok b => exact h.elim
    | error e' => exact h

theorem bind {f : α → Except Fault γ} {g : β → Except Fault δ} (h : RelatedOutcomes R x y)
    (hf : ∀ a b, R a b → RelatedOutcomes Q (f a) (g b)) : RelatedOutcomes Q (x >>= f) (y >>= g) := by
  cases x with
  | ok a =>
    cases y with
    | ok b => exact hf a b h
    | error e => exact h.elim
  | error e =>
    cases y with
    | ok b => exact h.elim
    | error e' => exact h

theorem map {f : α → γ} {g : β → δ} (h : RelatedOutcomes R x y) (hf : ∀ a b, R a b → Q (f a) (g b)) :
    RelatedOutcomes Q (x.map f) (y.map g) :=
  h.bind (f := fun a => .ok (f a)) (g := fun b => .ok (g b)) hf

end RelatedOutcomes

namespace Run

/-- Two runs with the same notices that end with the same fault or with related results. -/
structure Related (R : α → β → Prop) (x : Run α) (y : Run β) : Prop where
  notices : x.notices = y.notices
  outcome : RelatedOutcomes R x.outcome y.outcome

namespace Related

variable {R : α → β → Prop} {Q : γ → δ → Prop} {x : Run α} {y : Run β}

theorem pure {a : α} {b : β} (h : R a b) : Related R (pure a) (pure b) := ⟨rfl, h⟩

theorem refl {S : α → α → Prop} (h : ∀ a, S a a) (x : Run α) : Related S x x := ⟨rfl, .refl h x.outcome⟩

theorem ofExcept {x : Except Fault α} {y : Except Fault β} (h : RelatedOutcomes R x y) :
    Related R (ofExcept x) (ofExcept y) := ⟨rfl, h⟩

theorem mono {R' : α → β → Prop} (h : Related R x y) (hR : ∀ a b, R a b → R' a b) : Related R' x y :=
  ⟨h.notices, h.outcome.mono hR⟩

/-- What follows two runs side by side goes side by side if it does so for related results. -/
theorem bind {f : α → Run γ} {g : β → Run δ} (h : Related R x y) (hf : ∀ a b, R a b → Related Q (f a) (g b)) :
    Related Q (x >>= f) (y >>= g) := by
  obtain ⟨ns, o⟩ := x
  obtain ⟨ms, o'⟩ := y
  obtain rfl : ns = ms := h.notices
  have ho : RelatedOutcomes R o o' := h.outcome
  cases o with
  | ok a =>
    cases o' with
    | ok b => exact ⟨congrArg (ns ++ ·) (hf a b ho).notices, (hf a b ho).outcome⟩
    | error e => exact ho.elim
  | error e =>
    cases o' with
    | ok b => exact ho.elim
    | error e' => exact ⟨rfl, ho⟩

/-- A run beside itself, if its result is related to itself. -/
theorem self {S : α → α → Prop} (h : ∀ a, x.outcome = .ok a → S a a) : Related S x x := by
  refine ⟨rfl, ?_⟩
  cases hx : x.outcome with
  | ok a => exact h a hx
  | error e => exact rfl

/-- What follows the same run goes side by side if it does so for the results that the run can give. -/
theorem bind_self (x : Run α) {f : α → Run γ} {g : α → Run δ} (hf : ∀ a, x.outcome = .ok a → Related Q (f a) (g a)) :
    Related Q (x >>= f) (x >>= g) := by
  have hx : Related (fun a b => a = b ∧ x.outcome = .ok a) x x := self fun a ha => ⟨rfl, ha⟩
  refine hx.bind fun a b hab => ?_
  obtain ⟨rfl, ha⟩ := hab
  exact hf a ha

/-- What is known of the outcomes of two runs side by side is known of their results. -/
theorem withOutcome (h : Related R x y) :
    Related (fun a b => R a b ∧ x.outcome = .ok a) x y := by
  refine ⟨h.notices, ?_⟩
  have ho := h.outcome
  cases hx : x.outcome with
  | ok a =>
    cases hy : y.outcome with
    | ok b =>
      rw [hx, hy] at ho
      exact ⟨ho, rfl⟩
    | error e =>
      rw [hx, hy] at ho
      exact ho
  | error e =>
    cases hy : y.outcome with
    | ok b =>
      rw [hx, hy] at ho
      exact ho.elim
    | error e' =>
      rw [hx, hy] at ho
      exact ho

/-- A run beside the same run with a changed result. -/
theorem ofMap (f : α → γ) (x : Run α) : Related (fun a c => c = f a ∧ x.outcome = .ok a) x (f <$> x) := by
  refine ⟨(notices_map f x).symm, ?_⟩
  rw [outcome_map]
  cases x.outcome with
  | ok a => exact ⟨rfl, rfl⟩
  | error e => exact rfl

/-- Runs side by side with equal results are equal. -/
theorem eq {x y : Run α} (h : Related Eq x y) : x = y := by
  obtain ⟨ns, o⟩ := x
  obtain ⟨ms, o'⟩ := y
  obtain rfl : ns = ms := h.notices
  have ho : RelatedOutcomes Eq o o' := h.outcome
  cases o with
  | ok a =>
    cases o' with
    | ok b => rw [show a = b from ho]
    | error e => exact ho.elim
  | error e =>
    cases o' with
    | ok b => exact ho.elim
    | error e' => rw [show e = e' from ho]

end Related

end Run
end OrgOutline
