import Mathlib

namespace Fallible

variable {E F A B : Type}

theorem ok_bind (a : A) (f : A → Except E B) : (.ok a >>= f) = f a := rfl

theorem error_bind (e : E) (f : A → Except E B) : ((.error e : Except E A) >>= f) = .error e := rfl

variable {x : Except E A}

theorem bind_ok {f : A → Except E B} {a : A} {r : Except E B} (hx : x = .ok a) (hf : f a = r) : (x >>= f) = r := by
  rw [hx]
  exact hf

theorem bind_eq_ok {f : A → Except E B} {b : B} : (x >>= f) = .ok b ↔ ∃ a, x = .ok a ∧ f a = .ok b := by
  cases x with
  | error e =>
    constructor
    · intro h
      cases h
    · rintro ⟨a, ha, -⟩
      cases ha
  | ok a =>
    constructor
    · intro h
      exact ⟨a, rfl, h⟩
    · rintro ⟨a, ⟨⟩, h⟩
      exact h

theorem mapError_eq_ok {g : E → F} {a : A} : x.mapError g = .ok a ↔ x = .ok a := by
  cases x with
  | error e | ok a => simp [Except.mapError]

theorem ite_error_eq_ok {p : Prop} [Decidable p] {e : E} {a : A} :
    (if p then .error e else x) = .ok a ↔ ¬ p ∧ x = .ok a := by
  by_cases hp : p
  · simp [hp]
  · simp [hp]

theorem forM_eq_ok {f : A → Except E Unit} {xs : List A} : xs.forM f = .ok () ↔ ∀ x ∈ xs, f x = .ok () := by
  induction xs with
  | nil => simp [pure, Except.pure]
  | cons x xs ih =>
    rw [List.forall_mem_cons, ← ih]
    refine bind_eq_ok.trans ⟨?_, ?_⟩
    · rintro ⟨_, hx, hxs⟩
      exact ⟨hx, hxs⟩
    · rintro ⟨hx, hxs⟩
      exact ⟨(), hx, hxs⟩

theorem foldlM_preserves {P : B → Prop} {f : B → A → Except E B}
    (hstep : ∀ b a b', P b → f b a = .ok b' → P b') {xs : List A} {b b' : B} (hb : P b)
    (h : xs.foldlM f b = .ok b') : P b' := by
  induction xs generalizing b with
  | nil =>
    cases h
    exact hb
  | cons x xs ih =>
    rw [List.foldlM_cons] at h
    obtain ⟨mid, hmid, h⟩ := bind_eq_ok.mp h
    exact ih (hstep b x mid hb hmid) h

end Fallible
