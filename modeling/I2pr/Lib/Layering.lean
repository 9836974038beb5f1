import Mathlib

namespace Layering

theorem foldl_foldr_cancel {K X : Type} {apply strip : K → X → X} (h : ∀ k x, apply k (strip k x) = x)
    (keys : List K) (x : X) : keys.foldl (fun y k => apply k y) (keys.foldr strip x) = x := by
  induction keys with
  | nil => rfl
  | cons k keys ih => rw [List.foldr_cons, List.foldl_cons, h, ih]

theorem apply_strip_of_finite {X : Type} [Finite X] {apply strip : X → X} (h : ∀ x, strip (apply x) = x)
    (x : X) : apply (strip x) = x :=
  Function.LeftInverse.rightInverse_of_surjective h
    (Finite.surjective_of_injective (Function.LeftInverse.injective h)) x

end Layering
