import Mathlib

namespace Runs

variable {S M : Type} (step : S → M → S)

/-- Every move of a run meets the condition, in the state it is made in. -/
def Along (P : S → M → Prop) (s : S) : List M → Prop
  | [] => True
  | first :: moves => P s first ∧ Along P (step s first) moves

instance decidableAlong (P : S → M → Prop) [∀ s m, Decidable (P s m)] :
    (s : S) → (moves : List M) → Decidable (Along step P s moves)
  | _, [] => inferInstanceAs (Decidable True)
  | s, first :: moves =>
    have := decidableAlong P (step s first) moves
    inferInstanceAs (Decidable (_ ∧ _))

variable {step}

theorem Along.and {P Q : S → M → Prop} {s : S} {moves : List M} (hp : Along step P s moves)
    (hq : Along step Q s moves) : Along step (fun s m => P s m ∧ Q s m) s moves := by
  induction moves generalizing s with
  | nil => trivial
  | cons first moves ih => exact ⟨⟨hp.1, hq.1⟩, ih hp.2 hq.2⟩

theorem Along.invariant {P : S → M → Prop} {Inv : S → Prop} (hstep : ∀ s m, Inv s → P s m → Inv (step s m)) {s : S}
    (hs : Inv s) {moves : List M} (h : Along step P s moves) : Inv (moves.foldl step s) := by
  induction moves generalizing s with
  | nil => exact hs
  | cons first moves ih => exact ih (hstep s first hs h.1) h.2

end Runs
