import Mathlib

/-- A computation that may return an error, or panic: `none` is a panic or a loop that does not end. -/
def Checked (E A : Type) := Option (Except E A)

namespace Checked

variable {E A B : Type}

def panics : Checked E A := none

def fail (e : E) : Checked E A := some (.error e)

def ofExcept (x : Except E A) : Checked E A := some x

instance : Monad (Checked E) where
  pure a := some (.ok a)
  bind x f := match x with
    | none => none
    | some (.error e) => some (.error e)
    | some (.ok a) => f a

theorem pure_bind (a : A) (f : A → Checked E B) : ((pure a : Checked E A) >>= f) = f a := rfl

def index (xs : List A) (i : Nat) : Checked E A :=
  match xs[i]? with
  | some x => pure x
  | none => panics

/-- The slice between two positions, which have to be in order and in range. -/
def slice (xs : List A) (start stop : Nat) : Checked E (List A) :=
  if start ≤ stop ∧ stop ≤ xs.length then pure ((xs.drop start).take (stop - start)) else panics

def sliceFrom (xs : List A) (start : Nat) : Checked E (List A) :=
  if start ≤ xs.length then pure (xs.drop start) else panics

variable {xs : List A}

theorem index_eq {i : Nat} (h : i < xs.length) : (index xs i : Checked E A) = pure xs[i] := by
  rw [index, List.getElem?_eq_getElem h]

theorem slice_eq {start stop : Nat} (h : start ≤ stop ∧ stop ≤ xs.length) :
    (slice xs start stop : Checked E (List A)) = pure ((xs.drop start).take (stop - start)) :=
  if_pos h

theorem sliceFrom_eq {start : Nat} (h : start ≤ xs.length) :
    (sliceFrom xs start : Checked E (List A)) = pure (xs.drop start) :=
  if_pos h

/-- The checked computation does not panic and ends as the other one does, with related results. -/
def Simulates (R : A → B → Prop) : Checked E A → Except E B → Prop
  | some (.ok a), .ok b => R a b
  | some (.error e), .error e' => e = e'
  | _, _ => False

namespace Simulates

variable {C D : Type} {R : A → B → Prop} {S : C → D → Prop}

theorem pure {a : A} {b : B} (h : R a b) : Simulates R (Pure.pure a : Checked E A) (.ok b) := h

variable {x : Checked E A} {y : Except E B}

theorem pure_bind {a : C} {f : C → Checked E A} (h : Simulates R (f a) y) :
    Simulates R ((Pure.pure a : Checked E C) >>= f) y :=
  h

theorem fail (e : E) : Simulates R (Checked.fail e) (.error e) := rfl

theorem ofExcept (x : Except E A) : Simulates Eq (Checked.ofExcept x) x := by
  cases x with
  | error e | ok a => exact rfl

theorem bind {f : A → Checked E C} {g : B → Except E D} (h : Simulates R x y)
    (hf : ∀ a b, R a b → Simulates S (f a) (g b)) : Simulates S (x >>= f) (y >>= g) := by
  match x, y, h with
  | some (.ok a), .ok b, h => exact hf a b h
  | some (.error e), .error _, h => exact h

theorem map_right {T : A → D → Prop} {g : B → D} (h : Simulates R x y)
    (hg : ∀ a b, R a b → T a (g b)) : Simulates T x (y >>= fun b => .ok (g b)) := by
  match x, y, h with
  | some (.ok a), .ok b, h => exact hg a b h
  | some (.error e), .error _, h => exact h

theorem ite {p : Prop} [Decidable p] {x' : Checked E A} {y' : Except E B} (h : p → Simulates R x y)
    (h' : ¬ p → Simulates R x' y') : Simulates R (if p then x else x') (if p then y else y') := by
  by_cases hp : p
  · rw [if_pos hp, if_pos hp]
    exact h hp
  rw [if_neg hp, if_neg hp]
  exact h' hp

theorem eq_ofExcept {y : Except E A} (h : Simulates Eq x y) : x = Checked.ofExcept y := by
  match x, y, h with
  | some (.ok _), .ok _, rfl => rfl
  | some (.error _), .error _, rfl => rfl

end Simulates

end Checked
