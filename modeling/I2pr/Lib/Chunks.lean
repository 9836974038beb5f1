import Mathlib

namespace Chunks

variable {α : Type}

def chunksFrom (n : Nat) : Nat → List α → List (List α)
  | 0, _ => []
  | _ + 1, [] => []
  | k + 1, x :: xs => (x :: xs).take n :: chunksFrom n k ((x :: xs).drop n)

/-- The consecutive pieces of length `n` of a list; the last one may be shorter. -/
def chunks (n : Nat) (xs : List α) : List (List α) :=
  chunksFrom n xs.length xs

theorem flatten_chunksFrom {n : Nat} (hn : 0 < n) {k : Nat} {xs : List α} (hk : xs.length ≤ k) :
    (chunksFrom n k xs).flatten = xs := by
  induction k generalizing xs with
  | zero => simp_all [chunksFrom]
  | succ k ih =>
    cases xs with
    | nil => rfl
    | cons x xs =>
      rw [chunksFrom, List.flatten_cons, ih (by simp at hk ⊢; omega), List.take_append_drop]

theorem flatten_chunks {n : Nat} (hn : 0 < n) (xs : List α) : (chunks n xs).flatten = xs :=
  flatten_chunksFrom hn le_rfl

theorem length_chunksFrom {n : Nat} (hn : 0 < n) {k : Nat} {xs : List α} (hk : xs.length ≤ k) :
    (chunksFrom n k xs).length = (xs.length + n - 1) / n := by
  induction k generalizing xs with
  | zero =>
    have hnil : xs = [] := List.length_eq_zero_iff.mp (by omega)
    simp [chunksFrom, hnil, Nat.div_eq_of_lt (show n - 1 < n by omega)]
  | succ k ih =>
    cases xs with
    | nil => simp [chunksFrom, Nat.div_eq_of_lt (show n - 1 < n by omega)]
    | cons x xs =>
      rw [chunksFrom, List.length_cons, ih (by simp at hk ⊢; omega), List.length_drop]
      set l := (x :: xs).length with hl
      have hpos : 1 ≤ l := by simp [hl]
      rw [← Nat.add_div_right _ hn]
      rcases le_or_gt n l with hle | hlt
      · congr 1
        omega
      · rw [show l - n + n - 1 + n = n - 1 + n by omega, Nat.add_div_right _ hn,
          Nat.div_eq_of_lt (show n - 1 < n by omega), show l + n - 1 = l - 1 + n by omega, Nat.add_div_right _ hn,
          Nat.div_eq_of_lt (show l - 1 < n by omega)]

theorem length_chunks {n : Nat} (hn : 0 < n) (xs : List α) : (chunks n xs).length = (xs.length + n - 1) / n :=
  length_chunksFrom hn le_rfl

end Chunks
