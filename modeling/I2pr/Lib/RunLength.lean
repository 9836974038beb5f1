import Mathlib

namespace RunLength

/-- How many consecutive positions from `s` on, at most `n`, have the value `v`. -/
def run (p : Nat → Bool) (v : Bool) : Nat → Nat → Nat
  | 0, _ => 0
  | n + 1, s => if p s = v then run p v n (s + 1) + 1 else 0

variable {p : Nat → Bool} {v : Bool}

theorem run_le (n s : Nat) : run p v n s ≤ n := by
  induction n generalizing s with
  | zero => simp [run]
  | succ n ih =>
    unfold run
    split
    · exact Nat.succ_le_succ (ih _)
    · exact Nat.zero_le _

theorem run_spec {n s i : Nat} (h : i < run p v n s) : p (s + i) = v := by
  induction n generalizing s i with
  | zero => simp [run] at h
  | succ n ih =>
    unfold run at h
    split at h
    next hv =>
      cases i with
      | zero => exact hv
      | succ i =>
        have := ih (s := s + 1) (i := i) (by omega)
        rwa [Nat.add_right_comm] at this
    · omega

theorem run_stop {n s : Nat} (h : run p v n s < n) : p (s + run p v n s) ≠ v := by
  induction n generalizing s with
  | zero => omega
  | succ n ih =>
    unfold run at h ⊢
    split at h
    next hv =>
      have := ih (s := s + 1) (by omega)
      rwa [if_pos hv, ← Nat.add_assoc, Nat.add_right_comm]
    next hv => rwa [if_neg hv]

theorem run_pos {n s : Nat} (hn : 0 < n) (h : p s = v) : 0 < run p v n s := by
  obtain ⟨k, rfl⟩ : ∃ k, n = k + 1 := ⟨n - 1, by omega⟩
  rw [run, if_pos h]
  omega

end RunLength
