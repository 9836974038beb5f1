import Mathlib

namespace Counter

theorem toNat_succ {n : UInt32} (h : n + 1 ≠ 0) : (n + 1).toNat = n.toNat + 1 := by
  have hlt := n.toNat_lt
  have hadd : (n + 1).toNat = (n.toNat + 1) % 2 ^ 32 := UInt32.toNat_add n 1
  rw [hadd]
  apply Nat.mod_eq_of_lt
  by_contra hge
  refine h (UInt32.toNat_inj.mp ?_)
  rw [hadd, show n.toNat + 1 = 2 ^ 32 by omega]
  rfl

theorem toNat_of_succ_eq_zero {n : UInt32} (h : n + 1 = 0) : n.toNat = 2 ^ 32 - 1 := by
  have hlt := n.toNat_lt
  have hadd : (n.toNat + 1) % 2 ^ 32 = 0 := by
    rw [← show (n + 1).toNat = (n.toNat + 1) % 2 ^ 32 from UInt32.toNat_add n 1, h]
    rfl
  omega

theorem toNat_succ_of_lt {n q : UInt32} (h : n < q) : (n + 1).toNat = n.toNat + 1 := by
  apply toNat_succ
  intro h0
  have hn := toNat_of_succ_eq_zero h0
  have hq := q.toNat_lt
  have := UInt32.lt_iff_toNat_lt.mp h
  omega

theorem lt_succ_or_wrap {a n : UInt32} : a < n + 1 ∨ n + 1 = 0 ↔ a < n ∨ a = n ∨ n + 1 = 0 := by
  by_cases hn : n + 1 = 0
  · simp [hn]
  simp only [hn, or_false, UInt32.lt_iff_toNat_lt, ← UInt32.toNat_inj, toNat_succ hn]
  omega

theorem lt_or_eq_of_succ_eq_zero {n : UInt32} (h : n + 1 = 0) (a : UInt32) : a < n ∨ a = n := by
  have hn := toNat_of_succ_eq_zero h
  have ha := a.toNat_lt
  rw [UInt32.lt_iff_toNat_lt, ← UInt32.toNat_inj]
  omega

theorem toNat_sub_ofNat {x : UInt32} {k : Nat} (h : k ≤ x.toNat) : (x - UInt32.ofNat k).toNat = x.toNat - k := by
  have hsize : UInt32.size = 2 ^ 32 := rfl
  have hlt := x.toNat_lt
  have hof : (UInt32.ofNat k).toNat = k := UInt32.toNat_ofNat_of_lt' (by omega)
  rw [UInt32.toNat_sub_of_le _ _ (UInt32.le_iff_toNat_le.mpr (by omega)), hof]

theorem toNat_pred {x : UInt32} (h : x ≠ 0) : 1 ≤ x.toNat ∧ (x - 1).toNat = x.toNat - 1 := by
  have hpos : 1 ≤ x.toNat := by
    rcases Nat.eq_zero_or_pos x.toNat with h0 | h0
    · exact absurd (UInt32.toNat_inj.mp h0) h
    · exact h0
  exact ⟨hpos, UInt32.toNat_sub_of_le _ _ (UInt32.le_iff_toNat_le.mpr hpos)⟩

end Counter
