import Mathlib

namespace ByteOrder

theorem max_eq (a b : UInt8) : max a b = if a ≤ b then b else a := rfl

theorem le_max (a b : UInt8) : a ≤ max a b ∧ b ≤ max a b := by
  rw [max_eq]
  split
  next h => exact ⟨h, UInt8.le_refl b⟩
  next h => exact ⟨UInt8.le_refl a, UInt8.le_of_lt (UInt8.not_le.mp h)⟩

theorem max_le_iff {a b c : UInt8} : max a b ≤ c ↔ a ≤ c ∧ b ≤ c := by
  constructor
  · intro h
    exact ⟨UInt8.le_trans (le_max a b).1 h, UInt8.le_trans (le_max a b).2 h⟩
  · rintro ⟨ha, hb⟩
    rw [max_eq]
    split
    · exact hb
    · exact ha

end ByteOrder
