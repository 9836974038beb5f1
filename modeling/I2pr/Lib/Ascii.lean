import Mathlib

namespace Ascii

def bytes (text : String) : List UInt8 :=
  text.toList.map fun char => UInt8.ofNat char.toNat

def upper (byte : UInt8) : UInt8 :=
  if 97 ≤ byte ∧ byte ≤ 122 then byte - 32 else byte

def lower (byte : UInt8) : UInt8 :=
  if 65 ≤ byte ∧ byte ≤ 90 then byte + 32 else byte

def isUpper (byte : UInt8) : Bool := 65 ≤ byte && byte ≤ 90

def isLower (byte : UInt8) : Bool := 97 ≤ byte && byte ≤ 122

def isDigit (byte : UInt8) : Bool := 48 ≤ byte && byte ≤ 57

def isAlphanumeric (byte : UInt8) : Bool := isUpper byte || isLower byte || isDigit byte

variable {byte : UInt8}

theorem lt_of_upper_lt (h : upper byte < 128) : byte < 128 := by
  unfold upper at h
  split at h
  next hlower =>
    rw [UInt8.le_iff_toNat_le, UInt8.le_iff_toNat_le] at hlower
    rw [UInt8.lt_iff_toNat_lt]
    exact Nat.lt_of_le_of_lt hlower.2 (by decide)
  · exact h

theorem lower_of_isUpper (h : isUpper byte = true) : isLower (lower byte) = true := by
  simp only [isUpper, Bool.and_eq_true, decide_eq_true_eq] at h
  rw [lower, if_pos h, isLower, Bool.and_eq_true, decide_eq_true_eq, decide_eq_true_eq]
  have hlow : 65 ≤ byte.toNat := UInt8.le_iff_toNat_le.mp h.1
  have hhigh : byte.toNat ≤ 90 := UInt8.le_iff_toNat_le.mp h.2
  have hsum : (byte + 32).toNat = byte.toNat + 32 := by
    rw [UInt8.toNat_add]
    exact Nat.mod_eq_of_lt (by change byte.toNat + 32 < 256; omega)
  rw [UInt8.le_iff_toNat_le, UInt8.le_iff_toNat_le, hsum]
  exact ⟨by change 97 ≤ _; omega, by change _ ≤ 122; omega⟩

theorem lower_of_not_isUpper (h : isUpper byte = false) : lower byte = byte := by
  rw [lower, if_neg]
  rintro ⟨hlow, hhigh⟩
  simp [isUpper, hlow, hhigh] at h

theorem isUpper_eq_false_of_isLower (h : isLower byte = true) : isUpper byte = false := by
  simp only [isLower, isUpper, Bool.and_eq_true, decide_eq_true_eq, Bool.and_eq_false_iff, decide_eq_false_iff_not] at h ⊢
  exact .inr (UInt8.not_le.mpr (UInt8.lt_of_lt_of_le (by decide) h.1))

theorem lower_lower (byte : UInt8) : lower (lower byte) = lower byte := by
  cases h : isUpper byte with
  | false => rw [lower_of_not_isUpper h, lower_of_not_isUpper h]
  | true => exact lower_of_not_isUpper (isUpper_eq_false_of_isLower (lower_of_isUpper h))

theorem isAlphanumeric_lower (h : isAlphanumeric byte = true) : isAlphanumeric (lower byte) = true := by
  cases hupper : isUpper byte with
  | false => rwa [lower_of_not_isUpper hupper]
  | true => simp [isAlphanumeric, lower_of_isUpper hupper]

theorem isAlphanumeric_lt (h : isAlphanumeric byte = true) : byte < 128 := by
  simp only [isAlphanumeric, isUpper, isLower, isDigit, Bool.or_eq_true, Bool.and_eq_true, decide_eq_true_eq] at h
  rcases h with (h | h) | h
  all_goals exact UInt8.lt_of_le_of_lt h.2 (by decide)

end Ascii
