import Mathlib

namespace XorMask

def apply (bytes mask : List UInt8) : List UInt8 :=
  List.zipWith (· ^^^ ·) bytes mask

theorem length_apply {bytes mask : List UInt8} (h : bytes.length = mask.length) :
    (apply bytes mask).length = bytes.length := by
  simp [apply, h]

theorem apply_apply {bytes mask : List UInt8} (h : bytes.length = mask.length) :
    apply (apply bytes mask) mask = bytes := by
  induction bytes generalizing mask with
  | nil => simp [apply]
  | cons b bytes ih =>
    cases mask with
    | nil => simp at h
    | cons m mask =>
      have hrest : apply (apply bytes mask) mask = bytes := ih (by simpa using h)
      unfold apply at hrest ⊢
      rw [List.zipWith_cons_cons, List.zipWith_cons_cons, hrest, UInt8.xor_assoc, UInt8.xor_self, UInt8.xor_zero]

end XorMask
