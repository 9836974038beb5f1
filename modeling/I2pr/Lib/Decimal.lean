import I2pr.Lib.Ascii

namespace Decimal

open List

open Ascii (isDigit)

def parse (max : Nat) (text : List UInt8) : Option Nat :=
  let digits := if text.head? = some 43 then text.tail else text
  if digits.isEmpty || !digits.all isDigit then none
  else
    let value := Nat.ofDigits 10 (digits.reverse.map fun byte => byte.toNat - 48)
    if value ≤ max then some value else none

def render (n : Nat) : List UInt8 :=
  if n = 0 then [48] else (Nat.digits 10 n).reverse.map fun digit => UInt8.ofNat (48 + digit)

theorem isDigit_digit {digit : Nat} (h : digit < 10) : isDigit (UInt8.ofNat (48 + digit)) = true := by
  interval_cases digit <;> rfl

theorem toNat_digit {digit : Nat} (h : digit < 10) : (UInt8.ofNat (48 + digit)).toNat - 48 = digit := by
  interval_cases digit <;> rfl

theorem isDigit_of_mem_render {n : Nat} {byte : UInt8} (h : byte ∈ render n) : isDigit byte = true := by
  unfold render at h
  split at h
  · rw [mem_singleton.mp h]
    rfl
  · obtain ⟨digit, hdigit, rfl⟩ := mem_map.mp h
    exact isDigit_digit (Nat.digits_lt_base (by decide) (mem_reverse.mp hdigit))

theorem graphic_of_isDigit {byte : UInt8} (h : isDigit byte = true) : 32 < byte ∧ byte < 128 := by
  simp only [isDigit, Bool.and_eq_true, decide_eq_true_eq] at h
  exact ⟨UInt8.lt_of_lt_of_le (by decide) h.1, UInt8.lt_of_le_of_lt h.2 (by decide)⟩

theorem render_ne_nil (n : Nat) : render n ≠ [] := by
  unfold render
  split
  · simp
  next h => simp [Nat.digits_ne_nil_iff_ne_zero.mpr h]

theorem ofDigits_render (n : Nat) : Nat.ofDigits 10 ((render n).reverse.map fun byte => byte.toNat - 48) = n := by
  unfold render
  split
  next h =>
    subst h
    rfl
  · rw [← map_reverse, reverse_reverse, map_map]
    have hid : (Nat.digits 10 n).map ((fun byte : UInt8 => byte.toNat - 48) ∘ fun digit => UInt8.ofNat (48 + digit)) =
        (Nat.digits 10 n).map id :=
      map_congr_left fun digit hdigit => toNat_digit (Nat.digits_lt_base (by decide) hdigit)
    rw [hid, map_id, Nat.ofDigits_digits]

theorem parse_render {max n : Nat} (h : n ≤ max) : parse max (render n) = some n := by
  have hplus : (render n).head? ≠ some 43 := by
    intro hhead
    have hdigit := isDigit_of_mem_render (mem_of_head? hhead)
    revert hdigit
    decide
  have hall : (render n).all isDigit = true := all_eq_true.mpr fun byte hbyte => isDigit_of_mem_render hbyte
  have hne : (render n).isEmpty = false := isEmpty_eq_false_iff.mpr (render_ne_nil n)
  simp only [parse, hplus, if_false, hall, hne, Bool.not_true, Bool.or_self, Bool.false_eq_true, ofDigits_render, h,
    if_true]

theorem le_of_parse {max n : Nat} {text : List UInt8} (h : parse max text = some n) : n ≤ max := by
  simp only [parse, Option.ite_none_left_eq_some, Option.ite_none_right_eq_some, Option.some.injEq] at h
  exact h.2.2 ▸ h.2.1

theorem length_render_le {max n : Nat} {text : List UInt8} (h : parse max text = some n) :
    (render n).length ≤ text.length := by
  unfold parse at h
  dsimp only at h
  generalize hdigits : (if text.head? = some 43 then text.tail else text) = digits at h
  have hlength : digits.length ≤ text.length := by
    rw [← hdigits]
    split
    · simp
    · exact le_rfl
  obtain ⟨hdigit, h⟩ := Option.ite_none_left_eq_some.mp h
  split at h
  · cases h
    simp only [Bool.or_eq_true, Bool.not_eq_true', not_or, Bool.not_eq_true, Bool.not_eq_false,
      isEmpty_eq_false_iff, all_eq_true] at hdigit
    refine le_trans ?_ hlength
    unfold render
    split
    · exact length_pos_iff.mpr hdigit.1
    have hlt : ∀ digit ∈ digits.reverse.map fun byte => byte.toNat - 48, digit < 10 := by
      intro digit hmem
      obtain ⟨byte, hbyte, rfl⟩ := mem_map.mp hmem
      have hrange := hdigit.2 byte (mem_reverse.mp hbyte)
      simp only [isDigit, Bool.and_eq_true, decide_eq_true_eq, UInt8.le_iff_toNat_le] at hrange
      have hhigh : byte.toNat ≤ 57 := hrange.2
      omega
    have hvalue := Nat.ofDigits_lt_base_pow_length (by decide) hlt
    rw [length_map, length_reverse] at hvalue ⊢
    exact (Nat.digits_length_le_iff (by decide) _).mpr hvalue
  · cases h

end Decimal
