import Mathlib

namespace BigEndian

open List

/-- The low `w` bytes of a number, most significant first. -/
def encode : Nat → Nat → List UInt8
  | 0, _ => []
  | w + 1, n => UInt8.ofNat (n / 256 ^ w) :: encode w n

def decode (bytes : List UInt8) : Nat :=
  bytes.foldl (fun acc b => acc * 256 + b.toNat) 0

/-- The bytes of `xs[start..start + len]`. -/
def slice (xs : List UInt8) (start len : Nat) : List UInt8 :=
  (xs.drop start).take len

@[simp] theorem length_encode (w n : Nat) : (encode w n).length = w := by
  induction w with
  | zero => rfl
  | succ w ih => simp [encode, ih]

theorem foldl_encode (w n acc : Nat) :
    (encode w n).foldl (fun acc b => acc * 256 + b.toNat) acc = acc * 256 ^ w + n % 256 ^ w := by
  induction w generalizing acc with
  | zero => simp [encode, Nat.mod_one]
  | succ w ih =>
    rw [encode, foldl_cons, ih, UInt8.toNat_ofNat']
    have hsplit : n % 256 ^ (w + 1) = 256 ^ w * (n / 256 ^ w % 256) + n % 256 ^ w := by
      rw [pow_succ, Nat.mod_mul, add_comm]
    rw [hsplit]
    ring

theorem decode_encode {w n : Nat} (h : n < 256 ^ w) : decode (encode w n) = n := by
  rw [decode, foldl_encode, Nat.mod_eq_of_lt h]
  simp

@[simp] theorem decode_encode_u32 (x : UInt32) : UInt32.ofNat (decode (encode 4 x.toNat)) = x := by
  rw [decode_encode x.toNat_lt, UInt32.ofNat_toNat]

@[simp] theorem decode_encode_u64 (x : UInt64) : UInt64.ofNat (decode (encode 8 x.toNat)) = x := by
  rw [decode_encode x.toNat_lt, UInt64.ofNat_toNat]

theorem foldl_decode (bytes : List UInt8) (acc : Nat) :
    bytes.foldl (fun acc b => acc * 256 + b.toNat) acc = acc * 256 ^ bytes.length + decode bytes := by
  unfold decode
  induction bytes generalizing acc with
  | nil => simp
  | cons b bytes ih =>
    rw [foldl_cons, foldl_cons, ih, ih (0 * 256 + b.toNat), length_cons, pow_succ]
    ring

theorem length_slice {xs : List UInt8} {start len : Nat} (h : start + len ≤ xs.length) :
    (slice xs start len).length = len := by
  rw [slice, length_take, length_drop]
  omega

theorem decode_lt (bytes : List UInt8) : decode bytes < 256 ^ bytes.length := by
  induction bytes with
  | nil => simp [decode]
  | cons b bytes ih =>
    have hb : b.toNat < 256 := b.toNat_lt
    rw [decode, foldl_cons, foldl_decode, length_cons, pow_succ]
    have : (0 * 256 + b.toNat) * 256 ^ bytes.length ≤ 255 * 256 ^ bytes.length :=
      Nat.mul_le_mul_right _ (by omega)
    omega

theorem encode_foldl (bytes : List UInt8) (acc : Nat) :
    encode bytes.length (bytes.foldl (fun acc b => acc * 256 + b.toNat) acc) = bytes := by
  induction bytes generalizing acc with
  | nil => rfl
  | cons b bytes ih =>
    rw [foldl_cons, length_cons, encode, ih]
    congr 1
    rw [foldl_decode, Nat.add_comm, Nat.add_mul_div_right _ _ (by positivity), Nat.div_eq_of_lt (decode_lt bytes),
      Nat.zero_add]
    simp

theorem encode_decode_u32 {bytes : List UInt8} (h : bytes.length = 4) :
    encode 4 (UInt32.ofNat (decode bytes)).toNat = bytes := by
  have hlt := decode_lt bytes
  rw [h] at hlt
  rw [UInt32.toNat_ofNat_of_lt' hlt]
  have := encode_foldl bytes 0
  rwa [h] at this

variable {a b : List UInt8} {len : Nat}

theorem slice_append {c : List UInt8} {start : Nat} (ha : a.length = start) (hb : b.length = len) :
    slice (a ++ (b ++ c)) start len = b := by
  subst ha hb
  simp [slice]

theorem slice_zero_append {c : List UInt8} (hb : b.length = len) : slice (b ++ c) 0 len = b :=
  slice_append (a := []) rfl hb

theorem slice_append_right {start : Nat} (h : a.length ≤ start) :
    slice (a ++ b) start len = slice b (start - a.length) len := by
  unfold slice
  rw [drop_append, drop_eq_nil_of_le h, nil_append]

theorem slice_self (h : a.length = len) : slice a 0 len = a := by
  subst h
  simp [slice]

theorem slice_succ_cons (x : UInt8) (xs : List UInt8) (start len : Nat) :
    slice (x :: xs) (start + 1) len = slice xs start len := rfl

end BigEndian
