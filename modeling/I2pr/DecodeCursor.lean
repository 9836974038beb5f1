import I2pr.I2npEnvelope
import I2pr.Lib.Fallible

namespace I2pr

open BigEndian

structure DecodeCursor where
  input : List UInt8
  offset : Nat

namespace DecodeCursor

def new (input : List UInt8) (maximum : Nat) : Except CodecError DecodeCursor :=
  if maximum < input.length then .error (.lengthExceeded 0 input.length maximum "cursor input")
  else .ok ⟨input, 0⟩

variable (cursor : DecodeCursor)

def remaining : Nat :=
  cursor.input.length - cursor.offset

def take (length : Nat) : Except CodecError (List UInt8 × DecodeCursor) :=
  if cursor.input.length < cursor.offset + length then .error (.truncated cursor.offset length cursor.remaining)
  else .ok (slice cursor.input cursor.offset length, { cursor with offset := cursor.offset + length })

def readU8 : Except CodecError (UInt8 × DecodeCursor) := do
  let (bytes, cursor) ← cursor.take 1
  .ok (bytes.headD 0, cursor)

def readU16 : Except CodecError (Nat × DecodeCursor) := do
  let (bytes, cursor) ← cursor.take 2
  .ok (decode bytes, cursor)

def readU32 : Except CodecError (Nat × DecodeCursor) := do
  let (bytes, cursor) ← cursor.take 4
  .ok (decode bytes, cursor)

end DecodeCursor

theorem EncodeBuffer.write_eq_ok {maximum : Nat} {output bytes : List UInt8}
    (h : output.length + bytes.length ≤ maximum) : write maximum output bytes = .ok (output ++ bytes) :=
  if_neg (Nat.not_lt.mpr h)

theorem EncodeBuffer.foldlM_write_eq_ok {maximum : Nat} {output : List UInt8} {fields : List (List UInt8)}
    (h : output.length + fields.flatten.length ≤ maximum) :
    fields.foldlM (write maximum) output = .ok (output ++ fields.flatten) := by
  induction fields generalizing output with
  | nil => rw [List.flatten_nil, List.append_nil]; rfl
  | cons field fields ih =>
    rw [List.flatten_cons, List.length_append] at h
    rw [List.foldlM_cons]
    refine Fallible.bind_eq_ok.mpr ⟨_, write_eq_ok (by omega), ?_⟩
    rw [ih (by rw [List.length_append]; omega), List.flatten_cons, List.append_assoc]

end I2pr
