import I2pr.TunnelCells
import I2pr.Lib.Checked

namespace I2pr

open BigEndian List
open Checked hiding slice

/-- The parser with every index and slice checked, over the cursor of the source. -/
abbrev CheckedParse (A : Type) := Checked TunnelMessageError A

namespace TunnelCursor

def readU16 (bytes : List UInt8) (start : Nat) : CheckedParse Nat := do
  let a ← Checked.index bytes start
  let b ← Checked.index bytes (start + 1)
  pure (decode [a, b])

def readU32 (bytes : List UInt8) (start : Nat) : CheckedParse UInt32 := do
  let a ← Checked.index bytes start
  let b ← Checked.index bytes (start + 1)
  let c ← Checked.index bytes (start + 2)
  let d ← Checked.index bytes (start + 3)
  pure (UInt32.ofNat (decode [a, b, c, d]))

/-- `copy_from_slice` into an array of 32 bytes, which panics on any other length. -/
def readHash (bytes : List UInt8) (start : Nat) : CheckedParse Hash := do
  let chunk ← Checked.slice bytes start (start + 32)
  if h : chunk.length = 32 then pure ⟨chunk, h⟩ else Checked.panics

def delivery (kind : FirstDelivery) (remaining : List UInt8) : CheckedParse (Nat × DeliveryInstruction) :=
  match kind with
  | .localDelivery => pure (0, .localDelivery)
  | .tunnel =>
    if remaining.length < 1 + 4 + 32 then
      Checked.fail (.fragmentLengthExceedsRemaining (1 + 4 + 32) remaining.length)
    else do
      let tunnelId ← readU32 remaining 1
      if tunnelId = 0 then Checked.fail .zeroTunnelId
      else do
        let gateway ← readHash remaining 5
        pure (4 + 32, .tunnel tunnelId gateway)
  | .router =>
    if remaining.length < 1 + 32 then Checked.fail (.fragmentLengthExceedsRemaining (1 + 32) remaining.length)
    else do
      let router ← readHash remaining 1
      pure (32, .router router)

/-- The body of a record whose `header` bytes end in the two length bytes, and the bytes the record takes. -/
def body (header : Nat) (remaining : List UInt8) : CheckedParse (List UInt8 × Nat) := do
  let fragLen ← readU16 remaining (header - 2)
  if fragLen = 0 then Checked.fail .zeroFragmentLength
  else if remaining.length < fragLen + header then
    Checked.fail (.fragmentLengthExceedsRemaining (fragLen + header) remaining.length)
  else do
    let bytes ← Checked.slice remaining header (header + fragLen)
    pure (bytes, header + fragLen)

/-- An initial record and the cursor after it. -/
def initial (plaintext : List UInt8) (cursor : Nat) (firstByte : UInt8) (remaining : List UInt8) :
    CheckedParse (FragmentDelivery × Nat) := do
  let kind ← Checked.ofExcept (parseFirstControl firstByte)
  let (consumed, delivery) ← delivery kind remaining
  let cursor := cursor + (1 + consumed)
  let remaining ← Checked.sliceFrom plaintext cursor
  if firstByte &&& 0x08 ≠ 0 then
    if remaining.length < 4 + 2 then Checked.fail (.fragmentLengthExceedsRemaining (4 + 2) remaining.length)
    else do
      let messageId ← readU32 remaining 0
      if messageId = 0 then Checked.fail .zeroMessageId
      else do
        let (bytes, taken) ← body 6 remaining
        pure (⟨some delivery, .first messageId bytes⟩, cursor + taken)
  else if remaining.length < 2 then Checked.fail (.fragmentLengthExceedsRemaining 2 remaining.length)
  else do
    let (bytes, taken) ← body 2 remaining
    pure (⟨some delivery, .unfragmented bytes⟩, cursor + taken)

/-- A follow-on record, the new maximum of the sequences seen and the cursor after it. -/
def followOn (cursor : Nat) (firstByte observedMax : UInt8) (remaining : List UInt8) :
    CheckedParse (FragmentDelivery × UInt8 × Nat) :=
  let sequence := (firstByte &&& 0x7E) >>> 1
  let isLast := decide (firstByte &&& 0x01 ≠ 0)
  if sequence = 0 ∨ 63 < sequence then Checked.fail (.fragmentSequenceOutOfRange sequence)
  else if isLast ∧ sequence < observedMax then Checked.fail (.lastBelowObservedMax sequence observedMax)
  else if remaining.length < 1 + 4 + 2 then
    Checked.fail (.fragmentLengthExceedsRemaining (1 + 4 + 2) remaining.length)
  else do
    let messageId ← readU32 remaining 1
    if messageId = 0 then Checked.fail .zeroMessageId
    else do
      let (bytes, taken) ← body 7 remaining
      pure (⟨none, .followOn messageId sequence isLast bytes⟩, max observedMax sequence, cursor + taken)

/-- The record loop; it panics when the turns run out. -/
def records (plaintext : List UInt8) :
    Nat → Nat → Bool → UInt8 → List UInt8 → List FragmentDelivery → CheckedParse (List FragmentDelivery)
  | 0, _, _, _, _, _ => Checked.panics
  | turns + 1, cursor, observedFirst, observedMax, remaining, collected =>
    if remaining = [] then pure collected
    else do
      let firstByte ← Checked.index remaining 0
      if firstByte &&& 0x80 = 0 then
        if observedFirst then Checked.fail (.reservedControlBits 0)
        else do
          let (record, cursor) ← initial plaintext cursor firstByte remaining
          let remaining ← Checked.sliceFrom plaintext cursor
          records plaintext turns cursor true observedMax remaining (collected ++ [record])
      else do
        let (record, observedMax, cursor) ← followOn cursor firstByte observedMax remaining
        let remaining ← Checked.sliceFrom plaintext cursor
        records plaintext turns cursor observedFirst observedMax remaining (collected ++ [record])

/-- The search for the delimiter, from an index on. -/
def locateDelimiter (plaintext : List UInt8) : Nat → Nat → CheckedParse (Nat × List UInt8)
  | 0, _ => Checked.fail .delimiterMissing
  | left + 1, index => do
    let byte ← Checked.index plaintext index
    if byte = 0 then do
      let postZero ← Checked.sliceFrom plaintext (index + 1)
      pure (index, postZero)
    else locateDelimiter plaintext left (index + 1)

/-- The differences of the first bytes, collected. -/
def checksumDiff (checksum digest : List UInt8) : Nat → Nat → UInt8 → CheckedParse UInt8
  | 0, _, diff => pure diff
  | left + 1, index, diff => do
    let a ← Checked.index checksum index
    let b ← Checked.index digest index
    checksumDiff checksum digest left (index + 1) (diff ||| (a ^^^ b))

variable (sha256 : List UInt8 → Hash)

def verifyChecksum (checksum postZero : List UInt8) (iv : TunnelIv) : CheckedParse Unit :=
  if checksum.length ≠ checksumLen then Checked.fail (.payloadLength checksum.length checksumLen)
  else do
    let diff ← checksumDiff checksum (sha256 (postZero ++ iv.toList)).toList checksumLen 0 0
    if diff ≠ 0 then Checked.fail .checksumMismatch else pure ()

def parse (iv : TunnelIv) (plaintext : TunnelPayload) : CheckedParse (List FragmentDelivery) := do
  let (index, postZero) ← locateDelimiter plaintext.toList (maxPlaintextDataBytes - checksumLen) checksumLen
  let checksum ← Checked.slice plaintext.toList 0 checksumLen
  verifyChecksum sha256 checksum postZero iv
  let cursor := index + 1
  let remaining ← Checked.sliceFrom plaintext.toList cursor
  records plaintext.toList (maxPlaintextDataBytes + 1) cursor false 0 remaining []

variable {bytes plaintext : List UInt8} {start cursor : Nat}

theorem slice_four (h : start + 4 ≤ bytes.length) :
    slice bytes start 4 = [bytes[start], bytes[start + 1], bytes[start + 2], bytes[start + 3]] := by
  rw [slice, drop_eq_getElem_cons (by omega), drop_eq_getElem_cons (by omega),
    drop_eq_getElem_cons (by omega), drop_eq_getElem_cons (by omega)]
  rfl

theorem slice_two (h : start + 2 ≤ bytes.length) : slice bytes start 2 = [bytes[start], bytes[start + 1]] := by
  rw [slice, drop_eq_getElem_cons (by omega), drop_eq_getElem_cons (by omega)]
  rfl

theorem readU32_eq (h : start + 4 ≤ bytes.length) :
    readU32 bytes start = pure (UInt32.ofNat (decode (slice bytes start 4))) := by
  rw [slice_four h, readU32, index_eq (by omega), index_eq (by omega), index_eq (by omega),
    index_eq (by omega)]
  rfl

theorem readU16_eq (h : start + 2 ≤ bytes.length) : readU16 bytes start = pure (decode (slice bytes start 2)) := by
  rw [slice_two h, readU16, index_eq (by omega), index_eq (by omega)]
  rfl

theorem readHash_eq (h : start + 32 ≤ bytes.length) :
    readHash bytes start = pure ⟨slice bytes start 32, length_slice h⟩ := by
  have hslice : (bytes.drop start).take (start + 32 - start) = slice bytes start 32 := by
    rw [Nat.add_sub_cancel_left, slice]
  rw [readHash, slice_eq ⟨by omega, h⟩, hslice, pure_bind, dif_pos (length_slice h)]

/-- The addressing bytes are in range. -/
theorem delivery_simulates (kind : FirstDelivery) {remaining : List UInt8} (hne : 1 ≤ remaining.length) :
    Checked.Simulates (fun a b => a = b ∧ 1 + a.1 ≤ remaining.length) (delivery kind remaining)
      (parseDelivery kind remaining) := by
  cases kind with
  | localDelivery => exact .pure ⟨rfl, hne⟩
  | tunnel =>
    unfold delivery parseDelivery
    by_cases hlen : remaining.length < 1 + 4 + 32
    · simp only [if_pos hlen, dif_pos hlen]
      exact .fail _
    simp only [if_neg hlen, dif_neg hlen]
    rw [readU32_eq (by omega), pure_bind]
    refine .ite (fun _ => .fail _) fun _ => ?_
    rw [readHash_eq (by omega)]
    exact .pure_bind (.pure ⟨rfl, by omega⟩)
  | router =>
    unfold delivery parseDelivery
    by_cases hlen : remaining.length < 1 + 32
    · simp only [if_pos hlen, dif_pos hlen]
      exact .fail _
    simp only [if_neg hlen, dif_neg hlen]
    rw [readHash_eq (by omega)]
    exact .pure_bind (.pure ⟨rfl, by omega⟩)

theorem body_simulates {header : Nat} {remaining : List UInt8} (h2 : 2 ≤ header) (hlen : header ≤ remaining.length) :
    Checked.Simulates
      (fun a b => a.1 = b.1 ∧ b.2 = remaining.drop a.2 ∧ header < a.2 ∧ a.2 ≤ remaining.length)
      (body header remaining) (parseBody header remaining) := by
  unfold body parseBody
  rw [readU16_eq (by omega), pure_bind]
  refine .ite (fun _ => .fail _) fun hpos => .ite (fun _ => .fail _) fun hfit => ?_
  rw [slice_eq ⟨by omega, by omega⟩, pure_bind, Nat.add_sub_cancel_left]
  exact .pure ⟨rfl, rfl, by omega, by omega⟩

/-- The cursor moves forward and stays in the plaintext, and what is left is what stands after it. -/
def Advances (plaintext : List UInt8) (cursor cursor' : Nat) (rest : List UInt8) : Prop :=
  cursor < cursor' ∧ cursor' ≤ plaintext.length ∧ rest = plaintext.drop cursor'

theorem Advances.of_take {rest : List UInt8} {taken : Nat} (hstart : start ≤ cursor)
    (hrest : rest = (plaintext.drop cursor).drop taken) (hpos : 0 < taken)
    (hfit : taken ≤ (plaintext.drop cursor).length) : Advances plaintext start (cursor + taken) rest := by
  rw [length_drop] at hfit
  exact ⟨by omega, by omega, hrest.trans drop_drop⟩

theorem initial_simulates (firstByte : UInt8) (hc : cursor < plaintext.length) :
    Checked.Simulates (fun a b => a.1 = b.1 ∧ Advances plaintext cursor a.2 b.2)
      (initial plaintext cursor firstByte (plaintext.drop cursor)) (parseInitial firstByte (plaintext.drop cursor)) := by
  unfold initial parseInitial
  refine .bind (.ofExcept _) ?_
  rintro kind _ rfl
  refine .bind (delivery_simulates kind (by rw [length_drop]; omega)) ?_
  rintro ⟨consumed, delivery⟩ _ ⟨rfl, hconsumed⟩
  rw [length_drop] at hconsumed
  dsimp only
  rw [sliceFrom_eq (by omega), pure_bind, drop_drop]
  refine .ite (fun _ => .ite (fun _ => .fail _) fun hlen => ?_) fun _ => .ite (fun _ => .fail _) fun hlen => ?_
  · rw [readU32_eq (by omega), pure_bind]
    refine .ite (fun _ => .fail _) fun _ => .bind (body_simulates (by omega) (by omega)) ?_
    rintro ⟨bytes, taken⟩ ⟨_, rest⟩ ⟨rfl, hrest, hlt, hle⟩
    exact .pure ⟨rfl, .of_take (by omega) hrest (by omega) hle⟩
  · refine .bind (body_simulates (by omega) (by omega)) ?_
    rintro ⟨bytes, taken⟩ ⟨_, rest⟩ ⟨rfl, hrest, hlt, hle⟩
    exact .pure ⟨rfl, .of_take (by omega) hrest (by omega) hle⟩

theorem followOn_simulates (plaintext : List UInt8) (cursor : Nat) (firstByte observedMax : UInt8) :
    Checked.Simulates (fun a b => a.1 = b.1 ∧ a.2.1 = b.2.1 ∧ Advances plaintext cursor a.2.2 b.2.2)
      (followOn cursor firstByte observedMax (plaintext.drop cursor))
      (parseFollowOn firstByte observedMax (plaintext.drop cursor)) := by
  unfold followOn parseFollowOn
  refine .ite (fun _ => .fail _) fun _ => .ite (fun _ => .fail _) fun _ => .ite (fun _ => .fail _) fun hlen => ?_
  rw [readU32_eq (by omega), pure_bind]
  refine .ite (fun _ => .fail _) fun _ => .bind (body_simulates (by omega) (by omega)) ?_
  rintro ⟨bytes, taken⟩ ⟨_, rest⟩ ⟨rfl, hrest, hlt, hle⟩
  exact .pure ⟨rfl, rfl, .of_take le_rfl hrest (by omega) hle⟩

/-- With a turn for each byte left, the loop ends and every read is in range. -/
theorem records_simulates {turns fuel : Nat} (observedFirst : Bool) (observedMax : UInt8)
    (collected : List FragmentDelivery) (hc : cursor ≤ plaintext.length) (hturns : plaintext.length - cursor < turns)
    (hfuel : plaintext.length - cursor ≤ fuel) :
    Checked.Simulates (fun all new => all = collected ++ new)
      (records plaintext turns cursor observedFirst observedMax (plaintext.drop cursor) collected)
      (parseRecords fuel (plaintext.drop cursor) observedFirst observedMax) := by
  induction turns generalizing fuel cursor observedFirst observedMax collected with
  | zero => omega
  | succ turns ih =>
    rw [records]
    by_cases hend : cursor = plaintext.length
    · have hnil : plaintext.drop cursor = [] := drop_eq_nil_of_le (by omega)
      rw [if_pos hnil, hnil]
      cases fuel with
      | zero => exact .pure (append_nil _).symm
      | succ fuel => exact .pure (append_nil _).symm
    · have hlt : cursor < plaintext.length := by omega
      have hcons := drop_eq_getElem_cons hlt
      have hinitial := initial_simulates plaintext[cursor] hlt
      have hfollow := followOn_simulates plaintext cursor plaintext[cursor] observedMax
      obtain ⟨fuel, rfl⟩ : ∃ n, fuel = n + 1 := ⟨fuel - 1, by omega⟩
      rw [hcons] at hinitial hfollow ⊢
      rw [if_neg (cons_ne_nil _ _), index_eq (Nat.succ_pos _), pure_bind, parseRecords]
      refine .ite (fun _ => .ite (fun _ => .fail _) fun _ => .bind hinitial ?_) fun _ => .bind hfollow ?_
      · rintro ⟨record, cursor'⟩ ⟨_, _⟩ ⟨rfl, hadv, hle, rfl⟩
        dsimp only at hadv hle ⊢
        rw [sliceFrom_eq hle, pure_bind]
        have hrest := ih true observedMax (collected ++ [record]) hle (by omega) (show _ ≤ fuel by omega)
        exact hrest.map_right fun all new hall => by rw [hall, append_assoc, singleton_append]
      · rintro ⟨record, highest, cursor'⟩ ⟨_, _, _⟩ ⟨rfl, rfl, hadv, hle, rfl⟩
        dsimp only at hadv hle ⊢
        rw [sliceFrom_eq hle, pure_bind]
        have hrest := ih observedFirst highest (collected ++ [record]) hle (by omega) (show _ ≤ fuel by omega)
        exact hrest.map_right fun all new hall => by rw [hall, append_assoc, singleton_append]

theorem locateDelimiter_eq {left index : Nat} (h : index + left = plaintext.length) :
    locateDelimiter plaintext left index =
      match (plaintext.drop index).findIdx? (· = 0) with
      | some found => pure (index + found, plaintext.drop (index + found + 1))
      | none => fail .delimiterMissing := by
  induction left generalizing index with
  | zero => rw [drop_eq_nil_of_le (by omega)]; rfl
  | succ left ih =>
    have hlt : index < plaintext.length := by omega
    rw [locateDelimiter, index_eq hlt, pure_bind, drop_eq_getElem_cons hlt, findIdx?_cons]
    by_cases hzero : plaintext[index] = 0
    · rw [if_pos hzero, sliceFrom_eq (by omega), pure_bind]
      simp [hzero]
    rw [if_neg hzero, ih (by omega)]
    simp only [hzero, decide_false, Bool.false_eq_true, if_false]
    cases (plaintext.drop (index + 1)).findIdx? (· = 0) with
    | none => rfl
    | some found =>
      simp only [Option.map_some, Nat.add_assoc, Nat.add_comm 1 found]

theorem checksumDiff_eq {checksum digest : List UInt8} {left index : Nat} (diff : UInt8)
    (hchecksum : index + left ≤ checksum.length) (hdigest : index + left ≤ digest.length) :
    checksumDiff checksum digest left index diff =
      pure ((((checksum.drop index).take left).zipWith (· ^^^ ·) ((digest.drop index).take left)).foldl (· ||| ·) diff) := by
  induction left generalizing index diff with
  | zero => rfl
  | succ left ih =>
    rw [checksumDiff, index_eq (by omega), pure_bind, index_eq (by omega), pure_bind,
      ih _ (by omega) (by omega), drop_eq_getElem_cons (show index < checksum.length by omega),
      drop_eq_getElem_cons (show index < digest.length by omega)]
    rfl

theorem verifyChecksum_eq (checksum postZero : List UInt8) (iv : TunnelIv) :
    verifyChecksum sha256 checksum postZero iv =
      ofExcept (I2pr.verifyChecksum sha256 checksum postZero iv) := by
  apply Checked.Simulates.eq_ofExcept
  unfold verifyChecksum I2pr.verifyChecksum
  refine .ite (fun _ => .fail _) fun hlen => ?_
  have hlen : checksum.length = checksumLen := not_not.mp hlen
  have hdigest : 0 + checksumLen ≤ (sha256 (postZero ++ iv.toList)).toList.length := by
    rw [List.Vector.toList_length]
    decide
  rw [checksumDiff_eq 0 (by omega) hdigest, pure_bind, drop_zero, drop_zero,
    take_of_length_le hlen.le]
  exact .ite (fun _ => .fail _) fun _ => .pure rfl

/-- The parser never reads out of range, it ends, and it returns what `parse` returns. -/
theorem parse_eq (iv : TunnelIv) (plaintext : TunnelPayload) :
    parse sha256 iv plaintext = ofExcept (I2pr.parse sha256 iv plaintext) := by
  have hlen : plaintext.toList.length = maxPlaintextDataBytes := plaintext.toList_length
  apply Checked.Simulates.eq_ofExcept
  unfold parse I2pr.parse I2pr.locateDelimiter
  rw [locateDelimiter_eq (by rw [hlen]; rfl)]
  cases hfound : (plaintext.toList.drop checksumLen).findIdx? (· = 0) with
  | none => exact .fail _
  | some found =>
    have hbound := (findIdx?_eq_some_iff_findIdx_eq.mp hfound).1
    rw [length_drop] at hbound
    have hcursor : checksumLen + found + 1 ≤ plaintext.toList.length := by omega
    dsimp only
    rw [Fallible.ok_bind]
    refine .pure_bind ?_
    rw [slice_eq ⟨by omega, by rw [hlen]; decide⟩]
    refine .pure_bind ?_
    rw [verifyChecksum_eq, drop_zero, Nat.sub_zero]
    refine .bind (.ofExcept _) ?_
    rintro _ _ rfl
    rw [sliceFrom_eq hcursor]
    refine .pure_bind ?_
    exact records_simulates false 0 [] hcursor (by omega) (by rw [length_drop])

end TunnelCursor

end I2pr
