import I2pr.TunnelCursor

namespace I2pr

open BigEndian Fallible List

theorem slice_append_drop (bytes : List UInt8) (start len : Nat) :
    slice bytes start len ++ bytes.drop (start + len) = bytes.drop start := by
  rw [slice, ← drop_drop, take_append_drop]

def FirstDelivery.control : FirstDelivery → UInt8
  | .localDelivery => 0b00000000
  | .tunnel => 0b00100000
  | .router => 0b01000000

variable {byte : UInt8} {record : FragmentDelivery} {bytes tail rest : List UInt8}

theorem parseFirstControl_sound {kind : FirstDelivery} (hhigh : byte &&& 0x80 = 0)
    (h : parseFirstControl byte = .ok kind) :
    byte = if byte &&& 0x08 ≠ 0 then kind.control ||| 0b00001000 else kind.control := by
  have hall : ∀ n : Fin 256, ∀ kind ∈ [FirstDelivery.localDelivery, .tunnel, .router],
      UInt8.ofNat n &&& 0x80 = 0 → parseFirstControl (UInt8.ofNat n) = .ok kind →
      UInt8.ofNat n = if UInt8.ofNat n &&& 0x08 ≠ 0 then kind.control ||| 0b00001000 else kind.control := by
    decide +kernel
  have hmem : kind ∈ [FirstDelivery.localDelivery, .tunnel, .router] := by cases kind <;> simp
  simpa using hall ⟨byte.toNat, byte.toNat_lt⟩ kind hmem (by simpa using hhigh) (by simpa using h)

theorem followOnControl_sound (hhigh : byte &&& 0x80 ≠ 0) :
    byte = followOnControl ((byte &&& 0x7E) >>> 1) (decide (byte &&& 0x01 ≠ 0)) := by
  have hall : ∀ n : Fin 256, UInt8.ofNat n &&& 0x80 ≠ 0 →
      UInt8.ofNat n = followOnControl ((UInt8.ofNat n &&& 0x7E) >>> 1) (decide (UInt8.ofNat n &&& 0x01 ≠ 0)) := by
    decide +kernel
  simpa using hall ⟨byte.toNat, byte.toNat_lt⟩ (by simpa using hhigh)

theorem parseDelivery_sound {kind : FirstDelivery} {consumed : Nat}
    {delivery : DeliveryInstruction} (h : parseDelivery kind (byte :: tail) = .ok (consumed, delivery)) :
    deliveryControl delivery = kind.control ∧ tail = appendDeliveryExtra delivery ++ tail.drop consumed := by
  cases kind with
  | localDelivery =>
    cases h
    exact ⟨rfl, rfl⟩
  | tunnel =>
    unfold parseDelivery at h
    by_cases hlen : (byte :: tail).length < 1 + 4 + 32
    · simp only [dif_pos hlen] at h
      cases h
    simp only [dif_neg hlen] at h
    obtain ⟨-, h⟩ := ite_error_eq_ok.mp h
    cases h
    rw [length_cons] at hlen
    have hid : (slice tail 0 4).length = 4 := length_slice (by omega)
    refine ⟨rfl, ?_⟩
    change tail = (encode 4 (UInt32.ofNat (decode (slice tail 0 4))).toNat ++ slice tail 4 32) ++ tail.drop (4 + 32)
    rw [encode_decode_u32 hid, append_assoc, slice_append_drop tail 4 32, slice_append_drop tail 0 4,
      drop_zero]
  | router =>
    unfold parseDelivery at h
    by_cases hlen : (byte :: tail).length < 1 + 32
    · simp only [dif_pos hlen] at h
      cases h
    simp only [dif_neg hlen] at h
    cases h
    exact ⟨rfl, (slice_append_drop tail 0 32).symm⟩

theorem parseBody_sound {header : Nat} {remaining body : List UInt8} (h2 : 2 ≤ header)
    (hlen : header ≤ remaining.length) (h : parseBody header remaining = .ok (body, rest)) :
    ∃ tail, encodeBody body = .ok tail ∧ remaining.drop (header - 2) = tail ++ rest := by
  unfold parseBody at h
  obtain ⟨-, h⟩ := ite_error_eq_ok.mp h
  obtain ⟨hfit, h⟩ := ite_error_eq_ok.mp h
  cases h
  have htwo : (slice remaining (header - 2) 2).length = 2 := length_slice (by omega)
  have hbound := decode_lt (slice remaining (header - 2) 2)
  have hencode := encode_foldl (slice remaining (header - 2) 2) 0
  rw [htwo] at hbound hencode
  have hbody : (slice remaining header (decode (slice remaining (header - 2) 2))).length =
      decode (slice remaining (header - 2) 2) := length_slice (by omega)
  refine ⟨_, encodeBody_ok (by rw [hbody]; exact hbound), ?_⟩
  rw [hbody, decode, hencode, append_assoc]
  rw [slice_append_drop, ← slice_append_drop remaining (header - 2) 2, Nat.sub_add_cancel h2]

theorem parseInitial_sound (hhigh : byte &&& 0x80 = 0) (h : parseInitial byte (byte :: tail) = .ok (record, rest)) :
    ∃ bytes, encodeRecord record = .ok bytes ∧ bytes ≠ [] ∧ byte :: tail = bytes ++ rest := by
  unfold parseInitial at h
  obtain ⟨kind, hkind, h⟩ := bind_eq_ok.mp h
  obtain ⟨⟨consumed, delivery⟩, hdelivery, h⟩ := bind_eq_ok.mp h
  obtain ⟨hcontrol, htail⟩ := parseDelivery_sound hdelivery
  have hbyte := parseFirstControl_sound hhigh hkind
  have hdrop : (byte :: tail).drop (1 + consumed) = tail.drop consumed := by
    rw [Nat.add_comm, drop_succ_cons]
  dsimp only at h
  rw [hdrop] at h
  by_cases hbit : byte &&& 0x08 ≠ 0
  · rw [if_pos hbit] at h hbyte
    obtain ⟨hlen, h⟩ := ite_error_eq_ok.mp h
    obtain ⟨-, h⟩ := ite_error_eq_ok.mp h
    obtain ⟨⟨body, after⟩, hbody, h⟩ := bind_eq_ok.mp h
    cases h
    obtain ⟨coded, hcoded, hsplit⟩ := parseBody_sound (by omega) (by omega) hbody
    have hid : (slice (tail.drop consumed) 0 4).length = 4 := length_slice (by omega)
    refine ⟨_, by simp only [encodeRecord, hcoded]; rfl, cons_ne_nil _ _, ?_⟩
    rw [hcontrol, ← hbyte, encode_decode_u32 hid, cons_append, append_assoc, append_assoc, ← hsplit,
      slice_append_drop, drop_zero, ← htail]
  · rw [if_neg hbit] at h hbyte
    obtain ⟨hlen, h⟩ := ite_error_eq_ok.mp h
    obtain ⟨⟨body, after⟩, hbody, h⟩ := bind_eq_ok.mp h
    cases h
    obtain ⟨coded, hcoded, hsplit⟩ := parseBody_sound (by omega) (by omega) hbody
    refine ⟨_, by simp only [encodeRecord, hcoded]; rfl, cons_ne_nil _ _, ?_⟩
    rw [hcontrol, ← hbyte, cons_append, append_assoc, ← hsplit, drop_zero, ← htail]

theorem parseFollowOn_sound {observedMax highest : UInt8}
    (hhigh : byte &&& 0x80 ≠ 0) (h : parseFollowOn byte observedMax (byte :: tail) = .ok (record, highest, rest)) :
    ∃ bytes, encodeRecord record = .ok bytes ∧ bytes ≠ [] ∧ byte :: tail = bytes ++ rest := by
  unfold parseFollowOn at h
  obtain ⟨-, h⟩ := ite_error_eq_ok.mp h
  obtain ⟨-, h⟩ := ite_error_eq_ok.mp h
  obtain ⟨hlen, h⟩ := ite_error_eq_ok.mp h
  obtain ⟨-, h⟩ := ite_error_eq_ok.mp h
  obtain ⟨⟨body, after⟩, hbody, h⟩ := bind_eq_ok.mp h
  cases h
  obtain ⟨coded, hcoded, hsplit⟩ := parseBody_sound (by omega) (by omega) hbody
  rw [length_cons] at hlen
  have hid : (slice tail 0 4).length = 4 := length_slice (by omega)
  have hdrop : tail.drop 4 = coded ++ rest := hsplit
  refine ⟨_, by simp only [encodeRecord, hcoded]; rfl, cons_ne_nil _ _, ?_⟩
  rw [← followOnControl_sound hhigh, slice_succ_cons, encode_decode_u32 hid, cons_append, append_assoc,
    ← hdrop, slice_append_drop tail 0 4, drop_zero]

def Encodes (records : List FragmentDelivery) (bytes : List UInt8) : Prop :=
  ∃ chunks, records.mapM encodeRecord = .ok chunks ∧ chunks.flatten = bytes

theorem Encodes.cons {records : List FragmentDelivery}
    (h : encodeRecord record = .ok bytes) (hrest : Encodes records rest) : Encodes (record :: records) (bytes ++ rest) := by
  obtain ⟨chunks, hchunks, rfl⟩ := hrest
  refine ⟨bytes :: chunks, ?_, rfl⟩
  rw [mapM_cons, h, hchunks]
  rfl

theorem parseRecords_sound {fuel : Nat} {observedFirst : Bool} {observedMax : UInt8}
    {records : List FragmentDelivery} (hfuel : bytes.length ≤ fuel)
    (h : parseRecords fuel bytes observedFirst observedMax = .ok records) : Encodes records bytes := by
  induction fuel generalizing bytes observedFirst observedMax records with
  | zero =>
    cases h
    exact ⟨[], rfl, (length_eq_zero_iff.mp (Nat.le_zero.mp hfuel)).symm⟩
  | succ fuel ih =>
    cases bytes with
    | nil =>
      cases h
      exact ⟨[], rfl, rfl⟩
    | cons byte tail =>
      have hcons {record : FragmentDelivery} {rest : List UInt8} {others : List FragmentDelivery} {first : Bool}
          {highest : UInt8} (hrecord : ∃ bytes, encodeRecord record = .ok bytes ∧ bytes ≠ [] ∧ byte :: tail = bytes ++ rest)
          (hothers : parseRecords fuel rest first highest = .ok others) : Encodes (record :: others) (byte :: tail) := by
        obtain ⟨taken, htaken, hne, hsplit⟩ := hrecord
        -- A record takes at least one byte, so the fuel left is enough for the bytes left.
        have hpos := length_pos_iff.mpr hne
        have hlength := congrArg length hsplit
        rw [length_append] at hlength
        rw [hsplit]
        exact .cons htaken (ih (by omega) hothers)
      rw [parseRecords] at h
      by_cases hhigh : byte &&& 0x80 = 0
      · rw [if_pos hhigh] at h
        obtain ⟨-, h⟩ := ite_error_eq_ok.mp h
        obtain ⟨⟨record, rest⟩, hrecord, h⟩ := bind_eq_ok.mp h
        obtain ⟨others, hothers, h⟩ := bind_eq_ok.mp h
        cases h
        exact hcons (parseInitial_sound hhigh hrecord) hothers
      · rw [if_neg hhigh] at h
        obtain ⟨⟨record, highest, rest⟩, hrecord, h⟩ := bind_eq_ok.mp h
        obtain ⟨others, hothers, h⟩ := bind_eq_ok.mp h
        cases h
        exact hcons (parseFollowOn_sound hhigh hrecord) hothers

/-- The first zero byte at or after the checksum. -/
def IsDelimiter (plaintext : List UInt8) (index : Nat) : Prop :=
  checksumLen ≤ index ∧ plaintext[index]? = some 0 ∧
    ∀ earlier, checksumLen ≤ earlier → earlier < index → plaintext[earlier]? ≠ some 0

theorem locateDelimiter_sound {plaintext : TunnelPayload} {index : Nat} {postZero : List UInt8}
    (h : locateDelimiter plaintext = .ok (index, postZero)) :
    IsDelimiter plaintext.toList index ∧ postZero = plaintext.toList.drop (index + 1) := by
  unfold locateDelimiter at h
  split at h
  next found hfound =>
    cases h
    obtain ⟨hlt, hzero, hbefore⟩ := List.findIdx?_eq_some_iff_getElem.mp hfound
    refine ⟨⟨Nat.le_add_right _ _, ?_, fun earlier hle hearlier heq => ?_⟩, rfl⟩
    · rw [← List.getElem?_drop, List.getElem?_eq_getElem hlt]
      simpa using hzero
    · have hnot := hbefore (earlier - checksumLen) (by omega)
      rw [List.getElem_drop] at hnot
      obtain ⟨hin, hval⟩ := List.getElem?_eq_some_iff.mp heq
      simp only [Nat.add_sub_cancel' hle, hval] at hnot
      exact hnot rfl
  · cases h

theorem foldl_or_eq_zero {diff : UInt8} (h : bytes.foldl (· ||| ·) diff = 0) : diff = 0 ∧ ∀ byte ∈ bytes, byte = 0 := by
  induction bytes generalizing diff with
  | nil => exact ⟨h, by simp⟩
  | cons byte bytes ih =>
    obtain ⟨hor, hbytes⟩ := ih h
    rw [UInt8.or_eq_zero_iff] at hor
    exact ⟨hor.1, forall_mem_cons.mpr ⟨hor.2, hbytes⟩⟩

theorem eq_of_zipWith_xor {a b : List UInt8} (hlen : a.length = b.length)
    (h : ∀ byte ∈ a.zipWith (· ^^^ ·) b, byte = 0) : a = b := by
  induction a generalizing b with
  | nil => exact (length_eq_zero_iff.mp hlen.symm).symm
  | cons x xs ih =>
    cases b with
    | nil => cases hlen
    | cons y ys =>
      rw [zipWith_cons_cons, forall_mem_cons] at h
      rw [UInt8.xor_eq_zero_iff.mp h.1, ih (Nat.succ.inj hlen) h.2]

theorem verifyChecksum_sound {sha256 : List UInt8 → Hash} {checksum postZero : List UInt8} {iv : TunnelIv}
    (h : verifyChecksum sha256 checksum postZero iv = .ok ()) :
    checksum = (sha256 (postZero ++ iv.toList)).toList.take checksumLen := by
  unfold verifyChecksum at h
  obtain ⟨hlen, h⟩ := ite_error_eq_ok.mp h
  obtain ⟨hdiff, -⟩ := ite_error_eq_ok.mp h
  have hlen : checksum.length = checksumLen := not_not.mp hlen
  refine eq_of_zipWith_xor ?_ (foldl_or_eq_zero (not_not.mp hdiff)).2
  rw [hlen, length_take, List.Vector.toList_length]
  rfl

/-- What an accepted cell is: after the delimiter the encodings of the records, before it their checksum. -/
def AcceptedAs (sha256 : List UInt8 → Hash) (iv : TunnelIv) (plaintext : TunnelPayload) :
    Except TunnelMessageError (List FragmentDelivery) → Prop
  | .error _ => True
  | .ok records => ∃ index, IsDelimiter plaintext.toList index ∧
      Encodes records (plaintext.toList.drop (index + 1)) ∧
      plaintext.toList.take checksumLen =
        (sha256 (plaintext.toList.drop (index + 1) ++ iv.toList)).toList.take checksumLen

/-- On every plaintext the parser ends without an index or a slice out of range, and what it accepts re-encodes to the
bytes it read. -/
theorem cursor_parse_sound (sha256 : List UInt8 → Hash) (iv : TunnelIv) (plaintext : TunnelPayload) :
    ∃ result, TunnelCursor.parse sha256 iv plaintext = Checked.ofExcept result ∧
      AcceptedAs sha256 iv plaintext result := by
  refine ⟨_, TunnelCursor.parse_eq sha256 iv plaintext, ?_⟩
  cases hparse : parse sha256 iv plaintext with
  | error error => exact trivial
  | ok records =>
    unfold parse at hparse
    obtain ⟨⟨index, postZero⟩, hlocate, hparse⟩ := bind_eq_ok.mp hparse
    obtain ⟨⟨⟩, hchecksum, hrecords⟩ := bind_eq_ok.mp hparse
    obtain ⟨hdelimiter, rfl⟩ := locateDelimiter_sound hlocate
    exact ⟨index, hdelimiter, parseRecords_sound le_rfl hrecords, verifyChecksum_sound hchecksum⟩

end I2pr
