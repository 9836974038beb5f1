import I2pr.TunnelParser

namespace I2pr

open BigEndian List

def maxPaddingRetryPerByte : Nat := 32

/-- A random source with explicit state; filling a buffer may fail. -/
structure CryptoRng (σ : Type) where
  tryFillBytes : (n : Nat) → σ → Option (List.Vector UInt8 n × σ)

namespace CryptoRng

variable {σ : Type} (rng : CryptoRng σ)

/-- One of the next `n` single-byte draws succeeds with a nonzero byte, and none before it fails. -/
def NonzeroWithin : Nat → σ → Prop
  | 0, _ => False
  | n + 1, s => ∃ byte s', rng.tryFillBytes 1 s = some (byte, s') ∧ (byte.head ≠ 0 ∨ NonzeroWithin n s')

structure Reliable : Prop where
  fills : ∀ n s, ∃ bytes s', rng.tryFillBytes n s = some (bytes, s')
  nonzero : ∀ s, rng.NonzeroWithin maxPaddingRetryPerByte s

end CryptoRng

section Padding

variable {σ : Type} (rng : CryptoRng σ)

/-- The `while` loop on one slot, with the retries it has left; `attempts` counts over all slots. -/
def resampleSlot (maxTotal : Nat) : Nat → UInt8 → Nat → σ → Except TunnelMessageError (UInt8 × Nat × σ)
  | left, slot, attempts, s =>
    if slot ≠ 0 then .ok (slot, attempts, s)
    else match left with
      | 0 => .error (.paddingRetryExhausted (max maxPaddingRetryPerByte attempts))
      | left + 1 =>
        if maxTotal ≤ attempts then
          .error (.paddingRetryExhausted (max (maxPaddingRetryPerByte - (left + 1)) attempts))
        else match rng.tryFillBytes 1 s with
          | none => .error .randomnessUnavailable
          | some (byte, s) => resampleSlot maxTotal left byte.head (attempts + 1) s

def fillSlots (maxTotal : Nat) : {n : Nat} → List.Vector UInt8 n → Nat → σ →
    Except TunnelMessageError (List.Vector UInt8 n × σ)
  | 0, buf, _, s => .ok (buf, s)
  | _ + 1, buf, attempts, s => do
    let (slot, attempts, s) ← resampleSlot rng maxTotal maxPaddingRetryPerByte buf.head attempts s
    let (rest, s) ← fillSlots maxTotal buf.tail attempts s
    .ok (slot ::ᵥ rest, s)

def fillNonzero (n : Nat) (s : σ) : Except TunnelMessageError (List.Vector UInt8 n × σ) :=
  if n = 0 then .ok (.replicate n 0, s)
  else match rng.tryFillBytes n s with
    | none => .error .randomnessUnavailable
    | some (buf, s) => fillSlots rng (maxPaddingRetryPerByte * n) buf 0 s

def packPayload (sha256 : List UInt8 → Hash) (record : FragmentDelivery) (iv : TunnelIv) (s : σ) :
    Except TunnelMessageError (TunnelPayload × σ) := do
  let body ← encodeRecord record
  if h : maxPlaintextDataBytes < body.length + checksumLen + 1 then
    .error (.fragmentLengthExceedsRemaining (body.length + checksumLen + 1) maxPlaintextDataBytes)
  else do
    let (padding, s) ← fillNonzero rng (maxPlaintextDataBytes - checksumLen - 1 - body.length) s
    let digest := sha256 (body ++ iv.toList)
    .ok (⟨digest.toList.take checksumLen ++ (padding.toList ++ 0 :: body), by
      simp only [List.length_append, List.length_cons, List.length_take, List.Vector.toList_length]
      simp only [checksumLen, maxPlaintextDataBytes] at h ⊢
      omega⟩, s)

variable {rng}

theorem resampleSlot_spec (maxTotal left : Nat) (slot : UInt8) (attempts : Nat) (s : σ)
    (hroom : attempts + left ≤ maxTotal) (h : slot ≠ 0 ∨ rng.NonzeroWithin left s) :
    ∃ slot' attempts' s', resampleSlot rng maxTotal left slot attempts s = .ok (slot', attempts', s') ∧
      slot' ≠ 0 ∧ attempts' ≤ attempts + left := by
  induction left generalizing slot attempts s with
  | zero =>
    rcases h with h | h
    · exact ⟨slot, attempts, s, by simp [resampleSlot, h], h, le_rfl⟩
    · exact h.elim
  | succ left ih =>
    by_cases hslot : slot = 0
    · obtain ⟨byte, s', hdraw, hnext⟩ := h.resolve_left (fun hne => hne hslot)
      obtain ⟨slot', attempts', s'', hok, hne, hle⟩ := ih byte.head (attempts + 1) s' (by omega) hnext
      refine ⟨slot', attempts', s'', ?_, hne, by omega⟩
      rw [resampleSlot, if_neg (not_not.mpr hslot)]
      simp only [if_neg (show ¬ maxTotal ≤ attempts by omega), hdraw, hok]
    · exact ⟨slot, attempts, s, by rw [resampleSlot, if_pos hslot], hslot, by omega⟩

theorem fillSlots_spec (hr : rng.Reliable) (maxTotal : Nat) {n : Nat} (buf : List.Vector UInt8 n)
    (attempts : Nat) (s : σ) (hroom : attempts + maxPaddingRetryPerByte * n ≤ maxTotal) :
    ∃ bytes s', fillSlots rng maxTotal buf attempts s = .ok (bytes, s') ∧ ∀ b ∈ bytes.toList, b ≠ 0 := by
  induction n generalizing attempts s with
  | zero => exact ⟨buf, s, rfl, by simp [buf.eq_nil]⟩
  | succ n ih =>
    rw [Nat.mul_succ] at hroom
    obtain ⟨slot, attempts', s', hslot, hne, hle⟩ := resampleSlot_spec maxTotal
      maxPaddingRetryPerByte buf.head attempts s (by omega) (Or.inr (hr.nonzero s))
    obtain ⟨bytes, s'', hrest, hall⟩ := ih buf.tail attempts' s' (by omega)
    refine ⟨slot ::ᵥ bytes, s'', ?_, ?_⟩
    · simp only [fillSlots, hslot, hrest, bind, Except.bind]
    · rw [List.Vector.toList_cons]
      exact forall_mem_cons.mpr ⟨hne, hall⟩

theorem fillNonzero_spec (hr : rng.Reliable) (n : Nat) (s : σ) :
    ∃ bytes s', fillNonzero rng n s = .ok (bytes, s') ∧ ∀ b ∈ bytes.toList, b ≠ 0 := by
  by_cases hn : n = 0
  · subst hn
    exact ⟨_, s, if_pos rfl, by simp [List.Vector.eq_nil]⟩
  obtain ⟨buf, s', hfill⟩ := hr.fills n s
  obtain ⟨bytes, s'', hok, hall⟩ := fillSlots_spec hr (maxPaddingRetryPerByte * n) buf 0 s'
    (by omega)
  refine ⟨bytes, s'', ?_, hall⟩
  simp only [fillNonzero, if_neg hn, hfill, hok]

end Padding

theorem findIdx?_delimiter {padding : List UInt8} (h : ∀ b ∈ padding, b ≠ 0) (rest : List UInt8) :
    (padding ++ 0 :: rest).findIdx? (· = 0) = some padding.length := by
  induction padding with
  | nil => simp [findIdx?_cons]
  | cons b bs ih =>
    have hb : b ≠ 0 := h b (by simp)
    rw [cons_append, findIdx?_cons, if_neg (by simpa using hb),
      ih fun x hx => h x (by simp [hx])]
    rfl

theorem checksum_diff_self (bytes : List UInt8) : (bytes.zipWith (· ^^^ ·) bytes).foldl (· ||| ·) 0 = 0 := by
  induction bytes with
  | nil => rfl
  | cons b bs ih => simpa using ih

/-- The parser finds the delimiter the builder wrote and recomputes the checksum it wrote. -/
theorem parse_eq_parseRecords {sha256 : List UInt8 → Hash} {iv : TunnelIv} {payload : TunnelPayload}
    {padding body : List UInt8} (hpad : ∀ b ∈ padding, b ≠ 0)
    (hp : payload.toList = (sha256 (body ++ iv.toList)).toList.take checksumLen ++ (padding ++ 0 :: body)) :
    parse sha256 iv payload = parseRecords body.length body false 0 := by
  have hsum : ((sha256 (body ++ iv.toList)).toList.take checksumLen).length = checksumLen := by
    simp [checksumLen]
  have hdelim : locateDelimiter payload = .ok (checksumLen + padding.length, body) := by
    unfold locateDelimiter
    rw [hp, drop_left' hsum, findIdx?_delimiter hpad]
    have hbody : (((sha256 (body ++ iv.toList)).toList.take checksumLen) ++ (padding ++ 0 :: body)).drop
        (checksumLen + padding.length + 1) = body := by
      rw [show ((sha256 (body ++ iv.toList)).toList.take checksumLen) ++ (padding ++ 0 :: body) =
        ((sha256 (body ++ iv.toList)).toList.take checksumLen ++ padding ++ [0]) ++ body by simp]
      exact drop_left' (by rw [length_append, length_append, hsum]; rfl)
    simp only [hbody]
  have hcheck : verifyChecksum sha256 (payload.toList.take checksumLen) body iv = .ok () := by
    simp only [verifyChecksum, hp, take_left' hsum, hsum, checksum_diff_self, ne_eq, not_true, if_false]
  simp only [parse, hdelim, hcheck, bind, Except.bind]

theorem parse_packPayload {σ : Type} {rng : CryptoRng σ} (hr : rng.Reliable) (sha256 : List UInt8 → Hash)
    {record : FragmentDelivery} (hw : record.WellFormed) (ho : record.Admissible (false, 0))
    (hfit : record.fragment.body.length + record.overhead ≤ cellBodyBudget) (iv : TunnelIv) (s : σ) :
    ∃ payload s', packPayload rng sha256 record iv s = .ok (payload, s') ∧
      parse sha256 iv payload = .ok [record] := by
  obtain ⟨bytes, he, hlen⟩ := encodeRecord_ok hw
  obtain ⟨padding, s', hpad, hall⟩ :=
    fillNonzero_spec hr (maxPlaintextDataBytes - checksumLen - 1 - bytes.length) s
  have hroom : ¬ maxPlaintextDataBytes < bytes.length + checksumLen + 1 := by
    simp only [cellBodyBudget, maxPlaintextDataBytes, checksumLen] at hfit ⊢
    omega
  refine ⟨_, s', by simp only [packPayload, he, bind, Except.bind, dif_neg hroom, hpad]; rfl, ?_⟩
  refine (parse_eq_parseRecords hall rfl).trans ?_
  have hturn := parseRecords_encodeRecord hw he ho (bytes.length - 1) []
  have hpos := hw.body_pos
  rw [show bytes.length - 1 + 1 = bytes.length by omega, append_nil] at hturn
  rw [hturn]
  cases bytes.length - 1 <;> rfl

/-- A record that takes at most one cell, and that is packed unless its padding cannot be drawn. -/
def FragmentDelivery.Packs (record : FragmentDelivery) : Prop :=
  ∃ bytes, encodeRecord record = .ok bytes ∧ bytes.length ≤ 1003 ∧
    ∀ (σ : Type) (rng : CryptoRng σ) (sha256 : List UInt8 → Hash) (iv : TunnelIv) (s : σ) (e : TunnelMessageError),
      packPayload rng sha256 record iv s = .error e → fillNonzero rng (1003 - bytes.length) s = .error e

theorem FragmentDelivery.WellFormed.packs {record : FragmentDelivery} (hw : record.WellFormed)
    (hfit : record.fragment.body.length + record.overhead ≤ cellBodyBudget) : record.Packs := by
  obtain ⟨bytes, he, hbytes⟩ := encodeRecord_ok hw
  have hshort : bytes.length ≤ 1003 := hbytes.le.trans hfit
  refine ⟨bytes, he, hshort, ?_⟩
  intro σ rng sha256 iv s e hpack
  have hroom : ¬ maxPlaintextDataBytes < bytes.length + checksumLen + 1 := by
    simp only [maxPlaintextDataBytes, checksumLen]
    omega
  simp only [packPayload, he, bind, Except.bind, dif_neg hroom] at hpack
  split at hpack
  next hfill =>
    cases hpack
    exact hfill
  · cases hpack

theorem map_body_followOnRecords (messageId : UInt32) (sequence : Nat) (bodies : List (List UInt8)) :
    (followOnRecords messageId sequence bodies).map (·.fragment.body) = bodies := by
  induction bodies generalizing sequence with
  | nil => rfl
  | cons body bodies ih => rw [followOnRecords, map_cons, ih, TunnelFragment.body]

theorem length_followOnRecords (messageId : UInt32) (sequence : Nat) (bodies : List (List UInt8)) :
    (followOnRecords messageId sequence bodies).length = bodies.length := by
  rw [← length_map, map_body_followOnRecords]

/-- Every message of an admissible length is cut into records that carry it exactly, each of which can be packed. -/
theorem fragmentCompleteMessage_exact {delivery : DeliveryInstruction} {messageId : UInt32} {message : List UInt8}
    (hd : validateDelivery delivery = .ok ()) (hid : messageId ≠ 0) (hpos : 1 ≤ message.length)
    (hlen : message.length ≤ maxTunnelMessagePayloadBytes) :
    ∃ records, fragmentCompleteMessage delivery messageId message = .ok records ∧
      (records.map (·.fragment.body)).flatten = message ∧
      (records = [⟨some delivery, .unfragmented message⟩] ∨
        ∃ first followOns, records = ⟨some delivery, .first messageId first⟩ :: followOns ∧
          1 ≤ followOns.length ∧ followOns.length ≤ 63 ∧
          ∀ j < followOns.length, ∃ body, followOns[j]? =
            some ⟨none, .followOn messageId (UInt8.ofNat (j + 1)) (decide (j + 1 = followOns.length)) body⟩) ∧
      ∀ record ∈ records, record.fragment.body ≠ [] ∧ record.Packs := by
  have hne := ne_nil_of_length_pos hpos
  obtain ⟨records, hok, hrecords⟩ := fragmentCompleteMessage_wellFormed hd hid hne hlen
  have hpacks : ∀ record ∈ records, record.fragment.body ≠ [] ∧ record.Packs := by
    intro record hrecord
    obtain ⟨hw, -, hfit⟩ := hrecords record hrecord
    exact ⟨length_pos_iff.mp hw.body_pos, hw.packs hfit⟩
  rcases fragmentCompleteMessage_spec hd hid hne hlen with
    ⟨-, hone⟩ | ⟨first, bodies, hmessage, -, -, hbodies, -, hcount, hmany⟩
  · cases hok.symm.trans hone
    exact ⟨_, hone, append_nil _, .inl rfl, hpacks⟩
  · cases hok.symm.trans hmany
    refine ⟨_, hmany, ?_, .inr ⟨first, _, rfl, ?_, ?_, ?_⟩, hpacks⟩
    · rw [map_cons, flatten_cons, map_body_followOnRecords, hmessage]
      rfl
    · rw [length_followOnRecords]
      exact length_pos_iff.mpr hbodies
    · rw [length_followOnRecords]
      exact hcount
    · intro j hj
      rw [length_followOnRecords] at hj ⊢
      refine ⟨bodies[j], ?_⟩
      rw [getElem?_followOnRecords, getElem?_eq_getElem hj, Nat.zero_add]
      rfl

theorem fragmentCompleteMessage_exact_short : ∃ records, fragmentCompleteMessage .localDelivery 7 [1, 2] = .ok records ∧
      (records.map (·.fragment.body)).flatten = [1, 2] := by
  obtain ⟨records, hok, hflatten, -⟩ := @fragmentCompleteMessage_exact .localDelivery 7 [1, 2] rfl (by decide)
    (by decide) (by decide)
  exact ⟨records, hok, hflatten⟩

end I2pr
