import I2pr.TunnelMessage

namespace I2pr

open BigEndian List

abbrev TunnelIv := List.Vector UInt8 16
abbrev TunnelPayload := List.Vector UInt8 1008

inductive FirstDelivery where
  | localDelivery
  | tunnel
  | router
deriving DecidableEq, Repr

def parseFirstControl (byte : UInt8) : Except TunnelMessageError FirstDelivery :=
  let deliveryType := (byte >>> 5) &&& 0x03
  if byte &&& 0x10 ≠ 0 then .error .delayBitUnsupported
  else if byte &&& 0x04 ≠ 0 then .error .extendedOptionsBitUnsupported
  else if byte &&& 0x03 ≠ 0 then .error (.reservedControlBits (byte &&& 0x03))
  else if deliveryType = 0b00 then .ok .localDelivery
  else if deliveryType = 0b01 then .ok .tunnel
  else if deliveryType = 0b10 then .ok .router
  else .error (.reservedDeliveryType deliveryType)

/-- The addressing bytes after the control byte, with their number. -/
def parseDelivery (kind : FirstDelivery) (remaining : List UInt8) :
    Except TunnelMessageError (Nat × DeliveryInstruction) :=
  match kind with
  | .localDelivery => .ok (0, .localDelivery)
  | .tunnel =>
    if h : remaining.length < 1 + 4 + 32 then
      .error (.fragmentLengthExceedsRemaining (1 + 4 + 32) remaining.length)
    else
      let tunnelId := UInt32.ofNat (decode (slice remaining 1 4))
      if tunnelId = 0 then .error .zeroTunnelId
      else .ok (4 + 32, .tunnel tunnelId ⟨slice remaining 5 32, length_slice (Nat.not_lt.mp h)⟩)
  | .router =>
    if h : remaining.length < 1 + 32 then
      .error (.fragmentLengthExceedsRemaining (1 + 32) remaining.length)
    else .ok (32, .router ⟨slice remaining 1 32, length_slice (Nat.not_lt.mp h)⟩)

/-- The body of a record whose `header` bytes end in the two length bytes. -/
def parseBody (header : Nat) (remaining : List UInt8) : Except TunnelMessageError (List UInt8 × List UInt8) :=
  let fragLen := decode (slice remaining (header - 2) 2)
  if fragLen = 0 then .error .zeroFragmentLength
  else if remaining.length < fragLen + header then
    .error (.fragmentLengthExceedsRemaining (fragLen + header) remaining.length)
  else .ok (slice remaining header fragLen, remaining.drop (header + fragLen))

def parseInitial (firstByte : UInt8) (remaining : List UInt8) :
    Except TunnelMessageError (FragmentDelivery × List UInt8) := do
  let kind ← parseFirstControl firstByte
  let (consumed, delivery) ← parseDelivery kind remaining
  let remaining := remaining.drop (1 + consumed)
  if firstByte &&& 0x08 ≠ 0 then
    if remaining.length < 4 + 2 then
      .error (.fragmentLengthExceedsRemaining (4 + 2) remaining.length)
    else
      let messageId := UInt32.ofNat (decode (slice remaining 0 4))
      if messageId = 0 then .error .zeroMessageId
      else do
        let (body, rest) ← parseBody 6 remaining
        .ok (⟨some delivery, .first messageId body⟩, rest)
  else if remaining.length < 2 then
    .error (.fragmentLengthExceedsRemaining 2 remaining.length)
  else do
    let (body, rest) ← parseBody 2 remaining
    .ok (⟨some delivery, .unfragmented body⟩, rest)

/-- A follow-on record, the new maximum of the sequences seen and the bytes left. -/
def parseFollowOn (firstByte observedMax : UInt8) (remaining : List UInt8) :
    Except TunnelMessageError (FragmentDelivery × UInt8 × List UInt8) :=
  let sequence := (firstByte &&& 0x7E) >>> 1
  let isLast := decide (firstByte &&& 0x01 ≠ 0)
  if sequence = 0 ∨ 63 < sequence then .error (.fragmentSequenceOutOfRange sequence)
  else if isLast ∧ sequence < observedMax then .error (.lastBelowObservedMax sequence observedMax)
  else if remaining.length < 1 + 4 + 2 then
    .error (.fragmentLengthExceedsRemaining (1 + 4 + 2) remaining.length)
  else
    let messageId := UInt32.ofNat (decode (slice remaining 1 4))
    if messageId = 0 then .error .zeroMessageId
    else do
      let (body, rest) ← parseBody 7 remaining
      .ok (⟨none, .followOn messageId sequence isLast body⟩, max observedMax sequence, rest)

/-- The record loop; every turn consumes at least its control byte. -/
def parseRecords : Nat → List UInt8 → Bool → UInt8 → Except TunnelMessageError (List FragmentDelivery)
  | 0, _, _, _ => .ok []
  | _ + 1, [], _, _ => .ok []
  | fuel + 1, firstByte :: tail, observedFirst, observedMax =>
    if firstByte &&& 0x80 = 0 then
      if observedFirst then .error (.reservedControlBits 0)
      else do
        let (record, rest) ← parseInitial firstByte (firstByte :: tail)
        let records ← parseRecords fuel rest true observedMax
        .ok (record :: records)
    else do
      let (record, observedMax, rest) ← parseFollowOn firstByte observedMax (firstByte :: tail)
      let records ← parseRecords fuel rest observedFirst observedMax
      .ok (record :: records)

def locateDelimiter (plaintext : TunnelPayload) : Except TunnelMessageError (Nat × List UInt8) :=
  match (plaintext.toList.drop checksumLen).findIdx? (· = 0) with
  | some index => .ok (checksumLen + index, plaintext.toList.drop (checksumLen + index + 1))
  | none => .error .delimiterMissing

def verifyChecksum (sha256 : List UInt8 → Hash) (checksumBytes postZero : List UInt8) (iv : TunnelIv) :
    Except TunnelMessageError Unit :=
  if checksumBytes.length ≠ checksumLen then .error (.payloadLength checksumBytes.length checksumLen)
  else
    let digest := sha256 (postZero ++ iv.toList)
    let diff := (checksumBytes.zipWith (· ^^^ ·) (digest.toList.take checksumLen)).foldl (· ||| ·) 0
    if diff ≠ 0 then .error .checksumMismatch else .ok ()

def parse (sha256 : List UInt8 → Hash) (iv : TunnelIv) (plaintext : TunnelPayload) :
    Except TunnelMessageError (List FragmentDelivery) := do
  let (_, postZero) ← locateDelimiter plaintext
  verifyChecksum sha256 (plaintext.toList.take checksumLen) postZero iv
  parseRecords postZero.length postZero false 0

/-- A record that the encoder and the parser agree on. -/
def FragmentDelivery.WellFormed : FragmentDelivery → Prop
  | ⟨some delivery, .unfragmented body⟩ =>
    validateDelivery delivery = .ok () ∧ body ≠ [] ∧ body.length < 2 ^ 16
  | ⟨some delivery, .first messageId body⟩ =>
    validateDelivery delivery = .ok () ∧ messageId ≠ 0 ∧ body ≠ [] ∧ body.length < 2 ^ 16
  | ⟨none, .followOn messageId sequence _ body⟩ =>
    messageId ≠ 0 ∧ 1 ≤ sequence ∧ sequence ≤ 63 ∧ body ≠ [] ∧ body.length < 2 ^ 16
  | _ => False

variable {body : List UInt8} {delivery : DeliveryInstruction} {messageId : UInt32}
  {record : FragmentDelivery}

theorem encodeBody_ok (h : body.length < 2 ^ 16) : encodeBody body = .ok (encode 2 body.length ++ body) :=
  if_pos h

theorem parseBody_append (head : List UInt8) (rest : List UInt8) (header : Nat) (hhead : head.length + 2 = header)
    (hne : body ≠ []) (hlen : body.length < 2 ^ 16) :
    parseBody header (head ++ (encode 2 body.length ++ body ++ rest)) = .ok (body, rest) := by
  subst hhead
  have hpos : body.length ≠ 0 := fun h => hne (length_eq_zero_iff.mp h)
  have hslice : slice (head ++ (encode 2 body.length ++ body ++ rest)) (head.length + 2 - 2) 2 =
      encode 2 body.length := by
    rw [append_assoc]
    exact slice_append (by omega) (length_encode 2 _)
  have hbody : slice (head ++ (encode 2 body.length ++ body ++ rest)) (head.length + 2) body.length = body := by
    rw [append_assoc, ← append_assoc head]
    exact slice_append (by simp) rfl
  have hdrop : (head ++ (encode 2 body.length ++ body ++ rest)).drop (head.length + 2 + body.length) = rest := by
    rw [← append_assoc]
    exact drop_left' (by simp; omega)
  unfold parseBody
  rw [hslice, decode_encode hlen, if_neg hpos, if_neg (by simp; omega), hbody, hdrop]

theorem parseDelivery_append (hd : validateDelivery delivery = .ok ()) (control : UInt8) (rest : List UInt8) :
    ∃ kind, parseFirstControl (deliveryControl delivery) = .ok kind ∧
      parseFirstControl (deliveryControl delivery ||| 0b00001000) = .ok kind ∧
      parseDelivery kind (control :: (appendDeliveryExtra delivery ++ rest)) =
        .ok ((appendDeliveryExtra delivery).length, delivery) := by
  cases delivery with
  | localDelivery => exact ⟨.localDelivery, by decide, by decide, rfl⟩
  | tunnel tunnelId gateway =>
    have hid : tunnelId ≠ 0 := by
      intro h0
      simp [validateDelivery, h0] at hd
    refine ⟨.tunnel, by simp only [deliveryControl]; decide, by simp only [deliveryControl]; decide, ?_⟩
    have hlen : ¬ (control :: (appendDeliveryExtra (.tunnel tunnelId gateway) ++ rest)).length < 1 + 4 + 32 := by
      simp [appendDeliveryExtra]
      omega
    have hslice : slice (control :: (appendDeliveryExtra (.tunnel tunnelId gateway) ++ rest)) 1 4 =
        encode 4 tunnelId.toNat := by
      rw [slice_succ_cons, appendDeliveryExtra, append_assoc]
      exact slice_zero_append (length_encode 4 _)
    have hhash : slice (control :: (appendDeliveryExtra (.tunnel tunnelId gateway) ++ rest)) 5 32 = gateway.toList := by
      rw [slice_succ_cons, appendDeliveryExtra, append_assoc]
      exact slice_append (length_encode 4 _) gateway.2
    simp only [parseDelivery, dif_neg hlen, hslice, decode_encode_u32, if_neg hid, hhash]
    simp only [appendDeliveryExtra, length_append, length_encode, List.Vector.toList_length]
    rfl
  | router router =>
    refine ⟨.router, by simp only [deliveryControl]; decide, by simp only [deliveryControl]; decide, ?_⟩
    have hlen : ¬ (control :: (appendDeliveryExtra (.router router) ++ rest)).length < 1 + 32 := by
      simp [appendDeliveryExtra]
    have hhash : slice (control :: (appendDeliveryExtra (.router router) ++ rest)) 1 32 = router.toList := by
      rw [slice_succ_cons, appendDeliveryExtra]
      exact slice_zero_append router.2
    simp only [parseDelivery, dif_neg hlen, hhash]
    simp only [appendDeliveryExtra, List.Vector.toList_length]
    rfl

theorem deliveryControl_bits (delivery : DeliveryInstruction) :
    deliveryControl delivery &&& 0x80 = 0 ∧ deliveryControl delivery &&& 0x08 = 0 ∧
      (deliveryControl delivery ||| 0b00001000) &&& 0x80 = 0 ∧
      (deliveryControl delivery ||| 0b00001000) &&& 0x08 ≠ 0 := by
  cases delivery <;> simp only [deliveryControl] <;> decide

theorem followOn_inRange {sequence : UInt8} (h1 : 1 ≤ sequence) (h63 : sequence ≤ 63) :
    ¬(sequence = 0 ∨ 63 < sequence) := by
  rintro (rfl | h)
  · exact absurd h1 (by decide)
  · exact absurd h63 (by grind)

theorem followOnControl_bits {sequence : UInt8} (h63 : sequence ≤ 63) (isLast : Bool) :
    followOnControl sequence isLast &&& 0x80 ≠ 0 ∧
      (followOnControl sequence isLast &&& 0x7E) >>> 1 = sequence ∧
      decide (followOnControl sequence isLast &&& 0x01 ≠ 0) = isLast := by
  have hall : ∀ n : Fin 64, ∀ b : Bool, followOnControl (UInt8.ofNat n) b &&& 0x80 ≠ 0 ∧
      (followOnControl (UInt8.ofNat n) b &&& 0x7E) >>> 1 = UInt8.ofNat n ∧
      decide (followOnControl (UInt8.ofNat n) b &&& 0x01 ≠ 0) = b := by decide
  have hlt : sequence.toNat < 64 := Nat.lt_succ_of_le (UInt8.le_iff_toNat_le.mp h63)
  simpa using hall ⟨sequence.toNat, hlt⟩ isLast

theorem drop_delivery (control : UInt8) (delivery : DeliveryInstruction) (rest : List UInt8) :
    (control :: (appendDeliveryExtra delivery ++ rest)).drop (1 + (appendDeliveryExtra delivery).length) =
      rest := by
  rw [Nat.add_comm, drop_succ_cons, drop_left]

theorem parseInitial_unfragmented (hd : validateDelivery delivery = .ok ()) (hne : body ≠ [])
    (hlen : body.length < 2 ^ 16) (rest : List UInt8) :
    parseInitial (deliveryControl delivery) (deliveryControl delivery ::
        (appendDeliveryExtra delivery ++ (encode 2 body.length ++ body ++ rest))) =
      .ok (⟨some delivery, .unfragmented body⟩, rest) := by
  obtain ⟨kind, hkind, -, hdel⟩ := parseDelivery_append hd (deliveryControl delivery)
    (encode 2 body.length ++ body ++ rest)
  have hbody := parseBody_append [] rest 2 rfl hne hlen
  rw [nil_append] at hbody
  simp only [parseInitial, hkind, hdel, bind, Except.bind, drop_delivery, (deliveryControl_bits delivery).2.1]
  rw [if_neg (by simp), if_neg (by simp; omega), hbody]

theorem parseInitial_first (hd : validateDelivery delivery = .ok ()) (hid : messageId ≠ 0) (hne : body ≠ [])
    (hlen : body.length < 2 ^ 16) (rest : List UInt8) :
    parseInitial (deliveryControl delivery ||| 0b00001000) ((deliveryControl delivery ||| 0b00001000) ::
        (appendDeliveryExtra delivery ++ (encode 4 messageId.toNat ++ (encode 2 body.length ++ body ++ rest)))) =
      .ok (⟨some delivery, .first messageId body⟩, rest) := by
  obtain ⟨kind, -, hkind, hdel⟩ := parseDelivery_append hd (deliveryControl delivery ||| 0b00001000)
    (encode 4 messageId.toNat ++ (encode 2 body.length ++ body ++ rest))
  have hbody := parseBody_append (encode 4 messageId.toNat) rest 6 (by simp) hne hlen
  have hslice := slice_zero_append (c := encode 2 body.length ++ body ++ rest)
    (length_encode 4 messageId.toNat)
  simp only [parseInitial, hkind, hdel, bind, Except.bind, drop_delivery]
  rw [if_pos (deliveryControl_bits delivery).2.2.2, if_neg (by simp; omega)]
  simp only [hslice, decode_encode_u32, if_neg hid, hbody]

theorem parseFollowOn_append (hid : messageId ≠ 0) {sequence observedMax : UInt8}
    (h1 : 1 ≤ sequence) (h63 : sequence ≤ 63) (isLast : Bool) (hmax : isLast → observedMax ≤ sequence)
    (hne : body ≠ []) (hlen : body.length < 2 ^ 16) (rest : List UInt8) :
    parseFollowOn (followOnControl sequence isLast) observedMax (followOnControl sequence isLast ::
        (encode 4 messageId.toNat ++ (encode 2 body.length ++ body ++ rest))) =
      .ok (⟨none, .followOn messageId sequence isLast body⟩, max observedMax sequence, rest) := by
  obtain ⟨-, hseq, hlast⟩ := followOnControl_bits h63 isLast
  have hrange := followOn_inRange h1 h63
  have hbelow : ¬(isLast = true ∧ sequence < observedMax) := by
    rintro ⟨hl, hlt⟩
    have := hmax hl
    grind
  have hbody := parseBody_append (followOnControl sequence isLast :: encode 4 messageId.toNat) rest 7
    (by simp) hne hlen
  have hslice : slice (followOnControl sequence isLast ::
      (encode 4 messageId.toNat ++ (encode 2 body.length ++ body ++ rest))) 1 4 = encode 4 messageId.toNat := by
    rw [slice_succ_cons]
    exact slice_zero_append (length_encode 4 _)
  simp only [parseFollowOn, hseq, hlast, if_neg hrange, if_neg hbelow, hslice, decode_encode_u32, if_neg hid]
  rw [if_neg (by simp; omega)]
  rw [cons_append] at hbody
  simp only [hbody, bind, Except.bind]

/-- What the record loop remembers: whether an initial record was seen, and the highest sequence. -/
def FragmentDelivery.observe (observed : Bool × UInt8) : FragmentDelivery → Bool × UInt8
  | ⟨_, .followOn _ sequence _ _⟩ => (observed.1, max observed.2 sequence)
  | _ => (true, observed.2)

/-- The record may follow the ones already seen in its cell. -/
def FragmentDelivery.Admissible (observed : Bool × UInt8) : FragmentDelivery → Prop
  | ⟨_, .followOn _ sequence isLast _⟩ => isLast = true → observed.2 ≤ sequence
  | _ => observed.1 = false

theorem parseRecords_encodeRecord (hr : record.WellFormed) {bytes : List UInt8}
    (he : encodeRecord record = .ok bytes) {observed : Bool × UInt8} (ho : record.Admissible observed)
    (fuel : Nat) (rest : List UInt8) :
    parseRecords (fuel + 1) (bytes ++ rest) observed.1 observed.2 =
      (parseRecords fuel rest (record.observe observed).1 (record.observe observed).2).map (record :: ·) := by
  -- the three shapes a well formed record can have: a follow-on, a whole message and a first fragment
  obtain ⟨- | delivery, body | ⟨messageId, body⟩ | ⟨messageId, sequence, isLast, body⟩⟩ := record <;>
    simp only [FragmentDelivery.WellFormed] at hr
  · obtain ⟨hid, h1, h63, hne, hlen⟩ := hr
    simp only [encodeRecord, encodeBody_ok hlen, bind, Except.bind, Except.ok.injEq] at he
    subst he
    have hparse := parseFollowOn_append hid h1 h63 isLast ho hne hlen rest
    simp only [cons_append, append_assoc] at hparse ⊢
    rw [parseRecords, if_neg (followOnControl_bits h63 isLast).1, hparse]
    rfl
  · obtain ⟨hd, hne, hlen⟩ := hr
    simp only [encodeRecord, encodeBody_ok hlen, bind, Except.bind, Except.ok.injEq] at he
    subst he
    have hparse := parseInitial_unfragmented hd hne hlen rest
    have hfirst : observed.1 = false := ho
    simp only [cons_append, append_assoc] at hparse ⊢
    rw [parseRecords, if_pos (deliveryControl_bits delivery).1, hfirst, if_neg (by simp), hparse]
    rfl
  · obtain ⟨hd, hid, hne, hlen⟩ := hr
    simp only [encodeRecord, encodeBody_ok hlen, bind, Except.bind, Except.ok.injEq] at he
    subst he
    have hparse := parseInitial_first hd hid hne hlen rest
    have hfirst : observed.1 = false := ho
    simp only [cons_append, append_assoc] at hparse ⊢
    rw [parseRecords, if_pos (deliveryControl_bits delivery).2.2.1, hfirst, if_neg (by simp), hparse]
    rfl

def FragmentDelivery.overhead : FragmentDelivery → Nat
  | ⟨some delivery, .unfragmented _⟩ => unfragmentedOverhead delivery
  | ⟨some delivery, .first _ _⟩ => fragmentedFirstOverhead delivery
  | _ => followOnOverhead

theorem encodeRecord_ok (hr : record.WellFormed) : ∃ bytes, encodeRecord record = .ok bytes ∧
      bytes.length = record.fragment.body.length + record.overhead := by
  obtain ⟨- | delivery, body | ⟨messageId, body⟩ | ⟨messageId, sequence, isLast, body⟩⟩ := record <;>
    simp only [FragmentDelivery.WellFormed] at hr
  · refine ⟨_, by simp only [encodeRecord, encodeBody_ok hr.2.2.2.2]; rfl, ?_⟩
    simp [TunnelFragment.body, FragmentDelivery.overhead, followOnOverhead]
    omega
  · have := (length_appendDeliveryExtra delivery).1
    refine ⟨_, by simp only [encodeRecord, encodeBody_ok hr.2.2]; rfl, ?_⟩
    simp [TunnelFragment.body, FragmentDelivery.overhead]
    omega
  · have := (length_appendDeliveryExtra delivery).2
    refine ⟨_, by simp only [encodeRecord, encodeBody_ok hr.2.2.2]; rfl, ?_⟩
    simp [TunnelFragment.body, FragmentDelivery.overhead]
    omega

theorem FragmentDelivery.WellFormed.body_pos (hr : record.WellFormed) : 0 < record.fragment.body.length := by
  rw [length_pos_iff]
  obtain ⟨- | delivery, fragment⟩ := record <;> cases fragment <;>
    simp only [FragmentDelivery.WellFormed] at hr
  · exact hr.2.2.2.1
  · exact hr.2.1
  · exact hr.2.2.1

theorem followOnRecords_wellFormed (hid : messageId ≠ 0) {sequence : Nat} {bodies : List (List UInt8)}
    (hb : ∀ b ∈ bodies, b ≠ [] ∧ b.length + followOnOverhead ≤ cellBodyBudget)
    (hcount : sequence + bodies.length ≤ 63) {f : FragmentDelivery}
    (hf : f ∈ followOnRecords messageId sequence bodies) :
    f.WellFormed ∧ f.Admissible (false, 0) ∧ f.fragment.body.length + f.overhead ≤ cellBodyBudget := by
  induction bodies generalizing sequence with
  | nil => simp [followOnRecords] at hf
  | cons b bodies ih =>
    rw [length_cons] at hcount
    rcases mem_cons.mp hf with rfl | hf
    · obtain ⟨hne, hlen⟩ := hb b (by simp)
      have hseq : (UInt8.ofNat (sequence + 1)).toNat = sequence + 1 :=
        UInt8.toNat_ofNat_of_lt' (show sequence + 1 < 256 by omega)
      have hshort : b.length < 2 ^ 16 := by
        simp only [followOnOverhead, cellBodyBudget, maxPlaintextDataBytes, checksumLen] at hlen
        omega
      refine ⟨⟨hid, ?_, ?_, hne, hshort⟩, fun _ => ?_, hlen⟩
      · rw [UInt8.le_iff_toNat_le, hseq]
        change 1 ≤ sequence + 1
        omega
      · rw [UInt8.le_iff_toNat_le, hseq]
        change sequence + 1 ≤ 63
        omega
      · rw [UInt8.le_iff_toNat_le]
        exact Nat.zero_le _
    · exact ih (fun c hc => hb c (by simp [hc])) (by omega) hf

theorem fragmentCompleteMessage_wellFormed
    {message : List UInt8} (hd : validateDelivery delivery = .ok ()) (hid : messageId ≠ 0)
    (hne : message ≠ []) (hlen : message.length ≤ maxTunnelMessagePayloadBytes) :
    ∃ fragments, fragmentCompleteMessage delivery messageId message = .ok fragments ∧
      ∀ f ∈ fragments, f.WellFormed ∧ f.Admissible (false, 0) ∧
        f.fragment.body.length + f.overhead ≤ cellBodyBudget := by
  have hbudget : cellBodyBudget = 1003 := rfl
  rcases fragmentCompleteMessage_spec hd hid hne hlen with
    ⟨hfit, hok⟩ | ⟨first, bodies, -, hfirst, hfit, -, hbodies, hcount, hok⟩
  · exact ⟨_, hok, forall_mem_singleton.mpr ⟨⟨hd, hne, by omega⟩, rfl, hfit⟩⟩
  · refine ⟨_, hok, forall_mem_cons.mpr ⟨⟨⟨hd, hid, hfirst, by omega⟩, rfl, hfit⟩, fun f hf => ?_⟩⟩
    exact followOnRecords_wellFormed hid hbodies (by omega) hf

end I2pr
