import I2pr.Ssu2Block

namespace I2pr.Ssu2

open BigEndian List

variable (body : List UInt8)

def byteAt (i : Nat) : UInt8 := body.getD i 0

def u16At (i : Nat) : UInt16 := UInt16.ofNat (decode (slice body i 2))

def u32At (i : Nat) : UInt32 := UInt32.ofNat (decode (slice body i 4))

def u64At (i : Nat) : UInt64 := UInt64.ofNat (decode (slice body i 8))

inductive DecodedBlock where
  | timestamp (seconds : UInt32)
  | options (block : OptionsBlock)
  | routerInfo (block : RouterInfoBlock)
  | i2np (block : I2npMessageBlock)
  | firstFragment (block : FirstFragmentBlock)
  | followOnFragment (block : FollowOnFragmentBlock)
  | termination (block : TerminationBlock)
  | relayRequest (block : RelayRequestBlock)
  | relayResponse (block : RelayResponseBlock)
  | relayIntro (block : RelayIntroBlock)
  | peerTest (block : PeerTestBlock)
  | ack (block : AckBlock)
  | address (endpoint : Ssu2Endpoint)
  | relayTagRequest
  | relayTag (block : RelayTagBlock)
  | newToken (block : NewTokenBlock)
  | pathChallenge (block : PathBlock)
  | pathResponse (block : PathBlock)
  | firstPacketNumber (first : UInt32)
  | congestion (block : CongestionBlock)
  | padding (length : Nat)
  | unknown (blockType : UInt8) (length : Nat)
deriving DecidableEq

def OptionsBlock.decode (payload : List UInt8) : Except BlockError OptionsBlock :=
  if h : 12 ≤ payload.length ∧ payload.length ≤ maxOptionsBytes then
    .ok ⟨byteAt payload 0, byteAt payload 1, byteAt payload 2, byteAt payload 3, u16At payload 4,
      u16At payload 6, u16At payload 8, u16At payload 10, payload.drop 12, by simp; omega⟩
  else .error .invalidLength

def RouterInfoBlock.decode : Except BlockError RouterInfoBlock :=
  if body.length < 2 then .error .routerInfoMalformed
  else if byteAt body 1 ≠ 0x01 then .error .routerInfoMalformed
  else RouterInfoBlock.new (byteAt body 0) (body.drop 2)

def FirstFragmentBlock.decode : Except BlockError FirstFragmentBlock :=
  if body.length < 9 then .error .fragmentMalformed
  else FirstFragmentBlock.new (.fromCode (byteAt body 0)) (u32At body 1) (u32At body 5) (body.drop 9)

def FollowOnFragmentBlock.decode : Except BlockError FollowOnFragmentBlock :=
  if body.length < 5 then .error .fragmentMalformed
  else FollowOnFragmentBlock.new (byteAt body 0 >>> 1) (byteAt body 0 &&& 1 != 0) (u32At body 1) (body.drop 5)

def TerminationBlock.decode : Except BlockError TerminationBlock :=
  if 9 ≤ body.length ∧ body.length ≤ 9 + maxTerminationAdditionalBytes then
    .ok ⟨u64At body 0, .fromCode (byteAt body 8), body.length - 9⟩
  else .error .invalidTermination

/-- The `(nack, ack)` pairs that follow the ACK prefix; the caller has checked that the length is even. -/
def pairs : List UInt8 → List (UInt8 × UInt8)
  | nack :: ack :: rest => (nack, ack) :: pairs rest
  | _ => []

def AckBlock.decode : Except BlockError AckBlock :=
  if body.length < 5 ∨ (body.length - 5) % 2 ≠ 0 then .error .ackMalformed
  else AckBlock.new (u32At body 0) (byteAt body 4) (pairs (body.drop 5))

/-- `decode_endpoint`: the endpoint and the bytes it took. -/
def decodeEndpoint (asz : UInt8) (bytes : List UInt8) : Option (Ssu2Endpoint × Nat) :=
  if asz = 6 then
    if h : 6 ≤ bytes.length then
      (Ssu2Endpoint.new (.v4 ⟨slice bytes 2 4, by simp [slice]; omega⟩) (u16At bytes 0)).map (·, 6)
    else none
  else if asz = 18 then
    if h : 18 ≤ bytes.length then
      (Ssu2Endpoint.new (.v6 ⟨slice bytes 2 16, by simp [slice]; omega⟩) (u16At bytes 0)).map (·, 18)
    else none
  else none

/-- `AddressBlock::decode`: exactly one endpoint of either family. -/
def decodeAddress : Except BlockError Ssu2Endpoint :=
  if body.length = 6 ∨ body.length = 18 then
    match decodeEndpoint (UInt8.ofNat body.length) body with
    | some (endpoint, _) => .ok endpoint
    | none => .error .addressMalformed
  else .error .addressMalformed

def RelayRequestBlock.new (nonce relayTag timestamp : UInt32) (version : UInt8) (endpoint : Ssu2Endpoint)
    (signature : List UInt8) : Except BlockError RelayRequestBlock :=
  if h : relayTag ≠ 0 ∧ VersionOk version ∧ SignatureOk signature then
    .ok ⟨nonce, relayTag, timestamp, version, endpoint, signature, h.1, h.2.1, h.2.2⟩
  else .error .relayMalformed

def decodeRelayRequest : Except BlockError RelayRequestBlock :=
  if body.length < 15 ∨ byteAt body 0 ≠ 0 then .error .relayMalformed
  else match decodeEndpoint (byteAt body 14) (body.drop 15) with
    | none => .error .relayMalformed
    | some (endpoint, endpointLen) =>
      RelayRequestBlock.new (u32At body 1) (u32At body 5) (u32At body 9) (byteAt body 13) endpoint
        (body.drop (15 + endpointLen))

/-- `accept` and `reject`, which differ only in the fields they let the code carry. -/
def RelayResponseBlock.new (code : RelayResponseCode) (nonce timestamp : UInt32) (version : UInt8)
    (endpoint : Option Ssu2Endpoint) (signature : List UInt8) (token : Option UInt64) :
    Except BlockError RelayResponseBlock :=
  if h : VersionOk version ∧ RelayResponseShape code endpoint signature token then
    .ok ⟨code, nonce, timestamp, version, endpoint, signature, token, h.1, h.2⟩
  else .error .relayMalformed

def decodeRelayResponse : Except BlockError RelayResponseBlock :=
  if body.length < 12 ∨ byteAt body 0 ≠ 0 ∨ ¬ VersionOk (byteAt body 10) then .error .relayMalformed else
  let code := RelayResponseCode.fromU8 (byteAt body 1)
  let build := RelayResponseBlock.new code (u32At body 2) (u32At body 6) (byteAt body 10)
  let csz := byteAt body 11
  match code with
  | .accept =>
    match decodeEndpoint csz (body.drop 12) with
    | none => .error .relayMalformed
    | some (endpoint, endpointLen) =>
      let rest := body.drop (12 + endpointLen)
      if rest.length < 8 + 1 then .error .relayMalformed
      else build (some endpoint) (rest.take (rest.length - 8)) (some (u64At rest (rest.length - 8)))
  | .rejectedByBob _ =>
    if csz ≠ 0 ∨ body.length ≠ 12 then .error .relayMalformed else build none [] none
  | _ =>
    if csz = 0 then
      if body.length ≠ 12 then .error .relayMalformed else build none [] none
    else match decodeEndpoint csz (body.drop 12) with
      | none => .error .relayMalformed
      | some (endpoint, endpointLen) => build (some endpoint) (body.drop (12 + endpointLen)) none

def RelayIntroBlock.new (aliceHash : Hash) (nonce relayTag timestamp : UInt32) (version : UInt8)
    (endpoint : Ssu2Endpoint) (signature : List UInt8) : Except BlockError RelayIntroBlock :=
  if h : relayTag ≠ 0 ∧ VersionOk version ∧ SignatureOk signature then
    .ok ⟨aliceHash, nonce, relayTag, timestamp, version, endpoint, signature, h.1, h.2.1, h.2.2⟩
  else .error .relayMalformed

def decodeRelayIntro : Except BlockError RelayIntroBlock :=
  if h : body.length < 47 then .error .relayMalformed
  else if byteAt body 0 ≠ 0 then .error .relayMalformed
  else match decodeEndpoint (byteAt body 46) (body.drop 47) with
    | none => .error .relayMalformed
    | some (endpoint, endpointLen) =>
      RelayIntroBlock.new ⟨slice body 1 32, by simp [slice]; omega⟩ (u32At body 33) (u32At body 37)
        (u32At body 41) (byteAt body 45) endpoint (body.drop (47 + endpointLen))

def PeerTestBlock.new (message code : UInt8) (routerHash : Option Hash) (version : UInt8)
    (nonce timestamp : UInt32) (endpoint : Ssu2Endpoint) (signature : List UInt8) :
    Except BlockError PeerTestBlock :=
  if h : PeerTestShape message routerHash version signature then
    .ok ⟨message, code, routerHash, version, nonce, timestamp, endpoint, signature, h⟩
  else if (1 ≤ message ∧ message ≤ 7) ∧ (routerHash.isSome ↔ message = 2 ∨ message = 4) ∧ version = 2 then
    -- `check_signature` reports its own error
    .error .relayMalformed
  else .error .peerTestMalformed

def decodePeerTest : Except BlockError PeerTestBlock :=
  if body.length < 3 then .error .peerTestMalformed
  else if ¬ (1 ≤ byteAt body 0 ∧ byteAt body 0 ≤ 7) then .error .peerTestMalformed
  else if byteAt body 2 ≠ 0 then .error .peerTestMalformed
  else
    let finish (hash : Option Hash) (offset : Nat) : Except BlockError PeerTestBlock :=
      if body.length < offset + 10 then .error .peerTestMalformed
      else match decodeEndpoint (byteAt body (offset + 9)) (body.drop (offset + 10)) with
        | none => .error .peerTestMalformed
        | some (endpoint, endpointLen) =>
          PeerTestBlock.new (byteAt body 0) (byteAt body 1) hash (byteAt body offset) (u32At body (offset + 1))
            (u32At body (offset + 5)) endpoint (body.drop (offset + 10 + endpointLen))
    if byteAt body 0 = 2 ∨ byteAt body 0 = 4 then
      if h : 35 ≤ body.length then finish (some ⟨slice body 3 32, by simp [slice]; omega⟩) 35
      else .error .peerTestMalformed
    else finish none 3

def CongestionBlock.decode : Except BlockError CongestionBlock :=
  if body = [] then .error .invalidLength
  else if h : (body.drop 1).length ≤ maxCongestionExtensionBytes then .ok ⟨byteAt body 0, body.drop 1, h⟩
  else .error .payloadTooLarge

def fixedBody (length : Nat) (body : List UInt8) (block : DecodedBlock) : Except BlockError DecodedBlock :=
  if body.length = length then .ok block else .error .invalidLength

def decodeRelayTag : Except BlockError DecodedBlock :=
  if body.length ≠ 4 then .error .invalidLength
  else if h : u32At body 0 ≠ 0 then .ok (.relayTag ⟨u32At body 0, h⟩)
  else .error .relayMalformed

/-- The block kinds with a decoder of their own; `none` is the skip arm for unknown kinds. -/
def decodeKnown (kind : UInt8) (body : List UInt8) : Option (Except BlockError DecodedBlock) :=
  match kind with
  | 0 => some (fixedBody 4 body (.timestamp (u32At body 0)))
  | 1 => some ((OptionsBlock.decode body).map .options)
  | 2 => some ((RouterInfoBlock.decode body).map .routerInfo)
  | 3 => some ((I2npMessageBlock.fromBytes body).map .i2np)
  | 4 => some ((FirstFragmentBlock.decode body).map .firstFragment)
  | 5 => some ((FollowOnFragmentBlock.decode body).map .followOnFragment)
  | 6 => some ((TerminationBlock.decode body).map .termination)
  | 7 => some ((decodeRelayRequest body).map .relayRequest)
  | 8 => some ((decodeRelayResponse body).map .relayResponse)
  | 9 => some ((decodeRelayIntro body).map .relayIntro)
  | 10 => some ((decodePeerTest body).map .peerTest)
  | 11 => some (.error .unsupportedBlock)
  | 12 => some ((AckBlock.decode body).map .ack)
  | 13 => some ((decodeAddress body).map .address)
  | 15 => some (fixedBody 0 body .relayTagRequest)
  | 16 => some (decodeRelayTag body)
  | 17 => some (fixedBody 12 body (.newToken ⟨u32At body 0, u64At body 4⟩))
  | 18 => some ((PathBlock.new body).map .pathChallenge)
  | 19 => some ((PathBlock.new body).map .pathResponse)
  | 20 => some (fixedBody 4 body (.firstPacketNumber (u32At body 0)))
  | 21 => some ((CongestionBlock.decode body).map .congestion)
  | 254 => some (.ok (.padding body.length))
  | _ => none

def decodeBody (kind : UInt8) (body : List UInt8) (unknownBytes : Nat) : Except BlockError (DecodedBlock × Nat) :=
  match decodeKnown kind body with
  | some decoded => decoded.map (·, unknownBytes)
  | none =>
    if maxUnknownBlockBytes < unknownBytes + body.length then .error .excessiveUnknownBytes
    else .ok (.unknown kind body.length, unknownBytes + body.length)

structure ParsedBlocks where
  blocks : List DecodedBlock
  unknownBytes : Nat

/-- The parser's loop over the bytes not yet consumed; `slots` is what the block limit still allows. -/
def parseFrom : Nat → OrderState → Nat → List UInt8 → Except BlockError ParsedBlocks
  | _, _, unknownBytes, [] => .ok ⟨[], unknownBytes⟩
  | 0, _, _, _ :: _ => .error .excessiveBlockCount
  | slots + 1, st, unknownBytes, kind :: high :: low :: rest => do
    let length := decode [high, low]
    if rest.length < length then .error .truncated else
    let st ← st.next kind
    let (block, unknownBytes) ← decodeBody kind (rest.take length) unknownBytes
    let parsed ← parseFrom slots st unknownBytes (rest.drop length)
    .ok { parsed with blocks := block :: parsed.blocks }
  | _ + 1, _, _, _ :: _ => .error .truncated

def parseBlocks (input : List UInt8) : Except BlockError ParsedBlocks :=
  if maxPayloadBytes < input.length then .error .payloadTooLarge
  else parseFrom maxBlockCount {} 0 input

namespace Block

def decoded : Block → DecodedBlock
  | timestamp seconds => .timestamp seconds
  | options b => .options b
  | routerInfo b => .routerInfo b
  | i2np b => .i2np b
  | firstFragment b => .firstFragment b
  | followOnFragment b => .followOnFragment b
  | termination b => .termination b
  | relayRequest b => .relayRequest b
  | relayResponse b => .relayResponse b
  | relayIntro b => .relayIntro b
  | peerTest b => .peerTest b
  | ack b => .ack b
  | address e => .address e
  | relayTagRequest => .relayTagRequest
  | relayTag b => .relayTag b
  | newToken b => .newToken b
  | pathChallenge b => .pathChallenge b
  | pathResponse b => .pathResponse b
  | firstPacketNumber first => .firstPacketNumber first
  | congestion b => .congestion b
  | padding b => .padding b.bytes.length

/-- The block's own decoder gives it back, and it declares the length it has. -/
structure ReadsBack (b : Block) : Prop where
  length_eq : b.payload.length = b.payloadLen
  decodeKnown_eq : decodeKnown b.kind b.payload = some (.ok b.decoded)

theorem pairs_flatMap (ranges : List (UInt8 × UInt8)) :
    pairs (ranges.flatMap fun range => [range.1, range.2]) = ranges := by
  induction ranges with
  | nil => rfl
  | cons range rest ih => simp [pairs, ih]

theorem readsBack_ack (b : AckBlock) : (ack b).ReadsBack where
  length_eq := length_payload (by simp)
  decodeKnown_eq := by
    have hlength := length_payload (b := ack b) (by simp)
    rw [payloadLen] at hlength
    have hthrough : u32At (ack b).payload 0 = b.ackThrough := by
      rw [u32At, payload, slice_zero_append (length_encode 4 _), decode_encode_u32]
    have hcount : byteAt (ack b).payload 4 = b.ackCount := by
      rw [byteAt, payload, getD_append_right _ _ _ _ (by simp)]
      simp
    have hranges : pairs ((ack b).payload.drop 5) = b.ranges := by
      have hdrop : (ack b).payload.drop 5 = b.ranges.flatMap fun range => [range.1, range.2] := by
        rw [payload, append_cons]
        exact drop_left' (by simp)
      rw [hdrop, pairs_flatMap]
    change some ((AckBlock.decode (ack b).payload).map DecodedBlock.ack) = _
    rw [AckBlock.decode, if_neg (by omega), hthrough, hcount, hranges, AckBlock.new, dif_pos ⟨b.bounded, b.nonzero⟩]
    rfl

end Block

theorem parseFrom_wire {b : Block} (hb : b.ReadsBack) (hsmall : b.encodedLen ≤ maxPayloadBytes)
    {st st' : OrderState} (hnext : st.next b.kind = .ok st') (slots unknownBytes : Nat) (rest : List UInt8) :
    parseFrom (slots + 1) st unknownBytes (b.wire ++ rest) =
      (parseFrom slots st' unknownBytes rest).map fun parsed =>
        { parsed with blocks := b.decoded :: parsed.blocks } := by
  have hlength : decode [UInt8.ofNat (b.payloadLen / 256 ^ 1), UInt8.ofNat (b.payloadLen / 256 ^ 0)] =
      b.payloadLen := by
    refine decode_encode (w := 2) ?_
    have : maxPayloadBytes = 1412 := rfl
    rw [Block.encodedLen] at hsmall
    omega
  have htake : (b.payload ++ rest).take b.payloadLen = b.payload := take_left' hb.length_eq
  have hdrop : (b.payload ++ rest).drop b.payloadLen = rest := drop_left' hb.length_eq
  have hfits : ¬ (b.payload ++ rest).length < b.payloadLen := by
    rw [length_append, hb.length_eq]
    omega
  have hbody : decodeBody b.kind b.payload unknownBytes = .ok (b.decoded, unknownBytes) := by
    rw [decodeBody, hb.decodeKnown_eq]
    rfl
  simp only [Block.wire, encode, cons_append, nil_append, parseFrom, hlength, if_neg hfits, hnext, htake,
    hdrop, hbody, bind, Except.bind]
  cases parseFrom slots st' unknownBytes rest <;> rfl

theorem parseFrom_encodeFrom {blocks : List Block} (hreads : ∀ b ∈ blocks, b.ReadsBack) {st : OrderState}
    {output bytes : List UInt8} (h : encodeFrom st output blocks = .ok bytes) {slots : Nat}
    (hslots : blocks.length ≤ slots) (unknownBytes : Nat) :
    parseFrom slots st unknownBytes (blocks.flatMap Block.wire) = .ok ⟨blocks.map Block.decoded, unknownBytes⟩ := by
  induction blocks generalizing st output slots with
  | nil => cases slots <;> rfl
  | cons b blocks ih =>
    obtain ⟨st', hnext, hroom, hrest⟩ := encodeFrom_cons_eq_ok.mp h
    obtain ⟨slots, rfl⟩ : ∃ k, slots = k + 1 := ⟨slots - 1, by simp at hslots; omega⟩
    rw [flatMap_cons, parseFrom_wire (hreads b (by simp)) (by omega) hnext,
      ih (fun c hc => hreads c (by simp [hc])) hrest (by simpa using hslots)]
    rfl

theorem parseBlocks_encodeBlocks {blocks : List Block} (hreads : ∀ b ∈ blocks, b.ReadsBack) {bytes : List UInt8}
    (h : encodeBlocks blocks = .ok bytes) : parseBlocks bytes = .ok ⟨blocks.map Block.decoded, 0⟩ := by
  unfold encodeBlocks at h
  obtain ⟨hcount, h⟩ := Fallible.ite_error_eq_ok.mp h
  obtain ⟨hbytes, -, hsize⟩ := (encodeFrom_eq_ok (fun b hb => (hreads b hb).length_eq) [] bytes).mp h
  rw [nil_append] at hbytes
  have hlength : (blocks.flatMap Block.wire).length = (blocks.map Block.encodedLen).sum := by
    rw [length_flatMap]
    congr 1
    exact map_congr_left fun b hb => Block.length_wire (hreads b hb).length_eq
  have hfits : ¬ maxPayloadBytes < bytes.length := by
    rw [hbytes, hlength]
    rcases eq_or_ne blocks [] with rfl | hne
    · simp
    · simpa using hsize hne
  rw [parseBlocks, if_neg hfits, hbytes]
  exact parseFrom_encodeFrom hreads h (not_lt.mp hcount) 0

end I2pr.Ssu2
