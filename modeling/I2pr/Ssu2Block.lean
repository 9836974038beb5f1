import I2pr.ReassemblyOrder

namespace I2pr.Ssu2

open BigEndian List

def shortTransportHeaderSize : Nat := 9
def maxI2npMessageBytes : Nat := 62724
def blockHeaderLength : Nat := 3
def maxBlockCount : Nat := 64
def maxUnknownBlockBytes : Nat := 1024
def maxRouterInfoBlockBytes : Nat := 4096
def maxFragmentNumber : UInt8 := 127
def maxAckRanges : Nat := 128
def maxTerminationAdditionalBytes : Nat := 256
def maxSignatureBytes : Nat := 1024
def maxPathDataBytes : Nat := 1024
def maxCongestionExtensionBytes : Nat := 64
def maxOptionsBytes : Nat := 4096
def maxDatagramIpv4Length : Nat := 1472
def maxDatagramIpv6Length : Nat := 1452

/-- `max_payload_bytes` of the block codec. -/
def maxPayloadBytes : Nat := maxDatagramIpv4Length - 60

inductive BlockError where
  | truncated
  | lengthExceedsPayload
  | excessiveBlockCount
  | excessiveUnknownBytes
  | invalidLength
  | duplicateBlock
  | invalidOrder
  | invalidTermination
  | routerInfoMalformed
  | i2npMalformed
  | fragmentMalformed
  | ackMalformed
  | addressMalformed
  | relayMalformed
  | peerTestMalformed
  | optionsMalformed
  | unsupportedBlock
  | payloadTooLarge
deriving DecidableEq, Repr

/-- The I2NP message types, with the identifiers the specification leaves unassigned. -/
inductive MessageType where
  | databaseStore
  | databaseLookup
  | databaseSearchReply
  | deliveryStatus
  | garlic
  | tunnelData
  | tunnelGateway
  | data
  | tunnelBuild
  | tunnelBuildReply
  | variableTunnelBuild
  | variableTunnelBuildReply
  | shortTunnelBuild
  | outboundTunnelBuildReply
  | tunnelTest
  | unknown (code : UInt8)
deriving DecidableEq, Repr

namespace MessageType

def fromCode : UInt8 → MessageType
  | 1 => databaseStore
  | 2 => databaseLookup
  | 3 => databaseSearchReply
  | 10 => deliveryStatus
  | 11 => garlic
  | 18 => tunnelData
  | 19 => tunnelGateway
  | 20 => data
  | 21 => tunnelBuild
  | 22 => tunnelBuildReply
  | 23 => variableTunnelBuild
  | 24 => variableTunnelBuildReply
  | 25 => shortTunnelBuild
  | 26 => outboundTunnelBuildReply
  | 231 => tunnelTest
  | other => unknown other

def code : MessageType → UInt8
  | databaseStore => 1
  | databaseLookup => 2
  | databaseSearchReply => 3
  | deliveryStatus => 10
  | garlic => 11
  | tunnelData => 18
  | tunnelGateway => 19
  | data => 20
  | tunnelBuild => 21
  | tunnelBuildReply => 22
  | variableTunnelBuild => 23
  | variableTunnelBuildReply => 24
  | shortTunnelBuild => 25
  | outboundTunnelBuildReply => 26
  | tunnelTest => 231
  | unknown code => code

@[simp] theorem code_fromCode (c : UInt8) : (fromCode c).code = c := by
  unfold fromCode
  split <;> rfl

end MessageType

inductive TerminationReason where
  | normal
  | received
  | idleTimeout
  | routerShutdown
  | aeadFailure
  | incompatibleOptions
  | incompatibleSignatureType
  | clockSkew
  | paddingViolation
  | aeadFramingError
  | payloadFormatError
  | sessionRequestError
  | sessionCreatedError
  | sessionConfirmedError
  | timeout
  | routerInfoSignatureFailure
  | staticKeyFailure
  | banned
  | badToken
  | connectionLimits
  | incompatibleVersion
  | wrongNetworkId
  | replaced
  | unknown (code : UInt8)
deriving DecidableEq, Repr

namespace TerminationReason

def code : TerminationReason → UInt8
  | normal => 0
  | received => 1
  | idleTimeout => 2
  | routerShutdown => 3
  | aeadFailure => 4
  | incompatibleOptions => 5
  | incompatibleSignatureType => 6
  | clockSkew => 7
  | paddingViolation => 8
  | aeadFramingError => 9
  | payloadFormatError => 10
  | sessionRequestError => 11
  | sessionCreatedError => 12
  | sessionConfirmedError => 13
  | timeout => 14
  | routerInfoSignatureFailure => 15
  | staticKeyFailure => 16
  | banned => 17
  | badToken => 18
  | connectionLimits => 19
  | incompatibleVersion => 20
  | wrongNetworkId => 21
  | replaced => 22
  | unknown code => code

def fromCode : UInt8 → TerminationReason
  | 0 => normal
  | 1 => received
  | 2 => idleTimeout
  | 3 => routerShutdown
  | 4 => aeadFailure
  | 5 => incompatibleOptions
  | 6 => incompatibleSignatureType
  | 7 => clockSkew
  | 8 => paddingViolation
  | 9 => aeadFramingError
  | 10 => payloadFormatError
  | 11 => sessionRequestError
  | 12 => sessionCreatedError
  | 13 => sessionConfirmedError
  | 14 => timeout
  | 15 => routerInfoSignatureFailure
  | 16 => staticKeyFailure
  | 17 => banned
  | 18 => badToken
  | 19 => connectionLimits
  | 20 => incompatibleVersion
  | 21 => wrongNetworkId
  | 22 => replaced
  | other => unknown other

end TerminationReason

inductive IpAddr where
  | v4 (octets : List.Vector UInt8 4)
  | v6 (octets : List.Vector UInt8 16)
deriving DecidableEq

def IpAddr.octetList : IpAddr → List UInt8
  | .v4 octets => octets.toList
  | .v6 octets => octets.toList

/-- An endpoint whose port lies in the valid range `1..=65535`. -/
structure Ssu2Endpoint where
  ip : IpAddr
  port : UInt16
  portValid : port ≠ 0
deriving DecidableEq

namespace Ssu2Endpoint

def new (ip : IpAddr) (port : UInt16) : Option Ssu2Endpoint :=
  if h : port ≠ 0 then some ⟨ip, port, h⟩ else none

def size (e : Ssu2Endpoint) : Nat :=
  match e.ip with
  | .v4 _ => 6
  | .v6 _ => 18

def bytes (e : Ssu2Endpoint) : List UInt8 :=
  encode 2 e.port.toNat ++ e.ip.octetList

@[simp] theorem length_bytes (e : Ssu2Endpoint) : e.bytes.length = e.size := by
  unfold bytes size IpAddr.octetList
  split <;> simp

end Ssu2Endpoint

structure OptionsBlock where
  transmitMinRatio : UInt8
  transmitMaxRatio : UInt8
  receiveMinRatio : UInt8
  receiveMaxRatio : UInt8
  transmitDummyRate : UInt16
  receiveDummyRate : UInt16
  transmitDelayMs : UInt16
  receiveDelayMs : UInt16
  extensions : List UInt8
  bounded : 12 + extensions.length ≤ maxOptionsBytes
deriving DecidableEq

namespace OptionsBlock

def transmitRatios (b : OptionsBlock) : UInt8 × UInt8 := (b.transmitMinRatio, b.transmitMaxRatio)

def receiveRatios (b : OptionsBlock) : UInt8 × UInt8 := (b.receiveMinRatio, b.receiveMaxRatio)

def encodePayload (b : OptionsBlock) : List UInt8 :=
  [b.transmitMinRatio, b.transmitMaxRatio, b.receiveMinRatio, b.receiveMaxRatio] ++
    encode 2 b.transmitDummyRate.toNat ++ encode 2 b.receiveDummyRate.toNat ++
    encode 2 b.transmitDelayMs.toNat ++ encode 2 b.receiveDelayMs.toNat ++ b.extensions

end OptionsBlock

structure RouterInfoBlock where
  flags : UInt8
  encoded : List UInt8
  flagsValid : flags &&& 0xFC = 0
  nonempty : encoded ≠ []
  bounded : encoded.length ≤ maxRouterInfoBlockBytes
deriving DecidableEq

def RouterInfoBlock.new (flags : UInt8) (encoded : List UInt8) : Except BlockError RouterInfoBlock :=
  if h : flags &&& 0xFC = 0 ∧ encoded ≠ [] ∧ encoded.length ≤ maxRouterInfoBlockBytes then
    .ok ⟨flags, encoded, h.1, h.2.1, h.2.2⟩
  else .error .routerInfoMalformed

/-- A complete encoded I2NP message with its nine byte short transport header. -/
structure I2npMessageBlock where
  bytes : List UInt8
  headed : shortTransportHeaderSize ≤ bytes.length
  bounded : bytes.length ≤ maxI2npMessageBytes
deriving DecidableEq

def I2npMessageBlock.fromBytes (bytes : List UInt8) : Except BlockError I2npMessageBlock :=
  if h : shortTransportHeaderSize ≤ bytes.length ∧ bytes.length ≤ maxI2npMessageBytes then
    .ok ⟨bytes, h.1, h.2⟩
  else .error .i2npMalformed

structure FirstFragmentBlock where
  messageType : MessageType
  messageId : UInt32
  expirationSeconds : UInt32
  fragment : List UInt8
  nonempty : fragment ≠ []
  bounded : fragment.length ≤ maxI2npMessageBytes
deriving DecidableEq

def FirstFragmentBlock.new (messageType : MessageType) (messageId expirationSeconds : UInt32)
    (fragment : List UInt8) : Except BlockError FirstFragmentBlock :=
  if h : fragment ≠ [] ∧ fragment.length ≤ maxI2npMessageBytes then
    .ok ⟨messageType, messageId, expirationSeconds, fragment, h.1, h.2⟩
  else .error .fragmentMalformed

structure FollowOnFragmentBlock where
  fragNumber : UInt8
  isLast : Bool
  messageId : UInt32
  fragment : List UInt8
  numbered : 1 ≤ fragNumber ∧ fragNumber ≤ maxFragmentNumber
  nonempty : fragment ≠ []
  bounded : fragment.length ≤ maxI2npMessageBytes
deriving DecidableEq

def FollowOnFragmentBlock.new (fragNumber : UInt8) (isLast : Bool) (messageId : UInt32)
    (fragment : List UInt8) : Except BlockError FollowOnFragmentBlock :=
  if h : (1 ≤ fragNumber ∧ fragNumber ≤ maxFragmentNumber) ∧ fragment ≠ [] ∧ fragment.length ≤ maxI2npMessageBytes then
    .ok ⟨fragNumber, isLast, messageId, fragment, h.1, h.2.1, h.2.2⟩
  else .error .fragmentMalformed

structure TerminationBlock where
  validPacketsReceived : UInt64
  reason : TerminationReason
  additionalLength : Nat
deriving DecidableEq

/-- An ACK block: the highest packet acknowledged, the packets acknowledged directly below it, and
`(nack, ack)` ranges walking further down. -/
structure AckBlock where
  ackThrough : UInt32
  ackCount : UInt8
  ranges : List (UInt8 × UInt8)
  bounded : ranges.length ≤ maxAckRanges
  nonzero : ∀ range ∈ ranges, range ≠ (0, 0)
deriving DecidableEq

def AckBlock.new (ackThrough : UInt32) (ackCount : UInt8) (ranges : List (UInt8 × UInt8)) :
    Except BlockError AckBlock :=
  if h : ranges.length ≤ maxAckRanges ∧ ∀ range ∈ ranges, range ≠ (0, 0) then
    .ok ⟨ackThrough, ackCount, ranges, h.1, h.2⟩
  else .error .ackMalformed

def SignatureOk (signature : List UInt8) : Prop :=
  signature ≠ [] ∧ signature.length ≤ maxSignatureBytes

instance (signature : List UInt8) : Decidable (SignatureOk signature) :=
  inferInstanceAs (Decidable (_ ∧ _))

def VersionOk (version : UInt8) : Prop := version = 1 ∨ version = 2

instance (version : UInt8) : Decidable (VersionOk version) :=
  inferInstanceAs (Decidable (_ ∨ _))

structure RelayRequestBlock where
  nonce : UInt32
  relayTag : UInt32
  timestamp : UInt32
  version : UInt8
  endpoint : Ssu2Endpoint
  signature : List UInt8
  tagged : relayTag ≠ 0
  versionOk : VersionOk version
  signatureOk : SignatureOk signature
deriving DecidableEq

inductive RelayResponseCode where
  | accept
  | rejectedByBob (code : UInt8)
  | rejectedByCharlie (code : UInt8)
  | rejectedOther (code : UInt8)
deriving DecidableEq

namespace RelayResponseCode

def fromU8 (code : UInt8) : RelayResponseCode :=
  if code = 0 then accept
  else if code ≤ 63 then rejectedByBob code
  else if code ≤ 127 then rejectedByCharlie code
  else rejectedOther code

def asU8 : RelayResponseCode → UInt8
  | accept => 0
  | rejectedByBob code => code
  | rejectedByCharlie code => code
  | rejectedOther code => code

end RelayResponseCode

/-- What `accept` and `reject` ask of the fields that go with each response code. -/
def RelayResponseShape (code : RelayResponseCode) (endpoint : Option Ssu2Endpoint) (signature : List UInt8)
    (token : Option UInt64) : Prop :=
  match code with
  | .accept => endpoint.isSome ∧ SignatureOk signature ∧ token.isSome
  | .rejectedByBob _ => endpoint = none ∧ signature = [] ∧ token = none
  | .rejectedByCharlie _ => signature.length ≤ maxSignatureBytes ∧ token = none
  | .rejectedOther _ => signature.length ≤ maxSignatureBytes ∧ token = none

instance (code : RelayResponseCode) (endpoint : Option Ssu2Endpoint) (signature : List UInt8)
    (token : Option UInt64) : Decidable (RelayResponseShape code endpoint signature token) := by
  unfold RelayResponseShape
  cases code <;> infer_instance

structure RelayResponseBlock where
  code : RelayResponseCode
  nonce : UInt32
  timestamp : UInt32
  version : UInt8
  endpoint : Option Ssu2Endpoint
  signature : List UInt8
  token : Option UInt64
  versionOk : VersionOk version
  shape : RelayResponseShape code endpoint signature token
deriving DecidableEq

structure RelayIntroBlock where
  aliceHash : Hash
  nonce : UInt32
  relayTag : UInt32
  timestamp : UInt32
  version : UInt8
  endpoint : Ssu2Endpoint
  signature : List UInt8
  tagged : relayTag ≠ 0
  versionOk : VersionOk version
  signatureOk : SignatureOk signature
deriving DecidableEq

/-- What `PeerTestBlock::new` asks: only messages 2 and 4 carry a router hash, and messages 1 to 4 are
signed. -/
def PeerTestShape (message : UInt8) (routerHash : Option Hash) (version : UInt8) (signature : List UInt8) : Prop :=
  (1 ≤ message ∧ message ≤ 7) ∧ (routerHash.isSome ↔ message = 2 ∨ message = 4) ∧ version = 2 ∧
    (message ≤ 4 → signature ≠ []) ∧ signature.length ≤ maxSignatureBytes

instance (message : UInt8) (routerHash : Option Hash) (version : UInt8) (signature : List UInt8) :
    Decidable (PeerTestShape message routerHash version signature) :=
  inferInstanceAs (Decidable (_ ∧ _))

structure PeerTestBlock where
  message : UInt8
  code : UInt8
  routerHash : Option Hash
  version : UInt8
  nonce : UInt32
  timestamp : UInt32
  endpoint : Ssu2Endpoint
  signature : List UInt8
  shape : PeerTestShape message routerHash version signature
deriving DecidableEq

structure NewTokenBlock where
  expires : UInt32
  token : UInt64
deriving DecidableEq

/-- The opaque data of a path challenge or of the response that echoes it. -/
structure PathBlock where
  data : List UInt8
  bounded : data.length ≤ maxPathDataBytes
deriving DecidableEq

def PathBlock.new (data : List UInt8) : Except BlockError PathBlock :=
  if h : data.length ≤ maxPathDataBytes then .ok ⟨data, h⟩ else .error .payloadTooLarge

structure RelayTagBlock where
  tag : UInt32
  tagged : tag ≠ 0
deriving DecidableEq

structure CongestionBlock where
  flags : UInt8
  extensions : List UInt8
  bounded : extensions.length ≤ maxCongestionExtensionBytes
deriving DecidableEq

def CongestionBlock.requestsImmediateAck (b : CongestionBlock) : Bool := b.flags &&& 1 != 0

structure PaddingBlock where
  bytes : List UInt8
  bounded : bytes.length ≤ maxDatagramIpv4Length - blockHeaderLength
deriving DecidableEq

inductive Block where
  | timestamp (seconds : UInt32)
  | options (block : OptionsBlock)
  | routerInfo (block : RouterInfoBlock)
  | i2np (block : I2npMessageBlock)
  | firstFragment (block : FirstFragmentBlock)
  | followOnFragment (block : FollowOnFragmentBlock)
  | termination (block : TerminationBlock)
  | relayRequest (block : RelayRequestBlock)
  | relayResponse (block : RelayResponseBlock)
  | relayIntro (block : RelayIntroBlock)
  | peerTest (block : PeerTestBlock)
  | ack (block : AckBlock)
  | address (endpoint : Ssu2Endpoint)
  | relayTagRequest
  | relayTag (block : RelayTagBlock)
  | newToken (block : NewTokenBlock)
  | pathChallenge (block : PathBlock)
  | pathResponse (block : PathBlock)
  | firstPacketNumber (first : UInt32)
  | congestion (block : CongestionBlock)
  | padding (block : PaddingBlock)
deriving DecidableEq

/-- `relay_response_has_trailer` is false only for a rejection by Bob, whose endpoint and signature are
empty, so both branches of `encode_relay_response` write the same fields. -/
def encodeRelayResponse (b : RelayResponseBlock) : List UInt8 :=
  [0, b.code.asU8] ++ encode 4 b.nonce.toNat ++ encode 4 b.timestamp.toNat ++ [b.version] ++
    (match b.endpoint with
      | some endpoint => UInt8.ofNat endpoint.size :: endpoint.bytes
      | none => [0]) ++
    b.signature ++ (match b.token with | some token => encode 8 token.toNat | none => [])

def relayResponseLen (b : RelayResponseBlock) : Nat :=
  12 + (match b.endpoint with | some endpoint => endpoint.size | none => 0) + b.signature.length +
    (if b.token.isSome then 8 else 0)

def encodePeerTest (b : PeerTestBlock) : List UInt8 :=
  [b.message, b.code, 0] ++ (match b.routerHash with | some hash => hash.toList | none => []) ++
    [b.version] ++ encode 4 b.nonce.toNat ++ encode 4 b.timestamp.toNat ++
    [UInt8.ofNat b.endpoint.size] ++ b.endpoint.bytes ++ b.signature

def peerTestLen (b : PeerTestBlock) : Nat :=
  3 + (if b.routerHash.isSome then 32 else 0) + 1 + 4 + 4 + 1 + b.endpoint.size + b.signature.length

namespace Block

def kind : Block → UInt8
  | timestamp _ => 0
  | options _ => 1
  | routerInfo _ => 2
  | i2np _ => 3
  | firstFragment _ => 4
  | followOnFragment _ => 5
  | termination _ => 6
  | relayRequest _ => 7
  | relayResponse _ => 8
  | relayIntro _ => 9
  | peerTest _ => 10
  | ack _ => 12
  | address _ => 13
  | relayTagRequest => 15
  | relayTag _ => 16
  | newToken _ => 17
  | pathChallenge _ => 18
  | pathResponse _ => 19
  | firstPacketNumber _ => 20
  | congestion _ => 21
  | padding _ => 254

def payloadLen : Block → Nat
  | timestamp _ => 4
  | options b => 12 + b.extensions.length
  | routerInfo b => 2 + b.encoded.length
  | i2np b => b.bytes.length
  | firstFragment b => 9 + b.fragment.length
  | followOnFragment b => 5 + b.fragment.length
  | termination b => 9 + b.additionalLength
  | relayRequest b => 15 + b.endpoint.size + b.signature.length
  | relayResponse b => relayResponseLen b
  | relayIntro b => 47 + b.endpoint.size + b.signature.length
  | peerTest b => peerTestLen b
  | ack b => 5 + 2 * b.ranges.length
  | address e => e.size
  | relayTagRequest => 0
  | relayTag _ => 4
  | newToken _ => 12
  | pathChallenge b => b.data.length
  | pathResponse b => b.data.length
  | firstPacketNumber _ => 4
  | congestion b => 1 + b.extensions.length
  | padding b => b.bytes.length

def encodedLen (b : Block) : Nat := blockHeaderLength + b.payloadLen

/-- What `encode_into` writes after the type and length bytes. -/
def payload : Block → List UInt8
  | timestamp seconds => encode 4 seconds.toNat
  | options b => b.encodePayload
  | routerInfo b => b.flags :: 0x01 :: b.encoded
  | i2np b => b.bytes
  | firstFragment b =>
    b.messageType.code :: (encode 4 b.messageId.toNat ++ (encode 4 b.expirationSeconds.toNat ++ b.fragment))
  | followOnFragment b =>
    ((b.fragNumber <<< 1) ||| (if b.isLast then 1 else 0)) :: (encode 4 b.messageId.toNat ++ b.fragment)
  | termination b => encode 8 b.validPacketsReceived.toNat ++ [b.reason.code]
  | relayRequest b =>
    [0] ++ encode 4 b.nonce.toNat ++ encode 4 b.relayTag.toNat ++ encode 4 b.timestamp.toNat ++
      [b.version, UInt8.ofNat b.endpoint.size] ++ b.endpoint.bytes ++ b.signature
  | relayResponse b => encodeRelayResponse b
  | relayIntro b =>
    [0] ++ b.aliceHash.toList ++ encode 4 b.nonce.toNat ++ encode 4 b.relayTag.toNat ++
      encode 4 b.timestamp.toNat ++ [b.version, UInt8.ofNat b.endpoint.size] ++ b.endpoint.bytes ++ b.signature
  | peerTest b => encodePeerTest b
  | ack b =>
    encode 4 b.ackThrough.toNat ++ (b.ackCount :: b.ranges.flatMap fun range => [range.1, range.2])
  | address e => e.bytes
  | relayTagRequest => []
  | relayTag b => encode 4 b.tag.toNat
  | newToken b => encode 4 b.expires.toNat ++ encode 8 b.token.toNat
  | pathChallenge b => b.data
  | pathResponse b => b.data
  | firstPacketNumber first => encode 4 first.toNat
  | congestion b => b.flags :: b.extensions
  | padding b => b.bytes

def wire (b : Block) : List UInt8 := b.kind :: (encode 2 b.payloadLen ++ b.payload)

def encodeInto (b : Block) : Except BlockError (List UInt8) :=
  if b.payloadLen < 2 ^ 16 then .ok b.wire else .error .payloadTooLarge

theorem length_payload {b : Block} (h : ∀ t, b = termination t → t.additionalLength = 0) :
    b.payload.length = b.payloadLen := by
  cases b with
  | termination t => simp [payload, payloadLen, h t rfl]
  | relayResponse b =>
    simp only [payload, payloadLen, encodeRelayResponse, relayResponseLen]
    cases b.endpoint <;> cases b.token <;> simp <;> omega
  | peerTest b =>
    simp only [payload, payloadLen, encodePeerTest, peerTestLen]
    cases b.routerHash <;> simp <;> omega
  | ack b =>
    have hpairs : (b.ranges.flatMap fun range => [range.1, range.2]).length = 2 * b.ranges.length := by
      induction b.ranges with
      | nil => rfl
      | cons range rest ih => simp only [flatMap_cons, length_append, ih, length_cons]; simp; omega
    simp [payload, payloadLen, hpairs]
    omega
  | _ => simp [payload, payloadLen, OptionsBlock.encodePayload] <;> omega

theorem length_wire {b : Block} (h : b.payload.length = b.payloadLen) : b.wire.length = b.encodedLen := by
  simp only [wire, encodedLen, blockHeaderLength, length_cons, length_append, length_encode, h]
  omega

end Block

structure OrderState where
  paddingSeen : Bool := false
  terminationSeen : Bool := false

/-- The ordering rule that `encode_blocks` and `parse_blocks` share: padding comes last and once, and only
padding may follow a termination. -/
def OrderState.next (st : OrderState) (kind : UInt8) : Except BlockError OrderState :=
  if kind = 254 then
    if st.paddingSeen then .error .duplicateBlock else .ok { st with paddingSeen := true }
  else if st.paddingSeen then .error .invalidOrder
  else if kind = 6 then
    if st.terminationSeen then .error .duplicateBlock else .ok { st with terminationSeen := true }
  else if st.terminationSeen then .error .invalidOrder
  else .ok st

def encodeFrom (st : OrderState) (output : List UInt8) : List Block → Except BlockError (List UInt8)
  | [] => .ok output
  | block :: blocks => do
    let st ← st.next block.kind
    if maxPayloadBytes < output.length + block.encodedLen then .error .payloadTooLarge else
    let bytes ← block.encodeInto
    encodeFrom st (output ++ bytes) blocks

def encodeBlocks (blocks : List Block) : Except BlockError (List UInt8) :=
  if maxBlockCount < blocks.length then .error .excessiveBlockCount else encodeFrom {} [] blocks

theorem encodeFrom_cons_eq_ok {st : OrderState} {output bytes : List UInt8} {b : Block} {blocks : List Block} :
    encodeFrom st output (b :: blocks) = .ok bytes ↔ ∃ st', st.next b.kind = .ok st' ∧
      output.length + b.encodedLen ≤ maxPayloadBytes ∧ encodeFrom st' (output ++ b.wire) blocks = .ok bytes := by
  rw [encodeFrom]
  cases hnext : st.next b.kind with
  | error e => simp [bind, Except.bind]
  | ok st' =>
    simp only [bind, Except.bind, Except.ok.injEq, exists_eq_left']
    by_cases hroom : maxPayloadBytes < output.length + b.encodedLen
    · simp [hroom]
    have hsmall : b.payloadLen < 2 ^ 16 := by
      have : maxPayloadBytes = 1412 := rfl
      rw [Block.encodedLen] at hroom
      omega
    rw [Block.encodeInto, if_pos hsmall]
    simp [hroom, not_lt.mp hroom]

theorem encodeFrom_eq_ok {blocks : List Block} (hlen : ∀ b ∈ blocks, b.payload.length = b.payloadLen)
    {st : OrderState} (output bytes : List UInt8) :
    encodeFrom st output blocks = .ok bytes ↔ bytes = output ++ blocks.flatMap Block.wire ∧
      (∃ st', blocks.foldlM (fun st b => st.next b.kind) st = .ok st') ∧
      (blocks ≠ [] → output.length + (blocks.map Block.encodedLen).sum ≤ maxPayloadBytes) := by
  induction blocks generalizing st output with
  | nil => simp [encodeFrom, pure, Except.pure, eq_comm]
  | cons b blocks ih =>
    have hwire := Block.length_wire (hlen b (by simp))
    rw [encodeFrom_cons_eq_ok]
    simp only [ih (fun c hc => hlen c (by simp [hc])), foldlM_cons, flatMap_cons, append_assoc,
      length_append, hwire, map_cons, sum_cons]
    constructor
    · rintro ⟨st', hnext, hfits, hbytes, ⟨st'', hfold⟩, hrest⟩
      refine ⟨hbytes, ⟨st'', Fallible.bind_eq_ok.mpr ⟨st', hnext, hfold⟩⟩, fun _ => ?_⟩
      rcases eq_or_ne blocks [] with rfl | hne
      · simpa using hfits
      · have := hrest hne
        omega
    · rintro ⟨hbytes, ⟨st'', hfold⟩, hsize⟩
      have hsum := hsize (by simp)
      obtain ⟨st', hnext, hfold⟩ := Fallible.bind_eq_ok.mp hfold
      exact ⟨st', hnext, by omega, hbytes, ⟨st'', hfold⟩, fun _ => by omega⟩

end I2pr.Ssu2
