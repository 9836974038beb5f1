import I2pr.Ntcp2Crypto
import I2pr.I2npEnvelope

namespace I2pr.Ntcp2

open BigEndian
open Noise (Key CipherState)

def ntcp2Version : UInt8 := 2

/-- The codec errors of the block decoders are mapped to the others before they are returned. -/
inductive HandshakeError where
  | truncated
  | invalidFixedLength
  | excessivePadding
  | malformedOptions
  | deobfuscationFailure
  | authenticationFailure
  | transcriptMismatch
  | invalidKeyAgreement
  | wrongNetwork
  | staleTimestamp
  | futureTimestamp
  | replayDetected
  | replayCacheUnavailable
  | peerIdentityMismatch
  | transportStaticKeyMismatch
  | routerInfoMalformed
  | routerInfoSignatureInvalid
  | unsupportedPeerKey
  | stateViolation
  | cancelled
  | deadlineExpired
  | disconnected
  | localPolicyDenied
  | crypto (e : Ntcp2CryptoError)
deriving DecidableEq, Repr

/-- The errors of the protocol-crypto crate, and what the handshake makes of them. -/
inductive CryptoError where
  | invalidSignature
  | unsupportedAlgorithm
  | invalidKey
  | allZeroSharedSecret
  | protocol
  | randomnessUnavailable
  | netDbReplyAeadFailed

def HandshakeError.ofCryptoError : CryptoError → HandshakeError
  | .invalidSignature => .routerInfoSignatureInvalid
  | .unsupportedAlgorithm | .invalidKey => .unsupportedPeerKey
  | .allZeroSharedSecret => .invalidKeyAgreement
  | .protocol => .routerInfoMalformed
  | .randomnessUnavailable | .netDbReplyAeadFailed => .localPolicyDenied

/-- `diffie_hellman`, which refuses an all-zero secret. -/
def diffieHellman (c : Ntcp2Crypto) (secret peer : Key) : Except HandshakeError Key :=
  let shared := c.agree secret peer
  if allZero shared then .error (.ofCryptoError .allZeroSharedSecret) else .ok shared

structure SessionRequestOptions where
  networkId : UInt8
  version : UInt8
  paddingLength : UInt16
  sessionConfirmedPart2Length : UInt16
  timestamp : UInt32

namespace SessionRequestOptions

/-- The comparison of the part-two length is made on the length before it is narrowed. -/
def new (networkId : UInt8) (paddingLength sessionConfirmedPart2Length timestamp : Nat) :
    Except HandshakeError SessionRequestOptions :=
  if 2 ^ 32 ≤ timestamp then .error .malformedOptions
  else if 2 ^ 16 ≤ paddingLength then .error .excessivePadding
  else if 2 ^ 16 ≤ sessionConfirmedPart2Length then .error .invalidFixedLength
  else if sessionConfirmedPart2Length < authTagLength ∨ maxSessionConfirmedPart2 < sessionConfirmedPart2Length then
    .error .invalidFixedLength
  else .ok ⟨networkId, ntcp2Version, .ofNat paddingLength, .ofNat sessionConfirmedPart2Length, .ofNat timestamp⟩

def encode (options : SessionRequestOptions) : List UInt8 :=
  [options.networkId, options.version] ++ (BigEndian.encode 2 options.paddingLength.toNat ++
    (BigEndian.encode 2 options.sessionConfirmedPart2Length.toNat ++ (BigEndian.encode 2 0 ++
      (BigEndian.encode 4 options.timestamp.toNat ++ BigEndian.encode 4 0))))

def decode (input : List UInt8) : Except HandshakeError SessionRequestOptions :=
  if input.length ≠ optionBlockLength then .error .invalidFixedLength
  else
    let version := input.getD 1 0
    let part2Length := BigEndian.decode (slice input 4 2)
    if BigEndian.decode (slice input 6 2) ≠ 0 then .error .malformedOptions
    else if BigEndian.decode (slice input 12 4) ≠ 0 ∨ version ≠ ntcp2Version then .error .malformedOptions
    else if part2Length < authTagLength ∨ maxSessionConfirmedPart2 < part2Length then .error .invalidFixedLength
    else .ok ⟨input.getD 0 0, version, .ofNat (BigEndian.decode (slice input 2 2)), .ofNat part2Length,
      .ofNat (BigEndian.decode (slice input 8 4))⟩

end SessionRequestOptions

structure SessionCreatedOptions where
  paddingLength : UInt16
  timestamp : UInt32

namespace SessionCreatedOptions

def new (paddingLength timestamp : Nat) : Except HandshakeError SessionCreatedOptions :=
  if 2 ^ 16 ≤ paddingLength then .error .excessivePadding
  else if 2 ^ 32 ≤ timestamp then .error .malformedOptions
  else .ok ⟨.ofNat paddingLength, .ofNat timestamp⟩

def encode (options : SessionCreatedOptions) : List UInt8 :=
  BigEndian.encode 2 0 ++ (BigEndian.encode 2 options.paddingLength.toNat ++ (BigEndian.encode 4 0 ++
    (BigEndian.encode 4 options.timestamp.toNat ++ BigEndian.encode 4 0)))

def decode (input : List UInt8) : Except HandshakeError SessionCreatedOptions :=
  if input.length ≠ optionBlockLength then .error .invalidFixedLength
  else if BigEndian.decode (slice input 0 2) ≠ 0 then .error .malformedOptions
  else if BigEndian.decode (slice input 4 2) ≠ 0 then .error .malformedOptions
  else if BigEndian.decode (slice input 6 2) ≠ 0 then .error .malformedOptions
  else if BigEndian.decode (slice input 12 4) ≠ 0 then .error .malformedOptions
  else .ok ⟨.ofNat (BigEndian.decode (slice input 2 2)), .ofNat (BigEndian.decode (slice input 8 4))⟩

end SessionCreatedOptions

structure EphemeralMessage where
  encryptedEphemeral : Key
  encryptedOptions : List UInt8
  padding : List UInt8

namespace EphemeralMessage

def encodedLen (m : EphemeralMessage) : Nat :=
  keyLength + m.encryptedOptions.length + m.padding.length

def new (maxPadding : Nat) (encryptedEphemeral : Key) (encryptedOptions padding : List UInt8) :
    Except HandshakeError EphemeralMessage :=
  if encryptedOptions.length ≠ handshakeOptionsFrameLength then .error .invalidFixedLength
  else if maxPadding < padding.length then .error .excessivePadding
  else
    let message : EphemeralMessage := ⟨encryptedEphemeral, encryptedOptions, padding⟩
    if maxHandshakeMessageLength < message.encodedLen then .error .invalidFixedLength else .ok message

def decode (maxPadding : Nat) (input : List UInt8) (maximum : Nat) : Except HandshakeError EphemeralMessage :=
  if h : input.length < minHandshakeMessageLength then .error .truncated
  else if maximum < input.length ∨ maxHandshakeMessageLength < input.length then .error .invalidFixedLength
  else new maxPadding ⟨input.take 32, by
    rw [minHandshakeMessageLength, keyLength] at h
    rw [List.length_take]
    omega⟩ (slice input 32 handshakeOptionsFrameLength) (input.drop 64)

def encode (m : EphemeralMessage) : List UInt8 :=
  m.encryptedEphemeral.toList ++ (m.encryptedOptions ++ m.padding)

end EphemeralMessage

abbrev SessionRequest := EphemeralMessage
def SessionRequest.new := EphemeralMessage.new maxSessionRequestPadding
def SessionRequest.decode := EphemeralMessage.decode maxSessionRequestPadding

abbrev SessionCreated := EphemeralMessage
def SessionCreated.new := EphemeralMessage.new maxSessionCreatedPadding
def SessionCreated.decode := EphemeralMessage.decode maxSessionCreatedPadding

structure SessionConfirmed where
  staticFrame : List UInt8
  payloadFrame : List UInt8

namespace SessionConfirmed

def new (staticFrame payloadFrame : List UInt8) : Except HandshakeError SessionConfirmed :=
  if staticFrame.length ≠ sessionConfirmedPart1Length ∨ payloadFrame.length < authTagLength ∨
      maxSessionConfirmedPart2 < payloadFrame.length ∨
      maxSessionConfirmedLength < staticFrame.length + payloadFrame.length then .error .invalidFixedLength
  else .ok ⟨staticFrame, payloadFrame⟩

def decode (input : List UInt8) (expectedPart2Length maximum : Nat) : Except HandshakeError SessionConfirmed :=
  if maximum < input.length ∨ maxSessionConfirmedLength < input.length then .error .invalidFixedLength
  else if input.length < sessionConfirmedPart1Length + expectedPart2Length then .error .truncated
  else if sessionConfirmedPart1Length + expectedPart2Length < input.length then .error .invalidFixedLength
  else new (input.take sessionConfirmedPart1Length) (input.drop sessionConfirmedPart1Length)

def encode (m : SessionConfirmed) : List UInt8 :=
  m.staticFrame ++ m.payloadFrame

end SessionConfirmed

structure ConfirmedPayload where
  routerInfo : List UInt8
  options : Option (List UInt8)
  padding : Option (List UInt8)

namespace ConfirmedPayload

def blockLen (block : Option (List UInt8)) : Nat :=
  block.elim 0 fun value => 3 + value.length

def encodedLen (payload : ConfirmedPayload) : Nat :=
  3 + 1 + payload.routerInfo.length + blockLen payload.options + blockLen payload.padding

def new (routerInfo : List UInt8) (options padding : Option (List UInt8)) : Except HandshakeError ConfirmedPayload :=
  if routerInfo.isEmpty ∨ maxRouterInfoPayload < routerInfo.length then .error .routerInfoMalformed
  else if options.any (maxConfirmedOptions < ·.length) ∨
      padding.any (maxSessionConfirmedPart2Plaintext < ·.length) then .error .excessivePadding
  else
    let payload : ConfirmedPayload := ⟨routerInfo, options, padding⟩
    if maxSessionConfirmedPart2Plaintext < payload.encodedLen then .error .invalidFixedLength else .ok payload

def encodeBlock (blockType : UInt8) (block : List UInt8) : List UInt8 :=
  blockType :: (BigEndian.encode 2 block.length ++ block)

/-- The narrowing of the lengths cannot fail for a payload that `new` accepted. -/
def encode (payload : ConfirmedPayload) : List UInt8 :=
  encodeBlock 2 (0 :: payload.routerInfo) ++ (payload.options.elim [] (encodeBlock 1) ++
    payload.padding.elim [] (encodeBlock 254))

/-- The loop over the blocks after the RouterInfo; each one is at least three bytes long, so `rounds` as many as
there are bytes are enough. -/
def decodeBlocks : Nat → List UInt8 → Option (List UInt8) → Option (List UInt8) →
    Except HandshakeError (Option (List UInt8) × Option (List UInt8))
  | 0, _, options, padding => .ok (options, padding)
  | rounds + 1, input, options, padding =>
    if input.isEmpty then .ok (options, padding)
    else if input.length < 3 then .error .truncated
    else
      let length := BigEndian.decode (slice input 1 2)
      if input.length < 3 + length then .error .truncated
      else
        let block := slice input 3 length
        let rest := input.drop (3 + length)
        if input.headD 0 = 1 then
          if options.isSome ∨ padding.isSome ∨ block.length < 12 ∨ maxConfirmedOptions < block.length then
            .error .malformedOptions
          else decodeBlocks rounds rest (some block) padding
        else if input.headD 0 = 254 then
          if padding.isSome then .error .malformedOptions else decodeBlocks rounds rest options (some block)
        else .error .malformedOptions

def decode (input : List UInt8) (maximumRouterInfo : Nat) : Except HandshakeError ConfirmedPayload :=
  if input.isEmpty ∨ maxSessionConfirmedPart2Plaintext < input.length then .error .invalidFixedLength
  else if input.length < 3 then .error .truncated
  else
    let routerLength := BigEndian.decode (slice input 1 2)
    if input.headD 0 ≠ 2 ∨ routerLength < 1 then .error .malformedOptions
    else if input.length < 3 + routerLength then .error .truncated
    else
      let routerBlock := slice input 3 routerLength
      if routerBlock.headD 0 &&& 0xfe ≠ 0 then .error .malformedOptions
      else
        let routerInfo := routerBlock.drop 1
        if routerInfo.isEmpty ∨ maximumRouterInfo < routerInfo.length ∨ maxRouterInfoPayload < routerInfo.length then
          .error .routerInfoMalformed
        else do
          let rest := input.drop (3 + routerLength)
          let (options, padding) ← decodeBlocks rest.length rest none none
          new routerInfo options padding

end ConfirmedPayload

/-- A policy that passed `new`: the retention covers twice the skew, as far as `u64` goes. -/
structure ClockSkewPolicy where
  maximumDelta : Nat
  replayRetention : Nat
  delta_pos : 0 < maximumDelta
  retention_ok : min (2 * maximumDelta) (2 ^ 64 - 1) ≤ replayRetention
  retention_lt : replayRetention < 2 ^ 64

namespace ClockSkewPolicy

def new (maximumDelta replayRetention : Nat) (h : replayRetention < 2 ^ 64) : Option ClockSkewPolicy :=
  if hnew : maximumDelta = 0 ∨ replayRetention < min (2 * maximumDelta) (2 ^ 64 - 1) then none
  else some ⟨maximumDelta, replayRetention, by omega, by omega, h⟩

def defaultCompatibility : ClockSkewPolicy :=
  ⟨60, 120, by decide, by decide, by decide⟩

def classify (policy : ClockSkewPolicy) (localTime : Nat) (peer : UInt32) : Except HandshakeError Unit :=
  let delta : Int := peer.toNat - localTime
  if delta < -(policy.maximumDelta : Int) then .error .staleTimestamp
  else if (policy.maximumDelta : Int) < delta then .error .futureTimestamp
  else .ok ()

end ClockSkewPolicy

def replayToken (c : Ntcp2Crypto) (encryptedEphemeral : Key) : Key :=
  c.hash encryptedEphemeral.toList

inductive ReplayDecision where
  | fresh
  | replayed
  | cacheFull
  | unavailable

structure AuthenticatedPeer where
  routerHash : Key
  transportStaticKey : Key
deriving DecidableEq

/-- What the handshake reads of an address of a RouterInfo: its style and the values of "v" and "s". -/
structure RouterAddress where
  transportStyle : List UInt8
  version : Option (List UInt8)
  staticKey : Option (List UInt8)

/-- What the handshake reads of a decoded RouterInfo: whether its signature verifies, the hash of its identity,
whether the identity has an X25519 key, and its addresses. -/
structure RouterInfo where
  signature : Except CryptoError Unit
  identityHash : Except CryptoError Key
  isX25519 : Bool
  addresses : List RouterAddress

/-- `RouterInfo::decode`, whose error says whether the structure is of an unsupported kind. -/
abbrev RouterInfoDecoder := List UInt8 → Nat → Except Bool RouterInfo

def mapRouterInfoCodec (unsupported : Bool) : HandshakeError :=
  if unsupported then .unsupportedPeerKey else .routerInfoMalformed

def base64Digit (byte : UInt8) : Option UInt8 :=
  if 65 ≤ byte ∧ byte ≤ 90 then some (byte - 65)
  else if 97 ≤ byte ∧ byte ≤ 122 then some (byte - 97 + 26)
  else if 48 ≤ byte ∧ byte ≤ 57 then some (byte - 48 + 52)
  else if byte = 45 ∨ byte = 43 then some 62
  else if byte = 126 ∨ byte = 47 then some 63
  else none

/-- The loop of `decode_i2p_base64`. -/
def base64Loop (expectedLength : Nat) : List UInt8 → Nat → Nat → List UInt8 → Option (List UInt8 × Nat × Nat)
  | [], accumulator, bits, output => some (output, accumulator, bits)
  | byte :: rest, accumulator, bits, output =>
    match base64Digit byte with
    | none => none
    | some digit =>
      let accumulator := (accumulator * 64 + digit.toNat) % 2 ^ 32
      let bits := bits + 6
      if 8 ≤ bits then
        let output := output ++ [UInt8.ofNat (accumulator / 2 ^ (bits - 8))]
        if expectedLength < output.length then none else base64Loop expectedLength rest accumulator (bits - 8) output
      else base64Loop expectedLength rest accumulator bits output

def decodeI2pBase64 (value : List UInt8) (expectedLength : Nat) : Option (List UInt8) :=
  if expectedLength = 0 then none
  else
    let remainder := expectedLength % 3
    let unpaddedLength := expectedLength / 3 * 4 + if remainder = 0 then 0 else if remainder = 1 then 2 else 3
    let extra := if remainder = 0 then 0 else 1
    let paddingLength := (value.dropWhile (· ≠ 61)).length
    let unpadded := paddingLength = 0 ∧ value.length = unpaddedLength
    let padded := value.length = unpaddedLength + extra ∧ paddingLength = extra
    if ¬ unpadded ∧ ¬ padded then none
    else if 0 < paddingLength ∧ !(value.drop unpaddedLength).all (· = 61) then none
    else match base64Loop expectedLength (value.take unpaddedLength) 0 0 [] with
      | none => none
      | some (output, accumulator, bits) =>
        if output.length ≠ expectedLength ∨ (0 < bits ∧ accumulator % 2 ^ bits ≠ 0) then none else some output

def ntcpStyles : List (List UInt8) := [[0x4e, 0x54, 0x43, 0x50], [0x4e, 0x54, 0x43, 0x50, 0x32]]

local instance lawfulBEq_bytes : LawfulBEq (List UInt8) := inferInstance

def publishedKey (address : RouterAddress) : Except HandshakeError (Option Key) :=
  if address.transportStyle ∉ ntcpStyles then .ok none
  else match address.version, address.staticKey with
    | some version, some encoded =>
      if [50] ∉ version.splitOn 44 then .ok none
      else match decodeI2pBase64 encoded keyLength with
        | none => .error .transportStaticKeyMismatch
        | some bytes =>
          if h : bytes.length = 32 then
            match publicKeyBytes ⟨bytes, h⟩ with
            | .error _ => .error .transportStaticKeyMismatch
            | .ok key => .ok (some key)
          else .error .transportStaticKeyMismatch
    | _, _ => .ok none

/-- The loop over the addresses: every key found must be the same. -/
def findKey : List RouterAddress → Option Key → Except HandshakeError (Option Key)
  | [], found => .ok found
  | address :: rest, found =>
    match publishedKey address with
    | .error e => .error e
    | .ok none => findKey rest found
    | .ok (some key) =>
      if found.any (· ≠ key) then .error .transportStaticKeyMismatch else findKey rest (some key)

def validateRouterInfo (decoder : RouterInfoDecoder) (bytes : List UInt8) (maximum : Nat) (expectedHash : Option Key)
    (expectedStaticKey : Key) : Except HandshakeError AuthenticatedPeer :=
  if bytes.isEmpty ∨ maximum < bytes.length ∨ maxRouterInfoPayload < bytes.length then .error .routerInfoMalformed
  else do
    let info ← (decoder bytes maximum).mapError mapRouterInfoCodec
    info.signature.mapError .ofCryptoError
    let routerHash ← info.identityHash.mapError .ofCryptoError
    if expectedHash.any (· ≠ routerHash) then .error .peerIdentityMismatch
    else if !info.isX25519 then .error .unsupportedPeerKey
    else do
      let found ← findKey info.addresses none
      match found with
      | none => .error .transportStaticKeyMismatch
      | some key =>
        if key ≠ expectedStaticKey then .error .transportStaticKeyMismatch else .ok ⟨routerHash, key⟩

end I2pr.Ntcp2
