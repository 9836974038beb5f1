import I2pr.DecodeCursor

namespace I2pr

open Fallible EncodeBuffer List

open BigEndian (encode decode slice)

inductive SigningKeyType where
  | dsaSha1
  | ecdsaSha256P256
  | ecdsaSha384P384
  | ecdsaSha512P521
  | rsaSha2562048
  | rsaSha3843072
  | rsaSha5124096
  | edDsaSha512Ed25519
  | edDsaSha512Ed25519ph
  | redDsaSha512Ed25519
  | unknown (code : UInt16)
deriving DecidableEq, Repr

def SigningKeyType.publicKeyLen : SigningKeyType → Option Nat
  | .dsaSha1 => some 128
  | .ecdsaSha256P256 => some 64
  | .ecdsaSha384P384 => some 96
  | .ecdsaSha512P521 => some 132
  | .rsaSha2562048 => some 256
  | .rsaSha3843072 => some 384
  | .rsaSha5124096 => some 512
  | .edDsaSha512Ed25519 | .edDsaSha512Ed25519ph | .redDsaSha512Ed25519 => some 32
  | .unknown _ => none

def SigningKeyType.signatureLen : SigningKeyType → Option Nat
  | .dsaSha1 => some 40
  | .ecdsaSha256P256 => some 64
  | .ecdsaSha384P384 => some 96
  | .ecdsaSha512P521 => some 132
  | .rsaSha2562048 => some 256
  | .rsaSha3843072 => some 384
  | .rsaSha5124096 => some 512
  | .edDsaSha512Ed25519 | .edDsaSha512Ed25519ph | .redDsaSha512Ed25519 => some 64
  | .unknown _ => none

structure SigningPublicKey where
  keyType : SigningKeyType
  bytes : List UInt8
  length_ok : keyType.publicKeyLen = some bytes.length
deriving DecidableEq

structure SignatureValue where
  keyType : SigningKeyType
  bytes : List UInt8
  length_ok : keyType.signatureLen = some bytes.length

def SignatureValue.new (keyType : SigningKeyType) (bytes : List UInt8) : Option SignatureValue :=
  if h : keyType.signatureLen = some bytes.length then some ⟨keyType, bytes, h⟩ else none

abbrev DestinationHash := List.Vector UInt8 32

/-- A destination is a common structure with a codec and a hash of its own; the packet layer reads only its signing
key. -/
structure DestinationCodec (D : Type) where
  signingKey : D → SigningPublicKey
  encodeToVec : D → Except CodecError (List UInt8)
  decodeFromCursor : List UInt8 → Except CodecError D
  hash : D → Except CodecError DestinationHash

def minStreamingHeaderBytes : Nat := 22
def defaultAdvertisedMaxPayload : UInt16 := 1812
def maxStreamingPayloadBytes : Nat := 2048
def maxStreamingOptionBytes : Nat := 1024
def maxStreamingNackCount : Nat := 64
def synReplayNackCount : Nat := 8
def maxStreamingPacketBytes : Nat :=
  minStreamingHeaderBytes + maxStreamingNackCount * 4 + maxStreamingOptionBytes + maxStreamingPayloadBytes
def maxI2cpDataBodyPayload : Nat := 61440

def flagSynchronize : UInt16 := 0x0001
def flagClose : UInt16 := 0x0002
def flagReset : UInt16 := 0x0004
def flagSignatureIncluded : UInt16 := 0x0008
def flagFromIncluded : UInt16 := 0x0020
def flagDelayRequested : UInt16 := 0x0040
def flagMaxPacketSizeIncluded : UInt16 := 0x0080
def flagNoAck : UInt16 := 0x0400
def flagOfflineSignature : UInt16 := 0x0800
def flagReservedMask : UInt16 := 0xf000

def initialSynFlags : UInt16 :=
  flagSynchronize ||| flagSignatureIncluded ||| flagFromIncluded ||| flagMaxPacketSizeIncluded ||| flagNoAck
def synResponseFlags : UInt16 :=
  flagSynchronize ||| flagSignatureIncluded ||| flagFromIncluded ||| flagMaxPacketSizeIncluded
def closeFlags : UInt16 := flagClose ||| flagSignatureIncluded
def resetFlags : UInt16 := flagReset ||| flagSignatureIncluded

inductive StreamingPacketError where
  | trailingBytes
  | truncated
  | optionOverflow (declared maximum : Nat)
  | nackOverflow (declared maximum : Nat)
  | payloadOverflow (declared maximum : Nat)
  | lengthExceeded (context : String) (declared maximum : Nat)
  | synMissingFrom
  | synMissingSignature
  | synMissingMaxPacketSize
  | synMissingReplayBinding
  | reservedFlagBits (bits : UInt16)
  | signatureLengthMismatch (expected actual : Nat)
  | synReplayNackCountMismatch (observed : Nat)
  | signatureMissing
  | signatureInvalid
  | signatureContextUnavailable
  | unsupportedOfflineSignature
  | closeMissingSignature
  | resetMissingSignature

def StreamingPacketError.ofCodec : CodecError → StreamingPacketError
  | .truncated _ _ _ => .truncated
  | .trailingBytes _ _ => .trailingBytes
  | .lengthExceeded _ declared maximum _ => .lengthExceeded "streaming codec" declared maximum
  | _ => .lengthExceeded "streaming codec" 0 0

structure StreamingFlags where
  bits : UInt16
  reserved_ok : bits &&& flagReservedMask = 0

namespace StreamingFlags

def new (bits : UInt16) : Except StreamingPacketError StreamingFlags :=
  if h : bits &&& flagReservedMask = 0 then .ok ⟨bits, h⟩ else .error (.reservedFlagBits bits)

variable (flags : StreamingFlags)

def has (flag : UInt16) : Bool := flags.bits &&& flag ≠ 0

def synchronize : Bool := flags.has flagSynchronize
def close : Bool := flags.has flagClose
def reset : Bool := flags.has flagReset
def signatureIncluded : Bool := flags.has flagSignatureIncluded
def fromIncluded : Bool := flags.has flagFromIncluded
def delayRequested : Bool := flags.has flagDelayRequested
def maxPacketSizeIncluded : Bool := flags.has flagMaxPacketSizeIncluded
def noAck : Bool := flags.has flagNoAck
def offlineSignature : Bool := flags.has flagOfflineSignature

def empty : StreamingFlags := ⟨0, rfl⟩

def noAckOnly : StreamingFlags := ⟨flagNoAck, rfl⟩

end StreamingFlags

structure StreamingLimit where
  maxPacketBytes : Nat
  maxOptionBytes : Nat
  maxNackCount : Nat
  maxPayloadBytes : Nat

def StreamingReceiveLimit.destinationPath : StreamingLimit :=
  ⟨maxI2cpDataBodyPayload, maxStreamingOptionBytes, maxStreamingNackCount, maxI2cpDataBodyPayload⟩

def StreamingSendLimit.default : StreamingLimit :=
  ⟨maxStreamingPacketBytes, maxStreamingOptionBytes, maxStreamingNackCount, maxStreamingPayloadBytes⟩

structure StreamingOptions (D : Type) where
  delayRequested : Option UInt16
  fromDestination : Option D
  maxPayloadSize : Option UInt16
  signature : Option (List UInt8)

structure SignatureLocation where
  offset : Nat
  length : Nat

structure StreamingPacket (D : Type) where
  sendStreamId : UInt32
  receiveStreamId : UInt32
  sequenceNum : UInt32
  ackThrough : UInt32
  nacks : List UInt32
  resendDelay : UInt8
  flags : StreamingFlags
  optionBytes : List UInt8
  options : StreamingOptions D
  payload : List UInt8

structure StreamingHeaderPeek where
  sendStreamId : UInt32
  receiveStreamId : UInt32
  sequenceNum : UInt32
  flagsBits : UInt16

def readU32At (input : List UInt8) (offset : Nat) : UInt32 := .ofNat (decode (slice input offset 4))

def readU16At (input : List UInt8) (offset : Nat) : UInt16 := .ofNat (decode (slice input offset 2))

def peekStreamingHeader (input : List UInt8) : Except StreamingPacketError StreamingHeaderPeek :=
  if input.length < minStreamingHeaderBytes then .error .truncated
  else
    let nackCount := (input.getD 16 0).toNat
    if input.length < minStreamingHeaderBytes + nackCount * 4 then .error .truncated
    else .ok ⟨readU32At input 0, readU32At input 4, readU32At input 8, readU16At input (18 + nackCount * 4)⟩

section Options

variable {D : Type}

namespace StreamingOptions

def empty : StreamingOptions D := ⟨none, none, none, none⟩

def encodeWithPlaceholder (codec : DestinationCodec D) (options : StreamingOptions D) (flags : StreamingFlags)
    (signatureLength : Nat) : Except StreamingPacketError (List UInt8) := do
  if options.signature.isSome then .error .signatureMissing
  else do
    let delay ← if flags.delayRequested then
        match options.delayRequested with
        | some delay => .ok (encode 2 delay.toNat)
        | none => .error (.lengthExceeded "delay requested option" 0 0)
      else .ok []
    let destination ← if flags.fromIncluded then
        match options.fromDestination with
        | some destination => (codec.encodeToVec destination).mapError .ofCodec
        | none => .error .synMissingFrom
      else .ok []
    let maximum ← if flags.maxPacketSizeIncluded then
        match options.maxPayloadSize with
        | some maximum => .ok (encode 2 maximum.toNat)
        | none => .error .synMissingMaxPacketSize
      else .ok []
    if flags.offlineSignature then .error .unsupportedOfflineSignature
    else
      let signature := if flags.signatureIncluded then List.replicate signatureLength 0 else []
      let out := delay ++ destination ++ maximum ++ signature
      if maxStreamingOptionBytes < out.length then .error (.optionOverflow out.length maxStreamingOptionBytes)
      else .ok out

end StreamingOptions

def fieldAt (bytes : List UInt8) (start length : Nat) : Option (List UInt8) :=
  if start + length ≤ bytes.length then some (slice bytes start length) else none

def parseU16Option (bytes : List UInt8) (position : Nat) : Except StreamingPacketError (UInt16 × Nat) :=
  match fieldAt bytes position 2 with
  | some field => .ok (.ofNat (decode field), position + 2)
  | none => .error .truncated

variable (codec : DestinationCodec D)

/-- The key the length of a signature is read from: that of FROM, or else the retained one. -/
def signatureContext (fromDestination : Option D) (peerSigningKey : Option SigningPublicKey) :
    Option SigningPublicKey :=
  match fromDestination with
  | some destination => some (codec.signingKey destination)
  | none => peerSigningKey

def parseOptions (flags : StreamingFlags) (optionBytes : List UInt8) (optionStart : Nat)
    (peerSigningKey : Option SigningPublicKey) :
    Except StreamingPacketError (StreamingOptions D × Option SignatureLocation) := do
  let (delayRequested, position) ←
    if flags.delayRequested then do
      let (delay, position) ← parseU16Option optionBytes 0
      .ok (some delay, position)
    else .ok (none, 0)
  let (fromDestination, position) ←
    if flags.fromIncluded then do
      let destination ← (codec.decodeFromCursor (optionBytes.drop position)).mapError .ofCodec
      -- the length of the encoding is taken for the bytes the decoder read
      let encoded ← (codec.encodeToVec destination).mapError .ofCodec
      .ok (some destination, position + encoded.length)
    else .ok (none, position)
  let (maxPayloadSize, position) ←
    if flags.maxPacketSizeIncluded then do
      let (maximum, position) ← parseU16Option optionBytes position
      .ok (some maximum, position)
    else .ok (none, position)
  if flags.offlineSignature then .error .unsupportedOfflineSignature
  else do
    let (signature, location, position) ←
      if flags.signatureIncluded then
        match (signatureContext codec fromDestination peerSigningKey).bind (·.keyType.signatureLen) with
        | none => .error .signatureContextUnavailable
        | some expected =>
          match fieldAt optionBytes position expected with
          | none => .error (.signatureLengthMismatch expected (optionBytes.length - position))
          | some signature =>
            .ok (some signature, some ⟨optionStart + position, expected⟩, position + expected)
      else .ok (none, none, position)
    if position ≠ optionBytes.length then .error .trailingBytes
    else .ok (⟨delayRequested, fromDestination, maxPayloadSize, signature⟩, location)

def readNacks : Nat → DecodeCursor → List UInt32 → Except CodecError (List UInt32 × DecodeCursor)
  | 0, cursor, nacks => .ok (nacks, cursor)
  | count + 1, cursor, nacks => do
    let (nack, cursor) ← cursor.readU32
    readNacks count cursor (nacks ++ [.ofNat nack])

def decodeStreamingPacket (input : List UInt8) (limit : StreamingLimit) (peerSigningKey : Option SigningPublicKey) :
    Except StreamingPacketError (StreamingPacket D × Option SignatureLocation) :=
  if limit.maxPacketBytes < input.length then .error (.payloadOverflow input.length limit.maxPacketBytes)
  else if input.length < minStreamingHeaderBytes then .error .truncated
  else do
    let cursor ← (DecodeCursor.new input limit.maxPacketBytes).mapError .ofCodec
    let (sendStreamId, cursor) ← cursor.readU32.mapError .ofCodec
    let (receiveStreamId, cursor) ← cursor.readU32.mapError .ofCodec
    let (sequenceNum, cursor) ← cursor.readU32.mapError .ofCodec
    let (ackThrough, cursor) ← cursor.readU32.mapError .ofCodec
    let (nackCount, cursor) ← cursor.readU8.mapError .ofCodec
    if limit.maxNackCount < nackCount.toNat then .error (.nackOverflow nackCount.toNat limit.maxNackCount)
    else do
      let (nacks, cursor) ← (readNacks nackCount.toNat cursor []).mapError .ofCodec
      let (resendDelay, cursor) ← cursor.readU8.mapError .ofCodec
      let (flagsBits, cursor) ← cursor.readU16.mapError .ofCodec
      let flags ← StreamingFlags.new (.ofNat flagsBits)
      let (optionSize, cursor) ← cursor.readU16.mapError .ofCodec
      if limit.maxOptionBytes < optionSize then .error (.optionOverflow optionSize limit.maxOptionBytes)
      else
        let optionStart := cursor.offset
        let optionEnd := optionStart + optionSize
        if input.length < optionEnd then .error .truncated
        else
          let optionBytes := slice input optionStart optionSize
          let payload := input.drop optionEnd
          if limit.maxPayloadBytes < payload.length then .error (.payloadOverflow payload.length limit.maxPayloadBytes)
          else do
            let (options, location) ← parseOptions codec flags optionBytes optionStart peerSigningKey
            .ok (⟨.ofNat sendStreamId, .ofNat receiveStreamId, .ofNat sequenceNum, .ofNat ackThrough, nacks, resendDelay,
              flags, optionBytes, options, payload⟩, location)

theorem DecodeCursor.readU32_eq_ok {cursor next : DecodeCursor} {value : Nat} (h : cursor.readU32 = .ok (value, next)) :
    value = decode (slice cursor.input cursor.offset 4) := by
  obtain ⟨taken, htake, h⟩ := bind_eq_ok.mp h
  obtain ⟨-, htake⟩ := ite_error_eq_ok.mp htake
  cases htake
  cases h
  rfl

variable {limit : StreamingLimit}

theorem decodeStreamingPacket_sendStreamId {codec : DestinationCodec D} {input : List UInt8}
    {peerSigningKey : Option SigningPublicKey} {packet : StreamingPacket D} {location : Option SignatureLocation}
    (h : decodeStreamingPacket codec input limit peerSigningKey = .ok (packet, location)) :
    packet.sendStreamId = readU32At input 0 := by
  obtain ⟨-, h⟩ := ite_error_eq_ok.mp h
  obtain ⟨-, h⟩ := ite_error_eq_ok.mp h
  obtain ⟨cursor, hcursor, h⟩ := bind_eq_ok.mp h
  obtain ⟨-, hcursor⟩ := ite_error_eq_ok.mp (mapError_eq_ok.mp hcursor)
  cases hcursor
  obtain ⟨⟨_, _⟩, hfirst, h⟩ := bind_eq_ok.mp h
  have hvalue := DecodeCursor.readU32_eq_ok (mapError_eq_ok.mp hfirst)
  simp only [bind_eq_ok, ite_error_eq_ok] at h
  obtain ⟨⟨_, _⟩, -, ⟨_, _⟩, -, ⟨_, _⟩, -, ⟨_, _⟩, -, -, ⟨_, _⟩, -, ⟨_, _⟩, -, ⟨_, _⟩, -, _, -, ⟨_, _⟩, -, -, -, -,
    ⟨_, _⟩, -, h⟩ := h
  cases h
  exact congrArg UInt32.ofNat hvalue

def buildSignaturePreimage (wireBytes : List UInt8) (location : SignatureLocation) : List UInt8 :=
  if location.offset + location.length ≤ wireBytes.length then
    wireBytes.take location.offset ++ List.replicate location.length 0 ++
      wireBytes.drop (location.offset + location.length)
  else wireBytes

def installPacketSignatureAt (wire : List UInt8) (location : SignatureLocation) (signature : List UInt8) :
    Except StreamingPacketError (List UInt8) :=
  if signature = [] ∨ signature.length ≠ location.length then
    .error (.signatureLengthMismatch location.length signature.length)
  else if wire.length < location.offset + location.length then .error .truncated
  else if (slice wire location.offset location.length).any (· ≠ 0) then .error .signatureInvalid
  else .ok (wire.take location.offset ++ signature ++ wire.drop (location.offset + location.length))

structure StreamingPacketBuilder where
  sendStreamId : UInt32
  receiveStreamId : UInt32
  sequenceNum : UInt32
  ackThrough : UInt32
  nacks : List UInt32
  resendDelay : UInt8
  flags : StreamingFlags
  optionBytes : List UInt8
  payload : List UInt8

namespace StreamingPacketBuilder

def encodeHeader (packet : StreamingPacketBuilder) (maximum : Nat) : Except CodecError (List UInt8) := do
  let output ← EncodeBuffer.writeAll maximum [encode 4 packet.sendStreamId.toNat, encode 4 packet.receiveStreamId.toNat,
    encode 4 packet.sequenceNum.toNat, encode 4 packet.ackThrough.toNat]
  if 255 < packet.nacks.length then .error (.invalidFieldValue output.length "nack count conversion")
  else do
    let output ← EncodeBuffer.write maximum output [.ofNat packet.nacks.length]
    let output ← packet.nacks.foldlM (fun output nack => EncodeBuffer.write maximum output (encode 4 nack.toNat)) output
    let output ← EncodeBuffer.write maximum output [packet.resendDelay]
    let output ← EncodeBuffer.write maximum output (encode 2 packet.flags.bits.toNat)
    if 65535 < packet.optionBytes.length then .error (.invalidFieldValue output.length "option bytes conversion")
    else do
      let output ← EncodeBuffer.write maximum output (encode 2 packet.optionBytes.length)
      EncodeBuffer.write maximum output packet.optionBytes

end StreamingPacketBuilder

def encodeStreamingPacket (packet : StreamingPacketBuilder) (limit : StreamingLimit) :
    Except StreamingPacketError (List UInt8) :=
  let totalSize := minStreamingHeaderBytes + packet.nacks.length * 4 + packet.optionBytes.length + packet.payload.length
  if limit.maxNackCount < packet.nacks.length then .error (.nackOverflow packet.nacks.length limit.maxNackCount)
  else if limit.maxOptionBytes < packet.optionBytes.length then
    .error (.optionOverflow packet.optionBytes.length limit.maxOptionBytes)
  else if limit.maxPayloadBytes < packet.payload.length then
    .error (.payloadOverflow packet.payload.length limit.maxPayloadBytes)
  else if limit.maxPacketBytes < totalSize then .error (.payloadOverflow totalSize limit.maxPacketBytes)
  else do
    let header ← (packet.encodeHeader limit.maxPacketBytes).mapError .ofCodec
    .ok (header ++ packet.payload)

namespace StreamingPacketBuilder

def header (packet : StreamingPacketBuilder) : List UInt8 :=
  encode 4 packet.sendStreamId.toNat ++ encode 4 packet.receiveStreamId.toNat ++ encode 4 packet.sequenceNum.toNat ++
    encode 4 packet.ackThrough.toNat ++ [UInt8.ofNat packet.nacks.length] ++
    packet.nacks.flatMap (fun nack => encode 4 nack.toNat) ++ [packet.resendDelay] ++
    encode 2 packet.flags.bits.toNat ++ encode 2 packet.optionBytes.length ++ packet.optionBytes

theorem length_flatMap_nacks (nacks : List UInt32) :
    (nacks.flatMap fun nack => encode 4 nack.toNat).length = nacks.length * 4 := by
  induction nacks with
  | nil => rfl
  | cons nack nacks ih =>
    rw [flatMap_cons, length_append, ih, BigEndian.length_encode, length_cons]
    omega

theorem length_header (packet : StreamingPacketBuilder) :
    packet.header.length = minStreamingHeaderBytes + packet.nacks.length * 4 + packet.optionBytes.length := by
  simp only [header, length_append, length_flatMap_nacks, BigEndian.length_encode, length_singleton,
    minStreamingHeaderBytes]
  omega

theorem encodeHeader_eq_ok {packet : StreamingPacketBuilder} {maximum : Nat} (hnacks : packet.nacks.length ≤ 255)
    (hoptions : packet.optionBytes.length ≤ 65535) (h : packet.header.length ≤ maximum) :
    packet.encodeHeader maximum = .ok packet.header := by
  rw [length_header] at h
  unfold minStreamingHeaderBytes at h
  have hlen := length_flatMap_nacks packet.nacks
  rw [flatMap_def] at hlen
  refine bind_eq_ok.mpr ⟨_, foldlM_write_eq_ok (by simp; omega), ?_⟩
  refine ite_error_eq_ok.mpr ⟨Nat.not_lt.mpr hnacks, ?_⟩
  refine bind_eq_ok.mpr ⟨_, write_eq_ok (by simp; omega), ?_⟩
  rw [← foldlM_map]
  refine bind_eq_ok.mpr ⟨_, foldlM_write_eq_ok (by rw [hlen]; simp; omega), ?_⟩
  refine bind_eq_ok.mpr ⟨_, write_eq_ok (by rw [length_append, hlen]; simp; omega), ?_⟩
  refine bind_eq_ok.mpr ⟨_, write_eq_ok ?_, ?_⟩
  · simp only [length_append, hlen]
    simp
    omega
  refine ite_error_eq_ok.mpr ⟨Nat.not_lt.mpr hoptions, ?_⟩
  refine bind_eq_ok.mpr ⟨_, write_eq_ok ?_, ?_⟩
  · simp only [length_append, hlen]
    simp
    omega
  rw [write_eq_ok]
  · simp [header, flatMap_def]
  · simp only [length_append, hlen]
    simp
    omega

end StreamingPacketBuilder

theorem encodeStreamingPacket_eq_ok {packet : StreamingPacketBuilder}
    (hnacks : packet.nacks.length ≤ min limit.maxNackCount 255)
    (hoptions : packet.optionBytes.length ≤ min limit.maxOptionBytes 65535)
    (hpayload : packet.payload.length ≤ limit.maxPayloadBytes)
    (htotal : minStreamingHeaderBytes + packet.nacks.length * 4 + packet.optionBytes.length + packet.payload.length ≤
      limit.maxPacketBytes) :
    encodeStreamingPacket packet limit = .ok (packet.header ++ packet.payload) := by
  have hheader : packet.encodeHeader limit.maxPacketBytes = .ok packet.header :=
    StreamingPacketBuilder.encodeHeader_eq_ok (hnacks.trans (Nat.min_le_right _ _))
      (hoptions.trans (Nat.min_le_right _ _)) (by rw [StreamingPacketBuilder.length_header]; omega)
  rw [encodeStreamingPacket, if_neg (by omega), if_neg (by omega), if_neg (by omega), if_neg (by omega), hheader]
  rfl

theorem encodeStreamingPacket_lengths {packet : StreamingPacketBuilder} {wire : List UInt8}
    (h : encodeStreamingPacket packet limit = .ok wire) :
    packet.nacks.length ≤ limit.maxNackCount ∧ packet.payload.length ≤ limit.maxPayloadBytes := by
  obtain ⟨hnacks, h⟩ := ite_error_eq_ok.mp h
  obtain ⟨-, h⟩ := ite_error_eq_ok.mp h
  obtain ⟨hpayload, -⟩ := ite_error_eq_ok.mp h
  exact ⟨not_lt.mp hnacks, not_lt.mp hpayload⟩

variable (packet : StreamingPacket D)

def verifySynReplayBinding (receiverDestinationHash : DestinationHash) : Except StreamingPacketError Bool :=
  if packet.nacks.length ≠ synReplayNackCount then .error (.synReplayNackCountMismatch packet.nacks.length)
  else .ok (packet.nacks.flatMap (fun nack => encode 4 nack.toNat) = receiverDestinationHash.toList)

def encodeSynReplayBinding (receiverDestinationHash : DestinationHash) : List UInt32 :=
  (List.range synReplayNackCount).map fun index => readU32At receiverDestinationHash.toList (index * 4)

def validateInitialSyn (receiverDestinationHash : DestinationHash) : Except StreamingPacketError Unit :=
  if ¬ packet.flags.synchronize then .error .synMissingReplayBinding
  else if ¬ packet.flags.fromIncluded then .error .synMissingFrom
  else if ¬ packet.flags.signatureIncluded then .error .synMissingSignature
  else if ¬ packet.flags.maxPacketSizeIncluded then .error .synMissingMaxPacketSize
  else do
    let bound ← verifySynReplayBinding packet receiverDestinationHash
    if ¬ bound then .error .synMissingReplayBinding else .ok ()

def validateSynResponse : Except StreamingPacketError Unit :=
  if ¬ packet.flags.synchronize then .error .synMissingFrom
  else if ¬ packet.flags.fromIncluded then .error .synMissingFrom
  else if ¬ packet.flags.signatureIncluded then .error .synMissingSignature
  else if ¬ packet.flags.maxPacketSizeIncluded then .error .synMissingMaxPacketSize
  else .ok ()

end Options

end I2pr
