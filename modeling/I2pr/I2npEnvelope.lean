import I2pr.EciesSessionManager
import I2pr.TunnelRoles

namespace I2pr

/-- The errors of the encoders and decoders; the overflow of an offset cannot occur at their sizes. -/
inductive CodecError where
  | truncated (offset needed remaining : Nat)
  | lengthExceeded (offset declared maximum : Nat) (context : String)
  | invalidUtf8 (offset : Nat)
  | invalidFieldValue (offset : Nat) (context : String)
  | nonCanonical (offset : Nat) (context : String)
  | trailingBytes (offset remaining : Nat)
  | duplicateField (offset : Nat) (context : String)
deriving DecidableEq, Repr

/-- Appends to an output that may not grow past `maximum`. -/
def EncodeBuffer.write (maximum : Nat) (output bytes : List UInt8) : Except CodecError (List UInt8) :=
  if maximum < output.length + bytes.length then
    .error (.lengthExceeded output.length (output.length + bytes.length) maximum "encoder output")
  else .ok (output ++ bytes)

def EncodeBuffer.writeAll (maximum : Nat) (fields : List (List UInt8)) : Except CodecError (List UInt8) :=
  fields.foldlM (EncodeBuffer.write maximum) []


def maxI2npPayloadSize : Nat := 62708
def standardHeaderSize : Nat := 16
def shortTransportHeaderSize : Nat := 9
def maxDestinationPayloadBytes : Nat := 32 * 1024

structure Lease2 where
  tunnelGateway : Hash
  tunnelId : UInt32
  endDate : UInt32

/-- A Standard LeaseSet2: the hash of its destination, as far as that can be encoded, its leases, and the bytes
it travels in. -/
structure LeaseSet2 where
  destinationHash : Except CodecError Hash
  publishedSeconds : UInt32
  leases : List Lease2
  signedBytes : List UInt8
  signature : List UInt8

def LeaseSet2.encodeToVec (ls2 : LeaseSet2) (maximum : Nat) : Except CodecError (List UInt8) :=
  EncodeBuffer.writeAll maximum [ls2.signedBytes, ls2.signature]

inductive I2npBody where
  | data (payload : List UInt8)
  | garlic (payload : List UInt8)
  | databaseStore (key : Hash) (ls2 : LeaseSet2)

inductive I2npHeader where
  | standard (messageId : UInt32) (expirationMs : UInt64)
  | shortTransport (messageId expirationSeconds : UInt32)

structure I2npMessage where
  header : I2npHeader
  body : I2npBody

namespace I2npBody

def messageType : I2npBody → UInt8
  | .data _ => 20
  | .garlic _ => 11
  | .databaseStore _ _ => 1

/-- A DatabaseStore of a LeaseSet2 asks for no reply. -/
def encodeToVec (body : I2npBody) (maximum : Nat) : Except CodecError (List UInt8) :=
  match body with
  | .data payload | .garlic payload =>
    if 2 ^ 32 ≤ payload.length then .error (.invalidFieldValue 0 "opaque I2NP payload length")
    else EncodeBuffer.writeAll maximum [BigEndian.encode 4 payload.length, payload]
  | .databaseStore key ls2 =>
    match EncodeBuffer.writeAll maximum [key.toList, [3], BigEndian.encode 4 0] with
    | .error e => .error e
    | .ok start => do
      let bytes ← ls2.encodeToVec maxI2npPayloadSize
      EncodeBuffer.write maximum start bytes

def validateSize (body : I2npBody) : Except CodecError Unit := do
  let encoded ← body.encodeToVec maxI2npPayloadSize
  if maxI2npPayloadSize < encoded.length then
    .error (.lengthExceeded 0 encoded.length maxI2npPayloadSize "I2NP payload")
  else .ok ()

end I2npBody

namespace I2npMessage

def newStandard (messageId : UInt32) (expirationMs : UInt64) (body : I2npBody) : Except CodecError I2npMessage := do
  body.validateSize
  .ok ⟨.standard messageId expirationMs, body⟩

def newShortTransport (messageId expirationSeconds : UInt32) (body : I2npBody) : Except CodecError I2npMessage := do
  body.validateSize
  .ok ⟨.shortTransport messageId expirationSeconds, body⟩

def checkSizes (maximum headerSize bodyLength : Nat) : Except CodecError Unit :=
  if maxI2npPayloadSize < bodyLength then
    .error (.lengthExceeded headerSize bodyLength maxI2npPayloadSize "I2NP payload")
  else if maximum < headerSize + bodyLength then
    .error (.lengthExceeded 0 (headerSize + bodyLength) maximum "I2NP message")
  else .ok ()

variable (sha256 : List UInt8 → Hash)

def encodeStandardToVec (message : I2npMessage) (maximum : Nat) : Except CodecError (List UInt8) :=
  match message.header with
  | .shortTransport _ _ => .error (.invalidFieldValue 0 "I2NP header variant")
  | .standard messageId expirationMs => do
    let body ← message.body.encodeToVec maxI2npPayloadSize
    checkSizes maximum standardHeaderSize body.length
    EncodeBuffer.writeAll maximum [[message.body.messageType], BigEndian.encode 4 messageId.toNat,
      BigEndian.encode 8 expirationMs.toNat, BigEndian.encode 2 body.length, [(sha256 body).head], body]

/-- Opaque bodies travel without their length here. -/
def encodeShortTransportToVec (message : I2npMessage) (maximum : Nat) : Except CodecError (List UInt8) :=
  match message.header with
  | .standard _ _ => .error (.invalidFieldValue 0 "I2NP header variant")
  | .shortTransport messageId expirationSeconds => do
    let body ← match message.body with
      | .data payload | .garlic payload => .ok payload
      | body => body.encodeToVec maxI2npPayloadSize
    checkSizes maximum shortTransportHeaderSize body.length
    EncodeBuffer.writeAll maximum [[message.body.messageType], BigEndian.encode 4 messageId.toNat,
      BigEndian.encode 4 expirationSeconds.toNat, body]

end I2npMessage

inductive GarlicDelivery where
  | localDelivery
  | destination (hash : Hash)

structure GarlicCloveBlock where
  delivery : GarlicDelivery
  message : List UInt8

inductive EciesPayloadBlock where
  | dateTime (seconds : UInt32)
  | garlicClove (clove : GarlicCloveBlock)

def GarlicDelivery.encode : GarlicDelivery → List (List UInt8)
  | .localDelivery => [[0x00]]
  | .destination hash => [[0x20], hash.toList]

namespace EciesPayloadBlock

def blockType : EciesPayloadBlock → UInt8
  | .dateTime _ => 0
  | .garlicClove _ => 11

def bodyFields : EciesPayloadBlock → List (List UInt8)
  | .dateTime seconds => [BigEndian.encode 4 seconds.toNat]
  | .garlicClove clove => clove.delivery.encode ++ [clove.message]

def bodyLen (block : EciesPayloadBlock) : Nat :=
  block.bodyFields.flatten.length

def writeBlocks (maximum : Nat) : List EciesPayloadBlock → List UInt8 → Except CodecError (List UInt8)
  | [], output => .ok output
  | block :: blocks, output => do
    let output ← EncodeBuffer.write maximum output [block.blockType]
    if 2 ^ 16 ≤ block.bodyLen then
      .error (.lengthExceeded output.length block.bodyLen 65535 "ECIES block body length")
    else do
      let output ← (BigEndian.encode 2 block.bodyLen :: block.bodyFields).foldlM (EncodeBuffer.write maximum) output
      writeBlocks maximum blocks output

end EciesPayloadBlock

def maxEciesPayloadBlocks : Nat := 64

/-- `EciesPayloadSequence::push`, one block after the other. -/
def pushBlocks : List EciesPayloadBlock → List EciesPayloadBlock → Except CodecError (List EciesPayloadBlock)
  | blocks, [] => .ok blocks
  | blocks, block :: rest =>
    if maxEciesPayloadBlocks ≤ blocks.length then
      .error (.lengthExceeded blocks.length (blocks.length + 1) maxEciesPayloadBlocks "ECIES payload block count")
    else pushBlocks (blocks ++ [block]) rest

/-- `encode_to_vec` with a DateTime block required first. -/
def encodePayloadSequence (blocks : List EciesPayloadBlock) (maximum : Nat) : Except CodecError (List UInt8) :=
  match blocks with
  | [] => .error (.invalidFieldValue 0 "ECIES payload must contain at least one block")
  | .garlicClove _ :: _ => .error (.invalidFieldValue 0 "ECIES first block must be DateTime")
  | .dateTime _ :: _ => EciesPayloadBlock.writeBlocks maximum blocks []

end I2pr
