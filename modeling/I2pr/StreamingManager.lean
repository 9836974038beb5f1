import I2pr.StreamingAcks
import I2pr.Lib.Calls

namespace I2pr

open Std

def streamingProtocolNumber : UInt8 := 6

structure ClientPayload where
  protocol : UInt8
  sourcePort : UInt16
  destinationPort : UInt16
  payload : List UInt8

/-- What the manager takes from outside: signature verification and the gzip framing of client payloads. -/
structure StreamingPrimitives (D : Type) extends DestinationCodec D where
  verifySignature : SigningPublicKey → List UInt8 → SignatureValue → Bool
  encodeClientPayload : ClientPayload → Except ClientPayloadEncodeError (List UInt8)
  decodeClientPayload : List UInt8 → Nat → Except ClientPayloadDecodeError ClientPayload

inductive DestinationIdentityError where
  | crypto

structure DestinationIdentity (D : Type) where
  destination : D
  signingPublicKey : SigningPublicKey
  sign : List UInt8 → Except DestinationIdentityError SignatureValue

structure RemoteDestination where
  destinationHash : DestinationHash
  signingPublicKey : SigningPublicKey

structure TransportSendRequest where
  destinationHash : DestinationHash
  sourcePort : UInt16
  destinationPort : UInt16
  applicationPayload : List UInt8
  sequence : UInt32
  sendStreamId : UInt32
  receiveStreamId : UInt32

structure OutboundPacket where
  sequence : UInt32
  payloadLen : Nat
  sentAtMs : Nat
  retransmitCount : Nat
  request : TransportSendRequest
  signed : Bool

structure DeliveredApplicationBytes where
  connectionId : ConnectionId
  bytes : List UInt8

structure WirePacketObservation where
  connectionId : Option ConnectionId
  sendStreamId : UInt32
  receiveStreamId : UInt32
  sequence : UInt32
  ackThrough : UInt32
  nackCount : Nat
  flags : UInt16
  payloadLen : Nat

inductive StreamingManagerError where
  | listenerBacklogFull
  | unknownConnection
  | invalidConnectionState
  | noMatchingListener (destinationPort : UInt16)
  | portTupleMismatch (expectedDestination expectedSource actualSource actualDestination : UInt16)
  | initialSynPayloadTooLarge (actual maximum : Nat)
  | streaming (error : StreamingError)
  | codec (error : StreamingPacketError)
  | i2npCodec (error : CodecError)
  | outboundEnvelope (error : ClientPayloadEncodeError)
  | destinationIdentity (error : DestinationIdentityError)

inductive ConnectOutcome where
  | synSent (connectionId : ConnectionId) (sendStreamId receiveStreamId : UInt32)
  | connectionTableFull
  | payloadTooLarge (actual maximum : Nat)
deriving DecidableEq, Repr

inductive ListenerOutcome where
  | listening (port : UInt16)
  | portAlreadyInUse
  | backlogFull

structure StreamingManager (D : Type) where
  config : StreamingConfig
  connections : ExtTreeMap ConnectionId (StreamingConnection D)
  outboundByStream : ExtTreeMap UInt32 ConnectionId
  inboundByStream : ExtTreeMap UInt32 ConnectionId
  listeners : ExtTreeMap UInt16 (List ConnectionId)
  outboundQueue : List TransportSendRequest
  outboundPackets : ExtTreeMap ConnectionId (ExtTreeMap UInt32 OutboundPacket)
  pendingAcks : ExtTreeMap ConnectionId Nat
  nextConnectionId : UInt64
  nextInboundStreamId : UInt32
  pendingDelivered : List DeliveredApplicationBytes
  pendingBytesByConnection : ExtTreeMap ConnectionId Nat
  pendingSynPayloads : ExtTreeMap ConnectionId (List UInt8)

/-- A call of the manager: an error keeps what was changed before it, and a panic never returns. -/
abbrev ManagerM (D : Type) := Call (StreamingManager D) StreamingManagerError

variable {D : Type}

section Packets

variable (prim : StreamingPrimitives D)

def envelopeRequest (destinationHash : DestinationHash) (localPort remotePort : UInt16) (wireBytes : List UInt8)
    (sequence sendStreamId receiveStreamId : UInt32) : Except StreamingManagerError TransportSendRequest := do
  let applicationBytes ← (prim.encodeClientPayload ⟨streamingProtocolNumber, localPort, remotePort, wireBytes⟩).mapError
    .outboundEnvelope
  .ok ⟨destinationHash, localPort, remotePort, applicationBytes, sequence, sendStreamId, receiveStreamId⟩

variable (localDest : DestinationIdentity D)

def buildSignedPacket (remote : RemoteDestination)
    (sendStreamId receiveStreamId sequenceNum ackThrough : UInt32) (flagsBits : UInt16) (options : StreamingOptions D)
    (nacks : List UInt32) (localPort remotePort : UInt16) (payload : List UInt8) :
    Except StreamingManagerError TransportSendRequest := do
  let flags ← (StreamingFlags.new flagsBits).mapError .codec
  let signatureLength ← (localDest.signingPublicKey.keyType.signatureLen).elim
    (.error (.codec .signatureContextUnavailable)) .ok
  let optionBytes ← (options.encodeWithPlaceholder prim.toDestinationCodec flags signatureLength).mapError .codec
  if optionBytes.length < signatureLength then .error (.codec .signatureMissing)
  else do
    let signatureOffset := minStreamingHeaderBytes + nacks.length * 4 + (optionBytes.length - signatureLength)
    let builder : StreamingPacketBuilder :=
      ⟨sendStreamId, receiveStreamId, sequenceNum, ackThrough, nacks, 0, flags, optionBytes, payload⟩
    let wireBytes ← (encodeStreamingPacket builder StreamingSendLimit.default).mapError .codec
    let signature ← (localDest.sign wireBytes).mapError .destinationIdentity
    let wireBytes ← (installPacketSignatureAt wireBytes ⟨signatureOffset, signatureLength⟩ signature.bytes).mapError .codec
    envelopeRequest prim remote.destinationHash localPort remotePort wireBytes sequenceNum sendStreamId receiveStreamId

/-- The options of SYN and SYN response. -/
def synOptions (advertisedMaxPayload : UInt16) : StreamingOptions D :=
  ⟨none, some localDest.destination, some advertisedMaxPayload, none⟩

def buildSynPacket (remote : RemoteDestination) (localReceiveStreamId : UInt32)
    (localPort remotePort advertisedMaxPayload : UInt16) (initialPayload : List UInt8) :
    Except StreamingManagerError TransportSendRequest :=
  buildSignedPacket prim localDest remote 0 localReceiveStreamId 0 0 initialSynFlags
    (synOptions localDest advertisedMaxPayload) (encodeSynReplayBinding remote.destinationHash) localPort remotePort
    initialPayload

def buildSynResponsePacket (remote : RemoteDestination)
    (inboundConnection : StreamingConnection D) (localPort remotePort advertisedMaxPayload : UInt16) :
    Except StreamingManagerError TransportSendRequest :=
  buildSignedPacket prim localDest remote inboundConnection.remoteStreamId inboundConnection.localStreamId 0
    inboundConnection.recvWindow.ackView.1 synResponseFlags (synOptions localDest advertisedMaxPayload)
    inboundConnection.recvWindow.ackView.2 localPort remotePort []

/-- The signature check of SYN and SYN response: against the key of the FROM destination the packet itself carries. -/
def verifyFrom (packet : StreamingPacket D) (signatureLocation : Option SignatureLocation) (wireBytes : List UInt8) :
    Except StreamingManagerError D :=
  match packet.options.fromDestination with
  | none => .error (.codec .synMissingFrom)
  | some destination =>
    match signatureLocation with
    | none => .error (.codec .signatureMissing)
    | some location =>
      match packet.options.signature with
      | none => .error (.codec .signatureMissing)
      | some signature =>
        match SignatureValue.new (prim.signingKey destination).keyType signature with
        | none => .error (.codec .signatureContextUnavailable)
        | some value =>
          if prim.verifySignature (prim.signingKey destination) (buildSignaturePreimage wireBytes location) value then
            .ok destination
          else .error (.codec .signatureInvalid)

/-- The signature check of an established connection: against the retained key. -/
def verifyRetained (peerSigningKey : SigningPublicKey) (packet : StreamingPacket D)
    (signatureLocation : Option SignatureLocation) (wireBytes : List UInt8) : Except StreamingManagerError Unit :=
  if ¬ packet.flags.signatureIncluded then .ok ()
  else
    match peerSigningKey.keyType.signatureLen with
    | none => .error (.codec .signatureContextUnavailable)
    | some expected =>
      match packet.options.signature with
      | none => .error (.codec .signatureMissing)
      | some signature =>
        if signature.length ≠ expected then .error (.codec (.signatureLengthMismatch expected signature.length))
        else
          match signatureLocation with
          | none => .error (.codec .signatureMissing)
          | some location =>
            match SignatureValue.new peerSigningKey.keyType signature with
            | none => .error (.codec (.signatureLengthMismatch expected signature.length))
            | some value =>
              if prim.verifySignature peerSigningKey (buildSignaturePreimage wireBytes location) value then .ok ()
              else .error (.codec .signatureInvalid)

end Packets

namespace StreamingConnection

variable (conn : StreamingConnection D)

/-- The snapshot a SYN response is built from has empty windows. -/
def cloneForSynResponse : StreamingConnection D :=
  { conn with
    sendWindow := .new (.fromConfig conn.config)
    recvWindow := .new (.fromConfig conn.config)
    congestion := .new (.fromConfig conn.config)
    retransmit := .new (.fromConfig conn.config) }

/-- A CLOSE begins the remote close, or completes the local one. -/
def applyClose (nowMs : Nat) : StreamingConnection D :=
  match conn.state with
  | .established => conn.orSame (conn.remoteCloseReceived nowMs)
  | .closingLocal => conn.orSame (conn.close nowMs)
  | _ => conn

/-- CLOSE and RESET come before acknowledgement and data. -/
def applyControl (packet : StreamingPacket D) (nowMs : Nat) : StreamingConnection D :=
  let closed := if packet.flags.close then conn.applyClose nowMs else conn
  if packet.flags.reset then closed.orSame (closed.reset nowMs) else closed

/-- The acknowledgement and then the payload, for a connection CLOSE and RESET have already moved. Sequence zero
without SYNCHRONIZE is the plain acknowledgement form and never reaches the receive window. -/
def takePacket (packet : StreamingPacket D) (nowMs : Nat) : StreamingConnection D × Option RecvWindowDecision :=
  let terminated := conn.state.terminated
  let acked := if !packet.flags.noAck && !terminated then conn.receiveAck packet.ackThrough packet.nacks nowMs else conn
  if terminated || (packet.sequenceNum = 0 && !packet.flags.synchronize) then (acked, none)
  else
    let received := acked.receivePacket packet.sequenceNum packet.payload nowMs
    (received.1, some received.2)

def markRetransmitted (conn : StreamingConnection D) (sequence : UInt32) (nowMs : Nat) : StreamingConnection D :=
  { conn with sendWindow := conn.sendWindow.markRetransmitted sequence nowMs }

end StreamingConnection

def StreamingPacket.observation (packet : StreamingPacket D) (connectionId : ConnectionId) : WirePacketObservation where
  connectionId := some connectionId
  sendStreamId := packet.sendStreamId
  receiveStreamId := packet.receiveStreamId
  sequence := packet.sequenceNum
  ackThrough := packet.ackThrough
  nackCount := packet.nacks.length
  flags := packet.flags.bits
  payloadLen := packet.payload.length

/-- Sequences at or below the acknowledged one are covered, unless they are named as missing. -/
def StreamingPacket.covers (packet : StreamingPacket D) (sequence : UInt32) : Bool :=
  sequence ≤ packet.ackThrough && !(sequence ∈ packet.nacks && sequence < packet.ackThrough)

namespace StreamingManager

def new (config : StreamingConfig) : StreamingManager D where
  config := config
  connections := ∅
  outboundByStream := ∅
  inboundByStream := ∅
  listeners := ∅
  outboundQueue := []
  outboundPackets := ∅
  pendingAcks := ∅
  nextConnectionId := 1
  nextInboundStreamId := 0x80000000
  pendingDelivered := []
  pendingBytesByConnection := ∅
  pendingSynPayloads := ∅

variable (m : StreamingManager D)

def listen (port : UInt16) : ListenerOutcome × StreamingManager D :=
  if port ∈ m.listeners then (.portAlreadyInUse, m)
  else if m.config.maxListenerBacklog.toNat ≤ (m.listeners.values.map List.length).sum then (.backlogFull, m)
  else (.listening port, { m with listeners := m.listeners.insert port [] })

/-- The `while` loop over candidate stream ids, of which there are `2 ^ 32`. -/
def freeStreamId (m : StreamingManager D) : Nat → UInt32 → Option UInt32
  | 0, _ => none
  | fuel + 1, candidate =>
    if candidate ∈ m.inboundByStream ∨ candidate ∈ m.outboundByStream then freeStreamId m fuel (candidate + 1)
    else some candidate

def allocateInboundStreamId : ManagerM D UInt32 := do
  let m ← Call.state
  match m.freeStreamId (2 ^ 32) m.nextInboundStreamId with
  | none => Call.never
  | some candidate => do
    Call.update fun m => { m with nextInboundStreamId := candidate + 1 }
    pure candidate

/-- `saturating_add` on the counter: the last id is handed out again and again. -/
def allocateConnectionId : ManagerM D ConnectionId := do
  let m ← Call.state
  Call.update fun m =>
    { m with nextConnectionId := if m.nextConnectionId = 0xffffffffffffffff then m.nextConnectionId else m.nextConnectionId + 1 }
  pure m.nextConnectionId

def setConnection (id : ConnectionId) (conn : StreamingConnection D) : StreamingManager D :=
  { m with connections := m.connections.insert id conn }

/-- A fallible method on a connection of the table; what it changed before an error stays. -/
def onConnection {A : Type} (id : ConnectionId)
    (method : StreamingConnection D → Except StreamingManagerError A × StreamingConnection D) : ManagerM D A := fun m =>
  match m.connections[id]? with
  | none => some (.error .unknownConnection, m)
  | some conn => some ((method conn).1, m.setConnection id (method conn).2)

def track (id : ConnectionId) (packet : OutboundPacket) : StreamingManager D :=
  { m with outboundPackets := m.outboundPackets.insert id ((m.outboundPackets.getD id ∅).insert packet.sequence packet) }

def modifyTracked (id : ConnectionId)
    (change : ExtTreeMap UInt32 OutboundPacket → ExtTreeMap UInt32 OutboundPacket) : StreamingManager D :=
  { m with outboundPackets := m.outboundPackets.modify id change }

def modifyConnection (id : ConnectionId)
    (change : StreamingConnection D → StreamingConnection D) : StreamingManager D :=
  { m with connections := m.connections.modify id change }

def queueOutboundPacket (request : TransportSendRequest) : StreamingManager D :=
  { m with outboundQueue := m.outboundQueue ++ [request] }

def insertOutbound (id : ConnectionId) (streamId : UInt32) (conn : StreamingConnection D) : StreamingManager D :=
  { m with
    connections := m.connections.insert id conn
    outboundByStream := m.outboundByStream.insert streamId id
    outboundPackets := m.outboundPackets.insert id ∅ }

variable (prim : StreamingPrimitives D)

def connectWithInitialPayload (localDest : DestinationIdentity D)
    (remote : RemoteDestination) (localPort remotePort advertisedMaxPayload : UInt16) (initialPayload : List UInt8)
    (nowMs : Nat) : ManagerM D ConnectOutcome := do
  let m ← Call.state
  if m.config.maxStreamsPerDestination.toNat ≤ m.connections.size then pure .connectionTableFull
  else if advertisedMaxPayload.toNat < initialPayload.length then
    pure (.payloadTooLarge initialPayload.length advertisedMaxPayload.toNat)
  else do
    let id ← allocateConnectionId
    let streamId ← allocateInboundStreamId
    let request ← Call.ofExcept (buildSynPacket prim localDest remote streamId localPort remotePort advertisedMaxPayload
      initialPayload)
    let conn : StreamingConnection D := .newOutbound id m.config streamId 0 remote.signingPublicKey remote.destinationHash
      localPort remotePort nowMs
    Call.update fun m =>
      (m.insertOutbound id streamId { conn with localAdvertisedMaxPayload := advertisedMaxPayload }).queueOutboundPacket
        request
    pure (.synSent id 0 streamId)

def deliveredCapBytes : Nat := m.config.maxRecvWindowPackets.toNat * maxPacketPayloadBytes

def pendingBytesFor (id : ConnectionId) : Nat := m.pendingBytesByConnection.getD id 0

def deliveredOverCap (id : ConnectionId) : Bool := m.deliveredCapBytes ≤ m.pendingBytesFor id

def noteDeliveredBytes (id : ConnectionId) (bytes : Nat) : StreamingManager D :=
  if bytes = 0 then m
  else { m with pendingBytesByConnection :=
    m.pendingBytesByConnection.insert id (saturatingAdd (m.pendingBytesByConnection.getD id 0) bytes) }

def forgetDeliveredBytes (id : ConnectionId) (bytes : Nat) : StreamingManager D :=
  if bytes = 0 then m
  else
    match m.pendingBytesByConnection[id]? with
    | none => m
    | some held =>
      { m with pendingBytesByConnection :=
        if held - bytes = 0 then m.pendingBytesByConnection.erase id
        else m.pendingBytesByConnection.insert id (held - bytes) }

def deliver (id : ConnectionId) (bytes : List UInt8) : StreamingManager D :=
  let m := m.noteDeliveredBytes id bytes.length
  { m with pendingDelivered := m.pendingDelivered ++ [⟨id, bytes⟩] }

/-- The listener of the port, or else the one bound to port zero. -/
def matchedListener (destinationPort : UInt16) : Option UInt16 :=
  if destinationPort ∈ m.listeners then some destinationPort
  else if 0 ∈ m.listeners then some 0
  else none

def insertInbound (id : ConnectionId) (streamId : UInt32) (conn : StreamingConnection D) : StreamingManager D :=
  { m with
    connections := m.connections.insert id conn
    inboundByStream := m.inboundByStream.insert streamId id
    outboundPackets := m.outboundPackets.insert id ∅ }

/-- What a refused SYN takes back. -/
def discardInbound (id : ConnectionId) (streamId : UInt32) : StreamingManager D :=
  { m with
    connections := m.connections.erase id
    pendingSynPayloads := m.pendingSynPayloads.erase id
    inboundByStream := m.inboundByStream.erase streamId
    outboundPackets := m.outboundPackets.erase id }

/-- The accepted SYN waits in the backlog of its listener, with its payload kept aside. -/
def enterBacklog (id : ConnectionId) (listener : UInt16) (payload : List UInt8) : StreamingManager D :=
  { m with
    listeners := m.listeners.modify listener (· ++ [id])
    pendingSynPayloads := if payload = [] then m.pendingSynPayloads else m.pendingSynPayloads.insert id payload }

/-- The connection of a verified SYN, entered first and taken out again when no listener has room for it. -/
def admitInboundSyn (packet : StreamingPacket D) (destination : D)
    (fromDestinationHash : DestinationHash) (sourcePort destinationPort : UInt16) (nowMs : Nat) :
    ManagerM D WirePacketObservation := do
  let id ← allocateConnectionId
  let streamId ← allocateInboundStreamId
  let m ← Call.state
  let conn : StreamingConnection D := .newInbound id m.config streamId packet.receiveStreamId (prim.signingKey destination)
    fromDestinationHash destinationPort sourcePort nowMs
  Call.update (insertInbound · id streamId { conn with
    remoteAdvertisedMaxPayload := packet.options.maxPayloadSize
    peerDestination := some destination
    localAdvertisedMaxPayload := defaultAdvertisedMaxPayload })
  match m.matchedListener destinationPort with
  | none => do
    Call.update (discardInbound · id streamId)
    Call.fail (.noMatchingListener destinationPort)
  | some listener =>
    if (m.listeners[listener]?).any (fun backlog => m.config.maxListenerBacklog.toNat ≤ backlog.length) then do
      Call.update (discardInbound · id streamId)
      Call.fail .listenerBacklogFull
    else do
      Call.update (enterBacklog · id listener packet.payload)
      pure (packet.observation id)

def handleInboundSyn (packet : StreamingPacket D)
    (signatureLocation : Option SignatureLocation) (wireBytes : List UInt8) (fromDestinationHash : DestinationHash)
    (toDestination : DestinationIdentity D) (sourcePort destinationPort : UInt16) (nowMs : Nat) :
    ManagerM D WirePacketObservation := do
  let localDestinationHash ← Call.ofExcept ((prim.hash toDestination.destination).mapError .i2npCodec)
  Call.ofExcept ((validateInitialSyn packet localDestinationHash).mapError .codec)
  Call.failIf (defaultAdvertisedMaxPayload.toNat < packet.payload.length)
    (.initialSynPayloadTooLarge packet.payload.length defaultAdvertisedMaxPayload.toNat)
  let destination ← Call.ofExcept (verifyFrom prim packet signatureLocation wireBytes)
  admitInboundSyn prim packet destination fromDestinationHash sourcePort destinationPort nowMs

def assertPorts (conn : StreamingConnection D) (localPort remotePort : UInt16) : ManagerM D Unit :=
  Call.failIf (conn.localPort ≠ localPort ∨ conn.remotePort ≠ remotePort)
    (.portTupleMismatch conn.localPort conn.remotePort remotePort localPort)

/-- The advertisement is recorded before the transition is tried. -/
def acceptTransition (advertisedMaxPayload : UInt16) (nowMs : Nat) (conn : StreamingConnection D) :
    Except StreamingManagerError Unit × StreamingConnection D :=
  let advertised := { conn with localAdvertisedMaxPayload := advertisedMaxPayload }
  match advertised.transitionEstablished (conn.remoteAdvertisedMaxPayload.getD defaultAdvertisedMaxPayload).toNat nowMs with
  | .ok established => (.ok (), established)
  | .error error => (.error (.streaming error), advertised)

/-- The payload of the SYN, if it had one, is delivered at last. -/
def releaseSynPayload (id : ConnectionId) : StreamingManager D :=
  match m.pendingSynPayloads[id]? with
  | none => m
  | some bytes => { m with pendingSynPayloads := m.pendingSynPayloads.erase id }.deliver id bytes

def acceptInboundSyn (localDest : DestinationIdentity D) (remote : RemoteDestination)
    (id : ConnectionId) (localPort remotePort advertisedMaxPayload : UInt16) (nowMs : Nat) :
    ManagerM D TransportSendRequest := do
  let m ← Call.state
  let conn ← Call.ofOption m.connections[id]? .unknownConnection
  assertPorts conn localPort remotePort
  let request ← Call.ofExcept (buildSynResponsePacket prim localDest remote conn.cloneForSynResponse localPort remotePort
    advertisedMaxPayload)
  onConnection id (acceptTransition advertisedMaxPayload nowMs)
  Call.update fun m => (m.releaseSynPayload id).track id ⟨0, 0, nowMs, 0, request, true⟩
  pure request

/-- The remote payload size and stream id are recorded before the transition is tried. -/
def synResponseTransition (packet : StreamingPacket D) (nowMs : Nat) (conn : StreamingConnection D) :
    Except StreamingManagerError Unit × StreamingConnection D :=
  let remote := { conn with
    remoteAdvertisedMaxPayload := packet.options.maxPayloadSize.or conn.remoteAdvertisedMaxPayload
    remoteStreamId := packet.receiveStreamId }
  match remote.transitionEstablished (packet.options.maxPayloadSize.getD defaultAdvertisedMaxPayload).toNat nowMs with
  | .ok established => (.ok (), established)
  | .error error => (.error (.streaming error), remote)

def handleInboundSynResponse (packet : StreamingPacket D)
    (signatureLocation : Option SignatureLocation) (wireBytes : List UInt8) (nowMs : Nat) :
    ManagerM D WirePacketObservation := do
  let m ← Call.state
  let id ← Call.ofOption m.outboundByStream[packet.sendStreamId]? .unknownConnection
  Call.ofExcept ((validateSynResponse packet).mapError .codec)
  let _ ← Call.ofExcept (verifyFrom prim packet signatureLocation wireBytes)
  onConnection id (synResponseTransition packet nowMs)
  pure (packet.observation id)

def buildSimpleAckRequest (m : StreamingManager D) (id : ConnectionId) : Option TransportSendRequest := do
  let conn ← m.connections[id]?
  let wireBytes ← (encodeStreamingPacket conn.simpleAck StreamingSendLimit.default).toOption
  (envelopeRequest prim conn.peerDestinationHash conn.localPort conn.remotePort wireBytes 0 conn.remoteStreamId
    conn.localStreamId).toOption

/-- One acknowledgement is pending per connection, at the earliest of its deadlines. -/
def armAck (id : ConnectionId) (deadline : Nat) : StreamingManager D :=
  { m with pendingAcks := m.pendingAcks.insert id (min (m.pendingAcks.getD id deadline) deadline) }

def forgetAck (id : ConnectionId) : StreamingManager D :=
  { m with pendingAcks := m.pendingAcks.erase id }

def queueIfBuilt (request : Option TransportSendRequest) : StreamingManager D :=
  request.elim m m.queueOutboundPacket

def clearTracked (id : ConnectionId) (packet : StreamingPacket D) : StreamingManager D :=
  m.modifyTracked id (·.filter fun sequence _ => !packet.covers sequence)

/-- What an established connection owes after a packet: an acknowledgement at once, later, or none. -/
def scheduleAck (m : StreamingManager D) (id : ConnectionId) (packet : StreamingPacket D)
    (decision : Option RecvWindowDecision) (terminated active : Bool) (nowMs : Nat) : StreamingManager D :=
  let m := if terminated then m.forgetAck id else m
  match decision with
  | some (.duplicate _) => if active && !terminated then m.armAck id nowMs else m
  | some (.delivered _ _) | some (.buffered _) =>
    if ¬ active then m
    else if packet.options.delayRequested = some 0 then
      if m.deliveredOverCap id then m.armAck id nowMs else m.queueIfBuilt (m.buildSimpleAckRequest prim id)
    else m.armAck id (saturatingAdd nowMs m.config.delayedAckMs)
  | _ => m

def deliverDecision (id : ConnectionId) (decision : Option RecvWindowDecision) : StreamingManager D :=
  match decision with
  | some (.delivered _ entries) => m.deliver id (entries.flatMap (·.payload))
  | _ => m

/-- The part of `handle_data_packet` behind its checks, which cannot fail. -/
def applyDataPacket (m : StreamingManager D) (packet : StreamingPacket D)
    (id : ConnectionId) (nowMs : Nat) : StreamingManager D :=
  match m.connections[id]? with
  | none => m
  | some conn =>
    let controlled := conn.applyControl packet nowMs
    let terminated := controlled.state.terminated
    let taken := controlled.takePacket packet nowMs
    let m := m.setConnection id taken.1
    let m := if !packet.flags.noAck && !terminated then m.clearTracked id packet else m
    (m.scheduleAck prim id packet taken.2 terminated taken.1.state.active nowMs).deliverDecision id taken.2

def handleDataPacket (packet : StreamingPacket D)
    (signatureLocation : Option SignatureLocation) (wireBytes : List UInt8) (id : ConnectionId) (nowMs : Nat) :
    ManagerM D WirePacketObservation := do
  Call.failIf (packet.flags.close ∧ ¬ packet.flags.signatureIncluded) (.codec .closeMissingSignature)
  Call.failIf (packet.flags.reset ∧ ¬ packet.flags.signatureIncluded) (.codec .resetMissingSignature)
  let m ← Call.state
  let conn ← Call.ofOption m.connections[id]? .unknownConnection
  Call.ofExcept (verifyRetained prim conn.peerSigningKey packet signatureLocation wireBytes)
  Call.update (applyDataPacket prim · packet id nowMs)
  pure (packet.observation id)

inductive PacketRoute where
  | syn
  | synResponse
  | data

def route (peek : StreamingHeaderPeek) : PacketRoute :=
  if peek.flagsBits &&& ~~~flagReservedMask &&& flagSynchronize ≠ 0 ∧ peek.receiveStreamId ≠ 0 then
    if peek.sendStreamId = 0 then .syn else .synResponse
  else .data

def decodePacket (wireBytes : List UInt8) (peerSigningKey : Option SigningPublicKey) :
    ManagerM D (StreamingPacket D × Option SignatureLocation) :=
  Call.ofExcept ((decodeStreamingPacket prim.toDestinationCodec wireBytes StreamingReceiveLimit.destinationPath
    peerSigningKey).mapError .codec)

/-- The connection an outbound stream id stands for. -/
def outboundConnection (streamId : UInt32) : Option (StreamingConnection D) :=
  m.outboundByStream[streamId]?.bind fun id => m.connections[id]?

/-- Ports other than those of the SYN, or a stream id of no connection, which is reported with zero ports. -/
def synResponseTupleError (streamId : UInt32) (sourcePort destinationPort : UInt16) : StreamingManagerError :=
  match m.outboundConnection streamId with
  | some conn => .portTupleMismatch conn.localPort conn.remotePort sourcePort destinationPort
  | none => .portTupleMismatch 0 0 sourcePort destinationPort

def processInboundPacket (wireBytes : List UInt8) (fromDestinationHash : DestinationHash)
    (toDestination : DestinationIdentity D) (sourcePort destinationPort : UInt16) (nowMs : Nat) :
    ManagerM D WirePacketObservation := do
  let peek ← Call.ofExcept ((peekStreamingHeader wireBytes).mapError .codec)
  let m ← Call.state
  match route peek with
  | .syn => do
    let (packet, signatureLocation) ← decodePacket prim wireBytes none
    handleInboundSyn prim packet signatureLocation wireBytes fromDestinationHash toDestination sourcePort destinationPort
      nowMs
  | .synResponse => do
    Call.failIf (¬ (m.outboundConnection peek.sendStreamId).any (·.portsMatch sourcePort destinationPort))
      (m.synResponseTupleError peek.sendStreamId sourcePort destinationPort)
    let (packet, signatureLocation) ← decodePacket prim wireBytes none
    handleInboundSynResponse prim packet signatureLocation wireBytes nowMs
  | .data => do
    let id ← Call.ofOption (m.inboundByStream[peek.sendStreamId]?.or m.outboundByStream[peek.sendStreamId]?)
      .unknownConnection
    match m.connections[id]? with
    | none => Call.never
    | some conn => do
      Call.failIf (¬ conn.portsMatch sourcePort destinationPort)
        (.portTupleMismatch conn.localPort conn.remotePort sourcePort destinationPort)
      let (packet, signatureLocation) ← decodePacket prim wireBytes (some conn.peerSigningKey)
      handleDataPacket prim packet signatureLocation wireBytes id nowMs

def processInboundEnvelope (wireBytes : List UInt8)
    (fromDestinationHash : DestinationHash) (toDestination : DestinationIdentity D) (sourcePort destinationPort : UInt16)
    (nowMs : Nat) : ManagerM D WirePacketObservation := do
  let envelope ← Call.ofExcept ((prim.decodeClientPayload wireBytes (maxStreamingPacketBytes + 256)).mapError
    fun error => .streaming (.inboundEnvelope error))
  Call.failIf (envelope.sourcePort ≠ sourcePort ∨ envelope.destinationPort ≠ destinationPort)
    (.portTupleMismatch destinationPort sourcePort envelope.sourcePort envelope.destinationPort)
  processInboundPacket prim envelope.payload fromDestinationHash toDestination sourcePort destinationPort nowMs

def sendTransition (payloadLen nowMs : Nat) (conn : StreamingConnection D) :
    Except StreamingManagerError UInt32 × StreamingConnection D :=
  match conn.enqueueSend payloadLen nowMs with
  | .ok (sequence, conn) => (.ok sequence, conn)
  | .error error => (.error (.streaming error), conn)

def sendData (id : ConnectionId) (remote : RemoteDestination)
    (localPort remotePort : UInt16) (payload : List UInt8) (nowMs : Nat) : ManagerM D TransportSendRequest := do
  let m ← Call.state
  let conn ← Call.ofOption m.connections[id]? .unknownConnection
  Call.failIf (conn.state ≠ .established) .invalidConnectionState
  assertPorts conn localPort remotePort
  Call.failIf (conn.maxPayloadSize < payload.length) (.streaming (.payloadTooLarge payload.length conn.maxPayloadSize))
  Call.failIf (conn.sendWindow.evaluate payload.length = .backpressure) (.streaming .sendWindowFull)
  let gated := m.deliveredOverCap id
  let wireBytes ← Call.ofExcept ((encodeStreamingPacket (conn.dataPacket (if gated then .noAckOnly else .empty) payload)
    StreamingSendLimit.default).mapError .codec)
  let request ← Call.ofExcept (envelopeRequest prim remote.destinationHash conn.localPort conn.remotePort wireBytes
    conn.sendWindow.nextSequence conn.remoteStreamId conn.localStreamId)
  let sequence ← onConnection id (sendTransition payload.length nowMs)
  -- `assert_eq!` on the sequence the window assigned
  if sequence ≠ conn.sendWindow.nextSequence then Call.never
  else do
    Call.update fun m =>
      let m := (m.track id ⟨sequence, payload.length, nowMs, 0, request, false⟩).queueOutboundPacket request
      if gated then m else m.forgetAck id
    pure request

/-- Established begins the close; a CLOSE of the peer is answered and completes it. -/
def closeTransition (wasClosingRemote : Bool) (nowMs : Nat) (conn : StreamingConnection D) :
    Except StreamingManagerError Unit × StreamingConnection D :=
  match if conn.state = .established then conn.beginClose nowMs else .ok conn with
  | .error error => (.error (.streaming error), conn)
  | .ok conn => (.ok (), if wasClosingRemote then conn.orSame (conn.close nowMs) else conn)

def sendClose (id : ConnectionId) (localDest : DestinationIdentity D)
    (remote : RemoteDestination) (localPort remotePort : UInt16) (nowMs : Nat) : ManagerM D TransportSendRequest := do
  let m ← Call.state
  let conn ← Call.ofOption m.connections[id]? .unknownConnection
  assertPorts conn localPort remotePort
  Call.failIf (conn.state ≠ .established ∧ conn.state ≠ .closingRemote)
    (.streaming (.invalidStateTransition conn.state.label "ClosingLocal"))
  let sequenceNum := conn.sendWindow.nextSequence
  let request ← Call.ofExcept (buildSignedPacket prim localDest remote conn.remoteStreamId conn.localStreamId sequenceNum
    conn.recvWindow.ackView.1 closeFlags .empty conn.recvWindow.ackView.2 conn.localPort conn.remotePort [])
  onConnection id (closeTransition (conn.state = .closingRemote) nowMs)
  Call.update fun m =>
    ((m.track id ⟨sequenceNum, 0, nowMs, 0, request, true⟩).queueOutboundPacket request).forgetAck id
  pure request

def resetTransition (nowMs : Nat) (conn : StreamingConnection D) :
    Except StreamingManagerError Unit × StreamingConnection D :=
  match conn.reset nowMs with
  | .ok conn => (.ok (), conn)
  | .error error => (.error (.streaming error), conn)

def sendReset (id : ConnectionId) (localDest : DestinationIdentity D)
    (remote : RemoteDestination) (localPort remotePort : UInt16) (nowMs : Nat) : ManagerM D TransportSendRequest := do
  let m ← Call.state
  let conn ← Call.ofOption m.connections[id]? .unknownConnection
  assertPorts conn localPort remotePort
  let request ← Call.ofExcept (buildSignedPacket prim localDest remote conn.remoteStreamId conn.localStreamId 0
    conn.recvWindow.ackView.1 resetFlags .empty conn.recvWindow.ackView.2 localPort remotePort [])
  onConnection id (resetTransition nowMs)
  Call.update fun m => (m.forgetAck id).queueOutboundPacket request
  pure request

/-- One due acknowledgement: dropped with its connection, snoozed while the application lags, or sent. -/
def pollAck (m : StreamingManager D) (id : ConnectionId) (nowMs : Nat) :
    StreamingManager D × Option TransportSendRequest :=
  let m := m.forgetAck id
  if ¬ (m.connections[id]?).any (·.state.active) then (m, none)
  else if m.deliveredOverCap id then
    ({ m with pendingAcks := m.pendingAcks.insert id (saturatingAdd nowMs m.config.delayedAckMs) }, none)
  else
    let request := m.buildSimpleAckRequest prim id
    (m.queueIfBuilt request, request)

/-- The `while let` loop of `poll_acks`. A snoozed deadline that is due again keeps it from ending. -/
def pollAcksFrom (prim : StreamingPrimitives D) (nowMs : Nat) :
    Nat → List TransportSendRequest → ManagerM D (List TransportSendRequest)
  | 0, _ => Call.never
  | fuel + 1, out => do
    let m ← Call.state
    match m.pendingAcks.toList.find? (·.2 ≤ nowMs) with
    | none => pure out
    | some (id, _) => do
      Call.update fun m => (m.pollAck prim id nowMs).1
      pollAcksFrom prim nowMs fuel (out ++ (m.pollAck prim id nowMs).2.toList)

def pollAcks (nowMs : Nat) : ManagerM D (List TransportSendRequest) := do
  let m ← Call.state
  pollAcksFrom prim nowMs (m.pendingAcks.size + 1) []

def pollRetransmit (nowMs rtoMs : Nat) (id : ConnectionId) (m : StreamingManager D) (sequence : UInt32) :
    StreamingManager D :=
  match (m.outboundPackets[id]?).bind (·[sequence]?) with
  | none => m
  | some packet =>
    if nowMs - packet.sentAtMs < rtoMs then m
    else if m.config.maxRetransmitCount.toNat ≤ packet.retransmitCount then m.modifyTracked id (·.erase sequence)
    else
      let again := { packet with retransmitCount := saturatingAdd32 packet.retransmitCount 1, sentAtMs := nowMs }
      let m := m.modifyTracked id (·.insert sequence again)
      (m.modifyConnection id (·.markRetransmitted sequence nowMs)).queueOutboundPacket packet.request

def pollRetransmitsFor (nowMs : Nat) (m : StreamingManager D) (id : ConnectionId) : StreamingManager D :=
  match m.connections[id]? with
  | none => m
  | some conn =>
    ((m.outboundPackets.getD id ∅).keys).foldl (pollRetransmit nowMs conn.retransmit.currentRtoMs id) m

/-- The requests sent again are those appended to the queue. -/
def pollRetransmits (nowMs : Nat) : List TransportSendRequest × StreamingManager D :=
  let after := m.outboundPackets.keys.foldl (pollRetransmitsFor nowMs) m
  (after.outboundQueue.drop m.outboundQueue.length, after)

def drainOutbound : List TransportSendRequest × StreamingManager D :=
  (m.outboundQueue, { m with outboundQueue := [] })

def forgetAll (drained : List DeliveredApplicationBytes) : StreamingManager D :=
  drained.foldl (fun m delivered => m.forgetDeliveredBytes delivered.connectionId delivered.bytes.length) m

def drainDelivered : List DeliveredApplicationBytes × StreamingManager D :=
  (m.pendingDelivered, { m with pendingDelivered := [] }.forgetAll m.pendingDelivered)

def drainDeliveredFor (id : ConnectionId) : List DeliveredApplicationBytes × StreamingManager D :=
  let owned := m.pendingDelivered.filter (·.connectionId = id)
  (owned, { m with pendingDelivered := m.pendingDelivered.filter (·.connectionId ≠ id) }.forgetAll owned)

/-- The index entry of a connection goes with it. -/
def removeIndex (conn : StreamingConnection D) : StreamingManager D :=
  match conn.direction with
  | .outbound => { m with outboundByStream := m.outboundByStream.erase conn.localStreamId }
  | .inbound => { m with inboundByStream := m.inboundByStream.erase conn.localStreamId }

def removeConnection (id : ConnectionId) : Option (StreamingConnection D) × StreamingManager D :=
  let indexed := (m.connections[id]?).elim m m.removeIndex
  (m.connections[id]?, { indexed with
    connections := m.connections.erase id
    pendingSynPayloads := m.pendingSynPayloads.erase id
    outboundPackets := m.outboundPackets.erase id
    pendingAcks := m.pendingAcks.erase id
    pendingBytesByConnection := m.pendingBytesByConnection.erase id
    pendingDelivered := m.pendingDelivered.filter (·.connectionId ≠ id) })

def accept (port : UInt16) : Option ConnectionId × StreamingManager D :=
  ((m.listeners[port]?).bind List.head?, { m with listeners := m.listeners.modify port List.tail })

end StreamingManager

end I2pr
