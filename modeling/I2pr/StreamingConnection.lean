import I2pr.StreamingPacket

namespace I2pr

def initialCongestionWindow : Nat := 16
def maxCongestionWindow : Nat := 256
def minCongestionWindow : Nat := 1

structure CongestionConfig where
  initialWindow : Nat
  maxWindow : Nat
  minWindow : Nat

def CongestionConfig.fromConfig (config : StreamingConfig) : CongestionConfig :=
  let initial := min initialCongestionWindow config.maxSendWindowPackets.toNat
  let largest := min config.maxSendWindowPackets.toNat maxCongestionWindow
  ⟨initial, max (max largest initial) minCongestionWindow, minCongestionWindow⟩

inductive CongestionDecision where
  | allow (additionalPackets : Nat)
  | full
deriving DecidableEq, Repr

structure CongestionPolicy where
  config : CongestionConfig
  currentWindow : Nat
  ackedSinceIncrease : Nat
  inFlight : Nat

def saturatingAdd32 (a b : Nat) : Nat := min (a + b) (2 ^ 32 - 1)

namespace CongestionPolicy

def new (config : CongestionConfig) : CongestionPolicy := ⟨config, config.initialWindow, 0, 0⟩

variable (policy : CongestionPolicy)

def evaluate : CongestionDecision :=
  let available := policy.currentWindow - policy.inFlight
  if 0 < available then .allow available else .full

def recordSent : CongestionPolicy :=
  { policy with inFlight := saturatingAdd32 policy.inFlight 1 }

/-- The window grows by one after a full window of acknowledgements. -/
def recordAcked : CongestionPolicy :=
  let acked := saturatingAdd32 policy.ackedSinceIncrease 1
  let policy := { policy with inFlight := policy.inFlight - 1, ackedSinceIncrease := acked }
  if policy.currentWindow ≤ acked then
    { policy with
      currentWindow := min (saturatingAdd32 policy.currentWindow 1) policy.config.maxWindow
      ackedSinceIncrease := 0 }
  else policy

def recordLoss : CongestionPolicy :=
  let halved := max policy.currentWindow policy.config.minWindow / 2
  { policy with currentWindow := max halved policy.config.minWindow, ackedSinceIncrease := 0 }

end CongestionPolicy

def minRtoMillis : Nat := 100
def maxRtoMillis : Nat := 60000

structure RetransmitConfig where
  initialRtoMs : Nat
  minRtoMs : Nat
  maxRtoMs : Nat
  maxAttempts : Nat

def RetransmitConfig.fromConfig (config : StreamingConfig) : RetransmitConfig :=
  ⟨5000, minRtoMillis, min maxRtoMillis (config.closeTimeoutMs / 2), config.maxRetransmitCount.toNat⟩

structure RetransmitPolicy where
  config : RetransmitConfig
  smoothedRttMs : Nat
  rttVarianceMs : Nat
  currentRtoMs : Nat

def RetransmitPolicy.new (config : RetransmitConfig) : RetransmitPolicy :=
  ⟨config, config.initialRtoMs, config.initialRtoMs / 2, config.initialRtoMs⟩

abbrev ConnectionId := UInt64

inductive StreamDirection where
  | outbound
  | inbound
deriving DecidableEq, Repr

inductive ConnectionState where
  | outboundSynSent
  | inboundSynReceived
  | established
  | closingLocal
  | closingRemote
  | reset
  | closed
deriving DecidableEq, Repr

def ConnectionState.label : ConnectionState → String
  | .outboundSynSent => "OutboundSynSent"
  | .inboundSynReceived => "InboundSynReceived"
  | .established => "Established"
  | .closingLocal => "ClosingLocal"
  | .closingRemote => "ClosingRemote"
  | .reset => "Reset"
  | .closed => "Closed"

variable (state : ConnectionState)

/-- The handshake of the connection is not complete. -/
def ConnectionState.awaiting : Bool :=
  state = .outboundSynSent || state = .inboundSynReceived

def ConnectionState.terminated : Bool :=
  state = .closed || state = .reset

/-- Acknowledgements are sent for the connection. -/
def ConnectionState.active : Bool :=
  !(state = .closingLocal || state = .closingRemote || state = .closed || state = .reset)

inductive ClientPayloadEncodeError where
  | payloadTooLarge (actual maximum : Nat)
  | invalidProtocol (value : UInt16)
  | codec (error : CodecError)

inductive ClientPayloadDecodeError where
  | truncated
  | badMagic
  | unsupportedCompressionMethod (value : UInt8)
  | unsupportedOptionalHeaderLayout (label : String)
  | reservedFlagBits (bits : UInt8)
  | invalidCrc (declared actual : UInt32)
  | invalidIsize (declared actual : UInt32)
  | payloadTooLarge (actual maximum : Nat)
  | unsupportedProtocol (value : UInt8)
  | decompressionFailed (message : String)
  | trailingBytes (offset length : Nat)
  | codec (error : CodecError)

inductive StreamingError where
  | connectionClosed
  | invalidStateTransition (source target : String)
  | sendWindowFull
  | congestionRejected
  | inboundEnvelope (error : ClientPayloadDecodeError)
  | payloadTooLarge (actual maximum : Nat)

structure StreamingConnection (D : Type) where
  id : ConnectionId
  direction : StreamDirection
  state : ConnectionState
  config : StreamingConfig
  sendWindow : SendWindowPolicy
  recvWindow : RecvWindowPolicy
  congestion : CongestionPolicy
  retransmit : RetransmitPolicy
  localStreamId : UInt32
  remoteStreamId : UInt32
  peerSigningKey : SigningPublicKey
  peerDestinationHash : DestinationHash
  peerDestination : Option D
  localPort : UInt16
  remotePort : UInt16
  localAdvertisedMaxPayload : UInt16
  remoteAdvertisedMaxPayload : Option UInt16
  maxPayloadSize : Nat
  lastActivityMs : Nat
  createdAtMs : Nat

namespace StreamingConnection

variable {D : Type}

/-- What the two constructors share: empty windows, and the profile's own payload size until one is negotiated. -/
def fresh (direction : StreamDirection) (state : ConnectionState) (id : ConnectionId) (config : StreamingConfig)
    (localStreamId remoteStreamId : UInt32) (peerSigningKey : SigningPublicKey) (peerDestinationHash : DestinationHash)
    (localPort remotePort : UInt16) (nowMs : Nat) : StreamingConnection D where
  id := id
  direction := direction
  state := state
  config := config
  sendWindow := .new (.fromConfig config)
  recvWindow := .new (.fromConfig config)
  congestion := .new (.fromConfig config)
  retransmit := .new (.fromConfig config)
  localStreamId := localStreamId
  remoteStreamId := remoteStreamId
  peerSigningKey := peerSigningKey
  peerDestinationHash := peerDestinationHash
  peerDestination := none
  localPort := localPort
  remotePort := remotePort
  localAdvertisedMaxPayload := defaultAdvertisedMaxPayload
  remoteAdvertisedMaxPayload := none
  maxPayloadSize := defaultAdvertisedMaxPayload.toNat
  lastActivityMs := nowMs
  createdAtMs := nowMs

def newOutbound (id : ConnectionId) (config : StreamingConfig) (localStreamId remoteStreamId : UInt32)
    (peerSigningKey : SigningPublicKey) (peerDestinationHash : DestinationHash) (localPort remotePort : UInt16)
    (nowMs : Nat) : StreamingConnection D :=
  fresh .outbound .outboundSynSent id config localStreamId remoteStreamId peerSigningKey peerDestinationHash localPort
    remotePort nowMs

def newInbound (id : ConnectionId) (config : StreamingConfig) (localStreamId remoteStreamId : UInt32)
    (peerSigningKey : SigningPublicKey) (peerDestinationHash : DestinationHash) (localPort remotePort : UInt16)
    (nowMs : Nat) : StreamingConnection D :=
  fresh .inbound .inboundSynReceived id config localStreamId remoteStreamId peerSigningKey peerDestinationHash localPort
    remotePort nowMs

variable (conn : StreamingConnection D)

def portsMatch (sourcePort destinationPort : UInt16) : Bool :=
  conn.remotePort = sourcePort && conn.localPort = destinationPort

/-- The payload size is the smaller of the two advertised. -/
def transitionEstablished (remoteMaxPayload nowMs : Nat) : Except StreamingError (StreamingConnection D) :=
  if conn.state.awaiting then
    .ok { conn with
      state := .established
      lastActivityMs := nowMs
      maxPayloadSize := min conn.localAdvertisedMaxPayload.toNat remoteMaxPayload }
  else .error (.invalidStateTransition conn.state.label "Established")

def beginClose (nowMs : Nat) : Except StreamingError (StreamingConnection D) :=
  if conn.state ≠ .established then .error (.invalidStateTransition conn.state.label "ClosingLocal")
  else .ok { conn with state := .closingLocal, lastActivityMs := nowMs }

def remoteCloseReceived (nowMs : Nat) : Except StreamingError (StreamingConnection D) :=
  if conn.state ≠ .established then .error (.invalidStateTransition conn.state.label "ClosingRemote")
  else .ok { conn with state := .closingRemote, lastActivityMs := nowMs }

def close (nowMs : Nat) : Except StreamingError (StreamingConnection D) :=
  if conn.state = .closed then .error .connectionClosed
  else .ok { conn with state := .closed, lastActivityMs := nowMs }

def reset (conn : StreamingConnection D) (nowMs : Nat) : Except StreamingError (StreamingConnection D) :=
  if conn.state = .closed then .error .connectionClosed
  else .ok { conn with state := .reset, lastActivityMs := nowMs }

/-- A transition whose error is ignored. -/
def orSame (result : Except StreamingError (StreamingConnection D)) : StreamingConnection D :=
  match result with
  | .ok conn => conn
  | .error _ => conn

def enqueueSend (payloadLen nowMs : Nat) : Except StreamingError (UInt32 × StreamingConnection D) :=
  if conn.state ≠ .established then .error (.invalidStateTransition conn.state.label "send (need Established)")
  else if conn.congestion.evaluate = .full then .error .congestionRejected
  else if conn.sendWindow.evaluate payloadLen = .backpressure then .error .sendWindowFull
  else
    match conn.sendWindow.enqueue payloadLen nowMs with
    | .error _ => .error .sendWindowFull
    | .ok (sequence, sendWindow) =>
      .ok (sequence, { conn with
        sendWindow := sendWindow
        congestion := conn.congestion.recordSent
        lastActivityMs := nowMs })

def receivePacket (sequence : UInt32) (payload : List UInt8) (nowMs : Nat) :
    StreamingConnection D × RecvWindowDecision :=
  let received := conn.recvWindow.receive sequence payload
  ({ conn with recvWindow := received.1, lastActivityMs := nowMs }, received.2)

def receiveAck (ackThrough : UInt32) (nacks : List UInt32) (nowMs : Nat) : StreamingConnection D :=
  let acknowledged := conn.sendWindow.acknowledge ackThrough nacks
  let congestion := acknowledged.2.newlyAcked.foldl (fun policy _ => policy.recordAcked) conn.congestion
  { conn with
    sendWindow := acknowledged.1
    congestion := if acknowledged.2.retainedNacks = [] then congestion else congestion.recordLoss
    lastActivityMs := nowMs }

def checkTimeout (nowMs : Nat) : Bool :=
  match conn.state with
  | .closed | .reset => false
  | .established | .closingLocal | .closingRemote => conn.config.idleTimeoutMs < nowMs - conn.lastActivityMs
  | .outboundSynSent | .inboundSynReceived => conn.config.setupTimeoutMs < nowMs - conn.lastActivityMs

/-- One expired entry: dropped once its attempts are used up, and counted otherwise. -/
def expire (maxRetransmitCount nowMs : Nat) (window : SendWindowPolicy) (sequence : UInt32) : SendWindowPolicy :=
  match window.unacked[sequence]? with
  | some entry =>
    if maxRetransmitCount ≤ entry.retransmitCount then window.remove sequence
    else window.markRetransmitted sequence nowMs
  | none => window.markRetransmitted sequence nowMs

def advance (nowMs : Nat) : StreamingConnection D :=
  if conn.state.terminated then conn
  else if conn.checkTimeout nowMs then conn.orSame (conn.reset nowMs)
  else
    let expired := conn.sendWindow.expiredEntries nowMs conn.retransmit.currentRtoMs
    { conn with sendWindow := expired.foldl (expire conn.config.maxRetransmitCount.toNat nowMs) conn.sendWindow }

/-- The plain acknowledgement `build_simple_ack_request` encodes. -/
def simpleAck : StreamingPacketBuilder where
  sendStreamId := conn.remoteStreamId
  receiveStreamId := conn.localStreamId
  sequenceNum := 0
  ackThrough := conn.recvWindow.ackView.1
  nacks := conn.recvWindow.ackView.2
  resendDelay := 0
  flags := .empty
  optionBytes := []
  payload := []

def dataPacket (flags : StreamingFlags) (payload : List UInt8) : StreamingPacketBuilder where
  sendStreamId := conn.remoteStreamId
  receiveStreamId := conn.localStreamId
  sequenceNum := conn.sendWindow.nextSequence
  ackThrough := conn.recvWindow.ackView.1
  nacks := conn.recvWindow.ackView.2
  resendDelay := 0
  flags := flags
  optionBytes := []
  payload := payload

end StreamingConnection

end I2pr
