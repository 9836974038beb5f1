import I2pr.StreamingDelivered

namespace I2pr

open Call Fallible Std

variable {D : Type}

namespace StreamingManager

/-- The connection addressed, if there is one, still awaits its handshake. -/
def Awaits (m : StreamingManager D) (id : ConnectionId) : Prop :=
  ∀ conn, m.connections[id]? = some conn → conn.state.awaiting

/-- The packet neither meets a connection id that is taken nor answers a connection past its handshake. -/
structure Calm (m : StreamingManager D) (wireBytes : List UInt8) : Prop where
  syn : ∀ peek, peekStreamingHeader wireBytes = .ok peek → route peek = .syn → m.nextConnectionId ∉ m.connections
  synResponse : ∀ peek, peekStreamingHeader wireBytes = .ok peek → route peek = .synResponse →
    ∀ id, m.outboundByStream[peek.sendStreamId]? = some id → m.Awaits id

end StreamingManager

/-- The calls a manager offers next to `connect`. -/
inductive ManagerCall (D : Type) where
  | listen (port : UInt16)
  | processInboundPacket (wireBytes : List UInt8) (fromDestinationHash : DestinationHash)
      (toDestination : DestinationIdentity D) (sourcePort destinationPort : UInt16) (nowMs : Nat)
  | processInboundEnvelope (wireBytes : List UInt8) (fromDestinationHash : DestinationHash)
      (toDestination : DestinationIdentity D) (sourcePort destinationPort : UInt16) (nowMs : Nat)
  | acceptInboundSyn (localDest : DestinationIdentity D) (remote : RemoteDestination) (id : ConnectionId)
      (localPort remotePort advertisedMaxPayload : UInt16) (nowMs : Nat)
  | sendData (id : ConnectionId) (remote : RemoteDestination) (localPort remotePort : UInt16) (payload : List UInt8)
      (nowMs : Nat)
  | sendClose (id : ConnectionId) (localDest : DestinationIdentity D) (remote : RemoteDestination)
      (localPort remotePort : UInt16) (nowMs : Nat)
  | sendReset (id : ConnectionId) (localDest : DestinationIdentity D) (remote : RemoteDestination)
      (localPort remotePort : UInt16) (nowMs : Nat)
  | pollAcks (nowMs : Nat)
  | pollRetransmits (nowMs : Nat)
  | drainOutbound
  | queueOutboundPacket (request : TransportSendRequest)
  | drainDelivered
  | drainDeliveredFor (id : ConnectionId)
  | removeConnection (id : ConnectionId)
  | accept (port : UInt16)
  | useConnection (id : ConnectionId) (use : StreamingConnection.Use D)

namespace ManagerCall

def run (prim : StreamingPrimitives D) : ManagerCall D → ManagerM D Unit
  | listen port => update fun m => (m.listen port).2
  | processInboundPacket wireBytes fromDestinationHash toDestination sourcePort destinationPort nowMs => do
    let _ ← StreamingManager.processInboundPacket prim wireBytes fromDestinationHash toDestination sourcePort
      destinationPort nowMs
    pure ()
  | processInboundEnvelope wireBytes fromDestinationHash toDestination sourcePort destinationPort nowMs => do
    let _ ← StreamingManager.processInboundEnvelope prim wireBytes fromDestinationHash toDestination sourcePort
      destinationPort nowMs
    pure ()
  | acceptInboundSyn localDest remote id localPort remotePort advertisedMaxPayload nowMs => do
    let _ ← StreamingManager.acceptInboundSyn prim localDest remote id localPort remotePort advertisedMaxPayload nowMs
    pure ()
  | sendData id remote localPort remotePort payload nowMs => do
    let _ ← StreamingManager.sendData prim id remote localPort remotePort payload nowMs
    pure ()
  | sendClose id localDest remote localPort remotePort nowMs => do
    let _ ← StreamingManager.sendClose prim id localDest remote localPort remotePort nowMs
    pure ()
  | sendReset id localDest remote localPort remotePort nowMs => do
    let _ ← StreamingManager.sendReset prim id localDest remote localPort remotePort nowMs
    pure ()
  | pollAcks nowMs => do
    let _ ← StreamingManager.pollAcks prim nowMs
    pure ()
  | pollRetransmits nowMs => update fun m => (m.pollRetransmits nowMs).2
  | drainOutbound => update fun m => m.drainOutbound.2
  | queueOutboundPacket request => update (·.queueOutboundPacket request)
  | drainDelivered => update fun m => m.drainDelivered.2
  | drainDeliveredFor id => update fun m => (m.drainDeliveredFor id).2
  | removeConnection id => update fun m => (m.removeConnection id).2
  | accept port => update fun m => (m.accept port).2
  | useConnection id use => update (·.modifyConnection id use.apply)

/-- Neither a SYN meets a taken connection id, nor a handshake message a connection past its handshake. -/
def Calm (prim : StreamingPrimitives D) (m : StreamingManager D) : ManagerCall D → Prop
  | processInboundPacket wireBytes .. => m.Calm wireBytes
  | processInboundEnvelope wireBytes .. =>
    ∀ envelope, prim.decodeClientPayload wireBytes (maxStreamingPacketBytes + 256) = .ok envelope →
      m.Calm envelope.payload
  | acceptInboundSyn _ _ id .. => m.Awaits id
  | _ => True

end ManagerCall

/-- Everything a manager can be asked. -/
inductive ManagerRequest (D : Type) where
  | connect (localDest : DestinationIdentity D) (remote : RemoteDestination)
      (localPort remotePort advertisedMaxPayload : UInt16) (initialPayload : List UInt8) (nowMs : Nat)
  | call (call : ManagerCall D)

namespace ManagerRequest

def run (prim : StreamingPrimitives D) : ManagerRequest D → ManagerM D Unit
  | connect localDest remote localPort remotePort advertisedMaxPayload initialPayload nowMs => do
    let _ ← StreamingManager.connectWithInitialPayload prim localDest remote localPort remotePort advertisedMaxPayload
      initialPayload nowMs
    pure ()
  | call requested => requested.run prim

def packetBytes (prim : StreamingPrimitives D) : ManagerRequest D → Option (List UInt8)
  | call (.processInboundPacket wireBytes ..) => some wireBytes
  | call (.processInboundEnvelope wireBytes ..) =>
    (prim.decodeClientPayload wireBytes (maxStreamingPacketBytes + 256)).toOption.map (·.payload)
  | _ => none

def Calm (prim : StreamingPrimitives D) (m : StreamingManager D) : ManagerRequest D → Prop
  | connect .. => True
  | call requested => requested.Calm prim m

theorem Calm.packet {prim : StreamingPrimitives D} {m : StreamingManager D} {request : ManagerRequest D}
    {wireBytes : List UInt8} (h : request.Calm prim m) (hbytes : request.packetBytes prim = some wireBytes) :
    m.Calm wireBytes := by
  cases request with
  | connect => cases hbytes
  | call requested =>
    cases requested with
    | processInboundPacket => exact Option.some.inj hbytes ▸ h
    | processInboundEnvelope =>
      obtain ⟨envelope, henvelope, rfl⟩ := Option.map_eq_some_iff.mp hbytes
      refine h envelope ?_
      generalize prim.decodeClientPayload _ _ = decoded at henvelope ⊢
      cases decoded with
      | ok => exact congrArg Except.ok (Option.some.inj henvelope)
      | error => cases henvelope
    | _ => cases hbytes

end ManagerRequest

/-- A connection as its constructor leaves it. -/
structure StreamingConnection.Begins (conn : StreamingConnection D) (direction : StreamDirection)
    (state : ConnectionState) (localStreamId : UInt32) : Prop where
  direction : conn.direction = direction
  state : conn.state = state
  localStreamId : conn.localStreamId = localStreamId
  sendWindow : conn.sendWindow = .new (.fromConfig conn.config)
  congestion : conn.congestion = .new (.fromConfig conn.config)

namespace StreamingManager

variable (prim : StreamingPrimitives D)

/-- The wire bytes are a SYN with a valid signature of this FROM destination. -/
def IsSyn (wireBytes : List UInt8) (packet : StreamingPacket D) (destination : D) : Prop :=
  ∃ peek location, peekStreamingHeader wireBytes = .ok peek ∧ route peek = .syn ∧
    decodeHandshake prim wireBytes = .ok (packet, location) ∧
    verifyFrom prim packet location wireBytes = .ok destination

/-- The wire bytes are a packet of this connection that passes its checks. -/
def IsData (m : StreamingManager D) (wireBytes : List UInt8) (packet : StreamingPacket D)
    (id : ConnectionId) (conn : StreamingConnection D) : Prop :=
  ∃ peek location, peekStreamingHeader wireBytes = .ok peek ∧ route peek = .data ∧
    (m.inboundByStream[peek.sendStreamId]?.or m.outboundByStream[peek.sendStreamId]?) = some id ∧
    m.connections[id]? = some conn ∧
    decodeStreamingPacket prim.toDestinationCodec wireBytes StreamingReceiveLimit.destinationPath
      (some conn.peerSigningKey) = .ok (packet, location) ∧
    verifyRetained prim conn.peerSigningKey packet location wireBytes = .ok ()

variable (m : StreamingManager D)

/-- What a packet does to its connection and to the tracked packets. -/
def takeData (packet : StreamingPacket D) (id : ConnectionId) (conn : StreamingConnection D)
    (nowMs : Nat) : StreamingManager D :=
  let controlled := conn.applyControl packet nowMs
  let m := m.setConnection id (controlled.takePacket packet nowMs).1
  if !packet.flags.noAck && !controlled.state.terminated then m.clearTracked id packet else m

theorem takeData_eq (packet : StreamingPacket D) (id : ConnectionId) (conn : StreamingConnection D) (nowMs : Nat) :
    ∃ tracked, m.takeData packet id conn nowMs =
        { m.setConnection id ((conn.applyControl packet nowMs).takePacket packet nowMs).1 with outboundPackets := tracked } ∧
      ∀ k ∈ tracked, k ∈ m.outboundPackets := by
  unfold takeData
  dsimp only
  split
  · exact ⟨_, rfl, fun _ hk => ExtTreeMap.mem_modify.mp hk⟩
  · exact ⟨_, rfl, fun _ hk => hk⟩

/-- What a request does to the connections, their indexes, their tracked packets and the backlogs. -/
inductive Change (prim : StreamingPrimitives D) (m : StreamingManager D) : ManagerRequest D → StreamingManager D → Prop
  | counted {request} (connectionCounter : UInt64) (streamCounter : UInt32) :
    Change prim m request (m.withCounters connectionCounter streamCounter)
  | connected {localDest remote localPort remotePort advertisedMaxPayload initialPayload nowMs streamId conn}
    (connectionCounter : UInt64) (streamCounter : UInt32)
    (hroom : m.connections.size < m.config.maxStreamsPerDestination.toNat) (hunused : m.Unused streamId)
    (hconn : conn.Begins .outbound .outboundSynSent streamId) :
    Change prim m (.connect localDest remote localPort remotePort advertisedMaxPayload initialPayload nowMs)
      ((m.withCounters connectionCounter streamCounter).insertOutbound m.nextConnectionId streamId conn)
  | entered {request wireBytes packet destination streamId listener conn} (connectionCounter : UInt64)
    (streamCounter : UInt32) (hbytes : request.packetBytes prim = some wireBytes)
    (hsyn : IsSyn prim wireBytes packet destination) (hunused : m.Unused streamId)
    (hconn : conn.Begins .inbound .inboundSynReceived streamId) (hpeer : conn.peerDestination = some destination)
    (hremote : conn.remoteStreamId = packet.receiveStreamId) :
    Change prim m request
      (((m.withCounters connectionCounter streamCounter).insertInbound m.nextConnectionId streamId conn).enterBacklog
        m.nextConnectionId listener packet.payload)
  | refused {request wireBytes packet destination streamId conn} (connectionCounter : UInt64) (streamCounter : UInt32)
    (hbytes : request.packetBytes prim = some wireBytes) (hsyn : IsSyn prim wireBytes packet destination)
    (hunused : m.Unused streamId) (hconn : conn.Begins .inbound .inboundSynReceived streamId) :
    Change prim m request
      (((m.withCounters connectionCounter streamCounter).insertInbound m.nextConnectionId streamId conn).discardInbound
        m.nextConnectionId streamId)
  | answered {request wireBytes packet location destination id conn nowMs}
    (hbytes : request.packetBytes prim = some wireBytes) (hdecode : decodeHandshake prim wireBytes = .ok (packet, location))
    (hverified : verifyFrom prim packet location wireBytes = .ok destination)
    (hid : m.outboundByStream[packet.sendStreamId]? = some id) (hconn : m.connections[id]? = some conn) :
    Change prim m request (m.setConnection id (synResponseTransition packet nowMs conn).2)
  | took {request wireBytes packet id conn nowMs} (hbytes : request.packetBytes prim = some wireBytes)
    (hdata : IsData prim m wireBytes packet id conn) : Change prim m request (m.takeData packet id conn nowMs)
  | accepted {localDest remote id localPort remotePort advertisedMaxPayload nowMs conn}
    (response : TransportSendRequest) (hconn : m.connections[id]? = some conn) (hawaiting : conn.state.awaiting) :
    Change prim m (.call (.acceptInboundSyn localDest remote id localPort remotePort advertisedMaxPayload nowMs))
      (((m.setConnection id (acceptTransition advertisedMaxPayload nowMs conn).2).releaseSynPayload id).track id
        ⟨0, 0, nowMs, 0, response, true⟩)
  | unaccepted {localDest remote id localPort remotePort advertisedMaxPayload nowMs conn}
    (hconn : m.connections[id]? = some conn) :
    Change prim m (.call (.acceptInboundSyn localDest remote id localPort remotePort advertisedMaxPayload nowMs))
      (m.setConnection id { conn with localAdvertisedMaxPayload := advertisedMaxPayload })
  | sent {id remote localPort remotePort payload nowMs conn conn' sequence} (request : TransportSendRequest)
    (hconn : m.connections[id]? = some conn) (hsend : conn.enqueueSend payload.length nowMs = .ok (sequence, conn')) :
    Change prim m (.call (.sendData id remote localPort remotePort payload nowMs))
      ((m.setConnection id conn').track id ⟨sequence, payload.length, nowMs, 0, request, false⟩)
  | closed {id localDest remote localPort remotePort nowMs conn} (request : TransportSendRequest)
    (hconn : m.connections[id]? = some conn) (hstate : conn.state = .established ∨ conn.state = .closingRemote) :
    Change prim m (.call (.sendClose id localDest remote localPort remotePort nowMs))
      ((m.setConnection id (closeTransition (conn.state = .closingRemote) nowMs conn).2).track id
        ⟨conn.sendWindow.nextSequence, 0, nowMs, 0, request, true⟩)
  | reset {id localDest remote localPort remotePort nowMs conn} (hconn : m.connections[id]? = some conn) :
    Change prim m (.call (.sendReset id localDest remote localPort remotePort nowMs))
      (m.setConnection id (resetTransition nowMs conn).2)
  | polled {nowMs} : Change prim m (.call (.pollRetransmits nowMs)) (m.pollRetransmits nowMs).2
  | listened {port} : Change prim m (.call (.listen port)) (m.listen port).2
  | removed {id} : Change prim m (.call (.removeConnection id)) (m.removeConnection id).2
  | popped {port} : Change prim m (.call (.accept port)) (m.accept port).2
  | used {id use} :
    Change prim m (.call (.useConnection id use)) (m.modifyConnection id use.apply)

theorem Change.same (m : StreamingManager D) (request : ManagerRequest D) : Change prim m request m :=
  .counted m.nextConnectionId m.nextInboundStreamId

/-- What is left of a request: acknowledgements, queued packets and delivered bytes, for connections of the table. -/
structure Tidies (m m' : StreamingManager D) : Prop where
  config : m'.config = m.config
  connections : m'.connections = m.connections
  outboundByStream : m'.outboundByStream = m.outboundByStream
  inboundByStream : m'.inboundByStream = m.inboundByStream
  listeners : m'.listeners = m.listeners
  outboundPackets : m'.outboundPackets = m.outboundPackets
  nextConnectionId : m'.nextConnectionId = m.nextConnectionId
  pendingSynPayloads : m'.pendingSynPayloads = m.pendingSynPayloads
  acks : ∀ id ∈ m'.pendingAcks, id ∈ m.pendingAcks ∨ id ∈ m.connections
  bytes : ∀ id ∈ m'.pendingBytesByConnection, id ∈ m.pendingBytesByConnection ∨ id ∈ m.connections

theorem Tidies.refl : m.Tidies m :=
  ⟨rfl, rfl, rfl, rfl, rfl, rfl, rfl, rfl, fun _ h => .inl h, fun _ h => .inl h⟩

theorem Tidies.trans {a b c : StreamingManager D} (hab : a.Tidies b) (hbc : b.Tidies c) : a.Tidies c where
  config := hbc.config.trans hab.config
  connections := hbc.connections.trans hab.connections
  outboundByStream := hbc.outboundByStream.trans hab.outboundByStream
  inboundByStream := hbc.inboundByStream.trans hab.inboundByStream
  listeners := hbc.listeners.trans hab.listeners
  outboundPackets := hbc.outboundPackets.trans hab.outboundPackets
  nextConnectionId := hbc.nextConnectionId.trans hab.nextConnectionId
  pendingSynPayloads := hbc.pendingSynPayloads.trans hab.pendingSynPayloads
  acks id h := by
    rcases hbc.acks id h with h | h
    · exact hab.acks id h
    · exact .inr (hab.connections ▸ h)
  bytes id h := by
    rcases hbc.bytes id h with h | h
    · exact hab.bytes id h
    · exact .inr (hab.connections ▸ h)

section Tidy

variable (m : StreamingManager D) (id : ConnectionId)

theorem tidies_drained (outbound : List TransportSendRequest) (delivered : List DeliveredApplicationBytes) :
    m.Tidies { m with outboundQueue := outbound, pendingDelivered := delivered } :=
  ⟨rfl, rfl, rfl, rfl, rfl, rfl, rfl, rfl, fun _ h => .inl h, fun _ h => .inl h⟩

theorem tidies_queueOutboundPacket (request : TransportSendRequest) : m.Tidies (m.queueOutboundPacket request) :=
  m.tidies_drained _ _

theorem tidies_queueIfBuilt (request : Option TransportSendRequest) : m.Tidies (m.queueIfBuilt request) := by
  cases request with
  | none => exact .refl m
  | some request => exact m.tidies_queueOutboundPacket request

theorem tidies_forgetAck : m.Tidies (m.forgetAck id) :=
  ⟨rfl, rfl, rfl, rfl, rfl, rfl, rfl, rfl, fun _ h => .inl (ExtTreeMap.mem_erase.mp h).2, fun _ h => .inl h⟩

variable {id}

theorem tidies_ack (h : id ∈ m.connections) (deadline : Nat) :
    m.Tidies { m with pendingAcks := m.pendingAcks.insert id deadline } := by
  refine ⟨rfl, rfl, rfl, rfl, rfl, rfl, rfl, rfl, fun k hk => ?_, fun _ hk => .inl hk⟩
  rcases TreeMap.mem_insert.mp hk with rfl | hk
  · exact .inr h
  · exact .inl hk

theorem tidies_deliver (h : id ∈ m.connections) (bytes : List UInt8) : m.Tidies (m.deliver id bytes) := by
  unfold deliver noteDeliveredBytes
  dsimp only
  split
  · exact ⟨rfl, rfl, rfl, rfl, rfl, rfl, rfl, rfl, fun _ hk => .inl hk, fun _ hk => .inl hk⟩
  refine ⟨rfl, rfl, rfl, rfl, rfl, rfl, rfl, rfl, fun _ hk => .inl hk, fun k hk => ?_⟩
  rcases TreeMap.mem_insert.mp hk with rfl | hk
  · exact .inr h
  · exact .inl hk

theorem tidies_deliverDecision (h : id ∈ m.connections) (decision : Option RecvWindowDecision) :
    m.Tidies (m.deliverDecision id decision) := by
  unfold deliverDecision
  split
  · exact m.tidies_deliver h _
  · exact .refl m

theorem tidies_scheduleAck (prim : StreamingPrimitives D) (h : id ∈ m.connections) (packet : StreamingPacket D)
    (decision : Option RecvWindowDecision) (terminated active : Bool) (nowMs : Nat) :
    m.Tidies (m.scheduleAck prim id packet decision terminated active nowMs) := by
  refine scheduleAck_keeps (P := m.Tidies) id (.refl m) (m.tidies_forgetAck id) (fun m' deadline htidies => ?_)
    (fun m' request htidies => htidies.trans (m'.tidies_queueIfBuilt request)) prim packet decision terminated active nowMs
  exact htidies.trans (m'.tidies_ack (htidies.connections ▸ h) _)

theorem tidies_forgetAll (drained : List DeliveredApplicationBytes) : m.Tidies (m.forgetAll drained) := by
  unfold forgetAll
  induction drained generalizing m with
  | nil => exact .refl m
  | cons delivered drained ih =>
    refine Tidies.trans ?_ (ih _)
    unfold forgetDeliveredBytes
    dsimp only
    split
    · exact .refl m
    split
    · exact .refl m
    next held hheld =>
      refine ⟨rfl, rfl, rfl, rfl, rfl, rfl, rfl, rfl, fun _ hk => .inl hk, fun k hk => .inl ?_⟩
      dsimp only at hk
      split at hk
      · exact (ExtTreeMap.mem_erase.mp hk).2
      rcases TreeMap.mem_insert.mp hk with rfl | hk
      · exact TreeMap.mem_of_getElem? hheld
      · exact hk

theorem tidies_pollAck (prim : StreamingPrimitives D) (id : ConnectionId) (nowMs : Nat) :
    m.Tidies (m.pollAck prim id nowMs).1 := by
  unfold pollAck
  dsimp only
  split
  · exact m.tidies_forgetAck id
  next hactive =>
    obtain ⟨conn, hconn, -⟩ := (Option.any_eq_true _ _).mp (not_not.mp hactive)
    have hmem : id ∈ (m.forgetAck id).connections := TreeMap.mem_of_getElem? hconn
    split
    · exact (m.tidies_forgetAck id).trans (tidies_ack _ hmem _)
    · exact (m.tidies_forgetAck id).trans (tidies_queueIfBuilt _ _)

end Tidy

/-- Only connections of the table have tracked packets or a SYN payload aside. -/
structure Sound (m : StreamingManager D) : Prop where
  tracked : ∀ id ∈ m.outboundPackets, id ∈ m.connections
  payloads : ∀ id ∈ m.pendingSynPayloads, id ∈ m.connections

/-- The tables are sound, and the next connection id is not taken. -/
structure Fresh (m : StreamingManager D) : Prop extends m.Sound where
  next_notMem : m.nextConnectionId ∉ m.connections

/-- How a request may end: it makes one change and tidies up behind it, the counters of delivered bytes stay accurate,
and an error met calmly has changed nothing. -/
structure Outcome {A : Type} (prim : StreamingPrimitives D) (m : StreamingManager D) (request : ManagerRequest D)
    (r : Except StreamingManagerError A) (m' : StreamingManager D) : Prop where
  change : ∃ changed, Change prim m request changed ∧ changed.Tidies m'
  settles : m.Settles m'
  atomic : m.Sound → request.Calm prim m → ∀ e, r = .error e → m.SameTables m'

section Requests

variable {prim : StreamingPrimitives D} {m m' : StreamingManager D} {request : ManagerRequest D}

variable {A : Type}

theorem outcome_error (e : StreamingManagerError) : Outcome prim m request (.error e : Except _ A) m :=
  ⟨⟨m, .same prim m request, .refl m⟩, .refl m, fun _ _ _ _ => rfl⟩

theorem Change.outcome {changed : StreamingManager D} (h : Change prim m request changed)
    (htidies : changed.Tidies m') (hsettles : m.Settles m') (a : A) : Outcome prim m request (.ok a) m' :=
  ⟨⟨changed, h, htidies⟩, hsettles, fun _ _ _ h => nomatch h⟩

theorem Change.outcome_of_sameBooks {changed : StreamingManager D} (h : Change prim m request changed)
    (htidies : changed.Tidies m') (hbooks : m.SameBooks m') (a : A) : Outcome prim m request (.ok a) m' :=
  h.outcome htidies hbooks.settles a

theorem outcome_same (a : A) : Outcome prim m request (.ok a) m :=
  (Change.same prim m request).outcome (.refl m) (.refl m) a

theorem Tidies.outcome (h : m.Tidies m') (hsettles : m.Settles m') (a : A) : Outcome prim m request (.ok a) m' :=
  (Change.same prim m request).outcome h hsettles a

theorem ends_ignored {x : ManagerM D A} (h : Ends x m (Outcome prim m request)) : Ends (do
      let _ ← x
      pure ()) m (Outcome prim m request) :=
  h.ignore (fun _ _ hout => ⟨hout.change, hout.settles, fun _ _ _ h => nomatch h⟩)
    fun e _ hout => ⟨hout.change, hout.settles, fun hsound hcalm _ _ => hout.atomic hsound hcalm e rfl⟩

/-- A SYN that is refused has been entered and taken out again. -/
theorem Fresh.discard (h : m.Fresh) {streamId : UInt32} (hunused : m.Unused streamId) (connectionCounter : UInt64)
    (streamCounter : UInt32) (conn : StreamingConnection D) :
    m.SameTables (((m.withCounters connectionCounter streamCounter).insertInbound m.nextConnectionId streamId
      conn).discardInbound m.nextConnectionId streamId) := by
  have htracked : m.nextConnectionId ∉ m.outboundPackets := fun hmem => h.next_notMem (h.tracked _ hmem)
  have hpayload : m.nextConnectionId ∉ m.pendingSynPayloads := fun hmem => h.next_notMem (h.payloads _ hmem)
  simp only [SameTables, withCounters, insertInbound, discardInbound, TreeMap.erase_insert h.next_notMem,
    TreeMap.erase_insert hunused.1, TreeMap.erase_insert htracked, TreeMap.erase_of_notMem hpayload]

section Calls

variable {localDest toDestination : DestinationIdentity D} {remote : RemoteDestination} {id : ConnectionId}
  {localPort remotePort sourcePort destinationPort advertisedMaxPayload : UInt16} {payload wireBytes : List UInt8}
  {fromDestinationHash : DestinationHash} {peek : StreamingHeaderPeek} {packet : StreamingPacket D}
  {location : Option SignatureLocation} {conn : StreamingConnection D} {nowMs : Nat}

theorem connect_outcome :
    Ends (connectWithInitialPayload prim localDest remote localPort remotePort advertisedMaxPayload payload nowMs) m
      (Outcome prim m (.connect localDest remote localPort remotePort advertisedMaxPayload payload nowMs)) := by
  unfold connectWithInitialPayload
  rw [ends_state_bind]
  split
  · exact ends_pure.mpr (outcome_same _)
  next hroom =>
    split
    · exact ends_pure.mpr (outcome_same _)
    refine ends_allocate m fun streamId connectionCounter streamCounter hunused => ?_
    refine .guard (fun _ => ⟨⟨_, .counted .., .refl _⟩, SameBooks.settles ⟨rfl, rfl⟩, fun _ _ _ _ => rfl⟩)
      fun request _ => ?_
    rw [ends_update_bind, ends_pure]
    refine ⟨⟨_, ?_, tidies_queueOutboundPacket _ request⟩, SameBooks.settles ⟨rfl, rfl⟩, fun _ _ _ h => nomatch h⟩
    exact .connected _ _ (Nat.not_le.mp hroom) hunused ⟨rfl, rfl, rfl, rfl, rfl⟩

theorem handleInboundSyn_outcome (hbytes : request.packetBytes prim = some wireBytes)
    (hpeek : peekStreamingHeader wireBytes = .ok peek) (hroute : route peek = .syn)
    (hdecode : decodeHandshake prim wireBytes = .ok (packet, location)) :
    Ends (handleInboundSyn prim packet location wireBytes fromDestinationHash toDestination sourcePort destinationPort
      nowMs) m (Outcome prim m request) := by
  unfold handleInboundSyn
  iterate 3 refine .guard outcome_error fun _ _ => ?_
  refine .guard outcome_error fun destination hverified => ?_
  have hsyn : IsSyn prim wireBytes packet destination :=
    ⟨peek, location, hpeek, hroute, hdecode, ofExcept_eq_ok hverified⟩
  unfold admitInboundSyn
  refine ends_allocate m fun streamId connectionCounter streamCounter hunused => ?_
  rw [ends_state_bind, ends_update_bind]
  have hatomic := fun (hsound : m.Sound) (hcalm : request.Calm prim m) =>
    Fresh.discard ⟨hsound, (hcalm.packet hbytes).syn peek hpeek hroute⟩ hunused connectionCounter streamCounter
  split
  · rw [ends_update_bind, ends_fail]
    exact ⟨⟨_, .refused _ _ hbytes hsyn hunused ⟨rfl, rfl, rfl, rfl, rfl⟩, .refl _⟩, SameBooks.settles ⟨rfl, rfl⟩,
      fun hs hc _ _ => hatomic hs hc _⟩
  next listener _ =>
    split
    · rw [ends_update_bind, ends_fail]
      exact ⟨⟨_, .refused _ _ hbytes hsyn hunused ⟨rfl, rfl, rfl, rfl, rfl⟩, .refl _⟩, SameBooks.settles ⟨rfl, rfl⟩,
        fun hs hc _ _ => hatomic hs hc _⟩
    · rw [ends_update_bind, ends_pure]
      exact (Change.entered _ _ hbytes hsyn hunused ⟨rfl, rfl, rfl, rfl, rfl⟩ rfl rfl).outcome_of_sameBooks (.refl _)
        (by exact ⟨rfl, rfl⟩) _

theorem handleInboundSynResponse_outcome (hbytes : request.packetBytes prim = some wireBytes)
    (hdecode : decodeHandshake prim wireBytes = .ok (packet, location))
    (hawaits : request.Calm prim m → ∀ id, m.outboundByStream[packet.sendStreamId]? = some id → m.Awaits id) :
    Ends (handleInboundSynResponse prim packet location wireBytes nowMs) m (Outcome prim m request) := by
  unfold handleInboundSynResponse
  rw [ends_state_bind]
  refine .guard outcome_error fun id hid => ?_
  refine .guard outcome_error fun _ _ => ?_
  refine .guard outcome_error fun destination hverified => ?_
  have hid := ofOption_eq_ok hid
  cases hconn : m.connections[id]? with
  | none =>
    refine ends_bind.mpr fun r m' hr => ?_
    rw [onConnection, hconn] at hr
    cases hr
    exact ⟨nofun, fun e _ => outcome_error e⟩
  | some conn =>
    have hchange : Change prim m request (m.setConnection id (synResponseTransition packet nowMs conn).2) :=
      .answered hbytes hdecode (ofExcept_eq_ok hverified) hid hconn
    refine ends_onConnection m hconn (fun _ _ => ends_pure.mpr (hchange.outcome_of_sameBooks (.refl _) ⟨rfl, rfl⟩ _))
      fun e he => ?_
    refine ⟨⟨_, hchange, .refl _⟩, SameBooks.settles ⟨rfl, rfl⟩, fun _ hcalm _ _ => absurd he ?_⟩
    exact synResponseTransition_ne_error (hawaits hcalm id hid conn hconn) packet

theorem applyDataPacket_tidies (prim : StreamingPrimitives D) (packet : StreamingPacket D)
    (hconn : m.connections[id]? = some conn) (nowMs : Nat) :
    (m.takeData packet id conn nowMs).Tidies (m.applyDataPacket prim packet id nowMs) := by
  have hmem : id ∈ (m.takeData packet id conn nowMs).connections := by
    obtain ⟨_, heq, -⟩ := m.takeData_eq packet id conn nowMs
    rw [heq]
    exact m.mem_setConnection_self id _
  have hack := fun decision terminated active =>
    (m.takeData packet id conn nowMs).tidies_scheduleAck prim hmem packet decision terminated active nowMs
  rw [applyDataPacket, hconn]
  exact (hack _ _ _).trans (tidies_deliverDecision _ ((hack _ _ _).connections ▸ hmem) _)

theorem processInboundPacket_outcome (hbytes : request.packetBytes prim = some wireBytes) :
    Ends (processInboundPacket prim wireBytes fromDestinationHash toDestination sourcePort destinationPort nowMs) m
      (Outcome prim m request) := by
  unfold processInboundPacket
  refine .guard outcome_error fun peek hpeek => ?_
  have hpeek := mapError_eq_ok.mp (ofExcept_eq_ok hpeek)
  rw [ends_state_bind]
  split
  next hroute =>
    refine .guard outcome_error fun decoded hdecoded => ?_
    exact handleInboundSyn_outcome hbytes hpeek hroute (mapError_eq_ok.mp (ofExcept_eq_ok hdecoded))
  next hroute =>
    refine .guard outcome_error fun _ _ => ?_
    refine .guard outcome_error fun decoded hdecoded => ?_
    have hdecoded := mapError_eq_ok.mp (ofExcept_eq_ok hdecoded)
    refine handleInboundSynResponse_outcome hbytes hdecoded fun hcalm => ?_
    rw [decodeStreamingPacket_sendStreamId hdecoded, ← peekStreamingHeader_sendStreamId hpeek]
    exact (hcalm.packet hbytes).synResponse peek hpeek hroute
  next hroute =>
    refine .guard outcome_error fun id hid => ?_
    split
    · exact ends_never
    next conn hconn =>
      refine .guard outcome_error fun _ _ => ?_
      refine .guard outcome_error fun decoded hdecoded => ?_
      unfold handleDataPacket
      refine .guard outcome_error fun _ _ => ?_
      refine .guard outcome_error fun _ _ => ?_
      rw [ends_state_bind]
      refine .guard outcome_error fun found hfound => ?_
      obtain rfl : conn = found := Option.some.inj (hconn.symm.trans (ofOption_eq_ok hfound))
      refine .guard outcome_error fun _ hverified => ?_
      rw [ends_update_bind, ends_pure]
      have hdata : IsData prim m wireBytes decoded.1 id conn :=
        ⟨peek, decoded.2, hpeek, hroute, ofOption_eq_ok hid, hconn,
          mapError_eq_ok.mp (ofExcept_eq_ok hdecoded), ofExcept_eq_ok hverified⟩
      exact (Change.took hbytes hdata).outcome (applyDataPacket_tidies prim decoded.1 hconn nowMs)
        (settles_applyDataPacket prim m decoded.1 id nowMs) _

theorem processInboundEnvelope_outcome :
    Ends (processInboundEnvelope prim wireBytes fromDestinationHash toDestination sourcePort destinationPort nowMs) m
      (Outcome prim m (.call (.processInboundEnvelope wireBytes fromDestinationHash toDestination sourcePort
        destinationPort nowMs))) := by
  unfold processInboundEnvelope
  refine .guard outcome_error fun envelope henvelope => ?_
  have henvelope := mapError_eq_ok.mp (ofExcept_eq_ok henvelope)
  refine .guard outcome_error fun _ _ => ?_
  refine processInboundPacket_outcome ?_
  rw [ManagerRequest.packetBytes, henvelope]
  rfl

theorem acceptInboundSyn_outcome :
    Ends (acceptInboundSyn prim localDest remote id localPort remotePort advertisedMaxPayload nowMs) m
      (Outcome prim m
        (.call (.acceptInboundSyn localDest remote id localPort remotePort advertisedMaxPayload nowMs))) := by
  unfold acceptInboundSyn
  rw [ends_state_bind]
  refine .guard outcome_error fun conn hconn => ?_
  refine .guard outcome_error fun _ _ => ?_
  refine .guard outcome_error fun response _ => ?_
  have hconn := ofOption_eq_ok hconn
  refine ends_onConnection m hconn (fun _ hok => ?_) fun e he => ?_
  · rw [ends_update_bind, ends_pure]
    have hawaiting : conn.state.awaiting := by
      by_contra hpast
      simp [acceptTransition, StreamingConnection.transitionEstablished, hpast] at hok
    exact (Change.accepted response hconn hawaiting).outcome (.refl _) (settles_releaseSynPayload ⟨rfl, rfl⟩ id) _
  · have hpast : (acceptTransition advertisedMaxPayload nowMs conn).2 =
        { conn with localAdvertisedMaxPayload := advertisedMaxPayload } := by
      unfold acceptTransition at he ⊢
      dsimp only at he ⊢
      split at he
      · cases he
      · rfl
    refine ⟨⟨_, .unaccepted hconn, hpast ▸ .refl _⟩, SameBooks.settles ⟨rfl, rfl⟩, fun _ hcalm _ _ => absurd he ?_⟩
    exact acceptTransition_ne_error (hcalm conn hconn) advertisedMaxPayload

theorem sendData_outcome : Ends (sendData prim id remote localPort remotePort payload nowMs) m
      (Outcome prim m (.call (.sendData id remote localPort remotePort payload nowMs))) := by
  unfold sendData
  rw [ends_state_bind]
  refine .guard outcome_error fun conn hconn => ?_
  iterate 5 refine .guard outcome_error fun _ _ => ?_
  refine .guard outcome_error fun request _ => ?_
  have hconn := ofOption_eq_ok hconn
  refine ends_onConnection m hconn (fun sequence hok => ?_) fun e he => ?_
  · split
    · exact ends_never
    · rw [ends_update_bind, ends_pure]
      have hsend : conn.enqueueSend payload.length nowMs =
          .ok (sequence, (sendTransition payload.length nowMs conn).2) := by
        unfold sendTransition at hok ⊢
        split at hok
        next heq => rw [heq, Except.ok.inj hok]
        · cases hok
      dsimp only
      split
      · exact (Change.sent request hconn hsend).outcome_of_sameBooks (tidies_queueOutboundPacket _ request) ⟨rfl, rfl⟩ _
      exact (Change.sent request hconn hsend).outcome_of_sameBooks
        ((tidies_queueOutboundPacket _ request).trans (tidies_forgetAck _ id)) ⟨rfl, rfl⟩ _
  · rw [sendTransition_error he, setConnection_self hconn]
    exact outcome_error e

theorem sendClose_outcome : Ends (sendClose prim id localDest remote localPort remotePort nowMs) m
      (Outcome prim m (.call (.sendClose id localDest remote localPort remotePort nowMs))) := by
  unfold sendClose
  rw [ends_state_bind]
  refine .guard outcome_error fun conn hconn => ?_
  refine .guard outcome_error fun _ _ => ?_
  refine .guard outcome_error fun _ hstate => ?_
  refine .guard outcome_error fun request _ => ?_
  have hconn := ofOption_eq_ok hconn
  have hstate : conn.state = .established ∨ conn.state = .closingRemote := by
    have := failIf_eq_ok hstate
    tauto
  refine ends_onConnection m hconn (fun _ _ => ?_) fun e he => ?_
  · rw [ends_update_bind, ends_pure]
    exact (Change.closed request hconn hstate).outcome_of_sameBooks
      ((tidies_queueOutboundPacket _ request).trans (tidies_forgetAck _ id)) ⟨rfl, rfl⟩ _
  · rw [closeTransition_error he, setConnection_self hconn]
    exact outcome_error e

theorem sendReset_outcome : Ends (sendReset prim id localDest remote localPort remotePort nowMs) m
      (Outcome prim m (.call (.sendReset id localDest remote localPort remotePort nowMs))) := by
  unfold sendReset
  rw [ends_state_bind]
  refine .guard outcome_error fun conn hconn => ?_
  refine .guard outcome_error fun _ _ => ?_
  refine .guard outcome_error fun request _ => ?_
  have hconn := ofOption_eq_ok hconn
  refine ends_onConnection m hconn (fun _ _ => ?_) fun e he => ?_
  · rw [ends_update_bind, ends_pure]
    exact (Change.reset hconn).outcome_of_sameBooks
      ((tidies_forgetAck _ id).trans (tidies_queueOutboundPacket _ request)) ⟨rfl, rfl⟩ _
  · rw [resetTransition_error he, setConnection_self hconn]
    exact outcome_error e

theorem pollAcks_outcome : Ends (pollAcks prim nowMs) m (Outcome prim m request) := by
  have hloop : ∀ fuel out (m : StreamingManager D), Ends (pollAcksFrom prim nowMs fuel out) m fun r m' =>
        (∃ out, r = .ok out) ∧ m.Tidies m' ∧ m.SameBooks m' := by
    intro fuel
    induction fuel with
    | zero => exact fun _ _ => ends_never
    | succ fuel ih =>
      intro out m
      unfold pollAcksFrom
      rw [ends_state_bind]
      split
      · exact ends_pure.mpr ⟨⟨out, rfl⟩, .refl m, rfl, rfl⟩
      next id _ _ =>
        rw [ends_update_bind]
        exact (ih _ _).mono fun _ _ h =>
          ⟨h.1, (m.tidies_pollAck prim id nowMs).trans h.2.1, (pollAck_books prim m id nowMs).trans h.2.2⟩
  refine Ends.mono (hloop _ _ m) ?_
  rintro _ m' ⟨⟨out, rfl⟩, htidies, hbooks⟩
  exact htidies.outcome hbooks.settles out

end Calls

theorem run_outcome (prim : StreamingPrimitives D) (m : StreamingManager D) (request : ManagerRequest D) :
    Ends (request.run prim) m (Outcome prim m request) := by
  cases request with
  | connect => exact ends_ignored connect_outcome
  | call requested =>
    cases requested with
    | listen port =>
      obtain ⟨_, heq⟩ := m.listen_eq port
      exact ends_update.mpr (Change.listened.outcome_of_sameBooks (.refl _) (heq ▸ ⟨rfl, rfl⟩) ())
    | processInboundPacket => exact ends_ignored (processInboundPacket_outcome rfl)
    | processInboundEnvelope => exact ends_ignored processInboundEnvelope_outcome
    | acceptInboundSyn => exact ends_ignored acceptInboundSyn_outcome
    | sendData => exact ends_ignored sendData_outcome
    | sendClose => exact ends_ignored sendClose_outcome
    | sendReset => exact ends_ignored sendReset_outcome
    | pollAcks nowMs => exact ends_ignored pollAcks_outcome
    | pollRetransmits nowMs => exact ends_update.mpr (Change.polled.outcome (.refl _) (pollRetransmits_books m nowMs).settles ())
    | drainOutbound => exact ends_update.mpr ((m.tidies_drained _ _).outcome (by exact SameBooks.settles ⟨rfl, rfl⟩) ())
    | queueOutboundPacket queued =>
      exact ends_update.mpr ((m.tidies_queueOutboundPacket queued).outcome (SameBooks.settles ⟨rfl, rfl⟩) ())
    | drainDelivered =>
      exact ends_update.mpr (((m.tidies_drained _ _).trans (tidies_forgetAll _ _)).outcome (settles_drainDelivered m) ())
    | drainDeliveredFor id =>
      exact ends_update.mpr
        (((m.tidies_drained _ _).trans (tidies_forgetAll _ _)).outcome (settles_drainDeliveredFor m id) ())
    | removeConnection id => exact ends_update.mpr (Change.removed.outcome (.refl _) (settles_removeConnection m id) ())
    | accept port => exact ends_update.mpr (Change.popped.outcome_of_sameBooks (.refl _) ⟨rfl, rfl⟩ ())
    | useConnection id use => exact ends_update.mpr (Change.used.outcome_of_sameBooks (.refl _) ⟨rfl, rfl⟩ ())

/-- The states reached by requests that each are allowed in the state they meet. -/
inductive Reaches (prim : StreamingPrimitives D) (config : StreamingConfig)
    (allowed : StreamingManager D → ManagerRequest D → Prop) : StreamingManager D → Prop
  | new : Reaches prim config allowed (.new config)
  | step {m m' r} (request : ManagerRequest D)
    (before : Reaches prim config allowed m) (hallowed : allowed m request) (hrun : request.run prim m = some (r, m')) :
    Reaches prim config allowed m'

def after (prim : StreamingPrimitives D) : List (ManagerRequest D) → StreamingManager D → Option (StreamingManager D)
  | [], m => some m
  | request :: requests, m => (request.run prim m).bind fun ended => after prim requests ended.2

theorem Reaches.after {config : StreamingConfig} {requests : List (ManagerRequest D)}
    (h : Reaches prim config (fun _ _ => True) m) (hafter : StreamingManager.after prim requests m = some m') :
    Reaches prim config (fun _ _ => True) m' := by
  induction requests generalizing m with
  | nil => exact Option.some.inj hafter ▸ h
  | cons request requests ih =>
    obtain ⟨⟨r, next⟩, hrun, hafter⟩ := Option.bind_eq_some_iff.mp hafter
    exact ih (h.step request trivial hrun) hafter

/-- What holds at first and is kept by every change allowed and by the tidying up holds in every state reached. -/
theorem Reaches.invariant {config : StreamingConfig} {allowed : StreamingManager D → ManagerRequest D → Prop}
    {P : StreamingManager D → Prop} (hnew : P (.new config))
    (hchange : ∀ m request m', P m → allowed m request → Change prim m request m' → P m')
    (htidy : ∀ m m' : StreamingManager D, P m → m.Tidies m' → P m') (h : Reaches prim config allowed m) : P m := by
  induction h with
  | new => exact hnew
  | step request before hallowed hrun ih =>
    obtain ⟨changed, hchanged, htidies⟩ := (run_outcome prim _ request _ _ hrun).change
    exact htidy _ _ (hchange _ request _ ih hallowed hchanged) htidies

end Requests

end StreamingManager

end I2pr
