import I2pr.StreamingManager

namespace I2pr

open Call Fallible Std StreamingConnection ExtTreeMap

variable {D : Type}

namespace StreamingConnection

/-- The fields no method of a connection writes. -/
structure Same (conn conn' : StreamingConnection D) : Prop where
  direction : conn'.direction = conn.direction
  peerSigningKey : conn'.peerSigningKey = conn.peerSigningKey

theorem Same.refl (conn : StreamingConnection D) : Same conn conn := ⟨rfl, rfl⟩

theorem Same.trans {a b c : StreamingConnection D} (hab : Same a b) (hbc : Same b c) : Same a c :=
  ⟨hbc.direction.trans hab.direction, hbc.peerSigningKey.trans hab.peerSigningKey⟩

/-- Only the state of the connection and its clock have moved. -/
def Moves (conn conn' : StreamingConnection D) : Prop :=
  conn' = { conn with state := conn'.state, lastActivityMs := conn'.lastActivityMs }

section Methods

variable {conn conn' : StreamingConnection D} {nowMs : Nat}

theorem Moves.refl (conn : StreamingConnection D) : conn.Moves conn := rfl

theorem Moves.trans {a b c : StreamingConnection D} (hab : a.Moves b) (hbc : b.Moves c) : a.Moves c := by
  unfold Moves at hab hbc ⊢
  rw [hbc, hab]

theorem Moves.same (h : conn.Moves conn') : conn.Same conn' := by
  rw [h]
  exact ⟨rfl, rfl⟩

theorem moves_of_guard {p : Prop} [Decidable p] {e : StreamingError} {state : ConnectionState}
    (h : (if p then Except.error e else .ok { conn with state := state, lastActivityMs := nowMs }) = .ok conn') :
    conn.Moves conn' := by
  obtain ⟨-, h⟩ := ite_error_eq_ok.mp h
  cases h
  rfl

theorem beginClose_moves (h : conn.beginClose nowMs = .ok conn') : conn.Moves conn' := moves_of_guard h

theorem remoteCloseReceived_moves (h : conn.remoteCloseReceived nowMs = .ok conn') : conn.Moves conn' := moves_of_guard h

theorem close_moves (h : conn.close nowMs = .ok conn') : conn.Moves conn' := moves_of_guard h

theorem reset_moves (h : conn.reset nowMs = .ok conn') : conn.Moves conn' := moves_of_guard h

theorem orSame_moves {result : Except StreamingError (StreamingConnection D)}
    (h : ∀ conn', result = .ok conn' → conn.Moves conn') : conn.Moves (conn.orSame result) := by
  cases result with
  | ok conn' => exact h conn' rfl
  | error e => exact .refl conn

section

variable (conn)

theorem applyClose_moves (nowMs : Nat) : conn.Moves (conn.applyClose nowMs) := by
  unfold applyClose
  split
  · exact orSame_moves fun _ => remoteCloseReceived_moves
  · exact orSame_moves fun _ => close_moves
  · exact .refl conn

theorem applyControl_moves (packet : StreamingPacket D) (nowMs : Nat) :
    conn.Moves (conn.applyControl packet nowMs) := by
  have hclose : conn.Moves (if packet.flags.close then conn.applyClose nowMs else conn) := by
    split
    · exact conn.applyClose_moves nowMs
    · exact .refl conn
  rw [applyControl]
  split
  · exact hclose.trans (orSame_moves fun _ => reset_moves)
  · exact hclose

theorem takePacket_eq (packet : StreamingPacket D) (nowMs : Nat) :
    ∃ sendWindow recvWindow congestion lastActivityMs, (conn.takePacket packet nowMs).1 = { conn with
      sendWindow := sendWindow
      recvWindow := recvWindow
      congestion := congestion
      lastActivityMs := lastActivityMs } := by
  rw [takePacket]
  split
  · split
    · exact ⟨_, _, _, _, rfl⟩
    · exact ⟨_, _, _, _, rfl⟩
  · split
    · exact ⟨_, _, _, _, rfl⟩
    · exact ⟨_, _, _, _, rfl⟩

theorem takeData_same (packet : StreamingPacket D) (nowMs : Nat) :
    conn.Same ((conn.applyControl packet nowMs).takePacket packet nowMs).1 := by
  refine (conn.applyControl_moves packet nowMs).same.trans ?_
  obtain ⟨_, _, _, _, heq⟩ := (conn.applyControl packet nowMs).takePacket_eq packet nowMs
  rw [heq]
  exact ⟨rfl, rfl⟩

end

theorem enqueueSend_state {payloadLen : Nat} {sequence : UInt32}
    (h : conn.enqueueSend payloadLen nowMs = .ok (sequence, conn')) :
    ∃ sendWindow, conn.sendWindow.enqueue payloadLen nowMs = .ok (sequence, sendWindow) ∧ conn.state = .established ∧
      conn' = { conn with
        sendWindow := sendWindow
        congestion := conn.congestion.recordSent
        lastActivityMs := nowMs } := by
  obtain ⟨hstate, h⟩ := ite_error_eq_ok.mp h
  obtain ⟨-, h⟩ := ite_error_eq_ok.mp h
  obtain ⟨-, h⟩ := ite_error_eq_ok.mp h
  split at h
  · cases h
  next sequence' sendWindow hsend =>
    cases h
    exact ⟨sendWindow, hsend, not_not.mp hstate, rfl⟩

end Methods

/-- A method the application calls through `get_connection_mut`. -/
structure Use (D : Type) where
  apply : StreamingConnection D → StreamingConnection D
  same : ∀ conn, Same conn (apply conn)

end StreamingConnection

namespace StreamingManager

section Transitions

variable {wasClosingRemote : Bool} {payloadLen nowMs : Nat} {conn : StreamingConnection D} {e : StreamingManagerError}

theorem sendTransition_error (h : (sendTransition payloadLen nowMs conn).1 = .error e) :
    (sendTransition payloadLen nowMs conn).2 = conn := by
  unfold sendTransition at h ⊢
  split at h
  · cases h
  · rfl

variable (wasClosingRemote nowMs conn) in
theorem closeTransition_moves : conn.Moves (closeTransition wasClosingRemote nowMs conn).2 := by
  unfold closeTransition
  split
  · exact .refl conn
  next closing heq =>
    have hclosing : conn.Moves closing := by
      split at heq
      · exact beginClose_moves heq
      · exact Except.ok.inj heq ▸ .refl conn
    dsimp only
    split
    · exact hclosing.trans (orSame_moves fun _ => close_moves)
    · exact hclosing

theorem closeTransition_error (h : (closeTransition wasClosingRemote nowMs conn).1 = .error e) :
    (closeTransition wasClosingRemote nowMs conn).2 = conn := by
  unfold closeTransition at h ⊢
  split at h
  · rfl
  · cases h

variable (nowMs conn) in
theorem resetTransition_moves : conn.Moves (resetTransition nowMs conn).2 := by
  unfold resetTransition
  split
  next h => exact reset_moves h
  · exact .refl conn

theorem resetTransition_error (h : (resetTransition nowMs conn).1 = .error e) : (resetTransition nowMs conn).2 = conn := by
  unfold resetTransition at h ⊢
  split at h
  · cases h
  · rfl

theorem acceptTransition_eq (advertisedMaxPayload : UInt16) (nowMs : Nat) (conn : StreamingConnection D) :
    ∃ state lastActivityMs maxPayloadSize, (acceptTransition advertisedMaxPayload nowMs conn).2 = { conn with
      localAdvertisedMaxPayload := advertisedMaxPayload
      state := state
      lastActivityMs := lastActivityMs
      maxPayloadSize := maxPayloadSize } := by
  unfold acceptTransition transitionEstablished
  dsimp only
  split
  next h =>
    split at h
    · exact ⟨_, _, _, (Except.ok.inj h).symm⟩
    · cases h
  · exact ⟨_, _, _, rfl⟩

theorem acceptTransition_ne_error (h : conn.state.awaiting) (advertisedMaxPayload : UInt16) :
    (acceptTransition advertisedMaxPayload nowMs conn).1 ≠ .error e := by
  unfold acceptTransition transitionEstablished
  simp [h]

theorem synResponseTransition_eq (packet : StreamingPacket D) (nowMs : Nat) (conn : StreamingConnection D) :
    ∃ advertised state lastActivityMs maxPayloadSize, (synResponseTransition packet nowMs conn).2 = { conn with
      remoteAdvertisedMaxPayload := advertised
      remoteStreamId := packet.receiveStreamId
      state := state
      lastActivityMs := lastActivityMs
      maxPayloadSize := maxPayloadSize } ∧ (state = conn.state ∨ conn.state.awaiting) := by
  unfold synResponseTransition transitionEstablished
  dsimp only
  split
  next h =>
    split at h
    next hawaiting => exact ⟨_, _, _, _, (Except.ok.inj h).symm, .inr hawaiting⟩
    · cases h
  · exact ⟨_, _, _, _, rfl, .inl rfl⟩

theorem synResponseTransition_ne_error (h : conn.state.awaiting) (packet : StreamingPacket D) :
    (synResponseTransition packet nowMs conn).1 ≠ .error e := by
  unfold synResponseTransition transitionEstablished
  simp [h]

end Transitions

section Tables

variable {m : StreamingManager D} {id k : ConnectionId} {conn : StreamingConnection D}

theorem getElem?_setConnection (m : StreamingManager D) (id k : ConnectionId) (conn : StreamingConnection D) :
    (m.setConnection id conn).connections[k]? = if id = k then some conn else m.connections[k]? :=
  TreeMap.getElem?_insert

theorem mem_setConnection (h : k ∈ m.connections) : k ∈ (m.setConnection id conn).connections :=
  mem_insert.mpr (Or.inr h)

theorem mem_setConnection_self (m : StreamingManager D) (id : ConnectionId) (conn : StreamingConnection D) :
    id ∈ (m.setConnection id conn).connections :=
  mem_insert_self

theorem setConnection_self (h : m.connections[id]? = some conn) : m.setConnection id conn = m := by
  rw [setConnection, TreeMap.insert_of_getElem? h]

variable {P : StreamingManager D → Prop} {A : Type} {table : ExtTreeMap ConnectionId A}

theorem modifyConnection_preserves {change : StreamingConnection D → StreamingConnection D}
    (hm : P m) (hset : ∀ conn, m.connections[id]? = some conn → P (m.setConnection id (change conn))) :
    P (m.modifyConnection id change) := by
  rw [modifyConnection, TreeMap.modify_eq]
  cases hconn : m.connections[id]? with
  | none => exact hm
  | some conn => exact hset conn hconn

theorem mem_tracked_insert (h : ∀ k ∈ table, k ∈ m.connections)
    (id : ConnectionId) (conn : StreamingConnection D) (value : A) (k : ConnectionId) (hk : k ∈ table.insert id value) :
    k ∈ (m.setConnection id conn).connections := by
  rcases TreeMap.mem_insert.mp hk with rfl | hk
  · exact m.mem_setConnection_self k conn
  · exact mem_setConnection (h k hk)

theorem mem_of_mem_insert {value : A}
    (h : ∀ k ∈ table, k ∈ m.connections) (hid : id ∈ m.connections) (hk : k ∈ table.insert id value) :
    k ∈ m.connections := by
  rcases TreeMap.mem_insert.mp hk with rfl | hk
  · exact hid
  · exact h k hk

theorem mem_payloads_enterBacklog (h : ∀ k ∈ m.pendingSynPayloads, k ∈ m.connections) (hid : id ∈ m.connections)
    (listener : UInt16) (payload : List UInt8) (hk : k ∈ (m.enterBacklog id listener payload).pendingSynPayloads) :
    k ∈ m.connections := by
  change k ∈ (if payload = [] then m.pendingSynPayloads else m.pendingSynPayloads.insert id payload) at hk
  split at hk
  · exact h k hk
  · exact mem_of_mem_insert h hid hk

theorem mem_erase_of_imp {B : Type} {other : ExtTreeMap ConnectionId B}
    (h : ∀ k ∈ table, k ∈ other) (id k : ConnectionId) (hk : k ∈ table.erase id) : k ∈ other.erase id := by
  obtain ⟨hne, hk⟩ := mem_erase.mp hk
  exact mem_erase.mpr ⟨hne, h k hk⟩

theorem releaseSynPayload_cases (m : StreamingManager D) (id : ConnectionId) :
    (id ∉ m.pendingSynPayloads ∧ m.releaseSynPayload id = m) ∨
      ∃ bytes held, m.pendingSynPayloads[id]? = some bytes ∧ m.releaseSynPayload id = { m with
        pendingSynPayloads := m.pendingSynPayloads.erase id
        pendingBytesByConnection := held
        pendingDelivered := m.pendingDelivered ++ [⟨id, bytes⟩] } := by
  unfold releaseSynPayload
  split
  next hnone => exact .inl ⟨TreeMap.notMem_of_getElem? hnone, rfl⟩
  next bytes hbytes =>
    unfold deliver noteDeliveredBytes
    dsimp only
    split
    · exact .inr ⟨bytes, _, hbytes, rfl⟩
    · exact .inr ⟨bytes, _, hbytes, rfl⟩

theorem releaseSynPayload_eq (m : StreamingManager D) (id : ConnectionId) :
    ∃ payloads held delivered, m.releaseSynPayload id = { m with
      pendingSynPayloads := payloads
      pendingBytesByConnection := held
      pendingDelivered := delivered } ∧ ∀ k ∈ payloads, k ∈ m.pendingSynPayloads := by
  rcases m.releaseSynPayload_cases id with ⟨-, heq⟩ | ⟨bytes, held, -, heq⟩
  · exact ⟨_, _, _, heq, fun _ hk => hk⟩
  · exact ⟨_, _, _, heq, fun _ hk => (mem_erase.mp hk).2⟩

theorem releaseSynPayload_connections (m : StreamingManager D) (id : ConnectionId) :
    (m.releaseSynPayload id).connections = m.connections := by
  obtain ⟨_, _, _, heq, -⟩ := m.releaseSynPayload_eq id
  rw [heq]

theorem listen_eq (m : StreamingManager D) (port : UInt16) :
    ∃ listeners, (m.listen port).2 = { m with listeners := listeners } := by
  unfold listen
  split
  · exact ⟨_, rfl⟩
  split
  · exact ⟨_, rfl⟩
  · exact ⟨_, rfl⟩

theorem removeConnection_eq (m : StreamingManager D) (id : ConnectionId) :
    ∃ outboundByStream inboundByStream, (m.removeConnection id).2 = { m with
      connections := m.connections.erase id
      outboundByStream := outboundByStream
      inboundByStream := inboundByStream
      pendingSynPayloads := m.pendingSynPayloads.erase id
      outboundPackets := m.outboundPackets.erase id
      pendingAcks := m.pendingAcks.erase id
      pendingBytesByConnection := m.pendingBytesByConnection.erase id
      pendingDelivered := m.pendingDelivered.filter (·.connectionId ≠ id) } := by
  unfold removeConnection removeIndex
  cases m.connections[id]? with
  | none => exact ⟨_, _, rfl⟩
  | some conn =>
    dsimp only [Option.elim]
    split
    · exact ⟨_, _, rfl⟩
    · exact ⟨_, _, rfl⟩

theorem pollRetransmit_preserves {nowMs rtoMs : Nat} {sequence : UInt32} (hm : P m) (hdrop : P (m.modifyTracked id (·.erase sequence)))
    (hagain : ∀ packet, P (((m.modifyTracked id (·.insert sequence packet)).modifyConnection id
      (·.markRetransmitted sequence nowMs)).queueOutboundPacket packet.request)) :
    P (pollRetransmit nowMs rtoMs id m sequence) := by
  unfold pollRetransmit
  split
  · exact hm
  next packet _ =>
    split
    · exact hm
    split
    · exact hdrop
    · exact hagain { packet with retransmitCount := saturatingAdd32 packet.retransmitCount 1, sentAtMs := nowMs }

theorem pollRetransmits_preserves {nowMs : Nat}
    (hrecord : ∀ m rtoMs id sequence, P m → P (pollRetransmit nowMs rtoMs id m sequence))
    (hm : P m) : P (m.pollRetransmits nowMs).2 := by
  refine List.foldlRecOn (motive := P) _ _ hm fun m hm id _ => ?_
  unfold pollRetransmitsFor
  split
  · exact hm
  · exact List.foldlRecOn (motive := P) _ _ hm fun m hm sequence _ => hrecord m _ id sequence hm

theorem pollRetransmits_keeps {nowMs : Nat} (hdrop : ∀ m id sequence, P m → P (m.modifyTracked id (·.erase sequence)))
    (hagain : ∀ m id sequence packet, P m → P (((m.modifyTracked id (·.insert sequence packet)).modifyConnection id
      (·.markRetransmitted sequence nowMs)).queueOutboundPacket packet.request)) (hm : P m) : P (m.pollRetransmits nowMs).2 :=
  pollRetransmits_preserves (fun m _ id sequence hm => pollRetransmit_preserves hm (hdrop m id sequence hm)
    fun packet => hagain m id sequence packet hm) hm

theorem pollRetransmits_frame (m : StreamingManager D) (nowMs : Nat) : (m.pollRetransmits nowMs).2.config = m.config ∧
    (m.pollRetransmits nowMs).2.pendingSynPayloads = m.pendingSynPayloads ∧
    ∀ id ∈ (m.pollRetransmits nowMs).2.connections, id ∈ m.connections := by
  refine pollRetransmits_keeps (P := fun m' => m'.config = m.config ∧ m'.pendingSynPayloads = m.pendingSynPayloads ∧
    ∀ id ∈ m'.connections, id ∈ m.connections) ?_ ?_ ⟨rfl, rfl, fun _ hid => hid⟩
  · exact fun _ _ _ hm => hm
  · exact fun _ _ _ _ hm => ⟨hm.1, hm.2.1, fun id hid => hm.2.2 id (mem_modify.mp hid)⟩

end Tables

def withCounters (m : StreamingManager D) (nextConnectionId : UInt64) (nextInboundStreamId : UInt32) :
    StreamingManager D :=
  { m with nextConnectionId := nextConnectionId, nextInboundStreamId := nextInboundStreamId }

/-- Equal but for the two counters. -/
def SameTables (m m' : StreamingManager D) : Prop := m' = m.withCounters m'.nextConnectionId m'.nextInboundStreamId

section Calls

variable (prim : StreamingPrimitives D) (m : StreamingManager D)

instance (conn : StreamingConnection D) (localPort remotePort : UInt16) : Reads (assertPorts conn localPort remotePort) :=
  inferInstanceAs (Reads (failIf _ _))

instance (wireBytes : List UInt8) (peerSigningKey : Option SigningPublicKey) :
    Reads (decodePacket prim wireBytes peerSigningKey) :=
  inferInstanceAs (Reads (ofExcept _))

def Unused (m : StreamingManager D) (streamId : UInt32) : Prop :=
  streamId ∉ m.inboundByStream ∧ streamId ∉ m.outboundByStream

theorem freeStreamId_unused {fuel : Nat} {candidate streamId : UInt32} (h : m.freeStreamId fuel candidate = some streamId) :
    m.Unused streamId := by
  induction fuel generalizing candidate with
  | zero => cases h
  | succ fuel ih =>
    unfold freeStreamId at h
    split at h
    · exact ih h
    next hfree =>
      cases h
      exact not_or.mp hfree

theorem allocateInboundStreamId_eq : allocateInboundStreamId m =
    (m.freeStreamId (2 ^ 32) m.nextInboundStreamId).map fun candidate =>
      (.ok candidate, { m with nextInboundStreamId := candidate + 1 }) := by
  rw [allocateInboundStreamId, bind_eq]
  dsimp only [Call.state]
  cases m.freeStreamId (2 ^ 32) m.nextInboundStreamId with
  | none | some candidate => rfl

theorem ends_allocate {A : Type} {f : ConnectionId → UInt32 → ManagerM D A}
    {Q : Except StreamingManagerError A → StreamingManager D → Prop}
    (h : ∀ streamId connectionCounter streamCounter, m.Unused streamId →
      Ends (f m.nextConnectionId streamId) (m.withCounters connectionCounter streamCounter) Q) :
    Ends (do
      let id ← allocateConnectionId
      let streamId ← allocateInboundStreamId
      f id streamId) m Q := by
  refine ends_bind.mpr fun r m' hr => ?_
  cases hr
  refine ⟨?_, nofun⟩
  rintro id ⟨⟩
  refine ends_bind.mpr fun r m' hr => ?_
  rw [allocateInboundStreamId_eq] at hr
  obtain ⟨streamId, hfree, hr⟩ := Option.map_eq_some_iff.mp hr
  cases hr
  refine ⟨?_, nofun⟩
  rintro _ ⟨⟩
  have hunused := freeStreamId_unused _ hfree
  exact h streamId _ _ hunused

theorem ends_onConnection {A B : Type} {id : ConnectionId} {conn : StreamingConnection D}
    (hconn : m.connections[id]? = some conn)
    {method : StreamingConnection D → Except StreamingManagerError A × StreamingConnection D} {f : A → ManagerM D B}
    {Q : Except StreamingManagerError B → StreamingManager D → Prop}
    (hok : ∀ a, (method conn).1 = .ok a → Ends (f a) (m.setConnection id (method conn).2) Q)
    (herr : ∀ e, (method conn).1 = .error e → Q (.error e) (m.setConnection id (method conn).2)) :
    Ends (onConnection id method >>= f) m Q := by
  refine ends_bind.mpr fun r m' hr => ?_
  unfold onConnection at hr
  rw [hconn] at hr
  cases hr
  exact ⟨hok, herr⟩

/-- The packet a SYN response is handled as. -/
def decodeHandshake (wireBytes : List UInt8) :
    Except StreamingPacketError (StreamingPacket D × Option SignatureLocation) :=
  decodeStreamingPacket prim.toDestinationCodec wireBytes StreamingReceiveLimit.destinationPath none

theorem peekStreamingHeader_sendStreamId {input : List UInt8} {peek : StreamingHeaderPeek}
    (h : peekStreamingHeader input = .ok peek) : peek.sendStreamId = readU32At input 0 := by
  obtain ⟨-, h⟩ := ite_error_eq_ok.mp h
  obtain ⟨-, h⟩ := ite_error_eq_ok.mp h
  cases h
  rfl

end Calls

end StreamingManager

end I2pr
