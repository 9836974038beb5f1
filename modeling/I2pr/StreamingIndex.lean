import I2pr.StreamingTable

namespace I2pr

open Call Std ExtTreeMap StreamingConnection StreamingManager

variable {D : Type}

namespace StreamingConnection

theorem applyControl_inboundSynReceived {conn : StreamingConnection D} (h : conn.state = .inboundSynReceived)
    {packet : StreamingPacket D} (hreset : ¬ packet.flags.reset) (nowMs : Nat) : conn.applyControl packet nowMs = conn := by
  rw [applyControl, if_neg hreset]
  split
  · rw [applyClose, h]
  · rfl

theorem synResponseTransition_placed (packet : StreamingPacket D) (nowMs : Nat) (conn : StreamingConnection D) :
    (synResponseTransition packet nowMs conn).2.direction = conn.direction ∧
      (synResponseTransition packet nowMs conn).2.localStreamId = conn.localStreamId := by
  obtain ⟨_, _, _, _, heq, -⟩ := synResponseTransition_eq packet nowMs conn
  rw [heq]
  exact ⟨rfl, rfl⟩

/-- The connection keeps its place: its direction, its stream ids and its peer. -/
structure Keeps (conn conn' : StreamingConnection D) : Prop where
  direction : conn'.direction = conn.direction
  localStreamId : conn'.localStreamId = conn.localStreamId
  remoteStreamId : conn'.remoteStreamId = conn.remoteStreamId
  peerDestination : conn'.peerDestination = conn.peerDestination

theorem Keeps.trans {a b c : StreamingConnection D} (hab : a.Keeps b) (hbc : b.Keeps c) : a.Keeps c where
  direction := hbc.direction.trans hab.direction
  localStreamId := hbc.localStreamId.trans hab.localStreamId
  remoteStreamId := hbc.remoteStreamId.trans hab.remoteStreamId
  peerDestination := hbc.peerDestination.trans hab.peerDestination

theorem Moves.keeps {conn conn' : StreamingConnection D} (h : conn.Moves conn') : conn.Keeps conn' := by
  rw [h]
  exact ⟨rfl, rfl, rfl, rfl⟩

theorem takePacket_keeps (conn : StreamingConnection D) (packet : StreamingPacket D) (nowMs : Nat) :
    conn.Keeps (conn.takePacket packet nowMs).1 := by
  obtain ⟨_, _, _, _, heq⟩ := conn.takePacket_eq packet nowMs
  rw [heq]
  exact ⟨rfl, rfl, rfl, rfl⟩

theorem takeData_keeps (conn : StreamingConnection D) (packet : StreamingPacket D) (nowMs : Nat) :
    conn.Keeps ((conn.applyControl packet nowMs).takePacket packet nowMs).1 :=
  (conn.applyControl_moves packet nowMs).keeps.trans (takePacket_keeps _ packet nowMs)

theorem acceptTransition_keeps (advertisedMaxPayload : UInt16) (nowMs : Nat) (conn : StreamingConnection D) :
    conn.Keeps (acceptTransition advertisedMaxPayload nowMs conn).2 := by
  obtain ⟨_, _, _, heq⟩ := acceptTransition_eq advertisedMaxPayload nowMs conn
  rw [heq]
  exact ⟨rfl, rfl, rfl, rfl⟩

end StreamingConnection

namespace ManagerRequest

/-- The request may enter a connection in the table: it connects, or it brings a valid SYN. -/
def Opens (prim : StreamingPrimitives D) : ManagerRequest D → Prop
  | connect .. => True
  | request => ∃ wireBytes packet destination, request.packetBytes prim = some wireBytes ∧
      StreamingManager.IsSyn prim wireBytes packet destination

/-- The request removes this connection, accepts it, resets it or hands it to the application. -/
def Disturbs (prim : StreamingPrimitives D) (m : StreamingManager D) (id : ConnectionId) : ManagerRequest D → Prop
  | call (.removeConnection k) => k = id
  | call (.acceptInboundSyn _ _ k ..) => k = id
  | call (.sendReset k ..) => k = id
  | call (.useConnection k _) => k = id
  | request => ∃ wireBytes packet conn, request.packetBytes prim = some wireBytes ∧
      m.IsData prim wireBytes packet id conn ∧ packet.flags.reset

/-- The application does not renumber the stream. -/
def KeepsIndex : ManagerRequest D → Prop
  | call (.useConnection _ use) => ∀ conn, (use.apply conn).localStreamId = conn.localStreamId
  | _ => True

variable {prim : StreamingPrimitives D} {request : ManagerRequest D} {wireBytes : List UInt8} {packet : StreamingPacket D}

theorem opens_of_isSyn {destination : D} (hbytes : request.packetBytes prim = some wireBytes)
    (hsyn : StreamingManager.IsSyn prim wireBytes packet destination) : request.Opens prim := by
  cases request with
  | connect => exact trivial
  | call => exact ⟨wireBytes, packet, destination, hbytes, hsyn⟩

theorem disturbs_of_isData {m : StreamingManager D} {id : ConnectionId} {conn : StreamingConnection D}
    (hbytes : request.packetBytes prim = some wireBytes) (hdata : m.IsData prim wireBytes packet id conn)
    (hreset : packet.flags.reset) : request.Disturbs prim m id := by
  cases request with
  | connect => cases hbytes
  | call requested =>
    cases requested with
    | processInboundPacket => exact ⟨wireBytes, packet, conn, hbytes, hdata, hreset⟩
    | processInboundEnvelope => exact ⟨wireBytes, packet, conn, hbytes, hdata, hreset⟩
    | _ => cases hbytes

end ManagerRequest

namespace StreamingManager

def Indexed (m : StreamingManager D) (direction : StreamDirection) (streamId : UInt32) (id : ConnectionId) : Prop :=
  ∃ conn, m.connections[id]? = some conn ∧ conn.direction = direction ∧ conn.localStreamId = streamId

def Waiting (m : StreamingManager D) (id : ConnectionId) : Prop :=
  ∃ (port : UInt16) (backlog : List ConnectionId), m.listeners[port]? = some backlog ∧ id ∈ backlog

/-- The indexes and the tables of the manager speak of the same connections. -/
structure Linked (m : StreamingManager D) : Prop where
  outbound : ∀ streamId id, m.outboundByStream[streamId]? = some id ↔ m.Indexed .outbound streamId id
  inbound : ∀ streamId id, m.inboundByStream[streamId]? = some id ↔ m.Indexed .inbound streamId id
  apart : ∀ streamId ∈ m.outboundByStream, streamId ∉ m.inboundByStream
  tracked : ∀ id ∈ m.outboundPackets, id ∈ m.connections
  acks : ∀ id ∈ m.pendingAcks, id ∈ m.connections
  payloads : ∀ id ∈ m.pendingSynPayloads, id ∈ m.connections
  bytes : ∀ id ∈ m.pendingBytesByConnection, id ∈ m.connections

def Backlogged (m : StreamingManager D) : Prop :=
  ∀ id, m.Waiting id → ∃ conn, m.connections[id]? = some conn ∧ conn.direction = .inbound ∧
    conn.state = .inboundSynReceived

structure Coherent (m : StreamingManager D) : Prop extends m.Linked where
  waiting : m.Backlogged

/-- The connection ids do not run out, and the stream ids stay. -/
structure Numbered (prim : StreamingPrimitives D) (m : StreamingManager D) (request : ManagerRequest D) : Prop where
  opens : request.Opens prim → m.nextConnectionId ∉ m.connections
  keeps : request.KeepsIndex

/-- A connection in a backlog is left alone until it is taken from there. -/
structure Orderly (prim : StreamingPrimitives D) (m : StreamingManager D) (request : ManagerRequest D) : Prop extends
    Numbered prim m request where
  disturbs : ∀ id, request.Disturbs prim m id → ¬ m.Waiting id

theorem linked_new (config : StreamingConfig) : (new config : StreamingManager D).Linked where
  outbound streamId id := by simp [new, Indexed]
  inbound streamId id := by simp [new, Indexed]
  apart := by simp [new]
  tracked := by simp [new]
  acks := by simp [new]
  payloads := by simp [new]
  bytes := by simp [new]

section Preservation

variable {m m' : StreamingManager D}

theorem Linked.tidies (h : m.Linked) (ht : m.Tidies m') : m'.Linked where
  outbound streamId id := by
    rw [ht.outboundByStream, h.outbound, Indexed, Indexed, ht.connections]
  inbound streamId id := by
    rw [ht.inboundByStream, h.inbound, Indexed, Indexed, ht.connections]
  apart streamId hout := by
    rw [ht.outboundByStream] at hout
    rw [ht.inboundByStream]
    exact h.apart streamId hout
  tracked id hid := by
    rw [ht.outboundPackets] at hid
    rw [ht.connections]
    exact h.tracked id hid
  acks id hid := by
    rw [ht.connections]
    exact (ht.acks id hid).elim (h.acks id) fun hmem => hmem
  payloads id hid := by
    rw [ht.pendingSynPayloads] at hid
    rw [ht.connections]
    exact h.payloads id hid
  bytes id hid := by
    rw [ht.connections]
    exact (ht.bytes id hid).elim (h.bytes id) fun hmem => hmem

variable {id : ConnectionId} {index : ExtTreeMap UInt32 ConnectionId}
  {conn conn' : StreamingConnection D} {direction : StreamDirection} {streamId : UInt32}

theorem indexed_setConnection (hconn : m.connections[id]? = some conn) (hdirection : conn'.direction = conn.direction)
    (hstream : conn'.localStreamId = conn.localStreamId) (direction : StreamDirection) (streamId : UInt32)
    (k : ConnectionId) : (m.setConnection id conn').Indexed direction streamId k ↔ m.Indexed direction streamId k := by
  unfold Indexed
  rw [getElem?_setConnection]
  split
  next heq =>
    subst heq
    simp [hconn, hdirection, hstream]
  · rfl

theorem Linked.setConnection (h : m.Linked)
    (hconn : m.connections[id]? = some conn) (hdirection : conn'.direction = conn.direction)
    (hstream : conn'.localStreamId = conn.localStreamId) : (m.setConnection id conn').Linked where
  outbound streamId k := (h.outbound streamId k).trans (indexed_setConnection hconn hdirection hstream _ _ _).symm
  inbound streamId k := (h.inbound streamId k).trans (indexed_setConnection hconn hdirection hstream _ _ _).symm
  apart := h.apart
  tracked k hk := mem_setConnection (h.tracked k hk)
  acks k hk := mem_setConnection (h.acks k hk)
  payloads k hk := mem_setConnection (h.payloads k hk)
  bytes k hk := mem_setConnection (h.bytes k hk)

theorem Linked.modifyConnection (h : m.Linked) (id : ConnectionId)
    {change : StreamingConnection D → StreamingConnection D} (hdirection : ∀ conn, (change conn).direction = conn.direction)
    (hstream : ∀ conn, (change conn).localStreamId = conn.localStreamId) : (m.modifyConnection id change).Linked :=
  modifyConnection_preserves h fun conn hconn => h.setConnection hconn (hdirection conn) (hstream conn)

theorem Linked.modifyTracked (h : m.Linked) (id : ConnectionId)
    (change : ExtTreeMap UInt32 OutboundPacket → ExtTreeMap UInt32 OutboundPacket) :
    (m.modifyTracked id change).Linked :=
  { h with tracked := fun k hk => h.tracked k (mem_modify.mp hk) }

theorem Linked.track (h : m.Linked) (hid : id ∈ m.connections) (packet : OutboundPacket) : (m.track id packet).Linked :=
  { h with tracked := fun _ hk => mem_of_mem_insert h.tracked hid hk }

theorem Linked.releaseSynPayload (h : m.Linked) (hid : id ∈ m.connections) : (m.releaseSynPayload id).Linked := by
  unfold StreamingManager.releaseSynPayload
  split
  · exact h
  next bytes _ =>
    have herased : { m with pendingSynPayloads := m.pendingSynPayloads.erase id }.Linked :=
      { h with payloads := fun k hk => h.payloads k (mem_erase.mp hk).2 }
    exact herased.tidies (tidies_deliver { m with pendingSynPayloads := m.pendingSynPayloads.erase id } hid bytes)

theorem indexed_insert (hid : id ∉ m.connections) (direction : StreamDirection) (streamId : UInt32) (k : ConnectionId) :
    (m.setConnection id conn).Indexed direction streamId k ↔
      m.Indexed direction streamId k ∨ k = id ∧ conn.direction = direction ∧ conn.localStreamId = streamId := by
  have hnone : m.connections[id]? = none := getElem?_eq_none hid
  unfold Indexed
  rw [getElem?_setConnection]
  split
  next heq =>
    subst heq
    simp [hnone]
  next hne => simp [Ne.symm hne]

theorem index_insert (hindex : ∀ s k, index[s]? = some k ↔ m.Indexed direction s k) (hid : id ∉ m.connections)
    (hunused : streamId ∉ index) (hdirection : conn.direction = direction)
    (hstream : conn.localStreamId = streamId) (s : UInt32) (k : ConnectionId) :
    (index.insert streamId id)[s]? = some k ↔ (m.setConnection id conn).Indexed direction s k := by
  rw [indexed_insert hid, ← hindex, TreeMap.getElem?_insert]
  split
  next heq =>
    subst heq
    rw [getElem?_eq_none hunused]
    simp [hdirection, hstream, eq_comm]
  next hne =>
    simp [hstream, hne]

theorem index_insert_other (hindex : ∀ s k, index[s]? = some k ↔ m.Indexed direction s k) (hid : id ∉ m.connections)
    (hdirection : conn.direction ≠ direction) (s : UInt32) (k : ConnectionId) :
    index[s]? = some k ↔ (m.setConnection id conn).Indexed direction s k := by
  rw [indexed_insert hid, ← hindex]
  simp [hdirection]

theorem Linked.insertOutbound (h : m.Linked) (hid : id ∉ m.connections)
    (hunused : m.Unused streamId) (hconn : conn.Begins .outbound .outboundSynSent streamId) :
    (m.insertOutbound id streamId conn).Linked where
  outbound := index_insert h.outbound hid hunused.2 hconn.direction hconn.localStreamId
  inbound := index_insert_other h.inbound hid (by rw [hconn.direction]; decide)
  apart s hs := by
    rcases TreeMap.mem_insert.mp hs with rfl | hs
    · exact hunused.1
    · exact h.apart s hs
  tracked := mem_tracked_insert h.tracked id conn ∅
  acks k hk := mem_setConnection (h.acks k hk)
  payloads k hk := mem_setConnection (h.payloads k hk)
  bytes k hk := mem_setConnection (h.bytes k hk)

theorem Linked.insertInbound (h : m.Linked) (hid : id ∉ m.connections) (hunused : m.Unused streamId)
    (hconn : conn.Begins .inbound .inboundSynReceived streamId) : (m.insertInbound id streamId conn).Linked where
  outbound := index_insert_other h.outbound hid (by rw [hconn.direction]; decide)
  inbound := index_insert h.inbound hid hunused.1 hconn.direction hconn.localStreamId
  apart s hout hin := by
    rcases TreeMap.mem_insert.mp hin with rfl | hin
    · exact hunused.2 hout
    · exact h.apart s hout hin
  tracked := mem_tracked_insert h.tracked id conn ∅
  acks k hk := mem_setConnection (h.acks k hk)
  payloads k hk := mem_setConnection (h.payloads k hk)
  bytes k hk := mem_setConnection (h.bytes k hk)

theorem Linked.enterBacklog (h : m.Linked) (hid : id ∈ m.connections) (listener : UInt16)
    (payload : List UInt8) : (m.enterBacklog id listener payload).Linked :=
  { h with payloads := fun _ hk => mem_payloads_enterBacklog (m := m) h.payloads hid listener payload hk }

theorem Linked.withCounters (h : m.Linked) (connectionCounter : UInt64) (streamCounter : UInt32) :
    (m.withCounters connectionCounter streamCounter).Linked :=
  { h with }

theorem getElem?_removeConnection (m : StreamingManager D) (id k : ConnectionId) :
    (m.removeConnection id).2.connections[k]? = if id = k then none else m.connections[k]? := by
  change (m.connections.erase id)[k]? = _
  exact TreeMap.getElem?_erase

theorem indexed_removeConnection (m : StreamingManager D) (id : ConnectionId) (direction : StreamDirection)
    (streamId : UInt32) (k : ConnectionId) :
    (m.removeConnection id).2.Indexed direction streamId k ↔ id ≠ k ∧ m.Indexed direction streamId k := by
  unfold Indexed
  rw [getElem?_removeConnection]
  split
  next heq => simp [heq]
  next hne => simp [hne]

theorem index_remove (hindex : ∀ s k, index[s]? = some k ↔ m.Indexed direction s k)
    (hconn : m.connections[id]? = some conn) (hdirection : conn.direction = direction) (s : UInt32) (k : ConnectionId) :
    (index.erase conn.localStreamId)[s]? = some k ↔ (m.removeConnection id).2.Indexed direction s k := by
  have hown : index[conn.localStreamId]? = some id := (hindex _ _).mpr ⟨conn, hconn, hdirection, rfl⟩
  rw [indexed_removeConnection, ← hindex, TreeMap.getElem?_erase]
  split
  next heq =>
    subst heq
    simp [hown]
  next hne =>
    constructor
    · intro hk
      refine ⟨?_, hk⟩
      rintro rfl
      obtain ⟨found, hfound, -, rfl⟩ := (hindex _ _).mp hk
      cases hconn.symm.trans hfound
      exact hne rfl
    · exact And.right

theorem index_remove_other (hindex : ∀ s k, index[s]? = some k ↔ m.Indexed direction s k)
    (hother : ∀ conn, m.connections[id]? = some conn → conn.direction ≠ direction) (s : UInt32) (k : ConnectionId) :
    index[s]? = some k ↔ (m.removeConnection id).2.Indexed direction s k := by
  rw [indexed_removeConnection, ← hindex, iff_and_self]
  rintro hk rfl
  obtain ⟨conn, hconn, hdirection, -⟩ := (hindex _ _).mp hk
  exact hother conn hconn hdirection

theorem mem_of_mem_removed (m : StreamingManager D) (id : ConnectionId) :
    (∀ s ∈ (m.removeConnection id).2.outboundByStream, s ∈ m.outboundByStream) ∧
      ∀ s ∈ (m.removeConnection id).2.inboundByStream, s ∈ m.inboundByStream := by
  unfold removeConnection removeIndex
  cases m.connections[id]? with
  | none => exact ⟨fun _ hs => hs, fun _ hs => hs⟩
  | some conn =>
    dsimp only [Option.elim]
    split
    · exact ⟨fun _ hs => (mem_erase.mp hs).2, fun _ hs => hs⟩
    · exact ⟨fun _ hs => hs, fun _ hs => (mem_erase.mp hs).2⟩

def streams (m : StreamingManager D) : StreamDirection → ExtTreeMap UInt32 ConnectionId
  | .outbound => m.outboundByStream
  | .inbound => m.inboundByStream

theorem streams_removeConnection (m : StreamingManager D) (direction : StreamDirection)
    (hindex : ∀ s k, (m.streams direction)[s]? = some k ↔ m.Indexed direction s k) (id : ConnectionId) (s : UInt32)
    (k : ConnectionId) :
    ((m.removeConnection id).2.streams direction)[s]? = some k ↔ (m.removeConnection id).2.Indexed direction s k := by
  cases hconn : m.connections[id]? with
  | none =>
    have hsame : (m.removeConnection id).2.streams direction = m.streams direction := by
      cases direction <;> simp only [streams, removeConnection, hconn, Option.elim]
    rw [hsame]
    exact index_remove_other hindex (by simp [hconn]) s k
  | some conn =>
    by_cases hdirection : conn.direction = direction
    · have herased : (m.removeConnection id).2.streams direction = (m.streams direction).erase conn.localStreamId := by
        cases direction <;>
          simp only [streams, removeConnection, hconn, Option.elim, removeIndex, hdirection]
      rw [herased]
      exact index_remove hindex hconn hdirection s k
    · have hsame : (m.removeConnection id).2.streams direction = m.streams direction := by
        cases direction <;> cases hother : conn.direction <;>
          simp_all only [streams, removeConnection, Option.elim, removeIndex, not_true_eq_false]
      rw [hsame]
      exact index_remove_other hindex (by simp [hconn, hdirection]) s k

theorem Linked.removeConnection (h : m.Linked) (id : ConnectionId) : (m.removeConnection id).2.Linked where
  outbound := m.streams_removeConnection .outbound h.outbound id
  inbound := m.streams_removeConnection .inbound h.inbound id
  apart s hout hin := h.apart s ((m.mem_of_mem_removed id).1 s hout) ((m.mem_of_mem_removed id).2 s hin)
  tracked := mem_erase_of_imp h.tracked id
  acks := mem_erase_of_imp h.acks id
  payloads := mem_erase_of_imp h.payloads id
  bytes := mem_erase_of_imp h.bytes id

theorem Linked.takeData (h : m.Linked) (packet : StreamingPacket D)
    (hconn : m.connections[id]? = some conn) (nowMs : Nat) : (m.takeData packet id conn nowMs).Linked := by
  have hkeeps := conn.takeData_keeps packet nowMs
  have hset := h.setConnection hconn hkeeps.direction hkeeps.localStreamId
  obtain ⟨_, heq, htracked⟩ := m.takeData_eq packet id conn nowMs
  rw [heq]
  exact { hset with tracked := fun k hk => hset.tracked k (htracked k hk) }

theorem Linked.pollRetransmits (h : m.Linked) (nowMs : Nat) : (m.pollRetransmits nowMs).2.Linked := by
  refine pollRetransmits_keeps (P := Linked) ?_ ?_ h
  · exact fun m id sequence hm => hm.modifyTracked id _
  · intro m id sequence packet hm
    refine Linked.tidies ?_ (tidies_queueOutboundPacket _ packet.request)
    exact (hm.modifyTracked id _).modifyConnection id (fun _ => rfl) fun _ => rfl

theorem Linked.refused (h : m.Linked) (hid : m.nextConnectionId ∉ m.connections)
    (hunused : m.Unused streamId) (conn : StreamingConnection D) (connectionCounter : UInt64) (streamCounter : UInt32) :
    ∃ a b, ((m.withCounters connectionCounter streamCounter).insertInbound m.nextConnectionId streamId conn).discardInbound
      m.nextConnectionId streamId = m.withCounters a b :=
  ⟨_, _, Fresh.discard ⟨⟨h.tracked, h.payloads⟩, hid⟩ hunused connectionCounter streamCounter conn⟩

theorem Linked.change {prim : StreamingPrimitives D} {request : ManagerRequest D} (h : m.Linked)
    (hn : Numbered prim m request) (hchange : Change prim m request m') : m'.Linked := by
  cases hchange with
  | counted => exact h.withCounters _ _
  | connected connectionCounter streamCounter _ hunused hconn =>
    exact (h.withCounters connectionCounter streamCounter).insertOutbound (hn.opens trivial) hunused hconn
  | @entered _ _ packet _ _ listener _ connectionCounter streamCounter hbytes hsyn hunused hconn =>
    have hfresh := hn.opens (ManagerRequest.opens_of_isSyn hbytes hsyn)
    have hinserted := (h.withCounters connectionCounter streamCounter).insertInbound hfresh hunused hconn
    exact hinserted.enterBacklog mem_insert_self listener packet.payload
  | refused connectionCounter streamCounter hbytes hsyn hunused =>
    have hfresh := hn.opens (ManagerRequest.opens_of_isSyn hbytes hsyn)
    obtain ⟨a, b, heq⟩ := h.refused hfresh hunused _ connectionCounter streamCounter
    rw [heq]
    exact h.withCounters a b
  | @answered _ _ packet _ _ id conn nowMs _ _ _ hid hconn =>
    have hplaced := synResponseTransition_placed packet nowMs conn
    exact h.setConnection hconn hplaced.1 hplaced.2
  | took hbytes hdata =>
    obtain ⟨_, _, _, _, _, hconn, _⟩ := hdata
    exact h.takeData _ hconn _
  | @accepted _ _ id _ _ advertisedMaxPayload nowMs conn response hconn =>
    have hkeeps := acceptTransition_keeps advertisedMaxPayload nowMs conn
    have hset := h.setConnection hconn hkeeps.direction hkeeps.localStreamId
    refine (hset.releaseSynPayload (m.mem_setConnection_self id _)).track ?_ _
    rw [releaseSynPayload_connections]
    exact m.mem_setConnection_self id _
  | unaccepted hconn => exact h.setConnection hconn rfl rfl
  | sent _ hconn hsend =>
    obtain ⟨sendWindow, -, -, rfl⟩ := enqueueSend_state hsend
    refine Linked.track ?_ (m.mem_setConnection_self _ _) _
    exact h.setConnection hconn rfl rfl
  | @closed id _ _ _ _ nowMs conn _ hconn =>
    have hkeeps := (closeTransition_moves (conn.state = .closingRemote) nowMs conn).keeps
    exact (h.setConnection hconn hkeeps.direction hkeeps.localStreamId).track (m.mem_setConnection_self _ _) _
  | @reset id _ _ _ _ nowMs conn hconn =>
    have hkeeps := (resetTransition_moves nowMs conn).keeps
    exact h.setConnection hconn hkeeps.direction hkeeps.localStreamId
  | polled => exact h.pollRetransmits _
  | @listened port =>
    obtain ⟨_, heq⟩ := m.listen_eq port
    rw [heq]
    exact { h with }
  | removed => exact h.removeConnection _
  | popped => exact { h with }
  | @used id use => exact h.modifyConnection id (fun conn => (use.same conn).direction) hn.keeps

section

variable (h : m.Backlogged)
include h

theorem Backlogged.of_kept (hless : ∀ id, m'.Waiting id → m.Waiting id)
    (hkept : ∀ id conn, m.Waiting id → m.connections[id]? = some conn → conn.direction = .inbound →
      conn.state = .inboundSynReceived → ∃ conn', m'.connections[id]? = some conn' ∧
        conn'.direction = conn.direction ∧ conn'.state = conn.state) : m'.Backlogged := by
  intro id hid
  obtain ⟨conn, hconn, hin, hstate⟩ := h id (hless id hid)
  obtain ⟨conn', hconn', hdirection, hstate'⟩ := hkept id conn (hless id hid) hconn hin hstate
  exact ⟨conn', hconn', hdirection.trans hin, hstate'.trans hstate⟩

theorem Backlogged.of_eq (hlisteners : m'.listeners = m.listeners)
    (hconnections : m'.connections = m.connections) : m'.Backlogged := by
  unfold Backlogged Waiting
  rw [hlisteners, hconnections]
  exact h

theorem Backlogged.setConnection
    (hconn : m.connections[id]? = some conn) (hdirection : conn'.direction = conn.direction)
    (hstate : m.Waiting id → conn.direction = .inbound → conn.state = .inboundSynReceived → conn'.state = conn.state) :
    (m.setConnection id conn').Backlogged := by
  refine h.of_kept (fun _ hk => hk) fun k found hwaiting hfound hin hreceived => ?_
  rw [getElem?_setConnection]
  split
  next heq =>
    subst heq
    cases hconn.symm.trans hfound
    exact ⟨conn', rfl, hdirection, hstate hwaiting hin hreceived⟩
  · exact ⟨found, hfound, rfl, rfl⟩

theorem Backlogged.insert (hid : id ∉ m.connections)
    (hlisteners : m'.listeners = m.listeners) (hconnections : m'.connections = m.connections.insert id conn) :
    m'.Backlogged := by
  refine h.of_kept (fun k hk => by rwa [Waiting, hlisteners] at hk) fun k found _ hfound _ _ => ?_
  have hne : id ≠ k := by
    rintro rfl
    exact hid (TreeMap.mem_of_getElem? hfound)
  rw [hconnections, TreeMap.getElem?_insert_of_ne hne]
  exact ⟨found, hfound, rfl, rfl⟩

theorem Backlogged.enterBacklog
    (hconn : m.connections[id]? = some conn) (hin : conn.direction = .inbound) (hstate : conn.state = .inboundSynReceived)
    (listener : UInt16) (payload : List UInt8) : (m.enterBacklog id listener payload).Backlogged := by
  rintro k ⟨port, backlog, hport, hmem⟩
  change (m.listeners.modify listener (· ++ [id]))[port]? = some backlog at hport
  rw [getElem?_modify] at hport
  split at hport
  next heq =>
    obtain ⟨old, hold, rfl⟩ := Option.map_eq_some_iff.mp hport
    rcases List.mem_append.mp hmem with hmem | hmem
    · exact h k ⟨listener, old, hold, hmem⟩
    · rw [List.mem_singleton.mp hmem]
      exact ⟨conn, hconn, hin, hstate⟩
  · exact h k ⟨port, backlog, hport, hmem⟩

theorem Backlogged.listen (port : UInt16) : (m.listen port).2.Backlogged := by
  unfold StreamingManager.listen
  split
  · exact h
  split
  · exact h
  rintro id ⟨k, backlog, hk, hmem⟩
  dsimp only at hk
  rw [getElem?_insert] at hk
  split at hk
  · cases hk
    cases hmem
  · exact h id ⟨k, backlog, hk, hmem⟩

theorem Backlogged.accept (port : UInt16) : (m.accept port).2.Backlogged := by
  rintro id ⟨k, backlog, hk, hmem⟩
  change (m.listeners.modify port List.tail)[k]? = some backlog at hk
  rw [getElem?_modify] at hk
  split at hk
  · obtain ⟨old, hold, rfl⟩ := Option.map_eq_some_iff.mp hk
    exact h id ⟨port, old, hold, List.mem_of_mem_tail hmem⟩
  · exact h id ⟨k, backlog, hk, hmem⟩

theorem Backlogged.modifyConnection (id : ConnectionId)
    {change : StreamingConnection D → StreamingConnection D} (hdirection : ∀ conn, (change conn).direction = conn.direction)
    (hstate : m.Waiting id → ∀ conn, (change conn).state = conn.state) : (m.modifyConnection id change).Backlogged :=
  modifyConnection_preserves h fun conn hconn =>
    h.setConnection hconn (hdirection conn) fun hwaiting _ _ => hstate hwaiting conn

theorem Backlogged.removeConnection (hid : ¬ m.Waiting id) : (m.removeConnection id).2.Backlogged := by
  obtain ⟨_, _, heq⟩ := m.removeConnection_eq id
  refine h.of_kept (fun k hk => by rwa [heq] at hk) fun k conn hk hconn _ _ => ?_
  have hne : id ≠ k := by
    rintro rfl
    exact hid hk
  rw [getElem?_removeConnection, if_neg hne]
  exact ⟨conn, hconn, rfl, rfl⟩

theorem Backlogged.takeData {packet : StreamingPacket D} (hconn : m.connections[id]? = some conn)
    (hreset : packet.flags.reset → ¬ m.Waiting id) (nowMs : Nat) : (m.takeData packet id conn nowMs).Backlogged := by
  have hkeeps := conn.takeData_keeps packet nowMs
  have hset := h.setConnection hconn hkeeps.direction fun hwaiting _ hstate => by
    have hcalm : ¬ packet.flags.reset := fun hr => hreset hr hwaiting
    rw [takePacket_state, applyControl_inboundSynReceived hstate hcalm]
  obtain ⟨_, heq, -⟩ := m.takeData_eq packet id conn nowMs
  rw [heq]
  exact hset.of_eq rfl rfl

theorem Backlogged.pollRetransmits (nowMs : Nat) : (m.pollRetransmits nowMs).2.Backlogged := by
  refine pollRetransmits_keeps (P := Backlogged) ?_ ?_ h
  · exact fun m id sequence hm => hm.of_eq rfl rfl
  · intro m id sequence packet hm
    have htracked : (m.modifyTracked id (·.insert sequence packet)).Backlogged := hm.of_eq rfl rfl
    have hmarked := htracked.modifyConnection id (fun conn => show (conn.markRetransmitted sequence nowMs).direction = _
      from rfl) fun _ _ => rfl
    exact hmarked.of_eq rfl rfl

theorem Backlogged.change {prim : StreamingPrimitives D} {request : ManagerRequest D}
    (hlinked : m.Linked) (ho : m.Orderly prim request) (hchange : Change prim m request m') : m'.Backlogged := by
  cases hchange with
  | counted => exact h.of_eq rfl rfl
  | connected _ _ _ hunused hconn => exact h.insert (ho.opens trivial) rfl rfl
  | @entered _ _ packet _ streamId listener conn connectionCounter streamCounter hbytes hsyn hunused hconn =>
    have hfresh := ho.opens (ManagerRequest.opens_of_isSyn hbytes hsyn)
    have hinserted : ((m.withCounters connectionCounter streamCounter).insertInbound m.nextConnectionId streamId
        conn).Backlogged := h.insert hfresh rfl rfl
    exact hinserted.enterBacklog getElem?_insert_self hconn.direction hconn.state listener packet.payload
  | refused connectionCounter streamCounter hbytes hsyn hunused =>
    have hfresh := ho.opens (ManagerRequest.opens_of_isSyn hbytes hsyn)
    obtain ⟨a, b, heq⟩ := hlinked.refused hfresh hunused _ connectionCounter streamCounter
    rw [heq]
    exact h.of_eq rfl rfl
  | @answered _ _ packet _ _ id conn nowMs _ _ _ hid hconn =>
    have hplaced := synResponseTransition_placed packet nowMs conn
    refine h.setConnection hconn hplaced.1 fun _ hin _ => ?_
    -- the index is that of the outbound connections, and only inbound ones wait
    obtain ⟨found, hfound, hout, -⟩ := (hlinked.outbound _ _).mp hid
    cases hconn.symm.trans hfound
    exact nomatch hout.symm.trans hin
  | took hbytes hdata =>
    have hwaits := fun hreset => ho.disturbs _ (ManagerRequest.disturbs_of_isData hbytes hdata hreset)
    obtain ⟨_, _, _, _, _, hconn, _⟩ := hdata
    exact h.takeData hconn hwaits _
  | @accepted _ _ id _ _ advertisedMaxPayload nowMs conn response hconn =>
    have hkeeps := acceptTransition_keeps advertisedMaxPayload nowMs conn
    have hset := h.setConnection hconn hkeeps.direction fun hwaiting => absurd hwaiting (ho.disturbs id rfl)
    obtain ⟨_, _, _, heq, -⟩ :=
      releaseSynPayload_eq (m.setConnection id (acceptTransition advertisedMaxPayload nowMs conn).2) id
    rw [heq]
    exact hset.of_eq rfl rfl
  | unaccepted hconn => exact h.setConnection hconn rfl fun _ _ _ => rfl
  | @sent id _ _ _ payload nowMs conn conn' _ _ hconn hsend =>
    have hset : (m.setConnection id conn').Backlogged := by
      obtain ⟨sendWindow, -, -, rfl⟩ := enqueueSend_state hsend
      exact h.setConnection hconn rfl fun _ _ _ => rfl
    exact hset.of_eq rfl rfl
  | @closed id _ _ _ _ nowMs conn _ hconn hstate =>
    have hkeeps := (closeTransition_moves (conn.state = .closingRemote) nowMs conn).keeps
    have hset := h.setConnection hconn hkeeps.direction fun _ _ hreceived => by
      rw [hreceived] at hstate
      exact hstate.elim nofun nofun
    exact hset.of_eq rfl rfl
  | @reset id _ _ _ _ nowMs conn hconn =>
    have hkeeps := (resetTransition_moves nowMs conn).keeps
    exact h.setConnection hconn hkeeps.direction fun hwaiting => absurd hwaiting (ho.disturbs id rfl)
  | polled => exact h.pollRetransmits _
  | listened => exact h.listen _
  | removed => exact h.removeConnection (ho.disturbs _ rfl)
  | popped => exact h.accept _
  | @used id use =>
    exact h.modifyConnection id (fun conn => (use.same conn).direction) fun hwaiting => absurd hwaiting (ho.disturbs id rfl)

end

end Preservation

/-- What the calls rely on: a connection has one entry in one index, the lookup of a data packet finds its connection,
and so does the caller of `accept`. -/
structure Resolves (m : StreamingManager D) : Prop where
  outbound_injective : ∀ (s t : UInt32) (id : ConnectionId), m.outboundByStream[s]? = some id →
    m.outboundByStream[t]? = some id → s = t
  inbound_injective : ∀ (s t : UInt32) (id : ConnectionId), m.inboundByStream[s]? = some id →
    m.inboundByStream[t]? = some id → s = t
  disjoint : ∀ (s t : UInt32) (id : ConnectionId), m.outboundByStream[s]? = some id → m.inboundByStream[t]? ≠ some id
  data : ∀ (s : UInt32) (id : ConnectionId), (m.inboundByStream[s]?.or m.outboundByStream[s]?) = some id →
    id ∈ m.connections
  accept : ∀ (port : UInt16) (id : ConnectionId), (m.accept port).1 = some id → id ∈ m.connections

variable {m : StreamingManager D}

theorem Indexed.mem {direction : StreamDirection} {s : UInt32} {id : ConnectionId}
    (h : m.Indexed direction s id) : id ∈ m.connections := by
  obtain ⟨conn, hconn, -⟩ := h
  exact TreeMap.mem_of_getElem? hconn

theorem Indexed.unique {direction other : StreamDirection} {s t : UInt32} {id : ConnectionId}
    (h : m.Indexed direction s id) (ht : m.Indexed other t id) : direction = other ∧ s = t := by
  obtain ⟨conn, hconn, rfl, rfl⟩ := h
  obtain ⟨found, hfound, rfl, rfl⟩ := ht
  cases hconn.symm.trans hfound
  exact ⟨rfl, rfl⟩

theorem Coherent.resolves (h : m.Coherent) : m.Resolves where
  outbound_injective s t id hs ht := (((h.outbound s id).mp hs).unique ((h.outbound t id).mp ht)).2
  inbound_injective s t id hs ht := (((h.inbound s id).mp hs).unique ((h.inbound t id).mp ht)).2
  disjoint s t id hs ht := nomatch (((h.outbound s id).mp hs).unique ((h.inbound t id).mp ht)).1
  data s id hs := by
    rcases Option.or_eq_some_iff.mp hs with hin | ⟨-, hout⟩
    · exact ((h.inbound s id).mp hin).mem
    · exact ((h.outbound s id).mp hout).mem
  accept port id hid := by
    obtain ⟨backlog, hport, hhead⟩ := Option.bind_eq_some_iff.mp hid
    obtain ⟨conn, hconn, -⟩ := h.waiting id ⟨port, backlog, hport, List.mem_of_mem_head? hhead⟩
    exact TreeMap.mem_of_getElem? hconn

/-- In every run of orderly requests the tables agree. -/
theorem coherent_of_orderly {prim : StreamingPrimitives D} {config : StreamingConfig} {m : StreamingManager D}
    (h : Reaches prim config (Orderly prim) m) : m.Coherent ∧ m.Resolves := by
  have hnew : (new config : StreamingManager D).Backlogged := by
    rintro id ⟨port, backlog, hport, -⟩
    simp [new] at hport
  have hcoherent : m.Coherent := by
    refine h.invariant (P := Coherent) ⟨linked_new config, hnew⟩ ?_ ?_
    · intro m request m' hm ho hchange
      exact ⟨hm.toLinked.change ho.toNumbered hchange, hm.waiting.change hm.toLinked ho hchange⟩
    · intro m m' hm htidies
      exact ⟨hm.toLinked.tidies htidies, hm.waiting.of_eq htidies.listeners htidies.connections⟩
  exact ⟨hcoherent, hcoherent.resolves⟩

theorem freeStreamId_le {fuel : Nat} {candidate free : UInt32} (hfree : m.Unused free) (hle : candidate ≤ free)
    (hfuel : free.toNat - candidate.toNat < fuel) : ∃ streamId, m.freeStreamId fuel candidate = some streamId ∧ candidate ≤ streamId := by
  induction fuel generalizing candidate with
  | zero => omega
  | succ fuel ih =>
    unfold freeStreamId
    split
    next hused =>
      have hlt : candidate.toNat < free.toNat :=
        UInt32.lt_iff_toNat_lt.mp (UInt32.lt_of_le_of_ne hle fun heq => not_or.mpr (heq ▸ hfree) hused)
      have hnext : (candidate + 1).toNat = candidate.toNat + 1 := by
        rw [UInt32.toNat_add, UInt32.toNat_one, Nat.mod_eq_of_lt (by have := free.toNat_lt; omega)]
      have hle : candidate + 1 ≤ free := UInt32.le_iff_toNat_le.mpr (by omega)
      obtain ⟨streamId, hstream, hle⟩ := ih hle (by omega)
      refine ⟨streamId, hstream, UInt32.le_iff_toNat_le.mpr ?_⟩
      have := UInt32.le_iff_toNat_le.mp hle
      omega
    · exact ⟨candidate, rfl, UInt32.le_refl _⟩

section Sample

/-- A destination that cannot be written: every connect fails, after it has taken a stream id. -/
def mutePrimitives : StreamingPrimitives Bool := { samplePrimitives with encodeToVec := fun _ => .error (.truncated 0 0 0) }

theorem connect_mute (id : ConnectionId) (streamId : UInt32) :
    ∃ e id', sampleOpen.run mutePrimitives ((new .balanced).withCounters id streamId) =
      some (.error e, (new .balanced).withCounters id' (streamId + 1)) :=
  ⟨_, _, rfl⟩

set_option maxRecDepth 4000 in
/-- A SYN that waits at the listener. -/
theorem coherent_sampleSyn :
    ∃ m, Reaches samplePrimitives .balanced (Orderly samplePrimitives) m ∧ (m.accept 0).1 = some 1 ∧
      m.Coherent ∧ m.Resolves := by
  have hlistening : Reaches samplePrimitives .balanced (Orderly samplePrimitives) ((new .balanced).listen 0).2 := by
    refine .step (.call (.listen 0)) .new ⟨⟨fun _ => not_mem_empty, trivial⟩, ?_⟩ rfl
    rintro id ⟨_, _, _, ⟨⟩, _⟩
  have hreach := hlistening.step (.call (sampleCall (sampleSyn true)))
      ⟨⟨fun _ => not_mem_empty, trivial⟩, ?_⟩ rfl
  · exact ⟨_, hreach, rfl, coherent_of_orderly hreach⟩
  · rintro id - ⟨port, backlog, hport, hmem⟩
    rw [show ((new .balanced : StreamingManager Bool).listen 0).2.listeners = (∅ : ExtTreeMap UInt16 _).insert 0 [] by
      rfl, getElem?_insert] at hport
    split at hport
    · cases hport
      cases hmem
    · simp at hport

set_option maxRecDepth 4000 in
/-- A connection removed while it waits is still returned by `accept`. -/
theorem removed_while_waiting :
    ∃ m, Reaches samplePrimitives .balanced (fun _ _ => True) m ∧ (m.accept 0).1 = some 1 ∧ 1 ∉ m.connections ∧
      ¬ m.Coherent := by
  have hafter : after samplePrimitives [.call (.listen 0), .call (sampleCall (sampleSyn true)),
      .call (.removeConnection 1)] (.new .balanced) = some _ := rfl
  exact ⟨_, Reaches.new.after hafter, rfl, by decide +kernel,
    fun h => absurd (h.resolves.accept 0 1 rfl) (by decide +kernel)⟩

end Sample

end StreamingManager

end I2pr
