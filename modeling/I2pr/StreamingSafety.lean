import I2pr.StreamingSteps

namespace I2pr

open Call

variable {D : Type}

namespace StreamingManager

/-- What every call but `connect` does to the table: it opens no outbound connection and keeps the peer of each. -/
structure Follows (m m' : StreamingManager D) : Prop where
  outbound : ∀ (id : ConnectionId) (conn' : StreamingConnection D), m'.connections[id]? = some conn' →
    conn'.direction = .outbound → ∃ conn, m.connections[id]? = some conn ∧ StreamingConnection.Same conn conn'
  sound : m.Sound → m'.Sound

theorem Follows.refl (m : StreamingManager D) : m.Follows m := ⟨fun _ conn h _ => ⟨conn, h, .refl conn⟩, id⟩

theorem Follows.trans {a b c : StreamingManager D} (hab : a.Follows b) (hbc : b.Follows c) : a.Follows c where
  outbound id conn' h hout := by
    obtain ⟨conn, hb, hsame⟩ := hbc.outbound id conn' h hout
    obtain ⟨conn₀, ha, hsame₀⟩ := hab.outbound id conn hb (hsame.direction ▸ hout)
    exact ⟨conn₀, ha, hsame₀.trans hsame⟩
  sound := hbc.sound ∘ hab.sound

variable {m m' : StreamingManager D}

theorem follows_of_eq (hconnections : m'.connections = m.connections)
    (hpackets : m'.outboundPackets = m.outboundPackets) (hpayloads : m'.pendingSynPayloads = m.pendingSynPayloads) :
    m.Follows m' where
  outbound _ conn' h _ := ⟨conn', hconnections ▸ h, .refl conn'⟩
  sound h := ⟨hconnections ▸ hpackets ▸ h.tracked, hconnections ▸ hpayloads ▸ h.payloads⟩

section Follow

variable {m m' : StreamingManager D} {id : ConnectionId} {conn conn' : StreamingConnection D}

theorem follows_of_sound (hconnections : m'.connections = m.connections) (hsound : m.Sound → m'.Sound) : m.Follows m' :=
  ⟨fun _ found h _ => ⟨found, hconnections ▸ h, .refl found⟩, hsound⟩

theorem follows_setConnection (h : m.connections[id]? = some conn) (hsame : conn.Same conn') :
    m.Follows (m.setConnection id conn') where
  outbound k found hk _ := by
    rw [getElem?_setConnection] at hk
    split at hk
    next heq =>
      cases hk
      exact ⟨conn, heq ▸ h, hsame⟩
    · exact ⟨found, hk, .refl found⟩
  sound hm := ⟨fun k hk => mem_setConnection (hm.tracked k hk), fun k hk => mem_setConnection (hm.payloads k hk)⟩

theorem follows_modifyConnection (m : StreamingManager D) (id : ConnectionId)
    {change : StreamingConnection D → StreamingConnection D} (hsame : ∀ conn, StreamingConnection.Same conn (change conn)) :
    m.Follows (m.modifyConnection id change) :=
  modifyConnection_preserves (.refl m) fun conn hconn => follows_setConnection hconn (hsame conn)

theorem follows_track (h : id ∈ m.connections) (packet : OutboundPacket) : m.Follows (m.track id packet) :=
  follows_of_sound rfl fun hm => ⟨fun _ hk => mem_of_mem_insert hm.tracked h hk, hm.payloads⟩

theorem follows_modifyTracked (m : StreamingManager D) (id : ConnectionId)
    (change : Std.ExtTreeMap UInt32 OutboundPacket → Std.ExtTreeMap UInt32 OutboundPacket) :
    m.Follows (m.modifyTracked id change) :=
  follows_of_sound rfl fun hm => ⟨fun k hk => hm.tracked k (Std.ExtTreeMap.mem_modify.mp hk), hm.payloads⟩

theorem follows_insertInbound (m : StreamingManager D) (id : ConnectionId) (streamId : UInt32)
    (h : conn.direction = .inbound) : m.Follows (m.insertInbound id streamId conn) where
  outbound k found hk hout := by
    change (m.setConnection id conn).connections[k]? = some found at hk
    rw [getElem?_setConnection] at hk
    split at hk
    · cases hk
      exact absurd (h.symm.trans hout) (by decide)
    · exact ⟨found, hk, .refl found⟩
  sound hm := ⟨mem_tracked_insert hm.tracked id conn ∅, fun k hk => mem_setConnection (hm.payloads k hk)⟩

theorem follows_erase (hconnections : m'.connections = m.connections.erase id)
    (htracked : m'.outboundPackets = m.outboundPackets.erase id)
    (hpayloads : m'.pendingSynPayloads = m.pendingSynPayloads.erase id) : m.Follows m' where
  outbound _ found hk _ := ⟨found, TreeMap.getElem?_of_erase (hconnections ▸ hk), .refl found⟩
  sound hm := by
    constructor
    · rw [hconnections, htracked]
      exact mem_erase_of_imp hm.tracked id
    · rw [hconnections, hpayloads]
      exact mem_erase_of_imp hm.payloads id

theorem follows_releaseSynPayload (m : StreamingManager D) (id : ConnectionId) : m.Follows (m.releaseSynPayload id) := by
  obtain ⟨_, _, _, heq, hpayloads⟩ := m.releaseSynPayload_eq id
  rw [heq]
  exact follows_of_sound rfl fun hm => ⟨hm.tracked, fun k hk => hm.payloads k (hpayloads k hk)⟩

theorem follows_pollRetransmits (m : StreamingManager D) (nowMs : Nat) : m.Follows (m.pollRetransmits nowMs).2 := by
  refine pollRetransmits_keeps (P := m.Follows) ?_ ?_ (.refl m)
  · exact fun m' id sequence hm => hm.trans (m'.follows_modifyTracked id _)
  · intro m' id sequence packet hm
    have hmark : ∀ m' : StreamingManager D, m'.Follows (m'.modifyConnection id (·.markRetransmitted sequence nowMs)) :=
      fun m' => m'.follows_modifyConnection id fun _ => ⟨rfl, rfl⟩
    exact hm.trans (((m'.follows_modifyTracked id _).trans (hmark _)).trans (follows_of_eq rfl rfl rfl))

theorem Tidies.follows (h : m.Tidies m') : m.Follows m' :=
  follows_of_eq h.connections h.outboundPackets h.pendingSynPayloads

theorem Change.follows {prim : StreamingPrimitives D} {call : ManagerCall D} (h : Change prim m (.call call) m') :
    m.Follows m' := by
  have hcounters : ∀ a b, m.Follows (m.withCounters a b) := fun _ _ => follows_of_eq rfl rfl rfl
  cases h with
  | counted => exact hcounters _ _
  | @entered _ _ _ _ streamId _ _ a b _ _ _ hconn =>
    have hinserted := (hcounters a b).trans (follows_insertInbound _ m.nextConnectionId streamId hconn.direction)
    refine hinserted.trans (follows_of_sound rfl fun hm => ?_)
    exact ⟨hm.tracked, fun _ => mem_payloads_enterBacklog hm.payloads (mem_setConnection_self _ _ _) _ _⟩
  | @refused _ _ _ _ streamId _ a b _ _ _ hconn =>
    have hinserted := (hcounters a b).trans (follows_insertInbound _ m.nextConnectionId streamId hconn.direction)
    exact hinserted.trans (follows_erase rfl rfl rfl)
  | @answered _ _ packet _ _ _ conn nowMs _ _ _ _ hconn =>
    obtain ⟨_, _, _, _, heq, -⟩ := synResponseTransition_eq packet nowMs conn
    refine follows_setConnection hconn ?_
    rw [heq]
    exact ⟨rfl, rfl⟩
  | @took _ _ packet id conn nowMs _ hdata =>
    obtain ⟨_, _, _, _, _, hconn, _⟩ := hdata
    obtain ⟨_, heq, htracked⟩ := m.takeData_eq packet id conn nowMs
    rw [heq]
    refine (follows_setConnection hconn (conn.takeData_same packet nowMs)).trans (follows_of_sound rfl fun hm => ?_)
    exact ⟨fun k hk => hm.tracked k (htracked k hk), hm.payloads⟩
  | @accepted _ _ id _ _ advertisedMaxPayload nowMs conn response hconn =>
    have hset : m.Follows (m.setConnection id (acceptTransition advertisedMaxPayload nowMs conn).2) := by
      obtain ⟨_, _, _, heq⟩ := acceptTransition_eq advertisedMaxPayload nowMs conn
      refine follows_setConnection hconn ?_
      rw [heq]
      exact ⟨rfl, rfl⟩
    refine (hset.trans (follows_releaseSynPayload _ id)).trans (follows_track ?_ _)
    rw [releaseSynPayload_connections]
    exact m.mem_setConnection_self id _
  | unaccepted hconn => exact follows_setConnection hconn ⟨rfl, rfl⟩
  | sent _ hconn hsend =>
    refine (follows_setConnection hconn ?_).trans (follows_track (m.mem_setConnection_self _ _) _)
    obtain ⟨sendWindow, -, -, rfl⟩ := StreamingConnection.enqueueSend_state hsend
    exact ⟨rfl, rfl⟩
  | closed _ hconn =>
    exact (follows_setConnection hconn (closeTransition_moves _ _ _).same).trans
      (follows_track (m.mem_setConnection_self _ _) _)
  | reset hconn => exact follows_setConnection hconn (resetTransition_moves _ _).same
  | polled => exact m.follows_pollRetransmits _
  | @listened port =>
    obtain ⟨_, heq⟩ := m.listen_eq port
    rw [heq]
    exact follows_of_eq rfl rfl rfl
  | removed => exact follows_erase rfl rfl rfl
  | popped => exact follows_of_eq rfl rfl rfl
  | @used id use => exact m.follows_modifyConnection id use.same

end Follow

/-- The keys `connect` was given, by the id it returned last. -/
def afterConnect (opened : ConnectionId → Option SigningPublicKey) (remote : RemoteDestination) :
    Except StreamingManagerError ConnectOutcome → ConnectionId → Option SigningPublicKey
  | .ok (.synSent id _ _) => Function.update opened id (some remote.signingPublicKey)
  | _ => opened

/-- The states of a manager, next to the keys its outbound connections were opened with. -/
inductive Reachable (prim : StreamingPrimitives D) (config : StreamingConfig) :
    StreamingManager D → (ConnectionId → Option SigningPublicKey) → Prop
  | new : Reachable prim config (.new config) fun _ => none
  | connect {m m' opened}
      (localDest : DestinationIdentity D) (remote : RemoteDestination) (localPort remotePort advertisedMaxPayload : UInt16)
      (initialPayload : List UInt8) (nowMs : Nat) {r}
      (before : Reachable prim config m opened)
      (step : connectWithInitialPayload prim localDest remote localPort remotePort advertisedMaxPayload initialPayload
        nowMs m = some (r, m')) : Reachable prim config m' (afterConnect opened remote r)
  | call {m m' opened} (call : ManagerCall D)
      {r} (before : Reachable prim config m opened)
      (step : call.run prim m = some (r, m')) : Reachable prim config m' opened

/-- What holds in every reachable state: sound tables, and every outbound connection keeps the key it was opened
with. -/
structure Invariant (m : StreamingManager D) (opened : ConnectionId → Option SigningPublicKey) : Prop where
  sound : m.Sound
  peer : ∀ (id : ConnectionId) (conn : StreamingConnection D), m.connections[id]? = some conn →
    conn.direction = .outbound → opened id = some conn.peerSigningKey

variable {opened : ConnectionId → Option SigningPublicKey}

theorem Invariant.follows (hm : m.Invariant opened) (h : m.Follows m') : m'.Invariant opened where
  sound := h.sound hm.sound
  peer id conn' hconn' hout := by
    obtain ⟨conn, hconn, hsame⟩ := h.outbound id conn' hconn' hout
    rw [hm.peer id conn hconn (hsame.direction ▸ hout), hsame.peerSigningKey]

theorem insertOutbound_invariant
    (hm : m.Invariant opened) (id : ConnectionId) (streamId : UInt32) {conn : StreamingConnection D}
    {key : SigningPublicKey} (hkey : conn.peerSigningKey = key) :
    (m.insertOutbound id streamId conn).Invariant (Function.update opened id (some key)) where
  sound := ⟨mem_tracked_insert hm.sound.tracked id conn ∅, fun k hk => mem_setConnection (hm.sound.payloads k hk)⟩
  peer k found hk hout := by
    change (m.setConnection id conn).connections[k]? = some found at hk
    rw [getElem?_setConnection] at hk
    split at hk
    next heq =>
      cases hk
      rw [heq, Function.update_self, hkey]
    next hne => rw [Function.update_of_ne (Ne.symm hne), hm.peer k found hk hout]

theorem connect_invariant (prim : StreamingPrimitives D) (hm : m.Invariant opened) (localDest : DestinationIdentity D)
    (remote : RemoteDestination) (localPort remotePort advertisedMaxPayload : UInt16) (initialPayload : List UInt8)
    (nowMs : Nat) :
    Ends (connectWithInitialPayload prim localDest remote localPort remotePort advertisedMaxPayload initialPayload nowMs) m
      fun r m' => m'.Invariant (afterConnect opened remote r) := by
  unfold connectWithInitialPayload
  rw [ends_state_bind]
  split
  · exact ends_pure.mpr hm
  split
  · exact ends_pure.mpr hm
  refine ends_allocate m fun streamId connectionCounter streamCounter _ => ?_
  have hcounted : (m.withCounters connectionCounter streamCounter).Invariant opened :=
    hm.follows (follows_of_eq rfl rfl rfl)
  refine .guard (fun _ => hcounted) fun request _ => ?_
  rw [ends_update_bind, ends_pure]
  exact Invariant.follows (insertOutbound_invariant hcounted _ streamId rfl) (follows_of_eq rfl rfl rfl)

theorem Reachable.invariant {prim : StreamingPrimitives D} {config : StreamingConfig}
    (h : Reachable prim config m opened) : m.Invariant opened := by
  induction h with
  | new => exact ⟨⟨by simp [StreamingManager.new], by simp [StreamingManager.new]⟩, by simp [StreamingManager.new]⟩
  | connect localDest remote localPort remotePort advertisedMaxPayload initialPayload nowMs before step ih =>
    exact connect_invariant prim ih localDest remote localPort remotePort advertisedMaxPayload initialPayload nowMs _ _ step
  | call call before step ih =>
    obtain ⟨changed, hchange, htidies⟩ := (run_outcome prim _ (.call call) _ _ step).change
    exact ih.follows (hchange.follows.trans htidies.follows)

variable (destination : Bool)

/-- Two destinations with one byte each, which is also what their keys repeat and their signatures consist of. -/
def sampleKey : SigningPublicKey :=
  ⟨.edDsaSha512Ed25519, List.replicate 32 destination.toUInt8, by simp [SigningKeyType.publicKeyLen]⟩

def sampleSignature : SignatureValue :=
  ⟨.edDsaSha512Ed25519, List.replicate 64 destination.toUInt8, by simp [SigningKeyType.signatureLen]⟩

def samplePrimitives : StreamingPrimitives Bool where
  signingKey := sampleKey
  encodeToVec destination := .ok [destination.toUInt8]
  decodeFromCursor bytes := .ok (bytes.headD 0 = 1)
  hash _ := .ok (.replicate 32 0)
  verifySignature key _ signature := signature.bytes.headD 0 = key.bytes.headD 0
  encodeClientPayload envelope := .ok envelope.payload
  decodeClientPayload bytes _ := .ok ⟨streamingProtocolNumber, 0, 0, bytes⟩

def sampleIdentity : DestinationIdentity Bool :=
  ⟨destination, sampleKey destination, fun _ => .ok (sampleSignature destination)⟩

def sampleRemote : RemoteDestination := ⟨.replicate 32 0, sampleKey destination⟩

def sampleConnect : ManagerM Bool ConnectOutcome :=
  connectWithInitialPayload samplePrimitives (sampleIdentity false) (sampleRemote true) 0 0 1812 [] 0

def sampleProcess (wireBytes : List UInt8) : ManagerM Bool WirePacketObservation :=
  processInboundPacket samplePrimitives wireBytes (.replicate 32 0) (sampleIdentity false) 0 0 0

def sampleCall (wireBytes : List UInt8) : ManagerCall Bool :=
  .processInboundPacket wireBytes (.replicate 32 0) (sampleIdentity false) 0 0 0

/-- The options behind the flags of a signed SYN: FROM, the payload size 1812 and the signature. -/
def sampleSigned : List UInt8 := [0, 67, destination.toUInt8, 7, 20] ++ List.replicate 64 destination.toUInt8

/-- A SYN of this destination to one whose hash is zero. -/
def sampleSyn : List UInt8 :=
  [0, 0, 0, 0, 0, 0, 0, 5] ++ List.replicate 8 0 ++ [8] ++ List.replicate 33 0 ++ [4, 169] ++ sampleSigned destination

/-- The SYN response of this destination to the first stream a manager opens. -/
def sampleResponse (receiveStreamId : UInt8) : List UInt8 :=
  [128, 0, 0, 0, 0, 0, 0, receiveStreamId] ++ List.replicate 10 0 ++ [0, 169] ++ sampleSigned destination

end StreamingManager

end I2pr
