import I2pr.StreamingIndex

namespace I2pr

open Call Std List

variable {D : Type}

namespace StreamingManager

/-- Two inbound connections of one originator: the same FROM destination and the same stream of its own. -/
def SameOrigin (m : StreamingManager D) (id k : ConnectionId) : Prop :=
  ∃ conn conn', m.connections[id]? = some conn ∧ m.connections[k]? = some conn' ∧ conn.direction = .inbound ∧
    conn'.direction = .inbound ∧ conn'.peerDestination = conn.peerDestination ∧
    conn'.remoteStreamId = conn.remoteStreamId

def OneEach (m : StreamingManager D) : Prop :=
  ∀ id k, m.SameOrigin id k → id = k

/-- No valid SYN comes from an originator that has a connection in the table, and the application renames no stream. -/
structure Unrepeated (prim : StreamingPrimitives D) (m : StreamingManager D) (request : ManagerRequest D) : Prop extends
    Numbered prim m request where
  first : ∀ wireBytes packet destination, request.packetBytes prim = some wireBytes →
    IsSyn prim wireBytes packet destination → ∀ (id : ConnectionId) (conn : StreamingConnection D),
      m.connections[id]? = some conn → conn.direction = .inbound → conn.peerDestination = some destination →
        conn.remoteStreamId ≠ packet.receiveStreamId
  names : ∀ id use, request = .call (.useConnection id use) →
    ∀ conn : StreamingConnection D, conn.Keeps (use.apply conn)

/-- What `accept_inbound_syn` has appended to the delivered bytes, by connection. -/
def releases (m m' : StreamingManager D) : ManagerRequest D → List ConnectionId
  | .call (.acceptInboundSyn ..) => (m'.pendingDelivered.drop m.pendingDelivered.length).map (·.connectionId)
  | _ => []

/-- The states reached, with the SYN payloads delivered so far for the connections still in the table. -/
inductive Releases (prim : StreamingPrimitives D) (config : StreamingConfig)
    (allowed : StreamingManager D → ManagerRequest D → Prop) : StreamingManager D → List ConnectionId → Prop
  | new : Releases prim config allowed (.new config) []
  | step {m m' log r}
    (request : ManagerRequest D) (before : Releases prim config allowed m log) (hallowed : allowed m request)
    (hrun : request.run prim m = some (r, m')) :
    Releases prim config allowed m' ((log ++ m.releases m' request).filter (· ∈ m'.connections))

variable {prim : StreamingPrimitives D} {m m' : StreamingManager D} {request : ManagerRequest D}
  {r : Except StreamingManagerError Unit}

section Origins

/-- Connections may leave and move on, as long as the inbound ones keep their names. -/
theorem OneEach.of_kept (h : m.OneEach)
    (hkept : ∀ (id : ConnectionId) (conn' : StreamingConnection D), m'.connections[id]? = some conn' →
      conn'.direction = .inbound → ∃ conn, m.connections[id]? = some conn ∧ conn.Keeps conn') : m'.OneEach := by
  rintro id k ⟨a', b', ha', hb', hina, hinb, hpeer, hremote⟩
  obtain ⟨a, ha, hkeepa⟩ := hkept id a' ha' hina
  obtain ⟨b, hb, hkeepb⟩ := hkept k b' hb' hinb
  refine h id k ⟨a, b, ha, hb, hkeepa.direction ▸ hina, hkeepb.direction ▸ hinb, ?_, ?_⟩
  · rw [← hkeepa.peerDestination, ← hkeepb.peerDestination, hpeer]
  · rw [← hkeepa.remoteStreamId, ← hkeepb.remoteStreamId, hremote]

theorem OneEach.of_eq (h : m.OneEach) (hconnections : m'.connections = m.connections) : m'.OneEach := by
  refine h.of_kept fun id conn hconn _ => ⟨conn, hconnections ▸ hconn, ?_⟩
  exact ⟨rfl, rfl, rfl, rfl⟩

variable {id : ConnectionId} {conn : StreamingConnection D}

section

variable (h : m.OneEach)
include h

theorem OneEach.setConnection {conn' : StreamingConnection D}
    (hconn : m.connections[id]? = some conn) (hkeeps : conn'.direction = .inbound → conn.Keeps conn')
    (hset : m'.connections = (m.setConnection id conn').connections) : m'.OneEach := by
  refine h.of_kept fun k found hfound hin => ?_
  rw [hset, getElem?_setConnection] at hfound
  split at hfound
  next heq =>
    subst heq
    cases hfound
    exact ⟨conn, hconn, hkeeps hin⟩
  · exact ⟨found, hfound, rfl, rfl, rfl, rfl⟩

theorem OneEach.insertInbound {destination : D}
    (hfirst : ∀ (k : ConnectionId) (found : StreamingConnection D), m.connections[k]? = some found →
      found.direction = .inbound → found.peerDestination = some destination → found.remoteStreamId ≠ conn.remoteStreamId)
    (hpeer : conn.peerDestination = some destination) (hinsert : m'.connections = m.connections.insert id conn) :
    m'.OneEach := by
  have hlookup : ∀ k, m'.connections[k]? = if id = k then some conn else m.connections[k]? := by
    intro k
    rw [hinsert]
    exact m.getElem?_setConnection id k conn
  rintro a b ⟨found, found', hfound, hfound', hin, hin', hsame, hremote⟩
  rw [hlookup] at hfound hfound'
  split at hfound
  next heqa =>
    cases hfound
    split at hfound'
    next heqb => exact heqa.symm.trans heqb
    · exact absurd hremote (hfirst b found' hfound' hin' (hsame.trans hpeer))
  · split at hfound'
    · cases hfound'
      exact absurd hremote.symm (hfirst a found hfound hin (hsame.symm.trans hpeer))
    · exact h a b ⟨found, found', hfound, hfound', hin, hin', hsame, hremote⟩

theorem OneEach.insertOutbound
    (hout : conn.direction = .outbound) (hinsert : m'.connections = m.connections.insert id conn) : m'.OneEach := by
  refine h.of_kept fun k found hfound hin => ?_
  rw [hinsert] at hfound
  have hfound := (m.getElem?_setConnection id k conn).symm.trans hfound
  split at hfound
  · cases hfound
    exact nomatch hout.symm.trans hin
  · exact ⟨found, hfound, rfl, rfl, rfl, rfl⟩

theorem OneEach.modifyConnection (id : ConnectionId)
    {change : StreamingConnection D → StreamingConnection D} (hkeeps : ∀ conn : StreamingConnection D, conn.Keeps (change conn)) :
    (m.modifyConnection id change).OneEach :=
  modifyConnection_preserves h fun conn hconn => h.setConnection hconn (fun _ => hkeeps conn) rfl

theorem OneEach.pollRetransmits (nowMs : Nat) : (m.pollRetransmits nowMs).2.OneEach := by
  refine pollRetransmits_keeps (P := OneEach) ?_ ?_ h
  · exact fun _ _ _ hm => hm.of_eq rfl
  · intro m id sequence packet hm
    have htracked : (m.modifyTracked id (·.insert sequence packet)).OneEach := hm.of_eq rfl
    have hkeeps : ∀ conn : StreamingConnection D, conn.Keeps (conn.markRetransmitted sequence nowMs) :=
      fun _ => ⟨rfl, rfl, rfl, rfl⟩
    exact (htracked.modifyConnection id hkeeps).of_eq rfl

theorem OneEach.change (hlinked : m.Linked) (hu : Unrepeated prim m request)
    (hchange : Change prim m request m') : m'.OneEach := by
  cases hchange with
  | counted | popped => exact h.of_eq rfl
  | connected _ _ _ _ hconn => exact h.insertOutbound hconn.direction rfl
  | entered _ _ hbytes hsyn _ _ hpeer hremote =>
    exact h.insertInbound (fun k found hfound hin hdestination => hremote ▸
      hu.first _ _ _ hbytes hsyn k found hfound hin hdestination) hpeer rfl
  | refused connectionCounter streamCounter hbytes hsyn hunused =>
    have hfresh := hu.opens (ManagerRequest.opens_of_isSyn hbytes hsyn)
    obtain ⟨a, b, heq⟩ := hlinked.refused hfresh hunused _ connectionCounter streamCounter
    rw [heq]
    exact h.of_eq rfl
  | @answered _ _ packet _ _ id conn nowMs _ _ _ hid hconn =>
    refine h.setConnection hconn (fun hin => ?_) rfl
    -- a SYN response names the remote stream of outbound connections only
    obtain ⟨found, hfound, hout, -⟩ := (hlinked.outbound _ _).mp hid
    cases hconn.symm.trans hfound
    rw [(StreamingConnection.synResponseTransition_placed packet nowMs conn).1, hout] at hin
    cases hin
  | @took _ _ packet id conn nowMs hbytes hdata =>
    obtain ⟨_, _, _, _, _, hconn, _⟩ := hdata
    have hkeeps := conn.takeData_keeps packet nowMs
    obtain ⟨_, heq, -⟩ := m.takeData_eq packet id conn nowMs
    rw [heq]
    exact h.setConnection hconn (fun _ => hkeeps) rfl
  | @accepted _ _ id _ _ advertisedMaxPayload nowMs conn response hconn =>
    have hkeeps := StreamingConnection.acceptTransition_keeps advertisedMaxPayload nowMs conn
    exact h.setConnection hconn (fun _ => hkeeps) (releaseSynPayload_connections _ id)
  | @unaccepted _ _ _ _ _ advertisedMaxPayload _ conn hconn =>
    have hkeeps : conn.Keeps { conn with localAdvertisedMaxPayload := advertisedMaxPayload } := ⟨rfl, rfl, rfl, rfl⟩
    exact h.setConnection hconn (fun _ => hkeeps) rfl
  | sent _ hconn hsend =>
    refine h.setConnection hconn (fun _ => ?_) rfl
    obtain ⟨sendWindow, -, -, rfl⟩ := StreamingConnection.enqueueSend_state hsend
    exact ⟨rfl, rfl, rfl, rfl⟩
  | closed _ hconn =>
    exact h.setConnection hconn (fun _ => (closeTransition_moves _ _ _).keeps) rfl
  | reset hconn => exact h.setConnection hconn (fun _ => (resetTransition_moves _ _).keeps) rfl
  | polled => exact h.pollRetransmits _
  | @listened port =>
    obtain ⟨_, heq⟩ := m.listen_eq port
    rw [heq]
    exact h.of_eq rfl
  | @removed id =>
    refine h.of_kept fun k conn hconn _ => ?_
    rw [getElem?_removeConnection] at hconn
    split at hconn
    · cases hconn
    · exact ⟨conn, hconn, rfl, rfl, rfl, rfl⟩
  | @used id use => exact h.modifyConnection id (hu.names id use rfl)

end

end Origins

/-- Only a new connection gets a SYN payload put aside. -/
def Spends (m m' : StreamingManager D) : Prop :=
  ∀ id ∈ m.connections, id ∈ m'.pendingSynPayloads → id ∈ m.pendingSynPayloads

theorem spends_of_eq (h : m'.pendingSynPayloads = m.pendingSynPayloads) : m.Spends m' :=
  fun _ _ hk => h ▸ hk

theorem Change.spends (hn : Numbered prim m request) (hchange : Change prim m request m') : m.Spends m' := by
  cases hchange with
  | @entered _ _ packet _ _ _ _ _ _ hbytes hsyn =>
    have hfresh := hn.opens (ManagerRequest.opens_of_isSyn hbytes hsyn)
    intro k hk hpayload
    change k ∈ (if packet.payload = [] then m.pendingSynPayloads
      else m.pendingSynPayloads.insert m.nextConnectionId packet.payload) at hpayload
    split at hpayload
    · exact hpayload
    rcases TreeMap.mem_insert.mp hpayload with rfl | hpayload
    · exact absurd hk hfresh
    · exact hpayload
  | refused | removed => exact fun _ _ hk => (ExtTreeMap.mem_erase.mp hk).2
  | @took _ _ packet id conn nowMs =>
    obtain ⟨_, heq, -⟩ := m.takeData_eq packet id conn nowMs
    rw [heq]
    exact spends_of_eq rfl
  | @accepted _ _ id _ _ advertisedMaxPayload nowMs conn =>
    obtain ⟨_, _, _, heq, hpayloads⟩ :=
      releaseSynPayload_eq (m.setConnection id (acceptTransition advertisedMaxPayload nowMs conn).2) id
    rw [heq]
    exact fun k _ => hpayloads k
  | polled => exact spends_of_eq (m.pollRetransmits_frame _).2.1
  | @listened port =>
    obtain ⟨_, heq⟩ := m.listen_eq port
    rw [heq]
    exact spends_of_eq rfl
  | _ => exact spends_of_eq rfl

/-- What `accept_inbound_syn` delivers is the SYN payload put aside, and then it is gone. -/
theorem acceptInboundSyn_releases (prim : StreamingPrimitives D) (m : StreamingManager D)
    (localDest : DestinationIdentity D) (remote : RemoteDestination) (id : ConnectionId)
    (localPort remotePort advertisedMaxPayload : UInt16) (nowMs : Nat) :
    Ends (acceptInboundSyn prim localDest remote id localPort remotePort advertisedMaxPayload nowMs) m fun _ m' =>
      m'.pendingDelivered = m.pendingDelivered ∨
        ∃ bytes, m'.pendingDelivered = m.pendingDelivered ++ [⟨id, bytes⟩] ∧ id ∈ m.pendingSynPayloads ∧
          id ∉ m'.pendingSynPayloads := by
  unfold acceptInboundSyn
  rw [ends_state_bind]
  refine .guard (fun _ => .inl rfl) fun conn hconn => ?_
  refine .guard (fun _ => .inl rfl) fun _ _ => ?_
  refine .guard (fun _ => .inl rfl) fun response _ => ?_
  refine ends_onConnection m (ofOption_eq_ok hconn) (fun _ _ => ?_) fun _ _ => .inl rfl
  rw [ends_update_bind, ends_pure]
  rcases (m.setConnection id (acceptTransition advertisedMaxPayload nowMs conn).2).releaseSynPayload_cases id with
    ⟨-, heq⟩ | ⟨bytes, held, hbytes, heq⟩
  · rw [heq]
    exact .inl rfl
  · rw [heq]
    refine .inr ⟨bytes, rfl, TreeMap.mem_of_getElem? hbytes, fun hmem => ?_⟩
    exact (ExtTreeMap.mem_erase.mp hmem).1 Std.ReflCmp.compare_self

theorem run_releases (hrun : request.run prim m = some (r, m')) :
    m.releases m' request = [] ∨
      ∃ id, m.releases m' request = [id] ∧ id ∈ m.pendingSynPayloads ∧ id ∉ m'.pendingSynPayloads := by
  unfold releases
  split
  next localDest remote id localPort remotePort advertisedMaxPayload nowMs =>
    have hends := acceptInboundSyn_releases prim m localDest remote id localPort remotePort advertisedMaxPayload nowMs
    rcases hends.ignore_state r m' hrun with hnone | ⟨bytes, hdelivered, hrest⟩
    · left
      rw [hnone, drop_length, map_nil]
    · right
      refine ⟨id, ?_, hrest⟩
      rw [hdelivered, drop_left]
      rfl
  · exact .inl rfl

/-- The tables are linked, no originator has two connections, and a payload once delivered is not kept. -/
structure Once (m : StreamingManager D) (log : List ConnectionId) : Prop where
  linked : m.Linked
  oneEach : m.OneEach
  nodup : log.Nodup
  spent : ∀ id ∈ log, id ∈ m.connections ∧ id ∉ m.pendingSynPayloads

theorem once_new (config : StreamingConfig) : Once (new config : StreamingManager D) [] where
  linked := linked_new config
  oneEach := by
    rintro id k ⟨conn, conn', hconn, -⟩
    simp [new] at hconn
  nodup := nodup_nil
  spent := nofun

theorem Once.step {log : List ConnectionId} (h : Once m log)
    (hu : Unrepeated prim m request) (hrun : request.run prim m = some (r, m')) :
    Once m' ((log ++ m.releases m' request).filter (· ∈ m'.connections)) := by
  obtain ⟨changed, hchange, htidies⟩ := (run_outcome prim m request r m' hrun).change
  have hlinked : m'.Linked := (h.linked.change hu.toNumbered hchange).tidies htidies
  have hone : m'.OneEach := (h.oneEach.change h.linked hu hchange).of_eq htidies.connections
  have hspends : m.Spends m' := fun k hk hpayload =>
    hchange.spends hu.toNumbered k hk (htidies.pendingSynPayloads ▸ hpayload)
  have hkept : ∀ k ∈ log, k ∉ m'.pendingSynPayloads := fun k hk hpayload =>
    (h.spent k hk).2 (hspends k (h.spent k hk).1 hpayload)
  rcases run_releases hrun with hnone | ⟨id, hid, hheld, hgone⟩
  · rw [hnone, append_nil]
    refine ⟨hlinked, hone, h.nodup.filter _, fun k hk => ?_⟩
    obtain ⟨hk, hmem⟩ := mem_filter.mp hk
    exact ⟨of_decide_eq_true hmem, hkept k hk⟩
  · rw [hid]
    -- a payload that was still aside is in no earlier entry of the log
    have hnew : id ∉ log := fun hlog => (h.spent id hlog).2 hheld
    refine ⟨hlinked, hone, List.Nodup.filter _ ?_, fun k hk => ?_⟩
    · exact nodup_append.mpr ⟨h.nodup, nodup_singleton id, fun a ha b hb => by
        rw [mem_singleton.mp hb]
        exact fun heq => hnew (heq ▸ ha)⟩
    · obtain ⟨hk, hmem⟩ := mem_filter.mp hk
      exact ⟨of_decide_eq_true hmem,
        forall_mem_append.mpr ⟨hkept, forall_mem_singleton.mpr hgone⟩ k hk⟩

/-- As long as no SYN comes again while its connection is in the table, no originator has two connections, and none has
its SYN payload delivered twice. -/
theorem syn_once_of_unrepeated {prim : StreamingPrimitives D} {config : StreamingConfig} {m : StreamingManager D}
    {log : List ConnectionId} (h : Releases prim config (Unrepeated prim) m log) :
    m.OneEach ∧ log.Pairwise fun id k => ¬ m.SameOrigin id k := by
  have honce : Once m log := by
    induction h with
    | new => exact once_new config
    | step request before hallowed hrun ih => exact ih.step hallowed hrun
  refine ⟨honce.oneEach, honce.nodup.imp ?_⟩
  intro id k hne hsame
  exact hne (honce.oneEach id k hsame)

section Sample

/-- The state and the log after the requests, if all of them return. -/
def afterReleases (prim : StreamingPrimitives D) :
    List (ManagerRequest D) → StreamingManager D → List ConnectionId → Option (StreamingManager D × List ConnectionId)
  | [], m, log => some (m, log)
  | request :: requests, m, log => (request.run prim m).bind fun ended =>
    afterReleases prim requests ended.2 ((log ++ m.releases ended.2 request).filter (· ∈ ended.2.connections))

theorem Releases.after {config : StreamingConfig} {requests : List (ManagerRequest D)} {log log' : List ConnectionId}
    (h : Releases prim config (fun _ _ => True) m log)
    (hafter : afterReleases prim requests m log = some (m', log')) : Releases prim config (fun _ _ => True) m' log' := by
  induction requests generalizing m log with
  | nil =>
    cases hafter
    exact h
  | cons request requests ih =>
    obtain ⟨⟨r, next⟩, hrun, hafter⟩ := Option.bind_eq_some_iff.mp hafter
    exact ih (h.step request trivial hrun) hafter

def sampleSynData : ManagerRequest Bool := .call (sampleCall (sampleSyn true ++ [9]))

def sampleAccept (id : ConnectionId) : ManagerRequest Bool :=
  .call (.acceptInboundSyn (sampleIdentity false) (sampleRemote true) id 0 0 1812 0)

set_option maxRecDepth 4000 in
/-- The SYN comes once and is accepted. -/
theorem syn_once_sampleAccept :
    ∃ m log, Releases samplePrimitives .balanced (Unrepeated samplePrimitives) m log ∧ log = [1] ∧ m.OneEach ∧
      log.Pairwise fun id k => ¬ m.SameOrigin id k := by
  have hlistening : Releases samplePrimitives .balanced (Unrepeated samplePrimitives) ((new .balanced).listen 0).2 [] :=
    .step (.call (.listen 0)) .new ⟨⟨fun _ => ExtTreeMap.not_mem_empty, trivial⟩, nofun, nofun⟩ rfl
  have hsyn := hlistening.step sampleSynData ⟨⟨fun _ => ExtTreeMap.not_mem_empty, trivial⟩, ?_, nofun⟩ rfl
  · have hreach := hsyn.step (sampleAccept 1) ⟨⟨nofun, trivial⟩, nofun, nofun⟩ rfl
    exact ⟨_, _, hreach, by decide +kernel, syn_once_of_unrepeated hreach⟩
  · intro _ _ _ _ _ id conn hconn
    change (∅ : ExtTreeMap ConnectionId (StreamingConnection Bool))[id]? = some conn at hconn
    simp at hconn

set_option maxRecDepth 4000 in
theorem syn_accepted_twice :
    ∃ m log, Releases samplePrimitives .balanced (fun _ _ => True) m log ∧ log = [1, 2] ∧ m.SameOrigin 1 2 ∧
      ¬ m.OneEach := by
  have hafter : afterReleases samplePrimitives [.call (.listen 0), sampleSynData, sampleSynData, sampleAccept 1,
      sampleAccept 2] (.new .balanced) [] = some (_, _) := rfl
  refine ⟨_, _, Releases.new.after hafter, by decide +kernel, ?_⟩
  suffices hsame : SameOrigin _ 1 2 from ⟨hsame, fun hone => nomatch hone 1 2 hsame⟩
  exact ⟨_, _, rfl, rfl, rfl, rfl, rfl, rfl⟩

end Sample

end StreamingManager

end I2pr
