import I2pr.SendWindowBounds
import I2pr.StreamingSynOnce

namespace I2pr

open Call Std ExtTreeMap SendWindowPolicy ConnectionState

variable {D : Type}

/-- The state of a connection whose books are kept: it may still become established, or it is. -/
def ConnectionState.counts (state : ConnectionState) : Bool := state.awaiting || state = .established

namespace CongestionPolicy

theorem inFlight_recordAcked (policy : CongestionPolicy) : policy.recordAcked.inFlight = policy.inFlight - 1 := by
  unfold recordAcked
  dsimp only
  split
  · rfl
  · rfl

theorem inFlight_foldl_recordAcked {A : Type} (acked : List A) (policy : CongestionPolicy) :
    (acked.foldl (fun policy _ => policy.recordAcked) policy).inFlight = policy.inFlight - acked.length := by
  induction acked generalizing policy with
  | nil => rfl
  | cons entry acked ih =>
    rw [List.foldl_cons, ih, inFlight_recordAcked, List.length_cons]
    omega

end CongestionPolicy

namespace StreamingConnection

/-- The books of a connection: the data packets in its send window are the ones tracked for it, and all of them count as
in flight. -/
structure Balanced (conn : StreamingConnection D) (tracked : ExtTreeMap UInt32 OutboundPacket) : Prop where
  sequences : ∀ sequence, sequence ≠ 0 → (sequence ∈ conn.sendWindow.unacked ↔ sequence ∈ tracked)
  inFlight : conn.congestion.inFlight = conn.sendWindow.unacked.size

/-- And they lie between the last acknowledgement and the next sequence, unless that has wrapped around. -/
structure Accounted (conn : StreamingConnection D) (tracked : ExtTreeMap UInt32 OutboundPacket) : Prop extends
    conn.Balanced tracked where
  above : ∀ q ∈ conn.sendWindow.unacked, conn.sendWindow.lastAck < q
  below : conn.sendWindow.nextSequence = 0 ∨ ∀ q ∈ conn.sendWindow.unacked, q < conn.sendWindow.nextSequence

variable {conn conn' : StreamingConnection D} {tracked tracked' : ExtTreeMap UInt32 OutboundPacket}

/-- Only the send window, the packets in flight and the sequences tracked are on the books. -/
theorem Accounted.of_same (h : conn.Accounted tracked) (hwindow : conn'.sendWindow = conn.sendWindow)
    (hcongestion : conn'.congestion = conn.congestion)
    (htracked : ∀ sequence, sequence ≠ 0 → (sequence ∈ tracked' ↔ sequence ∈ tracked)) : conn'.Accounted tracked' := by
  refine ⟨⟨fun sequence hne => ?_, ?_⟩, ?_, ?_⟩
  · rw [hwindow, htracked sequence hne]
    exact h.sequences sequence hne
  · rw [hwindow, hcongestion]
    exact h.inFlight
  · rw [hwindow]
    exact h.above
  · rw [hwindow]
    exact h.below

variable {window : SendWindowPolicy}

theorem Accounted.remark (h : conn.Accounted tracked)
    (hkeys : ∀ q, q ∈ window.unacked ↔ q ∈ conn.sendWindow.unacked) (hlast : window.lastAck = conn.sendWindow.lastAck)
    (hnext : window.nextSequence = conn.sendWindow.nextSequence) : { conn with sendWindow := window }.Accounted tracked where
  sequences sequence hne := (hkeys sequence).trans (h.sequences sequence hne)
  inFlight := h.inFlight.trans (TreeMap.size_eq_size hkeys).symm
  above q hq := by
    change window.lastAck < q
    rw [hlast]
    exact h.above q ((hkeys q).mp hq)
  below := by
    change window.nextSequence = 0 ∨ ∀ q ∈ window.unacked, q < window.nextSequence
    rw [hnext]
    exact h.below.imp_right fun hall q hq => hall q ((hkeys q).mp hq)

theorem Begins.accounted {direction : StreamDirection} {state : ConnectionState} {streamId : UInt32}
    (h : conn.Begins direction state streamId) : conn.Accounted ∅ := by
  refine ⟨⟨fun sequence _ => ?_, ?_⟩, fun q hq => ?_, .inr fun q hq => ?_⟩
  · rw [h.sendWindow]
    exact iff_of_false not_mem_empty not_mem_empty
  · rw [h.sendWindow, h.congestion]
    rfl
  · rw [h.sendWindow] at hq
    exact absurd hq not_mem_empty
  · rw [h.sendWindow] at hq
    exact absurd hq not_mem_empty

theorem Accounted.enqueueSend (h : conn.Accounted tracked)
    (hlast : conn.sendWindow.lastAck < conn.sendWindow.nextSequence) {payloadLen nowMs : Nat} {sequence : UInt32}
    (hsend : conn.enqueueSend payloadLen nowMs = .ok (sequence, conn')) (packet : OutboundPacket) :
    conn'.Accounted (tracked.insert sequence packet) := by
  obtain ⟨sendWindow, henqueue, -, rfl⟩ := enqueueSend_state hsend
  unfold enqueue at henqueue
  obtain ⟨hroom, henqueue⟩ := Fallible.ite_error_eq_ok.mp henqueue
  cases henqueue
  have hne : conn.sendWindow.nextSequence ≠ 0 := by
    rintro hzero
    rw [hzero] at hlast
    exact UInt32.not_lt_zero hlast
  have hall := h.below.resolve_left hne
  have hnew : conn.sendWindow.nextSequence ∉ conn.sendWindow.unacked := fun hmem => UInt32.lt_irrefl _ (hall _ hmem)
  refine ⟨⟨fun q hq => ?_, ?_⟩, fun q hq => ?_, ?_⟩
  · rw [mem_insert, mem_insert, h.sequences q hq]
  · dsimp only
    have hsize : conn.sendWindow.unacked.size < 65536 := by
      have hfits := conn.sendWindow.config.maxWindowPackets.toNat_lt
      have hpackets : ¬ conn.sendWindow.config.maxWindowPackets.toNat < saturatingAdd conn.sendWindow.unacked.size 1 :=
        fun hfull => hroom (by rw [evaluate, if_pos (.inl hfull)])
      unfold saturatingAdd at hpackets
      omega
    rw [size_insert, if_neg (by rwa [← mem_iff_contains]), ← h.inFlight]
    rw [← h.inFlight] at hsize
    unfold CongestionPolicy.recordSent saturatingAdd32
    dsimp only
    omega
  · rcases TreeMap.mem_insert.mp hq with rfl | hq
    · exact hlast
    · exact h.above q hq
  · by_cases hwrap : conn.sendWindow.nextSequence + 1 = 0
    · exact .inl hwrap
    · refine .inr fun q hq => ?_
      have hstep : conn.sendWindow.nextSequence < conn.sendWindow.nextSequence + 1 := by
        have hwrap : (conn.sendWindow.nextSequence + 1).toNat ≠ 0 := fun h => hwrap (UInt32.toNat_inj.mp h)
        rw [UInt32.toNat_add] at hwrap
        rw [UInt32.lt_iff_toNat_lt, UInt32.toNat_add]
        have hfits := conn.sendWindow.nextSequence.toNat_lt
        change (conn.sendWindow.nextSequence.toNat + 1) % 2 ^ 32 ≠ 0 at hwrap
        change conn.sendWindow.nextSequence.toNat < (conn.sendWindow.nextSequence.toNat + 1) % 2 ^ 32
        omega
      rcases TreeMap.mem_insert.mp hq with rfl | hq
      · exact hstep
      · exact UInt32.lt_trans (hall q hq) hstep

theorem Accounted.receiveAck (h : conn.Accounted tracked) (packet : StreamingPacket D) (nowMs : Nat) :
    (conn.receiveAck packet.ackThrough packet.nacks nowMs).Accounted
      (tracked.filter fun sequence _ => !packet.covers sequence) := by
  have hmem := mem_acknowledge h.above packet.ackThrough packet.nacks
  refine ⟨⟨fun sequence hne => ?_, ?_⟩, ?_, ?_⟩
  · have hcovers : packet.covers sequence = true ↔
        sequence ≤ packet.ackThrough ∧ ¬ (sequence ∈ packet.nacks ∧ sequence < packet.ackThrough) := by
      simp only [StreamingPacket.covers, Bool.and_eq_true, Bool.not_eq_true', ← Bool.not_eq_true, decide_eq_true_eq]
    refine (hmem sequence).trans ?_
    rw [h.sequences sequence hne, mem_filter, ← hcovers]
    simp
  · have hcounts := conn.sendWindow.acknowledge_counts packet.ackThrough packet.nacks
    have hfolded := CongestionPolicy.inFlight_foldl_recordAcked
      (conn.sendWindow.acknowledge packet.ackThrough packet.nacks).2.newlyAcked conn.congestion
    rw [h.inFlight] at hfolded
    unfold StreamingConnection.receiveAck
    dsimp only
    split
    · omega
    change CongestionPolicy.inFlight _ = _
    unfold CongestionPolicy.recordLoss
    dsimp only
    omega
  · exact acknowledge_above h.above packet.ackThrough packet.nacks
  · unfold StreamingConnection.receiveAck
    dsimp only
    rw [(acknowledge_frame ..).2]
    exact h.below.imp_right fun hall q hq => hall q ((hmem q).mp hq).1

/-- No entry of the window that is due has used up its attempts. -/
def HasAttempts (conn : StreamingConnection D) (nowMs : Nat) : Prop :=
  ∀ (sequence : UInt32) (entry : UnackedEntry), conn.sendWindow.unacked[sequence]? = some entry →
    conn.retransmit.currentRtoMs ≤ nowMs - entry.sentAtMs → entry.retransmitCount < conn.config.maxRetransmitCount.toNat

theorem expire_spec {maxRetransmitCount nowMs : Nat} {sequence : UInt32}
    (hattempts : ∀ entry, window.unacked[sequence]? = some entry → entry.retransmitCount < maxRetransmitCount) :
    expire maxRetransmitCount nowMs window sequence = window.markRetransmitted sequence nowMs := by
  unfold expire
  split
  next entry hentry => exact if_neg (Nat.not_le.mpr (hattempts entry hentry))
  · rfl

theorem getElem?_expire_other {maxRetransmitCount nowMs : Nat} {sequence other : UInt32} (hne : sequence ≠ other) :
    (expire maxRetransmitCount nowMs window sequence).unacked[other]? = window.unacked[other]? := by
  have hmark : (window.markRetransmitted sequence nowMs).unacked[other]? = window.unacked[other]? := by
    unfold SendWindowPolicy.markRetransmitted
    split
    · exact TreeMap.getElem?_insert_of_ne hne
    · rfl
  unfold expire
  split
  · split
    · unfold SendWindowPolicy.remove
      split
      · exact TreeMap.getElem?_erase_of_ne hne
      · rfl
    · exact hmark
  · exact hmark

theorem nodup_expiredEntries (window : SendWindowPolicy) (nowMs rtoMs : Nat) :
    (window.expiredEntries nowMs rtoMs).Nodup :=
  List.pairwise_map.mpr ((TreeMap.pairwise_toList window.unacked).sublist List.filter_sublist)

variable {nowMs : Nat}

theorem Accounted.advance (h : conn.Accounted tracked) (hattempts : conn.HasAttempts nowMs) :
    (conn.advance nowMs).Accounted tracked := by
  unfold StreamingConnection.advance
  split
  · exact h
  split
  · have hmoves : conn.Moves (conn.orSame (conn.reset nowMs)) := orSame_moves fun _ => reset_moves
    rw [hmoves]
    exact h.of_same rfl rfl fun _ _ => Iff.rfl
  next =>
    -- every expired entry is counted, and the entries still to come are as they were
    have hfolded := TreeMap.foldl_of_remaining (f := expire conn.config.maxRetransmitCount.toNat nowMs)
      (P := fun window => (∀ q, q ∈ window.unacked ↔ q ∈ conn.sendWindow.unacked) ∧
        window.lastAck = conn.sendWindow.lastAck ∧ window.nextSequence = conn.sendWindow.nextSequence)
      (Q := fun window sequence => ∀ entry, window.unacked[sequence]? = some entry →
        entry.retransmitCount < conn.config.maxRetransmitCount.toNat) ?_ ?_
      (nodup_expiredEntries conn.sendWindow nowMs conn.retransmit.currentRtoMs)
      (s := conn.sendWindow) ⟨fun _ => Iff.rfl, rfl, rfl⟩ ?_
    · exact h.remark hfolded.1 hfolded.2.1 hfolded.2.2
    · rintro window sequence ⟨hkeys, hlast, hnext⟩ hneeds
      rw [expire_spec hneeds]
      refine ⟨fun q => (mem_markRetransmitted ..).trans (hkeys q), ?_, ?_⟩
      · rw [lastAck_markRetransmitted, hlast]
      · rw [markRetransmitted_nextSequence, hnext]
    · intro window a b hne hneeds entry hentry
      rw [getElem?_expire_other hne] at hentry
      exact hneeds entry hentry
    · intro sequence hexpired entry hentry
      obtain ⟨⟨_, found⟩, hfound, rfl⟩ := List.mem_map.mp hexpired
      obtain ⟨hfound, hdue⟩ := List.mem_filter.mp hfound
      rw [mem_toList_iff_getElem?_eq_some] at hfound
      cases hfound.symm.trans hentry
      exact hattempts _ _ hentry (of_decide_eq_true hdue)

theorem counts_of_reset (h : (conn.orSame (conn.reset nowMs)).state.counts) : conn.state.counts := by
  unfold StreamingConnection.reset at h
  split at h
  · exact h
  · cases h

theorem counts_of_advance (h : (conn.advance nowMs).state.counts) : conn.state.counts := by
  unfold StreamingConnection.advance at h
  split at h
  · exact h
  split at h
  · exact counts_of_reset h
  · exact h

theorem counts_of_applyControl {packet : StreamingPacket D}
    (h : (conn.applyControl packet nowMs).state.counts) : conn.state.counts := by
  have hclosed : (if packet.flags.close then conn.applyClose nowMs else conn).state.counts := by
    unfold applyControl at h
    dsimp only at h
    split at h
    · exact counts_of_reset h
    · exact h
  split at hclosed
  · unfold applyClose at hclosed
    split at hclosed
    next hstate =>
      rw [hstate]
      rfl
    next hstate =>
      rw [StreamingConnection.close, if_neg (by rw [hstate]; decide)] at hclosed
      cases hclosed
    · exact hclosed
  · exact hclosed

theorem not_counts_closeTransition (h : conn.state = .established ∨ conn.state = .closingRemote) (nowMs : Nat) :
    ¬ (StreamingManager.closeTransition (conn.state = .closingRemote) nowMs conn).2.state.counts := by
  unfold StreamingManager.closeTransition beginClose
  rcases h with h | h
  · simp [h, counts, awaiting]
  · simp [h, counts, awaiting, StreamingConnection.close, orSame]

theorem Accounted.takePacket (h : conn.Accounted tracked) (packet : StreamingPacket D) (nowMs : Nat) :
    (conn.takePacket packet nowMs).1.Accounted
      (if !packet.flags.noAck && !conn.state.terminated then tracked.filter fun sequence _ => !packet.covers sequence
        else tracked) := by
  have hacked : (if !packet.flags.noAck && !conn.state.terminated then
      conn.receiveAck packet.ackThrough packet.nacks nowMs else conn).Accounted
      (if !packet.flags.noAck && !conn.state.terminated then tracked.filter fun sequence _ => !packet.covers sequence
        else tracked) := by
    split
    · exact h.receiveAck packet nowMs
    · exact h
  unfold StreamingConnection.takePacket
  dsimp only
  split
  · exact hacked
  · exact hacked.of_same rfl rfl fun _ _ => Iff.rfl

end StreamingConnection

namespace StreamingManager

/-- The books of every connection that may still become established, or is. -/
def Accounted (m : StreamingManager D) : Prop :=
  ∀ (id : ConnectionId) (conn : StreamingConnection D), m.connections[id]? = some conn → conn.state.counts →
    conn.Accounted (m.outboundPackets.getD id ∅)

/-- The loop of `poll_retransmits` gives the record up: it is due and has used up its attempts. -/
def GivesUp (m : StreamingManager D) (nowMs rtoMs : Nat) (id : ConnectionId) (sequence : UInt32) : Prop :=
  ∃ packet, (m.outboundPackets[id]?).bind (·[sequence]?) = some packet ∧ rtoMs ≤ nowMs - packet.sentAtMs ∧
    m.config.maxRetransmitCount.toNat ≤ packet.retransmitCount

/-- Data is sent only above the last acknowledgement, no data packet is given up, and the application only advances a
connection. -/
def Accountable (m : StreamingManager D) : ManagerRequest D → Prop
  | .call (.sendData id ..) => ∀ conn, m.connections[id]? = some conn →
      conn.sendWindow.lastAck < conn.sendWindow.nextSequence
  | .call (.pollRetransmits nowMs) => ∀ (id : ConnectionId) (conn : StreamingConnection D),
      m.connections[id]? = some conn → conn.state.counts → ∀ sequence, sequence ≠ 0 →
        ¬ m.GivesUp nowMs conn.retransmit.currentRtoMs id sequence
  | .call (.useConnection id use) => ∃ nowMs, use.apply = (·.advance nowMs) ∧
      ∀ conn, m.connections[id]? = some conn → conn.HasAttempts nowMs
  | _ => True

section Accounts

variable {m m' : StreamingManager D}

theorem Accounted.of_eq (h : m.Accounted) (hconnections : m'.connections = m.connections)
    (htracked : m'.outboundPackets = m.outboundPackets) : m'.Accounted := by
  unfold Accounted
  rw [hconnections, htracked]
  exact h

theorem Accounted.update (h : m.Accounted) (id : ConnectionId)
    (hconnections : ∀ k, id ≠ k → m'.connections[k]? = m.connections[k]?)
    (htracked : ∀ k, id ≠ k → m'.outboundPackets.getD k ∅ = m.outboundPackets.getD k ∅)
    (hid : ∀ conn, m'.connections[id]? = some conn → conn.state.counts → conn.Accounted (m'.outboundPackets.getD id ∅)) :
    m'.Accounted := by
  intro k conn hconn hcounts
  by_cases heq : id = k
  · subst heq
    exact hid conn hconn hcounts
  rw [hconnections k heq] at hconn
  rw [htracked k heq]
  exact h k conn hconn hcounts

variable {id : ConnectionId}

theorem Accounted.replace (h : m.Accounted) {conn' : StreamingConnection D}
    (hconnections : m'.connections = m.connections.insert id conn')
    (htracked : ∀ k, id ≠ k → m'.outboundPackets.getD k ∅ = m.outboundPackets.getD k ∅)
    (hid : conn'.state.counts → conn'.Accounted (m'.outboundPackets.getD id ∅)) : m'.Accounted := by
  refine h.update id (fun k hne => ?_) htracked fun found hfound hcounts => ?_
  · rw [hconnections, TreeMap.getElem?_insert_of_ne hne]
  · rw [hconnections, getElem?_insert_self] at hfound
    cases hfound
    exact hid hcounts

theorem Accounted.insert (h : m.Accounted) {conn : StreamingConnection D} {direction : StreamDirection}
    {state : ConnectionState} {streamId : UInt32} (hconn : conn.Begins direction state streamId)
    (hconnections : m'.connections = m.connections.insert id conn)
    (htracked : m'.outboundPackets = m.outboundPackets.insert id ∅) : m'.Accounted := by
  refine h.replace hconnections (fun k hne => ?_) fun _ => ?_
  · rw [htracked, TreeMap.getD_insert_of_ne hne]
  · rw [htracked, getD_insert_self]
    exact hconn.accounted

theorem Accounted.erase (h : m.Accounted) (hconnections : m'.connections = m.connections.erase id)
    (htracked : m'.outboundPackets = m.outboundPackets.erase id) : m'.Accounted := by
  refine h.update id (fun k hne => ?_) (fun k hne => ?_) fun conn hconn _ => ?_
  · rw [hconnections, TreeMap.getElem?_erase_of_ne hne]
  · rw [htracked, TreeMap.getD_erase_of_ne hne]
  · rw [hconnections, getElem?_erase_self] at hconn
    cases hconn

theorem Accounted.setConnection (h : m.Accounted) {conn conn' : StreamingConnection D}
    (hconn : m.connections[id]? = some conn) (hcounts : conn'.state.counts → conn.state.counts)
    (hwindow : conn'.sendWindow = conn.sendWindow) (hcongestion : conn'.congestion = conn.congestion) :
    (m.setConnection id conn').Accounted :=
  h.replace rfl (fun _ _ => rfl) fun hc => (h id conn hconn (hcounts hc)).of_same hwindow hcongestion fun _ _ => Iff.rfl

theorem getD_track (m : StreamingManager D) (id : ConnectionId) (packet : OutboundPacket) :
    (m.track id packet).outboundPackets.getD id ∅ = (m.outboundPackets.getD id ∅).insert packet.sequence packet :=
  getD_insert_self

theorem getD_track_other (m : StreamingManager D) {k : ConnectionId} (hne : id ≠ k) (packet : OutboundPacket) :
    (m.track id packet).outboundPackets.getD k ∅ = m.outboundPackets.getD k ∅ :=
  TreeMap.getD_insert_of_ne hne

theorem getD_clearTracked (m : StreamingManager D) (id : ConnectionId) (packet : StreamingPacket D) :
    (m.clearTracked id packet).outboundPackets.getD id ∅ =
      (m.outboundPackets.getD id ∅).filter fun sequence _ => !packet.covers sequence := by
  unfold clearTracked modifyTracked
  rw [getD_modify, if_pos Std.ReflCmp.compare_self, getD_eq_getD_getElem?]
  cases m.outboundPackets[id]? with
  | none | some tracked => rfl

theorem getD_modifyTracked_other (m : StreamingManager D) {k : ConnectionId} (hne : id ≠ k)
    (change : ExtTreeMap UInt32 OutboundPacket → ExtTreeMap UInt32 OutboundPacket) :
    (m.modifyTracked id change).outboundPackets.getD k ∅ = m.outboundPackets.getD k ∅ := by
  unfold modifyTracked
  exact TreeMap.getD_modify_of_ne hne

theorem Accounted.takeData (h : m.Accounted) {packet : StreamingPacket D}
    {conn : StreamingConnection D} (hconn : m.connections[id]? = some conn) (nowMs : Nat) :
    (m.takeData packet id conn nowMs).Accounted := by
  have htook : ((conn.applyControl packet nowMs).takePacket packet nowMs).1.state.counts →
      ((conn.applyControl packet nowMs).takePacket packet nowMs).1.Accounted
        (if !packet.flags.noAck && !(conn.applyControl packet nowMs).state.terminated then
          (m.outboundPackets.getD id ∅).filter fun sequence _ => !packet.covers sequence
        else m.outboundPackets.getD id ∅) := by
    intro hcounts
    rw [StreamingConnection.takePacket_state] at hcounts
    have hcontrolled : (conn.applyControl packet nowMs).Accounted (m.outboundPackets.getD id ∅) := by
      rw [conn.applyControl_moves packet nowMs]
      exact (h id conn hconn (StreamingConnection.counts_of_applyControl hcounts)).of_same rfl rfl fun _ _ => Iff.rfl
    exact hcontrolled.takePacket packet nowMs
  unfold StreamingManager.takeData
  dsimp only
  split
  next hacks =>
    rw [if_pos hacks] at htook
    refine h.replace rfl (fun k hne => getD_modifyTracked_other _ hne _) fun hcounts => ?_
    rw [getD_clearTracked]
    exact htook hcounts
  next hacks =>
    rw [if_neg hacks] at htook
    exact h.replace rfl (fun _ _ => rfl) htook

section Poll

variable {nowMs rtoMs : Nat} {id k : ConnectionId} {sequence other : UInt32}

theorem record_modifyTracked_other (m : StreamingManager D)
    {change : ExtTreeMap UInt32 OutboundPacket → ExtTreeMap UInt32 OutboundPacket}
    (hother : id = k → ∀ tracked, (change tracked)[other]? = tracked[other]?) :
    ((m.modifyTracked id change).outboundPackets[k]?).bind (·[other]?) = (m.outboundPackets[k]?).bind (·[other]?) := by
  unfold modifyTracked
  rw [TreeMap.getElem?_modify]
  split
  next heq =>
    subst heq
    rw [Option.bind_map]
    exact Option.bind_congr fun tracked _ => hother rfl tracked
  · rfl

theorem pollRetransmit_other (m : StreamingManager D) (nowMs rtoMs : Nat) (hother : id = k → sequence ≠ other) :
    (pollRetransmit nowMs rtoMs id m sequence).config = m.config ∧
      ((pollRetransmit nowMs rtoMs id m sequence).outboundPackets[k]?).bind (·[other]?) =
        (m.outboundPackets[k]?).bind (·[other]?) := by
  refine pollRetransmit_preserves (P := fun m' => m'.config = m.config ∧
    (m'.outboundPackets[k]?).bind (·[other]?) = (m.outboundPackets[k]?).bind (·[other]?)) ⟨rfl, rfl⟩ ⟨rfl, ?_⟩
    fun packet => ⟨rfl, ?_⟩
  · exact m.record_modifyTracked_other fun heq _ => TreeMap.getElem?_erase_of_ne (hother heq)
  · exact m.record_modifyTracked_other fun heq _ => TreeMap.getElem?_insert_of_ne (hother heq)

theorem pollRetransmit_connections (m : StreamingManager D) {conn' : StreamingConnection D}
    (hconn : (pollRetransmit nowMs rtoMs id m sequence).connections[k]? = some conn') :
    ∃ conn, m.connections[k]? = some conn ∧ conn'.state = conn.state ∧ conn'.retransmit = conn.retransmit := by
  revert hconn
  refine pollRetransmit_preserves (P := fun m' => m'.connections[k]? = some conn' →
    ∃ conn, m.connections[k]? = some conn ∧ conn'.state = conn.state ∧ conn'.retransmit = conn.retransmit) ?_ ?_
    fun packet => ?_
  · exact fun hconn => ⟨conn', hconn, rfl, rfl⟩
  · exact fun hconn => ⟨conn', hconn, rfl, rfl⟩
  · intro hconn
    change (m.connections.modify id _)[k]? = some conn' at hconn
    rw [TreeMap.getElem?_modify] at hconn
    split at hconn
    · obtain ⟨conn, hfound, rfl⟩ := Option.map_eq_some_iff.mp hconn
      exact ⟨conn, hfound, rfl, rfl⟩
    · exact ⟨conn', hconn, rfl, rfl⟩

theorem givesUp_of_pollRetransmit (hother : id = k → sequence ≠ other) {dueMs : Nat}
    (h : (pollRetransmit nowMs rtoMs id m sequence).GivesUp nowMs dueMs k other) : m.GivesUp nowMs dueMs k other := by
  obtain ⟨packet, hpacket, hdue, hspent⟩ := h
  obtain ⟨hconfig, hrecord⟩ := m.pollRetransmit_other nowMs rtoMs hother
  exact ⟨packet, hrecord ▸ hpacket, hdue, hconfig ▸ hspent⟩

def Spares (m : StreamingManager D) (nowMs : Nat) (id : ConnectionId) : Prop :=
  ∀ conn, m.connections[id]? = some conn → conn.state.counts → ∀ sequence, sequence ≠ 0 →
    ¬ m.GivesUp nowMs conn.retransmit.currentRtoMs id sequence

theorem Spares.pollRetransmit_other (h : m.Spares nowMs k) (hne : id ≠ k) :
    (pollRetransmit nowMs rtoMs id m sequence).Spares nowMs k := by
  intro conn' hconn' hcounts other hzero hgives
  obtain ⟨conn, hconn, hstate, hretransmit⟩ := m.pollRetransmit_connections hconn'
  rw [hretransmit] at hgives
  rw [hstate] at hcounts
  exact h conn hconn hcounts other hzero (givesUp_of_pollRetransmit (fun heq => absurd heq hne) hgives)

theorem Spares.pollRetransmitsFor_other (h : m.Spares nowMs k) (hne : id ≠ k) :
    (pollRetransmitsFor nowMs m id).Spares nowMs k := by
  unfold pollRetransmitsFor
  split
  · exact h
  exact List.foldlRecOn (motive := fun m : StreamingManager D => m.Spares nowMs k) _ _ h fun m hm _ _ => hm.pollRetransmit_other hne

theorem Accounted.pollRetransmit (h : m.Accounted)
    (hkept : ∀ conn, m.connections[id]? = some conn → conn.state.counts → sequence ≠ 0 →
      ¬ m.GivesUp nowMs rtoMs id sequence) : (pollRetransmit nowMs rtoMs id m sequence).Accounted := by
  unfold StreamingManager.pollRetransmit
  split
  · exact h
  next packet hpacket =>
    obtain ⟨tracked, htracked, hrecord⟩ := Option.bind_eq_some_iff.mp hpacket
    have hgetD : m.outboundPackets.getD id ∅ = tracked := by
      rw [getD_eq_getD_getElem?, htracked]
      rfl
    have hmodified : ∀ change, (m.modifyTracked id change).outboundPackets.getD id ∅ = change tracked := by
      intro change
      unfold modifyTracked
      rw [getD_modify, if_pos Std.ReflCmp.compare_self, htracked]
      rfl
    split
    · exact h
    next hdue =>
      split
      next hspent =>
        refine h.update id (fun _ _ => rfl) (fun k hne => m.getD_modifyTracked_other hne _) fun conn hconn hcounts => ?_
        have hzero : sequence = 0 := by
          by_contra hne
          exact hkept conn hconn hcounts hne ⟨packet, hpacket, Nat.not_lt.mp hdue, hspent⟩
        refine (h id conn hconn hcounts).of_same rfl rfl fun q hq => ?_
        rw [hmodified, hgetD, mem_erase, hzero]
        exact and_iff_right fun heq => hq (Std.LawfulEqCmp.eq_of_compare heq).symm
      · refine h.update id (fun k hne => ?_) (fun k hne => m.getD_modifyTracked_other hne _) fun conn' hconn' hcounts => ?_
        · exact TreeMap.getElem?_modify.trans (if_neg hne)
        · change (m.connections.modify id _)[id]? = some conn' at hconn'
          rw [getElem?_modify_self] at hconn'
          obtain ⟨conn, hconn, rfl⟩ := Option.map_eq_some_iff.mp hconn'
          have hsame := h id conn hconn hcounts
          have hmarked := hsame.remark (conn.sendWindow.mem_markRetransmitted sequence nowMs)
            (conn.sendWindow.lastAck_markRetransmitted sequence nowMs)
            (conn.sendWindow.markRetransmitted_nextSequence sequence nowMs)
          refine hmarked.of_same rfl rfl fun q _ => ?_
          change q ∈ (m.modifyTracked id _).outboundPackets.getD id ∅ ↔ _
          rw [hmodified, hgetD, mem_insert]
          refine or_iff_right_of_imp fun heq => ?_
          exact Std.LawfulEqCmp.eq_of_compare heq ▸ TreeMap.mem_of_getElem? hrecord

theorem Accounted.pollRetransmitsFor (h : m.Accounted) (hspares : m.Spares nowMs id) :
    (pollRetransmitsFor nowMs m id).Accounted := by
  unfold StreamingManager.pollRetransmitsFor
  split
  · exact h
  next conn hconn =>
    refine TreeMap.foldl_of_remaining (P := Accounted) (Q := fun m sequence => ∀ found, m.connections[id]? = some found →
      found.state.counts → sequence ≠ 0 → ¬ m.GivesUp nowMs conn.retransmit.currentRtoMs id sequence) ?_ ?_
      Std.ExtTreeMap.nodup_keys h ?_
    · exact fun m sequence hm hkept => hm.pollRetransmit hkept
    · intro m a b hne hkept found' hfound' hcounts hzero hgives
      obtain ⟨found, hfound, hstate, -⟩ := m.pollRetransmit_connections hfound'
      exact hkept found hfound (hstate ▸ hcounts) hzero (givesUp_of_pollRetransmit (fun _ => hne) hgives)
    · intro sequence _ found hfound hcounts hzero
      cases hconn.symm.trans hfound
      exact hspares conn hconn hcounts sequence hzero

theorem Accounted.pollRetransmits (h : m.Accounted) (hspares : ∀ id, m.Spares nowMs id) :
    (m.pollRetransmits nowMs).2.Accounted :=
  TreeMap.foldl_of_remaining (P := Accounted) (Q := fun m id => m.Spares nowMs id)
    (fun _ _ hm hkept => hm.pollRetransmitsFor hkept) (fun _ _ _ hne hkept => hkept.pollRetransmitsFor_other hne)
    Std.ExtTreeMap.nodup_keys h fun id _ => hspares id

end Poll

theorem Accounted.change {prim : StreamingPrimitives D} {request : ManagerRequest D} (h : m.Accounted)
    (ha : m.Accountable request) (hchange : Change prim m request m') : m'.Accounted := by
  cases hchange with
  | counted | popped => exact h.of_eq rfl rfl
  | connected _ _ _ _ hconn | entered _ _ _ _ _ hconn => exact h.insert hconn rfl rfl
  | @refused _ _ _ _ streamId conn connectionCounter streamCounter _ _ _ hconn =>
    have hinserted : ((m.withCounters connectionCounter streamCounter).insertInbound m.nextConnectionId streamId
        conn).Accounted := h.insert hconn rfl rfl
    exact hinserted.erase rfl rfl
  | @answered _ _ packet _ _ id conn nowMs _ _ _ _ hconn =>
    obtain ⟨_, state, _, _, heq, hstate⟩ := synResponseTransition_eq packet nowMs conn
    rw [heq]
    refine h.setConnection hconn (fun hcounts => ?_) rfl rfl
    rcases hstate with rfl | hawaiting
    · exact hcounts
    · rw [counts, hawaiting, Bool.true_or]
  | took _ hdata =>
    obtain ⟨_, _, _, _, _, hconn, _⟩ := hdata
    exact h.takeData hconn _
  | @accepted _ _ id _ _ advertisedMaxPayload nowMs conn response hconn hawaiting =>
    obtain ⟨_, _, _, hmoved⟩ := acceptTransition_eq advertisedMaxPayload nowMs conn
    obtain ⟨_, _, _, heq, -⟩ :=
      releaseSynPayload_eq (m.setConnection id (acceptTransition advertisedMaxPayload nowMs conn).2) id
    have hcounts : conn.state.counts := by rw [counts, hawaiting, Bool.true_or]
    rw [heq]
    refine h.replace rfl (fun k hne => getD_track_other _ hne _) fun _ => ?_
    rw [getD_track, hmoved]
    refine (h id conn hconn hcounts).of_same rfl rfl fun q hq => ?_
    rw [mem_insert]
    exact or_iff_right fun heq => hq (Std.LawfulEqCmp.eq_of_compare heq).symm
  | unaccepted hconn => exact h.setConnection hconn (fun hcounts => hcounts) rfl rfl
  | @sent id _ _ _ payload nowMs conn conn' sequence request hconn hsend =>
    have hcounts : conn.state.counts := by
      obtain ⟨_, -, hstate, -⟩ := StreamingConnection.enqueueSend_state hsend
      rw [hstate]
      rfl
    refine h.replace rfl (fun k hne => getD_track_other _ hne _) fun _ => ?_
    rw [getD_track]
    exact (h id conn hconn hcounts).enqueueSend (ha conn hconn) hsend _
  | @closed id _ _ _ _ nowMs conn _ hconn hstate =>
    refine h.replace rfl (fun k hne => getD_track_other _ hne _) fun hcounts => ?_
    exact absurd hcounts (StreamingConnection.not_counts_closeTransition hstate nowMs)
  | @reset id _ _ _ _ nowMs conn hconn =>
    have heq : (resetTransition nowMs conn).2 = conn.orSame (conn.reset nowMs) := by
      unfold resetTransition
      cases conn.reset nowMs with
      | ok => rfl
      | error => rfl
    have hmoves := resetTransition_moves nowMs conn
    refine h.setConnection hconn (fun hcounts => ?_) (by rw [hmoves]) (by rw [hmoves])
    rw [heq] at hcounts
    exact StreamingConnection.counts_of_reset hcounts
  | polled => exact h.pollRetransmits ha
  | @listened port =>
    obtain ⟨_, heq⟩ := m.listen_eq port
    rw [heq]
    exact h.of_eq rfl rfl
  | removed => exact h.erase rfl rfl
  | @used id use =>
    obtain ⟨nowMs, hadvance, hattempts⟩ := ha
    rw [hadvance]
    refine modifyConnection_preserves h fun conn hconn => h.replace rfl (fun _ _ => rfl) fun hcounts => ?_
    exact (h id conn hconn (StreamingConnection.counts_of_advance hcounts)).advance (hattempts conn hconn)

end Accounts

/-- In every run of accountable requests the books of every established connection balance. -/
theorem balanced_of_accountable {prim : StreamingPrimitives D} {config : StreamingConfig} {m : StreamingManager D}
    (h : Reaches prim config Accountable m) {id : ConnectionId} {conn : StreamingConnection D}
    (hconn : m.connections[id]? = some conn) (hstate : conn.state = .established) :
    conn.Balanced (m.outboundPackets.getD id ∅) := by
  have haccounted : m.Accounted := by
    refine h.invariant (P := Accounted) ?_ (fun _ _ _ hm => hm.change) fun m m' hm htidies => ?_
    · intro id conn hconn
      simp [new] at hconn
    · exact hm.of_eq htidies.connections htidies.outboundPackets
  refine (haccounted id conn hconn ?_).toBalanced
  rw [hstate]
  rfl

section Sample

def oneAttempt : StreamingConfig := { StreamingConfig.balanced with maxRetransmitCount := 1 }

def sampleAnswer : ManagerRequest Bool := .call (sampleCall (sampleResponse true 9))

def sampleSend : ManagerRequest Bool := .call (.sendData 1 (sampleRemote true) 0 0 [7] 0)

set_option maxRecDepth 4000 in
/-- One data packet is in the window of an established connection. -/
theorem balanced_sampleSend :
    ∃ (m : StreamingManager Bool) (conn : StreamingConnection Bool), Reaches samplePrimitives oneAttempt Accountable m ∧
      m.connections[(1 : ConnectionId)]? = some conn ∧ conn.state = .established ∧ conn.sendWindow.unacked.size = 1 ∧
      conn.Balanced (m.outboundPackets.getD 1 ∅) := by
  have hopen : Reaches samplePrimitives oneAttempt Accountable _ := .step sampleOpen .new trivial rfl
  have hreach := (hopen.step sampleAnswer trivial rfl).step sampleSend ?_ rfl
  · exact ⟨_, _, hreach, rfl, rfl, rfl, balanced_of_accountable hreach rfl rfl⟩
  · rintro _ ⟨⟩
    decide +kernel

set_option maxRecDepth 4000 in
/-- A packet given up is not tracked any more, but it stays in the window. -/
theorem not_balanced_given_up : oneAttempt.tryNew = .ok oneAttempt ∧
      ∃ (m : StreamingManager Bool) (conn : StreamingConnection Bool),
        Reaches samplePrimitives oneAttempt (fun _ _ => True) m ∧ m.connections[(1 : ConnectionId)]? = some conn ∧
        conn.state = .established ∧ ¬ conn.Balanced (m.outboundPackets.getD 1 ∅) := by
  have hafter : after samplePrimitives [sampleOpen, sampleAnswer, sampleSend, .call (.pollRetransmits 5000),
      .call (.pollRetransmits 10000)] (.new oneAttempt) = some _ := rfl
  refine ⟨by decide, _, _, Reaches.new.after hafter, rfl, rfl, fun hbalanced => ?_⟩
  exact absurd ((hbalanced.sequences 1 (by decide)).mp (mem_iff_contains.mpr rfl)) (by decide +kernel)

end Sample

end StreamingManager

end I2pr
