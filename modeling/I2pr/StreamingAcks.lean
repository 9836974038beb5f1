import I2pr.StreamingConnection

namespace I2pr

open List

namespace RecvWindowPolicy

def received (config : RecvWindowConfig) (packets : List (UInt32 × List UInt8)) : RecvWindowPolicy :=
  packets.foldl (fun w packet => (w.receive packet.1 packet.2).1) (.new config)

/-- The last sequence number is never taken in, and the highest one taken in is within the window. -/
structure Within (w : RecvWindowPolicy) : Prop where
  highest_lt : ∀ h, w.highestReceived = some h → h.toNat < w.nextExpected.toNat + w.config.maxWindowPackets.toNat
  reorder_lt : ∀ q ∈ w.reorder, q.toNat < 2 ^ 32 - 1

theorem new_within (config : RecvWindowConfig) : (new config).Within where
  highest_lt h hh := by simp [new] at hh
  reorder_lt q hq := by simp [new] at hq

variable {w : RecvWindowPolicy}

theorem Within.advance (hw : w.Within) (hne : w.nextExpected.toNat < 2 ^ 32 - 1) : w.advance.Within where
  highest_lt h hh := by
    have hlt := hw.highest_lt h hh
    have hnext : (w.nextExpected + 1).toNat = w.nextExpected.toNat + 1 := by
      rw [UInt32.toNat_add]
      exact Nat.mod_eq_of_lt (by change w.nextExpected.toNat + 1 < 2 ^ 32; omega)
    change h.toNat < (w.nextExpected + 1).toNat + w.config.maxWindowPackets.toNat
    omega
  reorder_lt := hw.reorder_lt

theorem Within.note (hw : w.Within) {sequence : UInt32}
    (h : sequence.toNat < w.nextExpected.toNat + w.config.maxWindowPackets.toNat) :
    (w.noteAcceptedSequence sequence).Within where
  highest_lt q hq := by
    rcases noteAcceptedSequence_highestReceived hq with rfl | hold
    · exact h
    · exact hw.highest_lt q hold
  reorder_lt := hw.reorder_lt

/-- Unless it is the last sequence number, no packet takes the window further than its size. -/
theorem Within.receive (hw : w.Within) (hpos : 0 < w.config.maxWindowPackets.toNat)
    {sequence : UInt32} (hs : sequence.toNat < 2 ^ 32 - 1) (payload : List UInt8) :
    (w.receive sequence payload).1.Within ∧ (w.receive sequence payload).1.config = w.config := by
  refine (receive_rule (w := w) (I := fun v _ => v.Within ∧ v.config = w.config) ?_ sequence payload ⟨hw, rfl⟩ ?_ ?_).1
  · rintro v entries entry ⟨hv, hconfig⟩ hentry
    have hmem : v.nextExpected ∈ v.reorder := Std.ExtTreeMap.mem_iff_isSome_getElem?.mpr (by simp [hentry])
    have herased : { v with reorder := v.reorder.erase v.nextExpected : RecvWindowPolicy }.Within :=
      ⟨hv.highest_lt, fun q hq => hv.reorder_lt q (Std.ExtTreeMap.mem_erase.mp hq).2⟩
    exact ⟨herased.advance (hv.reorder_lt _ hmem), hconfig⟩
  · intro heq
    have hnoted := @Within.note w hw sequence (by rw [heq]; omega)
    have hnext : (w.noteAcceptedSequence sequence).nextExpected = sequence := heq.symm
    exact ⟨hnoted.advance (by rw [hnext]; exact hs), rfl⟩
  · intro _ hlt
    unfold maxSequence at hlt
    have hnoted := @Within.note w hw sequence (by omega)
    refine ⟨⟨hnoted.highest_lt, fun q hq => ?_⟩, rfl⟩
    rcases TreeMap.mem_insert.mp hq with rfl | hq
    · exact hs
    · exact hw.reorder_lt q hq

theorem received_within {config : RecvWindowConfig} (hpos : 0 < config.maxWindowPackets.toNat)
    {packets : List (UInt32 × List UInt8)} (h : ∀ packet ∈ packets, packet.1.toNat < 2 ^ 32 - 1) :
    (received config packets).Within ∧ (received config packets).config = config := by
  have hrun : ∀ w : RecvWindowPolicy, w.Within → w.config = config →
      (packets.foldl (fun w packet => (w.receive packet.1 packet.2).1) w).Within ∧
        (packets.foldl (fun w packet => (w.receive packet.1 packet.2).1) w).config = config := by
    induction packets with
    | nil => exact fun w hw hconfig => ⟨hw, hconfig⟩
    | cons packet packets ih =>
      intro w hw hconfig
      obtain ⟨hnext, hsame⟩ := hw.receive (hconfig ▸ hpos) (h packet mem_cons_self) packet.2
      exact ih (fun p hp => h p (mem_cons_of_mem _ hp)) _ hnext (hsame.trans hconfig)
  exact hrun (.new config) (new_within config) rfl

theorem length_missingFrom_le (w : RecvWindowPolicy) (ackThrough : UInt32) (limit fuel : Nat) (seq : UInt32)
    (missing : List UInt32) :
    (w.missingFrom ackThrough limit fuel seq missing).length ≤ missing.length + fuel := by
  induction fuel generalizing seq missing with
  | zero => exact le_rfl
  | succ fuel ih =>
    unfold missingFrom
    split
    · split
      · omega
      refine (ih _ _).trans ?_
      split
      · omega
      rw [length_append, length_singleton]
      omega
    · omega

theorem Within.length_nacks_lt (hw : w.Within) (hpos : 0 < w.config.maxWindowPackets.toNat) :
    w.ackView.2.length < w.config.maxWindowPackets.toNat := by
  unfold ackView
  rcases hhighest : w.highestReceived with - | highest
  · exact hpos
  · dsimp only
    split
    · exact hpos
    next hge =>
      have hlt := hw.highest_lt highest hhighest
      have hlen := w.length_missingFrom_le highest maxNackCount (highest.toNat - w.nextExpected.toNat) w.nextExpected []
      change (w.missingFrom highest maxNackCount (highest.toNat - w.nextExpected.toNat) w.nextExpected []).length < _
      simp only [length_nil] at hlen
      omega

theorem length_missingFrom_eq {ackThrough : UInt32} {limit fuel : Nat} {seq : UInt32}
    {missing : List UInt32} (hfuel : seq.toNat + fuel = ackThrough.toNat) (hroom : missing.length + fuel ≤ limit)
    (hnone : ∀ q < ackThrough, q ∉ w.reorder) :
    (w.missingFrom ackThrough limit fuel seq missing).length = missing.length + fuel := by
  induction fuel generalizing seq missing with
  | zero => rfl
  | succ fuel ih =>
    have hseq : seq < ackThrough := UInt32.lt_iff_toNat_lt.mpr (by omega)
    have hsucc := Counter.toNat_succ_of_lt hseq
    unfold missingFrom
    rw [if_pos hseq, if_neg (by omega), if_neg (hnone seq hseq), ih (by omega) (by simp; omega)]
    simp
    omega

theorem length_nacks_last {config : RecvWindowConfig} (hpos : 1 < config.maxWindowPackets.toNat)
    (hle : config.maxWindowPackets.toNat ≤ 128) (payload : List UInt8) :
    (received config [(UInt32.ofNat config.maxWindowPackets.toNat, payload)]).ackView.2.length =
      config.maxWindowPackets.toNat - 1 := by
  set last := UInt32.ofNat config.maxWindowPackets.toNat with hlast
  have htoNat : last.toNat = config.maxWindowPackets.toNat :=
    UInt32.toNat_ofNat_of_lt' (by change _ < 2 ^ 32; omega)
  have hone : ((new config).nextExpected).toNat = 1 := rfl
  have hnotlt : ¬ last < (new config).nextExpected := by
    rw [UInt32.lt_iff_toNat_lt]
    omega
  have hne : last ≠ (new config).nextExpected := fun h => by
    have := congrArg UInt32.toNat h
    omega
  have hroom : ¬ (new config).maxSequence ≤ last.toNat := by
    unfold maxSequence
    rw [hone, show (new config).config = config from rfl]
    omega
  have hwindow : received config [(last, payload)] =
      { new config with reorder := (∅ : Std.ExtTreeMap UInt32 ReorderEntry).insert last ⟨last, payload⟩
                        highestReceived := some last } := by
    change ((new config).receive last payload).1 = _
    rw [receive, if_neg hnotlt, if_neg hne, if_neg hroom]
    rfl
  have hnone : ∀ q < last, q ∉ (received config [(last, payload)]).reorder := by
    intro q hq hmem
    rw [hwindow] at hmem
    rcases TreeMap.mem_insert.mp hmem with rfl | hmem
    · have := UInt32.lt_iff_toNat_lt.mp hq
      omega
    · exact absurd hmem Std.ExtTreeMap.not_mem_empty
  have hnext : (received config [(last, payload)]).nextExpected = 1 := by rw [hwindow]; rfl
  have hhighest : (received config [(last, payload)]).highestReceived = some last := by rw [hwindow]
  unfold ackView
  rw [hhighest]
  dsimp only
  rw [hnext, if_neg (show ¬ last < 1 from hnotlt), missingSequencesBounded, hnext,
    length_missingFrom_eq (by change 1 + (last.toNat - 1) = _; omega) (by simp [maxNackCount]; omega) hnone]
  change 0 + (last.toNat - 1) = _
  omega

end RecvWindowPolicy

namespace StreamingConnection

variable {D : Type}

/-- The packets this connection owes its peer fit the send limit: the plain acknowledgement, and data up to
the negotiated size. -/
def Encodable (conn : StreamingConnection D) : Prop :=
  (∃ wire, encodeStreamingPacket conn.simpleAck StreamingSendLimit.default = .ok wire) ∧
    ∀ flags payload, payload.length ≤ conn.maxPayloadSize →
      ∃ wire, encodeStreamingPacket (conn.dataPacket flags payload) StreamingSendLimit.default = .ok wire

theorem encode_default_eq_ok {packet : StreamingPacketBuilder} (hoptions : packet.optionBytes = [])
    (hnacks : packet.nacks.length ≤ maxStreamingNackCount) (hpayload : packet.payload.length ≤ maxStreamingPayloadBytes) :
    encodeStreamingPacket packet StreamingSendLimit.default = .ok (packet.header ++ packet.payload) := by
  have hlimit : StreamingSendLimit.default.maxPacketBytes = 22 + 64 * 4 + 1024 + 2048 := rfl
  have hcount : maxStreamingNackCount = 64 := rfl
  have hbytes : maxStreamingPayloadBytes = 2048 := rfl
  have hheader : minStreamingHeaderBytes = 22 := rfl
  apply encodeStreamingPacket_eq_ok
  · change _ ≤ min maxStreamingNackCount 255
    omega
  · simp [hoptions]
  · exact hpayload
  · rw [hoptions, length_nil, hlimit, hheader]
    omega

variable {conn : StreamingConnection D}

theorem encodable_of_length_nacks_le (hnacks : conn.recvWindow.ackView.2.length ≤ maxStreamingNackCount)
    (hmax : conn.maxPayloadSize ≤ maxStreamingPayloadBytes) : conn.Encodable :=
  ⟨⟨_, encode_default_eq_ok rfl hnacks (Nat.zero_le _)⟩,
    fun _ _ hpayload => ⟨_, encode_default_eq_ok rfl hnacks (hpayload.trans hmax)⟩⟩

theorem Encodable.length_nacks_le (h : conn.Encodable) : conn.recvWindow.ackView.2.length ≤ maxStreamingNackCount := by
  obtain ⟨⟨wire, hwire⟩, -⟩ := h
  exact (encodeStreamingPacket_lengths hwire).1

theorem Encodable.maxPayloadSize_le (h : conn.Encodable) : conn.maxPayloadSize ≤ maxStreamingPayloadBytes := by
  obtain ⟨wire, hwire⟩ := h.2 .empty (replicate conn.maxPayloadSize 0) (by rw [length_replicate])
  have hlen : (replicate conn.maxPayloadSize (0 : UInt8)).length ≤ maxStreamingPayloadBytes :=
    (encodeStreamingPacket_lengths hwire).2
  rwa [length_replicate] at hlen

/-- The connection's receive window has seen these packets, and its handshake has negotiated the payload size. -/
structure AfterPackets (config : StreamingConfig) (localMax remoteMax : UInt16)
    (packets : List (UInt32 × List UInt8)) (conn : StreamingConnection D) : Prop where
  recvWindow : conn.recvWindow = .received (.fromConfig config) packets
  maxPayloadSize : conn.maxPayloadSize = min localMax.toNat remoteMax.toNat

variable (config : StreamingConfig)

/-- An accepting side, with the packets and the negotiation already behind it. -/
def afterPackets (localMax remoteMax : UInt16) (packets : List (UInt32 × List UInt8)) : StreamingConnection D :=
  { newInbound 1 config 0x80000000 1 ⟨.edDsaSha512Ed25519, List.replicate 32 0, by decide⟩ ⟨List.replicate 32 0, by decide⟩ 0 0 0 with
    recvWindow := .received (.fromConfig config) packets
    maxPayloadSize := min localMax.toNat remoteMax.toNat }

theorem afterPackets_spec (localMax remoteMax : UInt16) (packets : List (UInt32 × List UInt8)) :
    AfterPackets config localMax remoteMax packets
      (afterPackets config localMax remoteMax packets : StreamingConnection D) :=
  ⟨rfl, rfl⟩

def lastInWindow : UInt32 := UInt32.ofNat config.maxRecvWindowPackets.toNat

theorem lastInWindow_ne : lastInWindow config ≠ 0xffffffff := by
  intro heq
  have hlt := config.maxRecvWindowPackets.toNat_lt
  have hto : (lastInWindow config).toNat = config.maxRecvWindowPackets.toNat :=
    UInt32.toNat_ofNat_of_lt' (by change _ < 2 ^ 32; omega)
  have := congrArg UInt32.toNat heq
  rw [hto] at this
  change _ = 2 ^ 32 - 1 at this
  omega

theorem Encodable.maxRecvWindowPackets_le {config : StreamingConfig} (hle : config.maxRecvWindowPackets.toNat ≤ 128)
    {localMax remoteMax : UInt16}
    (hconn : conn.AfterPackets config localMax remoteMax [(lastInWindow config, [])]) (h : conn.Encodable) :
    config.maxRecvWindowPackets.toNat ≤ 65 := by
  by_contra hlarge
  have hlast := @RecvWindowPolicy.length_nacks_last (.fromConfig config)
    (show 1 < config.maxRecvWindowPackets.toNat by omega) hle []
  have hnacks := h.length_nacks_le
  rw [hconn.recvWindow] at hnacks
  have hcount : config.maxRecvWindowPackets.toNat - 1 ≤ 64 := hlast ▸ hnacks
  omega

/-- A window of more than 65 packets can owe more NACKs than a packet holds, and a negotiated size above the
payload limit cannot be used in full. Short of the last sequence number, after which the counter reads zero again,
nothing else stands in the way of an acknowledgement or of data. -/
theorem encodable_iff {profile config : StreamingConfig} (h : profile.tryNew = .ok config)
    (localMax remoteMax : UInt16) :
    (∀ packets, (∀ packet ∈ packets, packet.1 ≠ 0xffffffff) → ∀ conn : StreamingConnection D,
        conn.AfterPackets config localMax remoteMax packets → conn.Encodable) ↔
      config.maxRecvWindowPackets.toNat ≤ 65 ∧ min localMax.toNat remoteMax.toNat ≤ 2048 := by
  obtain ⟨hpos, hle, -, -⟩ := StreamingConfig.tryNew_windows h
  constructor
  · intro hall
    constructor
    · have hlast := hall [(lastInWindow config, [])] (by simp [lastInWindow_ne]) _ (afterPackets_spec _ localMax remoteMax _)
      exact hlast.maxRecvWindowPackets_le hle (afterPackets_spec _ localMax remoteMax _)
    · exact (hall [] (by simp) _ (afterPackets_spec config localMax remoteMax [])).maxPayloadSize_le
  · rintro ⟨hwindow, hmax⟩ packets hpackets conn hconn
    have hlt : ∀ packet ∈ packets, packet.1.toNat < 2 ^ 32 - 1 := by
      intro packet hpacket
      have hne : packet.1.toNat ≠ 2 ^ 32 - 1 := fun heq => hpackets packet hpacket (UInt32.toNat_inj.mp heq)
      have := packet.1.toNat_lt
      omega
    have hwithin := @RecvWindowPolicy.received_within (.fromConfig config) hpos packets hlt
    have hnacks := hwithin.1.length_nacks_lt (by rw [hwithin.2]; exact hpos)
    rw [hwithin.2, ← hconn.recvWindow] at hnacks
    have hcount : conn.recvWindow.ackView.2.length < config.maxRecvWindowPackets.toNat := hnacks
    exact encodable_of_length_nacks_le (by change _ ≤ 64; omega) (hconn.maxPayloadSize.trans_le hmax)

theorem encodable_balanced_gap : StreamingConfig.balanced.tryNew = .ok .balanced ∧
      (afterPackets .balanced 1812 1812 [(3, []), (1, [7])] : StreamingConnection Unit).Encodable := by
  have haccept : StreamingConfig.balanced.tryNew = .ok .balanced := by decide
  exact ⟨haccept, (encodable_iff haccept 1812 1812).mpr ⟨by decide, by decide⟩ [(3, []), (1, [7])] (by decide) _
    (afterPackets_spec _ _ _ _)⟩

def widestWindow : StreamingConfig := { StreamingConfig.balanced with maxRecvWindowPackets := 128 }

theorem not_encodable_widestWindow : widestWindow.tryNew = .ok widestWindow ∧
      ¬ (afterPackets widestWindow 1812 1812 [(128, [])] : StreamingConnection Unit).Encodable := by
  refine ⟨by decide, fun h => ?_⟩
  have hbound := h.maxRecvWindowPackets_le (by decide) (afterPackets_spec widestWindow 1812 1812 [(128, [])])
  exact absurd hbound (by decide)

end StreamingConnection

end I2pr
