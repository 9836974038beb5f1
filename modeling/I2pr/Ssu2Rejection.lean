import I2pr.Ssu2Exchange

namespace I2pr.Ssu2

open List

namespace SendState

@[simp]
theorem requeue_sent (st : SendState) (fragment : RetransmittableFragment) : (st.requeue fragment).sent = st.sent := by
  unfold requeue failMessage
  split <;> rfl

@[simp]
theorem requeueAll_sent (fragments : List RetransmittableFragment) (st : SendState) :
    (st.requeueAll fragments).1.sent = st.sent := by
  induction fragments generalizing st with
  | nil => rfl
  | cons fragment fragments ih => exact (ih _).trans (st.requeue_sent fragment)

@[simp]
theorem declareLost_sent (st : SendState) (packet : SentPacket) : (st.declareLost packet).1.sent = st.sent := by
  unfold declareLost
  rw [requeueAll_sent]
  split <;> rfl

end SendState

namespace Ssu2Session

theorem loseOldest_sent (s : Ssu2Session) (acked : List UInt32) (ackThrough : UInt32) :
    (s.loseOldest acked ackThrough).send.sent = s.send.sent.eraseP (nackedBy acked ackThrough) := by
  unfold loseOldest
  split
  · exact SendState.declareLost_sent _ _
  next hnone =>
    rw [find?_eq_none] at hnone
    exact (eraseP_of_forall_not hnone).symm

theorem credit_sent (s : Ssu2Session) (r : Retirement) : (s.credit r).send.sent = s.send.sent := by
  unfold credit
  cases r.rttSample with
  | none | some sample => simp only; split <;> rfl

theorem applyAcked_sent (s : Ssu2Session) (acked : List UInt32) (ackThrough : UInt32) (nowMs : Nat) :
    (s.applyAcked acked ackThrough nowMs).send.sent =
      (s.send.sent.filter (·.packetNumber ∉ acked)).eraseP (nackedBy acked ackThrough) := by
  unfold applyAcked
  simp only [credit_sent, loseOldest_sent]
  rw [← s.unretired_eq acked nowMs]
  rfl

end Ssu2Session

/-- A decoded ACK that neither acknowledges nor leaves out a packet of the history. -/
def Untouched (sent : List SentPacket) (acked : List UInt32) (ackThrough : UInt32) : Prop :=
  ∀ packet ∈ sent, packet.packetNumber ∉ acked ∧ nackedBy acked ackThrough packet = false

instance (sent : List SentPacket) (acked : List UInt32) (ackThrough : UInt32) :
    Decidable (Untouched sent acked ackThrough) :=
  inferInstanceAs (Decidable (∀ packet ∈ sent, _))

theorem Retirement.retireFrom_untouched {acked : List UInt32} (nowMs : Nat) {rest : List SentPacket}
    (h : ∀ packet ∈ rest, packet.packetNumber ∉ acked) (kept : List SentPacket) (r : Retirement) :
    retireFrom acked nowMs kept rest r = r := by
  induction rest generalizing kept with
  | nil => rfl
  | cons packet rest ih =>
    rw [retireFrom, if_neg (h packet (mem_cons_self ..))]
    exact ih (fun other hother => h other (mem_cons_of_mem _ hother)) _

namespace Ssu2Session

theorem applyAcked_untouched {s : Ssu2Session} {acked : List UInt32} {ackThrough : UInt32}
    (h : Untouched s.send.sent acked ackThrough) (nowMs : Nat) : s.applyAcked acked ackThrough nowMs = s := by
  have hnone : s.send.sent.find? (nackedBy acked ackThrough) = none := by
    rw [find?_eq_none]
    exact fun packet hmem => by simp [(h packet hmem).2]
  unfold applyAcked
  rw [Retirement.retireFrom_untouched nowMs (fun packet hmem => (h packet hmem).1)]
  simp only [settle, loseOldest, hnone, credit]
  rfl

theorem applyAcked_sent_length_le (s : Ssu2Session) (acked : List UInt32) (ackThrough : UInt32) (nowMs : Nat) :
    (s.applyAcked acked ackThrough nowMs).send.sent.length ≤ s.send.sent.length := by
  rw [applyAcked_sent]
  exact (length_eraseP_le ..).trans (length_filter_le ..)

theorem applyAcked_sent_length_lt {s : Ssu2Session} {acked : List UInt32} {ackThrough : UInt32}
    (h : ¬ Untouched s.send.sent acked ackThrough) (nowMs : Nat) :
    (s.applyAcked acked ackThrough nowMs).send.sent.length < s.send.sent.length := by
  rw [applyAcked_sent]
  unfold Untouched at h
  push Not at h
  obtain ⟨packet, hmem, htouch⟩ := h
  by_cases hacked : packet.packetNumber ∈ acked
  · refine lt_of_le_of_lt (length_eraseP_le ..) ?_
    exact length_filter_lt_length_iff_exists.mpr ⟨packet, hmem, by simpa using hacked⟩
  have hkept : packet ∈ s.send.sent.filter (·.packetNumber ∉ acked) := by simp [hmem, hacked]
  have hnacked : nackedBy acked ackThrough packet = true := by simpa using htouch hacked
  rw [length_eraseP_of_mem hkept hnacked]
  have := length_pos_of_mem hkept
  have := length_filter_le (fun p : SentPacket => decide (p.packetNumber ∉ acked)) s.send.sent
  omega

end Ssu2Session

/-- The ACK blocks that are applied before the first invalid one: the numbers each acknowledges and the
highest of them. -/
def earlyAcks : List DecodedBlock → List (List UInt32 × UInt32)
  | [] => []
  | .ack ack :: blocks =>
    match ack.ackedNumbers with
    | .ok acked => (acked, ack.ackThrough) :: earlyAcks blocks
    | .error _ => []
  | _ :: blocks => earlyAcks blocks

namespace Ssu2Session

theorem applyAcks_sent_length_le (s : Ssu2Session) (nowMs : Nat) (blocks : List DecodedBlock) :
    (s.applyAcks nowMs blocks).2.send.sent.length ≤ s.send.sent.length := by
  fun_induction applyAcks s nowMs blocks with
  | case1 | case3 => exact le_rfl
  | case2 s ack blocks counted applied happlied ih =>
    obtain ⟨acked, -, rfl⟩ := applyAck_eq_ok.mp happlied
    exact ih.trans (applyAcked_sent_length_le counted acked ack.ackThrough nowMs)
  | case4 _ _ _ _ ih => exact ih

/-- If no early ACK touches a packet, only counters change; otherwise the history gets shorter. -/
theorem applyAcks_early (s : Ssu2Session) (nowMs : Nat) (blocks : List DecodedBlock) :
    ((∀ early ∈ earlyAcks blocks, Untouched s.send.sent early.1 early.2) →
      s.CountersOnly (s.applyAcks nowMs blocks).2) ∧
    (¬ (∀ early ∈ earlyAcks blocks, Untouched s.send.sent early.1 early.2) →
      (s.applyAcks nowMs blocks).2.send.sent.length < s.send.sent.length) := by
  fun_induction applyAcks s nowMs blocks with
  | case1 => exact ⟨fun _ => ⟨_, rfl⟩, fun h => absurd (by simp [earlyAcks]) h⟩
  | case2 s ack blocks counted applied happlied ih =>
    obtain ⟨acked, hok, rfl⟩ := applyAck_eq_ok.mp happlied
    have hearly : earlyAcks (.ack ack :: blocks) = (acked, ack.ackThrough) :: earlyAcks blocks := by
      simp [earlyAcks, hok]
    rw [hearly, forall_mem_cons]
    by_cases hfirst : Untouched s.send.sent acked ack.ackThrough
    · -- the first ACK changes nothing, so the rest meets the same history
      have hsame := applyAcked_untouched (show Untouched counted.send.sent acked ack.ackThrough from hfirst) nowMs
      rw [hsame] at ih ⊢
      exact ⟨fun h => ih.1 h.2, fun h => ih.2 fun hrest => h ⟨hfirst, hrest⟩⟩
    · have hshorter := applyAcked_sent_length_lt
        (show ¬ Untouched counted.send.sent acked ack.ackThrough from hfirst) nowMs
      exact ⟨fun h => absurd h.1 hfirst, fun _ => lt_of_le_of_lt (applyAcks_sent_length_le ..) hshorter⟩
  | case3 s ack blocks counted e herror =>
    have hinvalid : earlyAcks (.ack ack :: blocks) = [] := by
      cases hacked : ack.ackedNumbers with
      | error e => simp [earlyAcks, hacked]
      | ok acked =>
        rw [applyAck_eq_ok.mpr ⟨acked, hacked, rfl⟩] at herror
        cases herror
    rw [hinvalid]
    exact ⟨fun _ => ⟨_, rfl⟩, fun h => absurd (by simp) h⟩
  | case4 s block blocks hother ih =>
    have hskip : earlyAcks (block :: blocks) = earlyAcks blocks := by
      rw [earlyAcks]
      exact hother
    rw [hskip]
    exact ih

/-- In a payload that is admitted, opened and parsed, the ACK blocks before the first invalid one
touch no packet of the history. -/
def NoEarlyEffect (s : Ssu2Session) (c : DataCrypto) (datagram : List UInt8) : Prop :=
  ∀ header headerBytes ciphertext plaintext parsed, s.isTerminated = false →
    s.openHeader c datagram = some (header, headerBytes, ciphertext) →
    s.window.checkReplay header.packetNumber = .admissible →
    c.aeadOpen s.keys.receive.cipher header.packetNumber headerBytes ciphertext = some plaintext →
    parseBlocks plaintext = .ok parsed →
      ∀ early ∈ earlyAcks parsed.blocks, Untouched s.send.sent early.1 early.2

/-- A dropped datagram leaves everything but counters as it was exactly if no ACK block before the invalid
one had an effect. -/
theorem dropped_countersOnly_iff (s : Ssu2Session) (c : DataCrypto) (nowMs : Nat) (datagram : List UInt8)
    {reason : DropReason} (hreason : (s.receiveDatagram c nowMs datagram).2.dropped = some reason) :
    s.CountersOnly (s.receiveDatagram c nowMs datagram).1 ↔ s.NoEarlyEffect c datagram := by
  constructor
  · intro hsame header headerBytes ciphertext plaintext parsed hlive hheader hadmitted hopen hparsed
    rw [receiveDatagram_open hlive hheader hadmitted hopen] at hreason hsame
    have hopened := s.receivePlaintext_opened nowMs header plaintext
    generalize s.receivePlaintext nowMs header plaintext = result at hopened hreason hsame
    cases hopened with
    | unparsed hfail => exact absurd hparsed (hfail parsed)
    | rekey _ hnone | accepted _ _ hnone => simp [hnone] at hreason
    | @badAck other hother t hacks =>
      cases hparsed.symm.trans hother
      by_contra htouched
      have hshorter := (s.applyAcks_early nowMs parsed.blocks).2 htouched
      obtain ⟨_, hsame⟩ := hsame
      have hsent : t.send.sent = s.send.sent := congrArg (·.send.sent) hsame
      rw [hacks, hsent] at hshorter
      exact lt_irrefl _ hshorter
  · intro hearly
    rcases s.receiveDatagram_cases c nowMs datagram with
      ⟨_, -, h | h⟩ | ⟨header, headerBytes, ciphertext, plaintext, hlive, hheader, hadmitted, hopen, h⟩
    · exact ⟨_, congrArg Prod.fst h⟩
    · exact ⟨_, congrArg Prod.fst h⟩
    · rw [h] at hreason ⊢
      have hopened := s.receivePlaintext_opened nowMs header plaintext
      generalize s.receivePlaintext nowMs header plaintext = result at hopened hreason
      cases hopened with
      | unparsed => exact ⟨_, rfl⟩
      | rekey _ hnone | accepted _ _ hnone => simp [hnone] at hreason
      | @badAck parsed hparsed t hacks =>
        obtain ⟨_, hsame⟩ := (s.applyAcks_early nowMs parsed.blocks).1
          (hearly header headerBytes ciphertext plaintext parsed hlive hheader hadmitted hopen hparsed)
        rw [hacks] at hsame
        rw [show t = _ from hsame]
        exact ⟨_, rfl⟩

end Ssu2Session

def inFlightSession : Ssu2Session :=
  runOps .plain (.start (.sample 0) .sample) [.queueNewToken 1 1, .pollTransmit 0]

def AckBlock.plain (ackThrough : UInt32) (ackCount : UInt8) : AckBlock :=
  ⟨ackThrough, ackCount, [], by simp, by simp⟩

def twoAckDatagram (first second : AckBlock) : List UInt8 :=
  (peerSession.sealPlaintext .plain 0 ((Block.ack first).wire ++ (Block.ack second).wire)).getD []

theorem linked_inFlightSession : peerSession.Linked inFlightSession := ⟨by decide +kernel, by decide +kernel⟩

section TwoAcks

variable {first second : AckBlock}
  (hencode : encodeBlocks [.ack first, .ack second] = .ok ((Block.ack first).wire ++ (Block.ack second).wire))
  (hseal : peerSession.sealPlaintext .plain 0 ((Block.ack first).wire ++ (Block.ack second).wire) =
    some (twoAckDatagram first second))
include hencode hseal

theorem inFlightSession_receive : inFlightSession.receiveDatagram .plain 0 (twoAckDatagram first second) =
    inFlightSession.receiveBlocks 0 (peerSession.headerFor 0) [.ack first, .ack second] := by
  exact linked_inFlightSession.receiveDatagram (by decide +kernel) (by simp [Block.readsBack_ack]) hencode hseal
    (by decide +kernel) 0

theorem inFlightSession_noEarlyEffect
    (hearly : ∀ early ∈ earlyAcks [.ack first, .ack second], Untouched inFlightSession.send.sent early.1 early.2) :
    inFlightSession.NoEarlyEffect .plain (twoAckDatagram first second) := by
  obtain ⟨ciphertext, hheader, hopen⟩ := linked_inFlightSession.openHeader hseal
  intro header headerBytes other plaintext parsed _ hheader' _ hopen' hparsed
  cases hheader.symm.trans hheader'
  cases hopen.symm.trans hopen'
  cases (parseBlocks_encodeBlocks (by simp [Block.readsBack_ack]) hencode).symm.trans hparsed
  exact hearly

end TwoAcks

/-- A valid ACK of packet 0, then one that runs below packet 0: the datagram is dropped, but packet 0 is
retired. -/
theorem inFlightSession_retired :
    (inFlightSession.receiveDatagram .plain 0 (twoAckDatagram (.plain 0 0) (.plain 0 1))).2.dropped = some .invalidAck ∧
    inFlightSession.send.sent.map (·.packetNumber) = [0] ∧
    (inFlightSession.receiveDatagram .plain 0 (twoAckDatagram (.plain 0 0) (.plain 0 1))).1.send.sent = [] := by
  rw [inFlightSession_receive (by decide +kernel) (by decide +kernel)]
  decide +kernel

/-- With the invalid ACK first, the session is as before. -/
theorem inFlightSession_countersOnly : inFlightSession.CountersOnly
    (inFlightSession.receiveDatagram .plain 0 (twoAckDatagram (.plain 0 1) (.plain 0 0))).1 := by
  have hreceive : inFlightSession.receiveDatagram .plain 0 (twoAckDatagram (.plain 0 1) (.plain 0 0)) = _ :=
    inFlightSession_receive (by decide +kernel) (by decide +kernel)
  have hreason : (inFlightSession.receiveDatagram .plain 0 (twoAckDatagram (.plain 0 1) (.plain 0 0))).2.dropped =
      some .invalidAck := by
    rw [hreceive]
    decide +kernel
  refine (inFlightSession.dropped_countersOnly_iff .plain 0 _ hreason).mpr ?_
  exact inFlightSession_noEarlyEffect (by decide +kernel) (by decide +kernel) (by decide +kernel)

end I2pr.Ssu2
