import I2pr.Ssu2Receive
import I2pr.Ssu2AckMeaning

namespace I2pr.Ssu2

inductive SessionOp where
  | requestBootstrapAck
  | queueI2npMessage (bytes : List UInt8)
  | queuePathChallenge (data : List UInt8)
  | queuePathResponse (data : List UInt8)
  | queueNewToken (expires : UInt32) (token : UInt64)
  | queueRelayRequest (block : RelayRequestBlock)
  | queueRelayResponse (block : RelayResponseBlock)
  | queueRelayIntro (block : RelayIntroBlock)
  | queuePeerTest (block : PeerTestBlock)
  | queueAddress (endpoint : Ssu2Endpoint)
  | initiateTermination (reason : UInt8)
  | notePathMigrated
  | receiveDatagram (nowMs : Nat) (datagram : List UInt8)
  | pollTransmit (nowMs : Nat)
  | poll (nowMs : Nat)

structure Observed where
  session : Ssu2Session
  result : PollResult := ⟨none, none⟩
  outcome : Option ReceiveOutcome := none

namespace Ssu2Session

def orElse (s : Ssu2Session) : Except SessionError Ssu2Session → Ssu2Session
  | .ok t => t
  | .error _ => s

end Ssu2Session

def SessionOp.apply (c : DataCrypto) (s : Ssu2Session) : SessionOp → Observed
  | .requestBootstrapAck => ⟨s.requestBootstrapAck, ⟨none, none⟩, none⟩
  | .queueI2npMessage bytes => ⟨s.orElse ((s.queueI2npMessage bytes).map (·.1)), ⟨none, none⟩, none⟩
  | .queuePathChallenge data => ⟨s.orElse (s.queuePathChallenge data), ⟨none, none⟩, none⟩
  | .queuePathResponse data => ⟨s.orElse (s.queuePathResponse data), ⟨none, none⟩, none⟩
  | .queueNewToken expires token => ⟨s.orElse (s.queueNewToken expires token), ⟨none, none⟩, none⟩
  | .queueRelayRequest block => ⟨s.orElse (s.queueRelayRequest block), ⟨none, none⟩, none⟩
  | .queueRelayResponse block => ⟨s.orElse (s.queueRelayResponse block), ⟨none, none⟩, none⟩
  | .queueRelayIntro block => ⟨s.orElse (s.queueRelayIntro block), ⟨none, none⟩, none⟩
  | .queuePeerTest block => ⟨s.orElse (s.queuePeerTest block), ⟨none, none⟩, none⟩
  | .queueAddress endpoint => ⟨s.orElse (s.queueAddress endpoint), ⟨none, none⟩, none⟩
  | .initiateTermination reason => ⟨s.orElse (s.initiateTermination reason), ⟨none, none⟩, none⟩
  | .notePathMigrated => ⟨s.notePathMigrated, ⟨none, none⟩, none⟩
  | .receiveDatagram nowMs datagram =>
    let (t, outcome) := s.receiveDatagram c nowMs datagram
    ⟨t, ⟨none, none⟩, some outcome⟩
  | .pollTransmit nowMs =>
    let (t, result) := s.pollTransmit c nowMs
    ⟨t, result, none⟩
  | .poll nowMs =>
    let (t, _, result) := s.poll c nowMs
    ⟨t, result, none⟩

structure Step where
  before : Ssu2Session
  op : SessionOp
  observed : Observed

def trace (c : DataCrypto) : Ssu2Session → List SessionOp → List Step
  | _, [] => []
  | s, op :: ops => ⟨s, op, op.apply c s⟩ :: trace c (op.apply c s).session ops

def runOps (c : DataCrypto) : Ssu2Session → List SessionOp → Ssu2Session
  | s, [] => s
  | s, op :: ops => runOps c (op.apply c s).session ops

namespace Ssu2Session

variable (s : Ssu2Session)

/-- Only diagnostic counters changed. -/
def CountersOnly (t : Ssu2Session) : Prop :=
  ∃ counters, t = { s with counters := counters }

/-- Only the reassembly state and counters changed. -/
def InboundOnly (t : Ssu2Session) : Prop :=
  ∃ inbound counters, t = { s with inbound := inbound, counters := counters }

/-- Only the sender's stores and counters changed. -/
def SendOnly (t : Ssu2Session) : Prop :=
  ∃ send counters, t = { s with send := send, counters := counters }

/-- Only what the blocks of an accepted packet may touch changed. -/
def DeliverOnly (t : Ssu2Session) : Prop :=
  ∃ acks send inbound remoteTerminate counters, t = { s with
    acks := acks
    send := send
    inbound := inbound
    remoteTerminate := remoteTerminate
    counters := counters }

/-- Only what reception may touch changed. -/
def ReceiveOnly (t : Ssu2Session) : Prop :=
  ∃ window acks send inbound lastReceiveMs remoteTerminate counters, t = { s with
    window := window
    acks := acks
    send := send
    inbound := inbound
    lastReceiveMs := lastReceiveMs
    remoteTerminate := remoteTerminate
    counters := counters }

/-- Only what transmission may touch changed. -/
def TransmitOnly (t : Ssu2Session) : Prop :=
  ∃ numbers acks send queuedControls lastSendMs counters, t = { s with
    numbers := numbers
    acks := acks
    send := send
    queuedControls := queuedControls
    lastSendMs := lastSendMs
    counters := counters }

section Frames

variable {s t u : Ssu2Session}

theorem InboundOnly.refl (s : Ssu2Session) : s.InboundOnly s := ⟨_, _, rfl⟩

theorem InboundOnly.trans (h : s.InboundOnly t) (h' : t.InboundOnly u) : s.InboundOnly u := by
  obtain ⟨_, _, rfl⟩ := h
  obtain ⟨_, _, rfl⟩ := h'
  exact ⟨_, _, rfl⟩

theorem SendOnly.refl (s : Ssu2Session) : s.SendOnly s := ⟨_, _, rfl⟩

theorem SendOnly.trans (h : s.SendOnly t) (h' : t.SendOnly u) : s.SendOnly u := by
  obtain ⟨_, _, rfl⟩ := h
  obtain ⟨_, _, rfl⟩ := h'
  exact ⟨_, _, rfl⟩

theorem ReceiveOnly.trans (h : s.ReceiveOnly t) (h' : t.ReceiveOnly u) : s.ReceiveOnly u := by
  obtain ⟨_, _, _, _, _, _, _, rfl⟩ := h
  obtain ⟨_, _, _, _, _, _, _, rfl⟩ := h'
  exact ⟨_, _, _, _, _, _, _, rfl⟩

theorem DeliverOnly.refl (s : Ssu2Session) : s.DeliverOnly s := ⟨_, _, _, _, _, rfl⟩

theorem DeliverOnly.trans (h : s.DeliverOnly t) (h' : t.DeliverOnly u) : s.DeliverOnly u := by
  obtain ⟨_, _, _, _, _, rfl⟩ := h
  obtain ⟨_, _, _, _, _, rfl⟩ := h'
  exact ⟨_, _, _, _, _, rfl⟩

theorem InboundOnly.deliverOnly (h : s.InboundOnly t) : s.DeliverOnly t := by
  obtain ⟨_, _, rfl⟩ := h
  exact ⟨_, _, _, _, _, rfl⟩

theorem SendOnly.receiveOnly (h : s.SendOnly t) : s.ReceiveOnly t := by
  obtain ⟨_, _, rfl⟩ := h
  exact ⟨_, _, _, _, _, _, _, rfl⟩

theorem TransmitOnly.refl (s : Ssu2Session) : s.TransmitOnly s := ⟨_, _, _, _, _, _, rfl⟩

theorem TransmitOnly.trans (h : s.TransmitOnly t) (h' : t.TransmitOnly u) : s.TransmitOnly u := by
  obtain ⟨_, _, _, _, _, _, rfl⟩ := h
  obtain ⟨_, _, _, _, _, _, rfl⟩ := h'
  exact ⟨_, _, _, _, _, _, rfl⟩

theorem SendOnly.transmitOnly (h : s.SendOnly t) : s.TransmitOnly t := by
  obtain ⟨_, _, rfl⟩ := h
  exact ⟨_, _, _, _, _, _, rfl⟩

end Frames

theorem dropReassembly_inboundOnly (messageId : UInt32) : s.InboundOnly (s.dropReassembly messageId) := by
  unfold dropReassembly
  split
  · exact .refl s
  · exact ⟨_, _, rfl⟩

theorem countReassemblyDrop_inboundOnly : s.InboundOnly s.countReassemblyDrop := ⟨_, _, rfl⟩

theorem setEntry_inboundOnly (messageId : UInt32) (entry : ReassemblyEntry) :
    s.InboundOnly { s with inbound := s.inbound.setEntry messageId entry } := ⟨_, _, rfl⟩

theorem dropConflict_inboundOnly (messageId : UInt32) : s.InboundOnly (s.dropConflict messageId).1 :=
  (s.dropReassembly_inboundOnly messageId).trans (countReassemblyDrop_inboundOnly _)

theorem deliverCompleteMessage_inboundOnly (encoded : List UInt8) (nowMs : Nat) :
    s.InboundOnly (s.deliverCompleteMessage encoded nowMs).1 := by
  unfold deliverCompleteMessage
  split
  · exact s.countReassemblyDrop_inboundOnly
  split
  · exact .refl s
  · exact ⟨_, _, rfl⟩

theorem maybeCompleteReassembly_inboundOnly (messageId : UInt32) (nowMs : Nat) :
    s.InboundOnly (s.maybeCompleteReassembly messageId nowMs).1 := by
  unfold maybeCompleteReassembly
  split
  · exact .refl s
  · exact (s.dropReassembly_inboundOnly messageId).trans (deliverCompleteMessage_inboundOnly ..)

theorem placeFragment_inboundOnly (messageId : UInt32) (entry : ReassemblyEntry) (number : UInt8)
    (fragment : List UInt8) (nowMs : Nat) :
    s.InboundOnly (s.placeFragment messageId entry number fragment nowMs).1 := by
  have hset := s.setEntry_inboundOnly messageId entry
  unfold placeFragment
  simp only
  split
  · split
    · exact hset.trans (dropConflict_inboundOnly ..)
    · exact hset
  · refine hset.trans (.trans ?_ (maybeCompleteReassembly_inboundOnly ..))
    exact ⟨_, _, rfl⟩

theorem ingestFirstFragment_inboundOnly (fragment : FirstFragmentBlock) (nowMs : Nat) :
    s.InboundOnly (s.ingestFirstFragment fragment nowMs).1 := by
  unfold ingestFirstFragment
  simp only
  split
  · exact .refl s
  split
  · exact s.countReassemblyDrop_inboundOnly
  split
  · exact (s.setEntry_inboundOnly _ _).trans (dropConflict_inboundOnly ..)
  · exact placeFragment_inboundOnly ..

theorem ingestFollowOnFragment_inboundOnly (fragment : FollowOnFragmentBlock) (nowMs : Nat) :
    s.InboundOnly (s.ingestFollowOnFragment fragment nowMs).1 := by
  have hset := s.setEntry_inboundOnly fragment.messageId (s.inbound.entryOr fragment.messageId nowMs)
  unfold ingestFollowOnFragment
  simp only
  split
  · exact s.countReassemblyDrop_inboundOnly
  split
  · exact hset.trans (countReassemblyDrop_inboundOnly _)
  split
  · split
    · exact hset.trans (countReassemblyDrop_inboundOnly _)
    split
    · exact hset.trans (dropConflict_inboundOnly ..)
    · exact placeFragment_inboundOnly ..
  · exact placeFragment_inboundOnly ..

theorem deliverBlock_deliverOnly (nowMs : Nat) (block : DecodedBlock) :
    s.DeliverOnly (s.deliverBlock nowMs block).1 := by
  unfold deliverBlock
  split
  case h_2 => exact (deliverCompleteMessage_inboundOnly ..).deliverOnly
  case h_3 => exact (ingestFirstFragment_inboundOnly ..).deliverOnly
  case h_4 => exact (ingestFollowOnFragment_inboundOnly ..).deliverOnly
  case h_5 => exact ⟨_, _, _, _, _, rfl⟩
  case h_11 =>
    simp only
    split
    · exact ⟨_, _, _, _, _, rfl⟩
    · exact .refl s
  all_goals exact .refl s

theorem deliverBlocks_deliverOnly (nowMs : Nat) (blocks : List DecodedBlock) :
    s.DeliverOnly (s.deliverBlocks nowMs blocks).1 := by
  induction blocks generalizing s with
  | nil => exact .refl s
  | cons block blocks ih => exact (s.deliverBlock_deliverOnly nowMs block).trans (ih _)

theorem loseOldest_sendOnly (acked : List UInt32) (ackThrough : UInt32) :
    s.SendOnly (s.loseOldest acked ackThrough) := by
  unfold loseOldest
  split
  · exact ⟨_, _, rfl⟩
  · exact .refl s

theorem credit_sendOnly (r : Retirement) : s.SendOnly (s.credit r) := by
  unfold credit
  cases r.rttSample with
  | none | some sample => simp only; split <;> exact ⟨_, _, rfl⟩

theorem applyAcked_sendOnly (acked : List UInt32) (ackThrough : UInt32) (nowMs : Nat) :
    s.SendOnly (s.applyAcked acked ackThrough nowMs) := by
  have hsettle (r : Retirement) : s.SendOnly (s.settle r) := ⟨_, _, rfl⟩
  exact ((hsettle _).trans (loseOldest_sendOnly ..)).trans (credit_sendOnly ..)

theorem applyAcks_sendOnly (nowMs : Nat) (blocks : List DecodedBlock) : s.SendOnly (s.applyAcks nowMs blocks).2 := by
  fun_induction applyAcks s nowMs blocks with
  | case1 => exact .refl _
  | case2 s ack blocks counted applied happlied ih =>
    obtain ⟨acked, -, rfl⟩ := applyAck_eq_ok.mp happlied
    have hcounted : s.SendOnly counted := ⟨_, _, rfl⟩
    exact (hcounted.trans (applyAcked_sendOnly ..)).trans ih
  | case3 => exact ⟨_, _, rfl⟩
  | case4 _ _ _ _ ih => exact ih

theorem noteReceived_eq (packetNumber : UInt32) (ackEliciting : Bool) (nowMs : Nat)
    (immediateRequested : Bool) : ∃ acks counters,
    s.noteReceived packetNumber ackEliciting nowMs immediateRequested = { s with
      window := s.window.mark packetNumber ackEliciting
      acks := acks
      lastReceiveMs := some nowMs
      counters := counters } := by
  unfold noteReceived markReceived
  simp only
  split <;> exact ⟨_, _, rfl⟩

theorem acceptBlocks_eq (nowMs : Nat) (header : DataHeader) (blocks : List DecodedBlock) :
    ∃ acks send inbound remoteTerminate counters, (s.acceptBlocks nowMs header blocks).1 = { s with
      window := s.window.mark header.packetNumber (blocks.any DecodedBlock.isAckEliciting)
      acks := acks
      send := send
      inbound := inbound
      lastReceiveMs := some nowMs
      remoteTerminate := remoteTerminate
      counters := counters } := by
  obtain ⟨_, _, hnote⟩ := s.noteReceived_eq header.packetNumber (blocks.any DecodedBlock.isAckEliciting) nowMs
    header.immediateAck
  unfold acceptBlocks
  simp only [hnote]
  obtain ⟨_, _, _, _, _, hdeliver⟩ := deliverBlocks_deliverOnly _ nowMs blocks
  exact ⟨_, _, _, _, _, hdeliver⟩

theorem receiveDatagram_cases (c : DataCrypto) (nowMs : Nat) (datagram : List UInt8) :
    (∃ outcome, outcome.dropped.isSome = true ∧
      (s.receiveDatagram c nowMs datagram = (s.countRejected, outcome) ∨
        s.receiveDatagram c nowMs datagram = (s.countReplayed, outcome))) ∨
    ∃ header headerBytes ciphertext plaintext, s.isTerminated = false ∧
      s.openHeader c datagram = some (header, headerBytes, ciphertext) ∧
      s.window.checkReplay header.packetNumber = .admissible ∧
      c.aeadOpen s.keys.receive.cipher header.packetNumber headerBytes ciphertext = some plaintext ∧
      s.receiveDatagram c nowMs datagram = s.receivePlaintext nowMs header plaintext := by
  unfold receiveDatagram
  split
  · exact Or.inl ⟨_, rfl, Or.inl rfl⟩
  next hlive =>
    split
    · exact Or.inl ⟨_, rfl, Or.inl rfl⟩
    next header headerBytes ciphertext hheader =>
      simp only
      split
      · exact Or.inl ⟨_, rfl, Or.inr rfl⟩
      · exact Or.inl ⟨_, rfl, Or.inl rfl⟩
      · exact Or.inl ⟨_, rfl, Or.inl rfl⟩
      next hadmitted =>
        split
        · exact Or.inl ⟨_, rfl, Or.inl rfl⟩
        next plaintext hplain =>
          exact Or.inr ⟨header, headerBytes, ciphertext, plaintext, by simpa using hlive, hheader, hadmitted, hplain, rfl⟩

theorem receiveDatagram_open {s : Ssu2Session} {c : DataCrypto} {datagram headerBytes ciphertext plaintext : List UInt8}
    {header : DataHeader} (hlive : s.isTerminated = false)
    (hheader : s.openHeader c datagram = some (header, headerBytes, ciphertext))
    (hadmitted : s.window.checkReplay header.packetNumber = .admissible)
    (hopen : c.aeadOpen s.keys.receive.cipher header.packetNumber headerBytes ciphertext = some plaintext) (nowMs : Nat) :
    s.receiveDatagram c nowMs datagram = s.receivePlaintext nowMs header plaintext := by
  unfold receiveDatagram
  rw [if_neg (by simp [hlive]), hheader]
  simp only [hadmitted, hopen]

/-- An opened payload is dropped for its blocks, dropped at an invalid ACK, or accepted. -/
inductive Opened (s : Ssu2Session) (nowMs : Nat) (header : DataHeader) (plaintext : List UInt8) :
    Ssu2Session × ReceiveOutcome → Prop
  | unparsed (hparsed : ∀ parsed, parseBlocks plaintext ≠ .ok parsed) {outcome}
      (hdropped : outcome.dropped.isSome = true) : Opened s nowMs header plaintext (s.countRejected, outcome)
  | badAck {parsed} (hparsed : parseBlocks plaintext = .ok parsed) {t}
      (hacks : s.applyAcks nowMs parsed.blocks = (false, t))
      {outcome} (hdropped : outcome.dropped.isSome = true) :
      Opened s nowMs header plaintext (t.countRejected, outcome)
  | rekey (hparsed : parseBlocks plaintext = .error .unsupportedBlock) {outcome}
      (hdropped : outcome.dropped = none) (hnumber : outcome.packetNumber = some header.packetNumber) :
      Opened s nowMs header plaintext (s.noteReceived header.packetNumber false nowMs false, outcome)
  | accepted {parsed} (hparsed : parseBlocks plaintext = .ok parsed) {t}
      (hacks : s.applyAcks nowMs parsed.blocks = (true, t)) {outcome}
      (hdropped : outcome.dropped = none) (hnumber : outcome.packetNumber = some header.packetNumber) :
      Opened s nowMs header plaintext ((t.acceptBlocks nowMs header parsed.blocks).1, outcome)

theorem receivePlaintext_opened (nowMs : Nat) (header : DataHeader) (plaintext : List UInt8) :
    Opened s nowMs header plaintext (s.receivePlaintext nowMs header plaintext) := by
  unfold receivePlaintext
  simp only
  split
  next parsed hparsed =>
    unfold receiveBlocks
    simp only
    split
    next t hacks => exact .badAck hparsed hacks rfl
    next t hacks => exact .accepted hparsed hacks rfl rfl
  next hparsed => exact .rekey hparsed rfl rfl
  next hparsed => exact .unparsed (by simp [hparsed]) rfl

theorem receiveDatagram_receiveOnly (c : DataCrypto) (nowMs : Nat) (datagram : List UInt8) :
    s.ReceiveOnly (s.receiveDatagram c nowMs datagram).1 := by
  have hacks {blocks : List DecodedBlock} {ok : Bool} {t : Ssu2Session}
      (h : s.applyAcks nowMs blocks = (ok, t)) : s.ReceiveOnly t := by
    have := (s.applyAcks_sendOnly nowMs blocks).receiveOnly
    rwa [h] at this
  rcases s.receiveDatagram_cases c nowMs datagram with ⟨_, -, h | h⟩ | ⟨header, _, _, plaintext, -, -, -, -, h⟩
  · rw [h]
    exact ⟨_, _, _, _, _, _, _, rfl⟩
  · rw [h]
    exact ⟨_, _, _, _, _, _, _, rfl⟩
  · rw [h]
    have hopened := s.receivePlaintext_opened nowMs header plaintext
    generalize s.receivePlaintext nowMs header plaintext = result at hopened
    cases hopened with
    | unparsed => exact ⟨_, _, _, _, _, _, _, rfl⟩
    | badAck _ h => exact (hacks h).trans ⟨_, _, _, _, _, _, _, rfl⟩
    | rekey =>
      obtain ⟨_, _, hnote⟩ := s.noteReceived_eq header.packetNumber false nowMs false
      exact ⟨_, _, _, _, _, _, _, hnote⟩
    | accepted _ h =>
      obtain ⟨_, _, _, _, _, haccept⟩ := acceptBlocks_eq _ nowMs header _
      exact (hacks h).trans ⟨_, _, _, _, _, _, _, haccept⟩

theorem sealBlocks_cases (c : DataCrypto) (nowMs : Nat) (packetNumber : UInt32) (blocks : List Block) :
    (s.sealBlocks c nowMs packetNumber blocks = (s, none) ∧
      ∀ encoded, encodeBlocks blocks = .ok encoded → s.maxPayloadBytes < encoded.length) ∨
    ∃ encoded, encodeBlocks blocks = .ok encoded ∧ encoded.length ≤ s.maxPayloadBytes ∧
      s.sealBlocks c nowMs packetNumber blocks =
        (s.noteSent nowMs (s.sealPlaintext c packetNumber (padPlaintext encoded)),
          some ⟨packetNumber, blocks, padPlaintext encoded,
            s.sealPlaintext c packetNumber (padPlaintext encoded)⟩) := by
  unfold sealBlocks
  split
  next e herror => exact Or.inl ⟨rfl, by simp [herror]⟩
  next encoded hok =>
    split
    next hlong =>
      refine Or.inl ⟨rfl, fun other hother => ?_⟩
      cases hok.symm.trans hother
      exact hlong
    next hfits => exact Or.inr ⟨encoded, hok, not_lt.mp hfits, rfl⟩

theorem sealPacket_blocks {s : Ssu2Session} (c : DataCrypto) (nowMs : Nat) {blocks : List Block}
    (hopen : s.numbers.sendExhausted = false) (hne : blocks ≠ []) :
    s.sealPacket c nowMs blocks =
      sealBlocks { s with numbers := s.numbers.allocate.1 } c nowMs s.numbers.nextSend blocks := by
  unfold sealPacket allocatePacketNumber
  simp only [SendNumbers.allocate_eq_some hopen, if_neg hne]

theorem sealPacket_ack {s : Ssu2Session} (c : DataCrypto) (nowMs : Nat) (hopen : s.numbers.sendExhausted = false) :
    (s.window.buildAckBlock = none ∧
      s.sealPacket c nowMs [] = ({ s with numbers := s.numbers.allocate.1 }, none)) ∨
    ∃ ack, s.window.buildAckBlock = some ack ∧ s.sealPacket c nowMs [] =
      sealBlocks ({ s with numbers := s.numbers.allocate.1 } : Ssu2Session).countAckSent c nowMs s.numbers.nextSend
        [.ack ack] := by
  unfold sealPacket allocatePacketNumber
  simp only [SendNumbers.allocate_eq_some hopen, if_true]
  cases hbuild : s.window.buildAckBlock with
  | none => exact Or.inl ⟨rfl, rfl⟩
  | some ack => exact Or.inr ⟨ack, rfl, rfl⟩

theorem evictOldest_sendOnly : s.SendOnly s.evictOldest := by
  unfold evictOldest
  split
  · split
    · exact .refl s
    · exact ⟨_, _, rfl⟩
  · exact .refl s

theorem noteSent_transmitOnly (nowMs : Nat) (datagram : Option (List UInt8)) :
    s.TransmitOnly (s.noteSent nowMs datagram) := by
  unfold noteSent
  split
  · exact ⟨_, _, _, _, _, _, rfl⟩
  · exact .refl s

theorem sealBlocks_transmitOnly (c : DataCrypto) (nowMs : Nat) (packetNumber : UInt32)
    (blocks : List Block) : s.TransmitOnly (s.sealBlocks c nowMs packetNumber blocks).1 := by
  rcases s.sealBlocks_cases c nowMs packetNumber blocks with ⟨h, -⟩ | ⟨_, -, -, h⟩
  · rw [h]
    exact .refl s
  · rw [h]
    exact noteSent_transmitOnly ..

theorem sealPacket_transmitOnly (c : DataCrypto) (nowMs : Nat) (blocks : List Block) :
    s.TransmitOnly (s.sealPacket c nowMs blocks).1 := by
  have hallocate : s.TransmitOnly s.allocatePacketNumber.1 := ⟨_, _, _, _, _, _, rfl⟩
  unfold sealPacket
  split
  next t heq => rwa [heq] at hallocate
  next t n heq =>
    rw [heq] at hallocate
    split
    · split
      · exact hallocate
      have hcount : t.TransmitOnly t.countAckSent := ⟨_, _, _, _, _, _, rfl⟩
      exact (hallocate.trans hcount).trans (sealBlocks_transmitOnly ..)
    · exact hallocate.trans (sealBlocks_transmitOnly ..)

theorem clearAckState_transmitOnly : s.TransmitOnly s.clearAckState := ⟨_, _, _, _, _, _, rfl⟩

theorem recordSent_transmitOnly (nowMs ackElicitingBytes : Nat) (ackOnly : Bool)
    (fragments : List RetransmittableFragment) :
    s.TransmitOnly (s.recordSent nowMs ackElicitingBytes ackOnly fragments).1 := by
  refine s.evictOldest_sendOnly.transmitOnly.trans ?_
  unfold recordSent
  simp only
  split <;> exact ⟨_, _, _, _, _, _, rfl⟩

theorem recordSealed_transmitOnly (p : Plan) (nowMs : Nat) (sealedPacket : SealedPacket) :
    s.TransmitOnly (s.recordSealed p nowMs sealedPacket).1 := by
  have hclear (b : Bool) : s.TransmitOnly (if b then s.clearAckState else s) := by
    split
    · exact s.clearAckState_transmitOnly
    · exact .refl s
  unfold recordSealed
  simp only
  split
  · exact .refl s
  split
  · exact (hclear _).trans (recordSent_transmitOnly ..)
  · exact hclear _

theorem transmitPlan_transmitOnly (p : Plan) (c : DataCrypto) (nowMs : Nat) :
    p.session.TransmitOnly (transmitPlan p c nowMs).1 := by
  have hseal := p.session.sealPacket_transmitOnly c nowMs p.blocks
  unfold transmitPlan
  split
  · exact ⟨_, _, _, _, _, _, rfl⟩
  split
  next heq => rwa [heq] at hseal
  next heq =>
    rw [heq] at hseal
    exact hseal.trans (recordSealed_transmitOnly ..)

theorem transmitAckOnly_transmitOnly (c : DataCrypto) (nowMs : Nat) : s.TransmitOnly (s.transmitAckOnly c nowMs).1 := by
  refine (s.sealPacket_transmitOnly c nowMs []).trans ?_
  unfold transmitAckOnly
  simp only
  split
  · exact clearAckState_transmitOnly _
  · exact .refl _

theorem plan_numbers : s.plan.session.numbers = s.numbers := by
  unfold plan
  simp only
  split <;> rfl

theorem plan_transmitOnly : s.TransmitOnly s.plan.session := by
  unfold plan
  simp only
  split <;> exact ⟨_, _, _, _, _, _, rfl⟩

theorem pollTransmit_transmitOnly (c : DataCrypto) (nowMs : Nat) : s.TransmitOnly (s.pollTransmit c nowMs).1 := by
  unfold pollTransmit
  split
  · exact .refl s
  split
  · exact .refl s
  split
  · split
    · exact s.transmitAckOnly_transmitOnly c nowMs
    · exact .refl s
  · exact s.plan_transmitOnly.trans (transmitPlan_transmitOnly ..)

theorem expire_inboundOnly (nowMs : Nat) : s.InboundOnly (s.expire nowMs) := by
  have hfold (ids : List UInt32) (u : Ssu2Session) :
      u.InboundOnly (ids.foldl (fun s id => (s.dropReassembly id).countReassemblyDrop) u) := by
    induction ids generalizing u with
    | nil => exact .refl u
    | cons id ids ih =>
      exact ((u.dropReassembly_inboundOnly id).trans (countReassemblyDrop_inboundOnly _)).trans (ih _)
  exact InboundOnly.trans ⟨_, _, rfl⟩ (hfold _ _)

theorem fireRto_eq (nowMs : Nat) : ∃ send localTerminate counters,
    s.fireRto nowMs = { s with send := send, localTerminate := localTerminate, counters := counters } := by
  unfold fireRto
  split
  · exact ⟨_, _, _, rfl⟩
  · split <;> exact ⟨_, _, _, rfl⟩

theorem poll_eq (c : DataCrypto) (nowMs : Nat) :
    ∃ numbers acks send queuedControls inbound lastSendMs localTerminate counters, (s.poll c nowMs).1 = { s with
      numbers := numbers
      acks := acks
      send := send
      queuedControls := queuedControls
      inbound := inbound
      lastSendMs := lastSendMs
      localTerminate := localTerminate
      counters := counters } := by
  obtain ⟨_, _, hexpire⟩ := s.expire_inboundOnly nowMs
  obtain ⟨_, _, _, hrto⟩ := (s.expire nowMs).fireRto_eq nowMs
  unfold poll
  split
  · exact ⟨_, _, _, _, _, _, _, _, rfl⟩
  simp only
  split
  · rw [hexpire]
    exact ⟨_, _, _, _, _, _, _, _, rfl⟩
  · split
    · rw [hrto, hexpire]
      exact ⟨_, _, _, _, _, _, _, _, rfl⟩
    · unfold fireAck
      split
      · obtain ⟨_, _, _, _, _, _, htransmit⟩ := ((s.expire nowMs).fireRto nowMs).pollTransmit_transmitOnly c nowMs
        rw [htransmit, hrto, hexpire]
        exact ⟨_, _, _, _, _, _, _, _, rfl⟩
      · rw [hrto, hexpire]
        exact ⟨_, _, _, _, _, _, _, _, rfl⟩

theorem foldl_declareLost_sendOnly (packets : List SentPacket) (s : Ssu2Session) :
    s.SendOnly (packets.foldl declareLost s) := by
  induction packets generalizing s with
  | nil => exact .refl s
  | cons packet packets ih => exact SendOnly.trans ⟨_, _, rfl⟩ (ih _)

theorem notePathMigrated_sendOnly : s.SendOnly s.notePathMigrated := by
  unfold notePathMigrated
  have hstart : s.SendOnly { s with send := { s.send with sent := [] } } := ⟨_, _, rfl⟩
  exact (hstart.trans (foldl_declareLost_sendOnly _ _)).trans ⟨_, _, rfl⟩

theorem queueControl_eq_ok {s t : Ssu2Session} {control : QueuedControl} (h : s.queueControl control = .ok t) :
    s.isTerminated = false ∧ t = { s with queuedControls := s.queuedControls ++ [control] } := by
  unfold queueControl at h
  obtain ⟨hlive, h⟩ := Fallible.ite_error_eq_ok.mp h
  obtain ⟨-, h⟩ := Fallible.ite_error_eq_ok.mp h
  exact ⟨by simpa using hlive, (Except.ok.inj h).symm⟩

theorem initiateTermination_eq_ok {s t : Ssu2Session} {reason : UInt8} (h : s.initiateTermination reason = .ok t) :
    s.isTerminated = false ∧ t = clearReassembly { s with
      queuedControls := s.queuedControls ++ [.termination (UInt64.ofNat s.counters.packetsReceived) reason]
      send := { s.send with pendingRetransmit := [] }
      localTerminate := some reason } := by
  unfold initiateTermination at h
  obtain ⟨u, hq, h⟩ := Fallible.bind_eq_ok.mp h
  obtain ⟨hlive, rfl⟩ := queueControl_eq_ok hq
  exact ⟨hlive, (Except.ok.inj h).symm⟩

theorem queueI2npMessage_eq_ok {s t : Ssu2Session} {bytes : List UInt8} {messageId : UInt32}
    (h : s.queueI2npMessage bytes = .ok (t, messageId)) :
    s.isTerminated = false ∧ 9 < bytes.length ∧ bytes.length ≤ maxI2npMessageBytes ∧ messageId = u32At bytes 1 ∧
      s.fragmentCount (bytes.drop 9) ≤ maxI2npFragments ∧
      s.send.outbound.length < dataMaxSentPackets ∧ ∃ fragments,
        splitBody s.fragmentBudget (s.fragmentCount (bytes.drop 9)) (bytes.drop 9) = .ok fragments ∧
        t = { s with send := { s.send with outbound := s.send.outbound ++
          [⟨messageId, byteAt bytes 0, u32At bytes 5, fragments, 0⟩] } } := by
  unfold queueI2npMessage at h
  obtain ⟨hlive, h⟩ := Fallible.ite_error_eq_ok.mp h
  obtain ⟨hsize, h⟩ := Fallible.ite_error_eq_ok.mp h
  obtain ⟨hheader, h⟩ := Fallible.ite_error_eq_ok.mp h
  simp only at h
  obtain ⟨hbody, h⟩ := Fallible.ite_error_eq_ok.mp h
  obtain ⟨htotal, h⟩ := Fallible.ite_error_eq_ok.mp h
  obtain ⟨hfull, h⟩ := Fallible.ite_error_eq_ok.mp h
  have hlong : 9 < bytes.length := by
    by_contra hle
    exact hbody (List.drop_of_length_le (by omega))
  obtain ⟨fragments, hsplit, h⟩ := Fallible.bind_eq_ok.mp h
  cases h
  exact ⟨by simpa using hlive, hlong, by omega, rfl, by omega, by omega, fragments, hsplit, rfl⟩

/-- What the calls other than reception and transmission can do. -/
inductive LocalEffect (s : Ssu2Session) : Ssu2Session → Prop
  | same : LocalEffect s s
  | bootstrap : LocalEffect s s.requestBootstrapAck
  | message {bytes t messageId}
      (h : s.queueI2npMessage bytes = .ok (t, messageId)) : LocalEffect s t
  | control (control : QueuedControl) (hlive : s.isTerminated = false) :
      LocalEffect s { s with queuedControls := s.queuedControls ++ [control] }
  | terminate {reason t} (h : s.initiateTermination reason = .ok t) : LocalEffect s t
  | migrated : LocalEffect s s.notePathMigrated

theorem LocalEffect.orElse {s : Ssu2Session} {e : Except SessionError Ssu2Session}
    (h : ∀ t, e = .ok t → LocalEffect s t) : LocalEffect s (s.orElse e) := by
  cases e with
  | error => exact .same
  | ok t => exact h t rfl

theorem LocalEffect.queueControl {s t : Ssu2Session} {control : QueuedControl} (h : s.queueControl control = .ok t) :
    LocalEffect s t := by
  obtain ⟨hlive, rfl⟩ := queueControl_eq_ok h
  exact .control control hlive

theorem LocalEffect.queuePath {s t : Ssu2Session} {control : PathBlock → QueuedControl} {data : List UInt8}
    (h : s.queuePath control data = .ok t) : LocalEffect s t := by
  unfold Ssu2Session.queuePath at h
  obtain ⟨-, h⟩ := Fallible.ite_error_eq_ok.mp h
  split at h
  · cases h
  · exact .queueControl h

theorem LocalEffect.queueNewToken {s t : Ssu2Session} {expires : UInt32} {token : UInt64}
    (h : s.queueNewToken expires token = .ok t) : LocalEffect s t := by
  unfold Ssu2Session.queueNewToken at h
  obtain ⟨-, h⟩ := Fallible.ite_error_eq_ok.mp h
  split at h
  · cases h
  · exact .queueControl h

theorem LocalEffect.frame {s t : Ssu2Session} (h : LocalEffect s t) : t.numbers = s.numbers ∧ t.window = s.window := by
  cases h with
  | same | bootstrap | control => exact ⟨rfl, rfl⟩
  | message h =>
    obtain ⟨-, -, -, -, -, -, _, -, rfl⟩ := queueI2npMessage_eq_ok h
    exact ⟨rfl, rfl⟩
  | terminate h =>
    obtain ⟨-, rfl⟩ := initiateTermination_eq_ok h
    exact ⟨rfl, rfl⟩
  | migrated =>
    obtain ⟨_, _, h⟩ := s.notePathMigrated_sendOnly
    rw [h]
    exact ⟨rfl, rfl⟩

end Ssu2Session

open Ssu2Session

/-- A call is a reception, a transmission, a poll, or acts on the session's own queues. -/
inductive OpCases (c : DataCrypto) (s : Ssu2Session) : SessionOp → Prop
  | receive (nowMs : Nat) (datagram : List UInt8) : OpCases c s (.receiveDatagram nowMs datagram)
  | transmit (nowMs : Nat) : OpCases c s (.pollTransmit nowMs)
  | poll (nowMs : Nat) : OpCases c s (.poll nowMs)
  | ownQueues {op : SessionOp} {t : Ssu2Session} (heffect : LocalEffect s t) (heq : op.apply c s = ⟨t, ⟨none, none⟩, none⟩) :
      OpCases c s op

theorem SessionOp.cases (c : DataCrypto) (s : Ssu2Session) (op : SessionOp) : OpCases c s op := by
  cases op with
  | receiveDatagram nowMs datagram => exact .receive nowMs datagram
  | pollTransmit nowMs => exact .transmit nowMs
  | poll nowMs => exact .poll nowMs
  | requestBootstrapAck => exact .ownQueues .bootstrap rfl
  | notePathMigrated => exact .ownQueues .migrated rfl
  | queueI2npMessage bytes =>
    refine .ownQueues (.orElse fun t ht => ?_) rfl
    cases hq : s.queueI2npMessage bytes with
    | error e => simp [hq, Except.map] at ht
    | ok pair =>
      simp only [hq, Except.map, Except.ok.injEq] at ht
      exact ht ▸ .message hq
  | initiateTermination reason => exact .ownQueues (.orElse fun _ h => .terminate h) rfl
  | queuePathChallenge data | queuePathResponse data => exact .ownQueues (.orElse fun _ h => .queuePath h) rfl
  | queueNewToken expires token => exact .ownQueues (.orElse fun _ h => .queueNewToken h) rfl
  | queueRelayRequest block | queueRelayResponse block | queueRelayIntro block | queuePeerTest block
  | queueAddress endpoint => exact .ownQueues (.orElse fun _ h => .queueControl h) rfl

def SessionConfig.sample (initial : UInt32) : SessionConfig where
  localConnId := 1
  remoteConnId := 2
  localIntro := List.Vector.replicate 32 1
  remoteIntro := List.Vector.replicate 32 2
  initialSendPacketNumber := initial
  maxPayloadBytes := 1220
  idleTimeoutMs := 600000

def Ssu2SplitKeys.sample : Ssu2SplitKeys where
  transmit := ⟨List.Vector.replicate 32 3, List.Vector.replicate 32 4⟩
  receive := ⟨List.Vector.replicate 32 5, List.Vector.replicate 32 6⟩

def SessionConfig.samplePeer (initial : UInt32) : SessionConfig where
  localConnId := 2
  remoteConnId := 1
  localIntro := List.Vector.replicate 32 2
  remoteIntro := List.Vector.replicate 32 1
  initialSendPacketNumber := initial
  maxPayloadBytes := 1220
  idleTimeoutMs := 600000

def Ssu2SplitKeys.samplePeer : Ssu2SplitKeys where
  transmit := Ssu2SplitKeys.sample.receive
  receive := Ssu2SplitKeys.sample.transmit

def peerSession : Ssu2Session := .start (.samplePeer 0) .samplePeer

end I2pr.Ssu2
