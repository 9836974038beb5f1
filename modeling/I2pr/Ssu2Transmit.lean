import I2pr.Ssu2Session

namespace I2pr.Ssu2

open BigEndian

/-- The blocks that elicit no acknowledgement. -/
def isAckEliciting (kind : UInt8) : Bool :=
  !([12, 13, 0, 254, 6] : List UInt8).contains kind

def QueuedControl.toBlock : QueuedControl → Block
  | .pathChallenge block => .pathChallenge block
  | .pathResponse block => .pathResponse block
  | .newToken expires token => .newToken ⟨expires, token⟩
  | .termination validPacketsReceived reason => .termination ⟨validPacketsReceived, .fromCode reason, 0⟩
  | .relayRequest block => .relayRequest block
  | .relayResponse block => .relayResponse block
  | .relayIntro block => .relayIntro block
  | .peerTest block => .peerTest block
  | .address endpoint => .address endpoint

/-- The short transport header and the body of a message. -/
def encodeMessage (messageType : UInt8) (messageId expirationSecs : UInt32) (body : List UInt8) : List UInt8 :=
  messageType :: (encode 4 messageId.toNat ++ (encode 4 expirationSecs.toNat ++ body))

theorem length_encodeMessage (messageType : UInt8) (messageId expirationSecs : UInt32) (body : List UInt8) :
    (encodeMessage messageType messageId expirationSecs body).length = shortTransportHeaderSize + body.length := by
  simp [encodeMessage, shortTransportHeaderSize]
  omega

namespace RetransmittableFragment

def toBlock (f : RetransmittableFragment) : Block :=
  if f.totalFragments ≤ 1 then
    .i2np ⟨encodeMessage f.messageType f.messageId f.expirationSecs f.bytes,
      by rw [length_encodeMessage]; omega, by rw [length_encodeMessage]; exact f.bounded⟩
  else if h : f.fragNumber = 0 then
    .firstFragment ⟨.fromCode f.messageType, f.messageId, f.expirationSecs, f.bytes, f.nonempty,
      by have := f.bounded; omega⟩
  else
    .followOnFragment ⟨f.fragNumber, f.isLast, f.messageId, f.bytes,
      ⟨UInt8.le_iff_toNat_le.mpr (Nat.one_le_iff_ne_zero.mpr fun h0 => h (UInt8.toNat_inj.mp h0)), f.numbered⟩,
      f.nonempty, by have := f.bounded; omega⟩

end RetransmittableFragment

/-- The fragment a message hands to the transmit path. -/
def OutboundMessage.retransmittable (m : OutboundMessage) (f : QueuedFragment) : RetransmittableFragment :=
  ⟨m.messageId, f.fragNumber, f.isLast, f.totalFragments, m.messageType, m.expirationSecs, f.bytes, 0,
    f.numbered, f.nonempty, f.bounded⟩

structure Taken (Q : Type) where
  carried : List RetransmittableFragment
  queue : Q
  used : Nat

/-- The retransmit loop: oldest first, until one does not fit. -/
def takeRetransmits (budget : Nat) : Nat → List RetransmittableFragment → Taken (List RetransmittableFragment)
  | used, [] => ⟨[], [], used⟩
  | used, fragment :: rest =>
    if used < budget ∧ used + fragment.toBlock.encodedLen ≤ budget then
      let t := takeRetransmits budget (used + fragment.toBlock.encodedLen) rest
      ⟨fragment :: t.carried, t.queue, t.used⟩
    else ⟨[], fragment :: rest, used⟩

/-- One new fragment of a message, if there is one and it fits. -/
def takeFragment (budget used : Nat) (message : OutboundMessage) : Taken OutboundMessage :=
  match message.fragments with
  | [] => ⟨[], message, used⟩
  | fragment :: fragments =>
    let carried := message.retransmittable fragment
    if used < budget ∧ used + carried.toBlock.encodedLen ≤ budget then
      ⟨[carried], { message with fragments }, used + carried.toBlock.encodedLen⟩
    else ⟨[], message, used⟩

/-- The outbound loop: at most one fragment of each message, until the budget is used up. -/
def takeOutbound (budget : Nat) : Nat → List OutboundMessage → Taken (List OutboundMessage)
  | used, [] => ⟨[], [], used⟩
  | used, message :: rest =>
    let first := takeFragment budget used message
    if budget ≤ first.used then ⟨first.carried, first.queue :: rest, first.used⟩
    else
      let t := takeOutbound budget first.used rest
      ⟨first.carried ++ t.carried, first.queue :: t.queue, t.used⟩

def markInFlight (messages : List OutboundMessage) (messageId : UInt32) : List OutboundMessage :=
  match messages with
  | [] => []
  | message :: rest =>
    if message.messageId = messageId then { message with inFlight := message.inFlight + 1 } :: rest
    else message :: markInFlight rest messageId

/-- A packet for which the transmit cipher's `seal` was called. -/
structure SealedPacket where
  packetNumber : UInt32
  blocks : List Block
  plaintext : List UInt8
  datagram : Option (List UInt8)

structure PollResult where
  sealedPacket : Option SealedPacket
  recorded : Option SentPacket

def PollResult.datagram (r : PollResult) : Option (List UInt8) :=
  r.sealedPacket.bind (·.datagram)

/-- Short payloads are padded to the header-protection floor by a padding block of their own. -/
def padPlaintext (plaintext : List UInt8) : List UInt8 :=
  if plaintext.length < minHandshakePayloadBytes then
    plaintext ++ (Block.padding ⟨List.replicate (max (minHandshakePayloadBytes - plaintext.length) 1) 0, by
      simp [minHandshakePayloadBytes, maxDatagramIpv4Length, blockHeaderLength]; omega⟩).wire
  else plaintext

namespace Ssu2Session

variable (s : Ssu2Session)

def allocatePacketNumber : Ssu2Session × Option UInt32 :=
  ({ s with numbers := s.numbers.allocate.1 }, s.numbers.allocate.2)

def shouldRequestImmediateAck : Bool :=
  if !s.send.pendingRetransmit.isEmpty then true
  else if s.send.cwndBytes = 0 then false
  else s.send.cwndBytes * 2 ≤ s.send.bytesInFlight * 3

/-- The AEAD seal and the header protection of `seal_packet`. -/
def sealPlaintext (c : DataCrypto) (packetNumber : UInt32) (plaintext : List UInt8) : Option (List UInt8) := do
  let header := DataHeader.encode ⟨s.remoteConnId, packetNumber, s.shouldRequestImmediateAck⟩
  let ciphertext ← c.aeadSeal s.keys.transmit.cipher packetNumber header plaintext
  let datagram ← applyHeaderProtection c (header ++ ciphertext) s.remoteIntro s.keys.transmit.headerKey2
  if datagram.length < minDatagramLength ∨ maxDatagramIpv4Length < datagram.length then none else some datagram

def noteSent (nowMs : Nat) (datagram : Option (List UInt8)) : Ssu2Session :=
  if datagram.isSome then
    { s with
      lastSendMs := some nowMs
      counters := { s.counters with packetsSent := saturatingAdd s.counters.packetsSent 1 } }
  else s

/-- `seal_packet` from the point where the blocks are known. -/
def sealBlocks (c : DataCrypto) (nowMs : Nat) (packetNumber : UInt32) (blocks : List Block) :
    Ssu2Session × Option SealedPacket :=
  match encodeBlocks blocks with
  | .error _ => (s, none)
  | .ok encoded =>
    if s.maxPayloadBytes < encoded.length then (s, none)
    else
      let plaintext := padPlaintext encoded
      let datagram := s.sealPlaintext c packetNumber plaintext
      (s.noteSent nowMs datagram, some ⟨packetNumber, blocks, plaintext, datagram⟩)

def countAckSent : Ssu2Session :=
  { s with counters := { s.counters with acksSent := saturatingAdd s.counters.acksSent 1 } }

/-- `seal_packet`; no blocks ask for a standalone ACK. -/
def sealPacket (c : DataCrypto) (nowMs : Nat) (blocks : List Block) : Ssu2Session × Option SealedPacket :=
  match s.allocatePacketNumber with
  | (s, none) => (s, none)
  | (s, some packetNumber) =>
    if blocks = [] then
      match s.window.buildAckBlock with
      | none => (s, none)
      | some ack => s.countAckSent.sealBlocks c nowMs packetNumber [.ack ack]
    else s.sealBlocks c nowMs packetNumber blocks

def clearAckState : Ssu2Session :=
  { s with acks := s.acks.clear }

/-- The history after its bound is enforced: the oldest packet is declared lost. -/
def evictOldest : Ssu2Session :=
  if dataMaxSentPackets ≤ s.send.sent.length then
    match s.send.sent with
    | [] => s
    | oldest :: rest => declareLost { s with send := { s.send with sent := rest } } oldest
  else s

def recordSent (nowMs ackElicitingBytes : Nat) (ackOnly : Bool)
    (fragments : List RetransmittableFragment) : Ssu2Session × SentPacket :=
  let s := s.evictOldest
  let packet : SentPacket :=
    { packetNumber := s.numbers.nextSend - 1
      sentMs := nowMs
      ackElicitingBytes := ackElicitingBytes
      ackOnly := ackOnly
      fragments := fragments
      countsForCongestion := !ackOnly
      generation := fragments.foldl (fun generation f => max generation f.generation) 0 }
  let bytesInFlight := if ackOnly then s.send.bytesInFlight else s.send.bytesInFlight + ackElicitingBytes
  let s := { s with
    send := { s.send with bytesInFlight := bytesInFlight, sent := s.send.sent ++ [packet] }
    counters := { s.counters with
      bytesInFlight := if ackOnly then s.counters.bytesInFlight else bytesInFlight } }
  (if s.acks.ackPending || s.acks.bootstrapAckPending then s.clearAckState else s, packet)

def wantAck : Bool :=
  s.acks.ackPending || s.acks.bootstrapAckPending

/-- The ACK a packet would carry: the window's, or the bootstrap's zero ACK while nothing was received. -/
def ackToSend : Option AckBlock :=
  if s.wantAck then
    match s.window.buildAckBlock with
    | some ack => some ack
    | none => if s.acks.bootstrapAckPending then (AckBlock.new 0 0 []).toOption else none
  else none

structure Plan where
  session : Ssu2Session
  blocks : List Block
  carried : List RetransmittableFragment

/-- The ACK block of the packet, if one is wanted and fits. -/
def planAck : List Block :=
  match s.ackToSend with
  | some ack => if (Block.ack ack).encodedLen ≤ s.maxPayloadBytes then [.ack ack] else []
  | none => []

/-- At most one control, which stays in front of the queue if it does not fit. -/
def planControl (budget used : Nat) : List QueuedControl → List Block × List QueuedControl
  | [] => ([], [])
  | control :: rest =>
    if used + control.toBlock.encodedLen ≤ budget then ([control.toBlock], rest) else ([], control :: rest)

def blocksLen (blocks : List Block) : Nat :=
  (blocks.map Block.encodedLen).sum

def planControls : List Block × List QueuedControl :=
  planControl s.maxPayloadBytes (blocksLen s.planAck) s.queuedControls

def planRetransmits : Taken (List RetransmittableFragment) :=
  takeRetransmits s.maxPayloadBytes (blocksLen s.planAck + blocksLen s.planControls.1) s.send.pendingRetransmit

def planFresh : Taken (List OutboundMessage) :=
  takeOutbound s.maxPayloadBytes s.planRetransmits.used s.send.outbound

/-- The assembly part of `poll_transmit`: ACK, control, retransmissions, new fragments. -/
def plan : Plan :=
  let carried := s.planRetransmits.carried ++ s.planFresh.carried
  let counted := if s.planAck = [] then s else s.countAckSent
  { session := { counted with
      queuedControls := s.planControls.2
      send := { s.send with
        pendingRetransmit := s.planRetransmits.queue
        outbound := (s.planFresh.carried.map (·.messageId)).foldl markInFlight s.planFresh.queue } }
    blocks := s.planAck ++ (s.planControls.1 ++ carried.map RetransmittableFragment.toBlock)
    carried := carried }

/-- What `poll_transmit` does after `seal_packet`: clear the ACK state and keep the packet's provenance. -/
def recordSealed (p : Plan) (nowMs : Nat) (sealedPacket : SealedPacket) : Ssu2Session × PollResult :=
  let ackOnly := !p.blocks.any fun block => isAckEliciting block.kind
  match sealedPacket.datagram with
  | none => (s, ⟨some sealedPacket, none⟩)
  | some datagram =>
    let s := if p.blocks.any fun block => block.kind = 12 then s.clearAckState else s
    if !p.carried.isEmpty || !ackOnly then
      let (s, packet) := s.recordSent nowMs (if ackOnly then 0 else datagram.length) ackOnly p.carried
      (s, ⟨some sealedPacket, some packet⟩)
    else (s, ⟨some sealedPacket, none⟩)

/-- Sealing a plan and recording what it carries. -/
def transmitPlan (p : Plan) (c : DataCrypto) (nowMs : Nat) : Ssu2Session × PollResult :=
  if p.blocks = [] then
    ({ p.session with send := { p.session.send with
        pendingRetransmit := p.carried ++ p.session.send.pendingRetransmit } }, ⟨none, none⟩)
  else match p.session.sealPacket c nowMs p.blocks with
    | (s, none) => (s, ⟨none, none⟩)
    | (s, some sealedPacket) => s.recordSealed p nowMs sealedPacket

/-- A standalone ACK, which congestion does not hold back. -/
def transmitAckOnly (c : DataCrypto) (nowMs : Nat) : Ssu2Session × PollResult :=
  let (s, sealedPacket) := s.sealPacket c nowMs []
  (if (sealedPacket.bind (·.datagram)).isSome then s.clearAckState else s, ⟨sealedPacket, none⟩)

def hasOutbound : Bool :=
  s.send.outbound.any fun message => !message.fragments.isEmpty

def hasWork : Bool :=
  !s.queuedControls.isEmpty || !s.send.pendingRetransmit.isEmpty || s.hasOutbound

def pollTransmit (c : DataCrypto) (nowMs : Nat) : Ssu2Session × PollResult :=
  if s.numbers.sendExhausted then (s, ⟨none, none⟩)
  else if !s.wantAck && !s.hasWork then (s, ⟨none, none⟩)
  else if s.hasWork && s.send.cwndBytes ≤ s.send.bytesInFlight then
    if s.wantAck then s.transmitAckOnly c nowMs else (s, ⟨none, none⟩)
  else transmitPlan s.plan c nowMs

end Ssu2Session

end I2pr.Ssu2
