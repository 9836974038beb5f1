import I2pr.Ssu2Transmit

namespace I2pr.Ssu2

open BigEndian

def dataMaxReassemblyMessages : Nat := 16
def dataMaxReassemblyBytes : Nat := 262144
def dataDupCacheEntries : Nat := 128
def dataDupRetentionSeconds : Nat := 600
def dataDefaultAckDelayMs : Nat := 25
def dataDefaultImmediateAckDelayMs : Nat := 5
def dataMaxConsecutiveRtoBeforeTerminate : Nat := 5

inductive SessionEvent where
  | i2npMessage (bytes : List UInt8)
  | newToken (expires : UInt32) (token : UInt64)
  | pathChallenge (data : List UInt8)
  | pathResponse (data : List UInt8)
  | termination (validPacketsReceived : UInt64) (reason : UInt8)
  | rekeyRequested
  | firstPacketNumber (first : UInt32)
  | dateTime (seconds : UInt32)
  | options (transmitRatios receiveRatios : UInt8 × UInt8)
  | congestion (flags : UInt8)
  | relayRequest (block : RelayRequestBlock)
  | relayResponse (block : RelayResponseBlock)
  | relayIntro (block : RelayIntroBlock)
  | relayTagRequest
  | relayTag (tag : UInt32)
  | peerTest (block : PeerTestBlock)
  | addressObserved
deriving DecidableEq

/-- Why an inbound datagram produced no application-visible effects. -/
inductive DropReason where
  | malformed
  | connectionIdMismatch
  | replay
  | tooOld
  | futureJump
  | authenticationFailed
  | blockParseFailed
  | invalidAck
  | terminated
deriving DecidableEq, Repr

structure ReceiveOutcome where
  packetNumber : Option UInt32 := none
  ackEliciting : Bool := false
  ackOnly : Bool := false
  events : List SessionEvent := []
  ackScheduled : Bool := false
  dropped : Option DropReason := none

namespace Inbound

variable (i : Inbound)

def isDuplicate (messageId expirationSecs : UInt32) (nowMs : Nat) : Bool :=
  i.delivered.any fun entry => entry.messageId = messageId && entry.expirationSecs = expirationSecs &&
    nowMs - entry.deliveredMs < dataDupRetentionSeconds * 1000

def expireDelivered (nowMs : Nat) : List DeliveredEntry → List DeliveredEntry
  | [] => []
  | front :: rest =>
    if dataDupRetentionSeconds * 1000 ≤ nowMs - front.deliveredMs then expireDelivered nowMs rest
    else front :: rest

/-- The cache after one more delivery. -/
def remember (delivered : List DeliveredEntry) (entry : DeliveredEntry) : List DeliveredEntry :=
  let kept := expireDelivered entry.deliveredMs delivered
  (if dataDupCacheEntries ≤ kept.length then kept.drop 1 else kept) ++ [entry]

def recordDelivered (messageId expirationSecs : UInt32) (nowMs : Nat) : Inbound :=
  { i with delivered := remember i.delivered ⟨messageId, expirationSecs, nowMs⟩ }

def refuses (messageId : UInt32) (fragment : List UInt8) : Bool :=
  fragment.isEmpty || (!i.reassembly.contains messageId && dataMaxReassemblyMessages ≤ i.reassembly.size) ||
    dataMaxReassemblyBytes < i.reassemblyBytes + fragment.length

def entryOr (messageId : UInt32) (nowMs : Nat) : ReassemblyEntry :=
  i.reassembly[messageId]?.getD (.placeholder nowMs)

def setEntry (messageId : UInt32) (entry : ReassemblyEntry) : Inbound :=
  { i with reassembly := i.reassembly.insert messageId entry }

end Inbound

def ReassemblyEntry.assemble (entry : ReassemblyEntry) (messageId : UInt32) : Option (List UInt8) := do
  let total ← entry.total
  if entry.fragments.size ≠ total.toNat then none else
  let pieces ← (List.range total.toNat).mapM fun number => entry.fragments[UInt8.ofNat number]?
  let messageType ← entry.messageType
  let expirationSecs ← entry.expirationSecs
  let body := pieces.flatten
  if body = [] ∨ maxI2npMessageBytes < body.length then none
  else some (encodeMessage messageType messageId expirationSecs body)

def ReassemblyEntry.store (entry : ReassemblyEntry) (number : UInt8) (fragment : List UInt8) (nowMs : Nat) :
    ReassemblyEntry :=
  { entry with
    totalBytes := entry.totalBytes + fragment.length
    fragments := entry.fragments.insert number fragment
    lastProgressMs := nowMs }

namespace Ssu2Session

variable (s : Ssu2Session)

def countReassemblyDrop : Ssu2Session :=
  { s with counters := { s.counters with reassemblyDrops := saturatingAdd s.counters.reassemblyDrops 1 } }

def countReassembly : Ssu2Session :=
  { s with counters := { s.counters with
      reassemblyMessages := s.inbound.reassembly.size
      reassemblyBytes := s.inbound.reassemblyBytes } }

def dropReassembly (messageId : UInt32) : Ssu2Session :=
  match s.inbound.reassembly[messageId]? with
  | none => s
  | some entry => countReassembly { s with inbound := { s.inbound with
      reassembly := s.inbound.reassembly.erase messageId
      reassemblyBytes := s.inbound.reassemblyBytes - entry.totalBytes } }

def deliverCompleteMessage (encoded : List UInt8) (nowMs : Nat) : Ssu2Session × List SessionEvent :=
  if encoded.length < 9 then (s.countReassemblyDrop, [])
  else if s.inbound.isDuplicate (u32At encoded 1) (u32At encoded 5) nowMs then (s, [])
  else ({ s with inbound := s.inbound.recordDelivered (u32At encoded 1) (u32At encoded 5) nowMs },
    [.i2npMessage encoded])

def maybeCompleteReassembly (messageId : UInt32) (nowMs : Nat) : Ssu2Session × List SessionEvent :=
  match s.inbound.reassembly[messageId]?.bind (·.assemble messageId) with
  | none => (s, [])
  | some encoded => (s.dropReassembly messageId).deliverCompleteMessage encoded nowMs

/-- The tail of both ingest functions: keep a new fragment and see whether it completes the message. -/
def storeFragment (messageId : UInt32) (entry : ReassemblyEntry) (number : UInt8)
    (fragment : List UInt8) (nowMs : Nat) : Ssu2Session × List SessionEvent :=
  let inbound := s.inbound.setEntry messageId (entry.store number fragment nowMs)
  maybeCompleteReassembly (countReassembly
    { s with inbound := { inbound with reassemblyBytes := s.inbound.reassemblyBytes + fragment.length } })
    messageId nowMs

/-- A conflicting fragment drops the whole entry. -/
def dropConflict (messageId : UInt32) : Ssu2Session × List SessionEvent :=
  ((s.dropReassembly messageId).countReassemblyDrop, [])

/-- Keeping a fragment unless its number is already there, with the same bytes or with others. -/
def placeFragment (messageId : UInt32) (entry : ReassemblyEntry) (number : UInt8)
    (fragment : List UInt8) (nowMs : Nat) : Ssu2Session × List SessionEvent :=
  let s := { s with inbound := s.inbound.setEntry messageId entry }
  match entry.fragments[number]? with
  | some existing => if existing ≠ fragment then s.dropConflict messageId else (s, [])
  | none => s.storeFragment messageId entry number fragment nowMs

def ingestFirstFragment (fragment : FirstFragmentBlock) (nowMs : Nat) : Ssu2Session × List SessionEvent :=
  let messageId := fragment.messageId
  if s.inbound.isDuplicate messageId fragment.expirationSeconds nowMs then (s, [])
  else if s.inbound.refuses messageId fragment.fragment then (s.countReassemblyDrop, [])
  else
    let entry := s.inbound.entryOr messageId nowMs
    if entry.messageType.any (· ≠ fragment.messageType.code) ||
        (entry.messageType.isSome && entry.expirationSecs ≠ some fragment.expirationSeconds) then
      dropConflict { s with inbound := s.inbound.setEntry messageId entry } messageId
    else
      let entry := { entry with
        messageType := some fragment.messageType.code
        expirationSecs := some fragment.expirationSeconds }
      s.placeFragment messageId entry 0 fragment.fragment nowMs

def ingestFollowOnFragment (fragment : FollowOnFragmentBlock) (nowMs : Nat) : Ssu2Session × List SessionEvent :=
  let messageId := fragment.messageId
  if s.inbound.refuses messageId fragment.fragment then (s.countReassemblyDrop, [])
  else
    let entry := s.inbound.entryOr messageId nowMs
    let opened := { s with inbound := s.inbound.setEntry messageId entry }
    if maxI2npFragments ≤ entry.fragments.size then (opened.countReassemblyDrop, [])
    else if fragment.isLast then
      -- a fragment number is at most 127, so the saturating sum is the sum
      let total := fragment.fragNumber + 1
      if total = 0 ∨ maxI2npFragments < total.toNat then (opened.countReassemblyDrop, [])
      else if entry.total.any (· ≠ total) then opened.dropConflict messageId
      else s.placeFragment messageId { entry with total := some total } fragment.fragNumber fragment.fragment nowMs
    else s.placeFragment messageId entry fragment.fragNumber fragment.fragment nowMs

def immediateAckDelay : Nat :=
  match s.send.srttMs with
  | some srtt => max 1 (min (srtt / 16) 5)
  | none => dataDefaultImmediateAckDelayMs

def delayedAckDelay : Nat :=
  match s.send.srttMs with
  | some srtt => max 10 (min (srtt / 6) 150)
  | none => dataDefaultAckDelayMs

def armAck (nowMs : Nat) (immediate : Bool) : Ssu2Session :=
  let wanted := saturatingAdd nowMs (if immediate then s.immediateAckDelay else s.delayedAckDelay)
  let deadline := match s.acks.ackDeadlineMs with
    | some existing => min existing wanted
    | none => wanted
  { s with acks := { s.acks with ackDeadlineMs := some deadline } }

def markReceived (packetNumber : UInt32) (ackEliciting : Bool) (nowMs : Nat)
    (immediateRequested : Bool) : Ssu2Session :=
  let s := { s with window := s.window.mark packetNumber ackEliciting }
  if ackEliciting then
    let since := min (s.acks.ackElicitingSinceAck + 1) (2 ^ 32 - 1)
    let outOfOrder := s.window.highestReceived.any (packetNumber ≠ ·)
    armAck { s with acks := { s.acks with ackPending := true, ackElicitingSinceAck := since } } nowMs
      (immediateRequested || outOfOrder || 2 ≤ since)
  else s

end Ssu2Session

def DecodedBlock.isAckEliciting : DecodedBlock → Bool
  | .ack _ => false
  | .address _ => false
  | .timestamp _ => false
  | .padding _ => false
  | .termination _ => false
  | .unknown _ _ => false
  | _ => true

namespace Ssu2Session

/-- The ACK blocks of a packet, in order, until one is invalid; the first component says whether all of
them were applied. -/
def applyAcks (s : Ssu2Session) (nowMs : Nat) : List DecodedBlock → Bool × Ssu2Session
  | [] => (true, s)
  | .ack ack :: blocks =>
    let counted := { s with counters := { s.counters with acksReceived := saturatingAdd s.counters.acksReceived 1 } }
    match counted.applyAck ack nowMs with
    | .ok applied => applied.applyAcks nowMs blocks
    | .error _ => (false, counted)
  | _ :: blocks => s.applyAcks nowMs blocks

variable (s : Ssu2Session)

/-- The effect of one block after its packet was marked as received. -/
def deliverBlock (nowMs : Nat) : DecodedBlock → Ssu2Session × List SessionEvent
  | .ack _ => (s, [])
  | .i2np message => s.deliverCompleteMessage message.bytes nowMs
  | .firstFragment fragment => s.ingestFirstFragment fragment nowMs
  | .followOnFragment fragment => s.ingestFollowOnFragment fragment nowMs
  | .termination termination =>
    let reason := termination.reason.code
    (clearReassembly { s with
        remoteTerminate := some reason
        counters := { s.counters with terminatedRemote := some reason }
        send := { s.send with pendingRetransmit := [] } },
      [.termination termination.validPacketsReceived reason])
  | .newToken token => (s, [.newToken token.expires token.token])
  | .pathChallenge challenge => (s, [.pathChallenge challenge.data])
  | .pathResponse response => (s, [.pathResponse response.data])
  | .timestamp seconds => (s, [.dateTime seconds])
  | .options options => (s, [.options options.transmitRatios options.receiveRatios])
  | .congestion congestion =>
    (if congestion.requestsImmediateAck then s.armAck nowMs true else s, [.congestion congestion.flags])
  | .relayRequest request => (s, [.relayRequest request])
  | .relayResponse response => (s, [.relayResponse response])
  | .relayIntro intro => (s, [.relayIntro intro])
  | .peerTest peerTest => (s, [.peerTest peerTest])
  | .address _ => (s, [.addressObserved])
  | .relayTagRequest => (s, [.relayTagRequest])
  | .relayTag tag => (s, [.relayTag tag.tag])
  | .firstPacketNumber first => (s, [.firstPacketNumber first])
  | .routerInfo _ => (s, [])
  | .padding _ => (s, [])
  | .unknown _ _ => (s, [])

def deliverBlocks (s : Ssu2Session) (nowMs : Nat) : List DecodedBlock → Ssu2Session × List SessionEvent
  | [] => (s, [])
  | block :: blocks =>
    let (s, events) := s.deliverBlock nowMs block
    let (s, rest) := s.deliverBlocks nowMs blocks
    (s, events ++ rest)

def countRejected : Ssu2Session :=
  { s with counters := { s.counters with packetsRejected := saturatingAdd s.counters.packetsRejected 1 } }

def countReplayed : Ssu2Session :=
  { s with counters := { s.counters with packetsReplayed := saturatingAdd s.counters.packetsReplayed 1 } }

/-- The reception accounting of an authenticated packet. -/
def noteReceived (packetNumber : UInt32) (ackEliciting : Bool) (nowMs : Nat)
    (immediateRequested : Bool) : Ssu2Session :=
  let s := s.markReceived packetNumber ackEliciting nowMs immediateRequested
  { s with
    lastReceiveMs := some nowMs
    counters := { s.counters with packetsReceived := saturatingAdd s.counters.packetsReceived 1 } }

/-- Length checks, header protection and header decoding: the header and the bytes after it. -/
def openHeader (c : DataCrypto) (datagram : List UInt8) : Option (DataHeader × List UInt8 × List UInt8) := do
  let _ ← DatagramLengthClass.classify datagram.length
  if datagram.length < shortHeaderLength + minPostHeaderBytes then none else
  let working ← removeHeaderProtection c datagram s.localIntro s.keys.receive.headerKey2
  let header ← (DataHeader.decode (working.take shortHeaderLength)).toOption
  some (header, working.take shortHeaderLength, working.drop shortHeaderLength)

def noteEliciting (ackEliciting : Bool) : Ssu2Session :=
  { s with acks := { s.acks with lastReceivedEliciting := ackEliciting } }

/-- `receive_datagram` once all ACK blocks were applied: mark the packet, then deliver its blocks. -/
def acceptBlocks (nowMs : Nat) (header : DataHeader) (blocks : List DecodedBlock) : Ssu2Session × List SessionEvent :=
  let ackEliciting := blocks.any DecodedBlock.isAckEliciting
  ((s.noteReceived header.packetNumber ackEliciting nowMs header.immediateAck).noteEliciting ackEliciting).deliverBlocks
    nowMs blocks

/-- `receive_datagram` from the parsed blocks on. -/
def receiveBlocks (nowMs : Nat) (header : DataHeader) (blocks : List DecodedBlock) : Ssu2Session × ReceiveOutcome :=
  let ackEliciting := blocks.any DecodedBlock.isAckEliciting
  let outcome : ReceiveOutcome :=
    { packetNumber := some header.packetNumber, ackEliciting := ackEliciting, ackOnly := !ackEliciting }
  match s.applyAcks nowMs blocks with
  | (false, s) => (s.countRejected, { outcome with dropped := some .invalidAck })
  | (true, s) =>
    let (s, events) := s.acceptBlocks nowMs header blocks
    (s, { outcome with ackScheduled := ackEliciting, events := events })

/-- `receive_datagram` from the opened payload on. -/
def receivePlaintext (nowMs : Nat) (header : DataHeader) (plaintext : List UInt8) : Ssu2Session × ReceiveOutcome :=
  let outcome : ReceiveOutcome := { packetNumber := some header.packetNumber }
  match parseBlocks plaintext with
  | .ok parsed => s.receiveBlocks nowMs header parsed.blocks
  -- a NextNonce block: the packet counts as received, without other effects
  | .error .unsupportedBlock =>
    (s.noteReceived header.packetNumber false nowMs false, { outcome with events := [.rekeyRequested] })
  | .error _ => (s.countRejected, { outcome with dropped := some .blockParseFailed })

def receiveDatagram (c : DataCrypto) (nowMs : Nat) (datagram : List UInt8) : Ssu2Session × ReceiveOutcome :=
  if s.isTerminated then (s.countRejected, { dropped := some .terminated })
  else match s.openHeader c datagram with
    | none => (s.countRejected, { dropped := some .malformed })
    | some (header, headerBytes, ciphertext) =>
      let outcome : ReceiveOutcome := { packetNumber := some header.packetNumber }
      match s.window.checkReplay header.packetNumber with
      | .duplicate => (s.countReplayed, { outcome with dropped := some .replay })
      | .tooOld => (s.countRejected, { outcome with dropped := some .tooOld })
      | .futureJump => (s.countRejected, { outcome with dropped := some .futureJump })
      | .admissible =>
        match c.aeadOpen s.keys.receive.cipher header.packetNumber headerBytes ciphertext with
        | none => (s.countRejected, { outcome with dropped := some .authenticationFailed })
        | some plaintext => s.receivePlaintext nowMs header plaintext

end Ssu2Session

inductive SessionAction where
  | transmit (datagram : List UInt8)
  | terminate (reason : UInt8)

namespace Ssu2Session

variable (s : Ssu2Session)

def staleIds (nowMs : Nat) : List UInt32 :=
  (s.inbound.reassembly.toList.filter fun (_, entry) =>
    60000 ≤ nowMs - entry.lastProgressMs || 120000 ≤ nowMs - entry.createdMs).map (·.1)

def expire (nowMs : Nat) : Ssu2Session :=
  let s := { s with inbound := { s.inbound with delivered := Inbound.expireDelivered nowMs s.inbound.delivered } }
  (s.staleIds nowMs).foldl (fun s id => (s.dropReassembly id).countReassemblyDrop) s

def lastActivity : Option Nat :=
  match s.lastSendMs, s.lastReceiveMs with
  | some send, some receive => some (max send receive)
  | some send, none => some send
  | none, receive => receive

/-- The retransmission timer on the oldest packet that counts for congestion. -/
def fireRto (nowMs : Nat) : Ssu2Session :=
  match s.send.sent.find? (·.countsForCongestion) with
  | none => s
  | some packet =>
    if saturatingAdd packet.sentMs s.send.rtoMs ≤ nowMs then
      let s := declareLost
        { s with send := { s.send with sent := s.send.sent.eraseP (·.countsForCongestion) } } packet
      let send := { s.send with
        consecutiveRto := min (s.send.consecutiveRto + 1) (2 ^ 32 - 1)
        rtoMs := min (min (s.send.rtoMs * 2) (2 ^ 64 - 1)) dataMaxRtoMs }
      { s with send, localTerminate :=
          if dataMaxConsecutiveRtoBeforeTerminate ≤ send.consecutiveRto then some 14 else s.localTerminate }
    else s

/-- The standalone ACK that a due ACK deadline asks for. -/
def fireAck (c : DataCrypto) (nowMs : Nat) : Ssu2Session × PollResult :=
  if s.acks.ackPending && s.acks.ackDeadlineMs.any (· ≤ nowMs) && s.acks.lastReceivedEliciting then
    s.pollTransmit c nowMs
  else (s, ⟨none, none⟩)

def poll (c : DataCrypto) (nowMs : Nat) : Ssu2Session × List SessionAction × PollResult :=
  if s.isTerminated then (s, [], ⟨none, none⟩)
  else
    let s := s.expire nowMs
    if s.lastActivity.any (fun last => s.idleTimeoutMs ≤ nowMs - last) then
      ({ s with localTerminate := some 2 }, [.terminate 2], ⟨none, none⟩)
    else
      let s := s.fireRto nowMs
      if s.isTerminated then (s, [.terminate 14], ⟨none, none⟩)
      else
        let (s, result) := s.fireAck c nowMs
        (s, (result.datagram.map SessionAction.transmit).toList, result)

end Ssu2Session

end I2pr.Ssu2
