import I2pr.Ssu2Ack
import I2pr.Lib.Chunks

namespace I2pr.Ssu2

open BigEndian

def maxI2npFragments : Nat := 64
def dataMaxSentPackets : Nat := 256
def dataMaxPendingRetransmitFragments : Nat := 256
def dataMaxFragmentRetransmissions : UInt8 := 5
def dataInitialRtoMs : Nat := 1000
def dataMinRtoMs : Nat := 1000
def dataMaxRtoMs : Nat := 60000
def dataMssBytes : Nat := 1220
def dataMinCwndBytes : Nat := 2 * dataMssBytes
def dataDefaultCwndBytes : Nat := 10 * dataMssBytes
def dataMaxCwndBytes : Nat := 60000
def dataIpv4OverheadBytes : Nat := 60
def dataIpv6OverheadBytes : Nat := 80

structure SessionConfig where
  localConnId : UInt64
  remoteConnId : UInt64
  localIntro : Key
  remoteIntro : Key
  initialSendPacketNumber : UInt32
  maxPayloadBytes : Nat
  idleTimeoutMs : Nat

def SessionConfig.maxPayloadForMtu (mtu : UInt16) (ipv6 : Bool) : Nat :=
  mtu.toNat - if ipv6 then dataIpv6OverheadBytes else dataIpv4OverheadBytes

/-- The payload budget; zero asks for the one of the minimal MTU. -/
def SessionConfig.budget (config : SessionConfig) : Nat :=
  if config.maxPayloadBytes = 0 then maxPayloadForMtu 1280 false else config.maxPayloadBytes

structure SessionCounters where
  packetsSent : Nat := 0
  packetsReceived : Nat := 0
  packetsReplayed : Nat := 0
  packetsRejected : Nat := 0
  acksSent : Nat := 0
  acksReceived : Nat := 0
  lossEvents : Nat := 0
  retransmittedFragments : Nat := 0
  bytesInFlight : Nat := 0
  cwndBytes : Nat := 0
  reassemblyMessages : Nat := 0
  reassemblyBytes : Nat := 0
  reassemblyDrops : Nat := 0
  terminatedLocal : Bool := false
  terminatedRemote : Option UInt8 := none

/-- One fixed piece of a queued message, with the bounds under which every block it can become is valid. -/
structure QueuedFragment where
  fragNumber : UInt8
  isLast : Bool
  totalFragments : UInt8
  bytes : List UInt8
  numbered : fragNumber ≤ maxFragmentNumber
  nonempty : bytes ≠ []
  bounded : shortTransportHeaderSize + bytes.length ≤ maxI2npMessageBytes

structure OutboundMessage where
  messageId : UInt32
  messageType : UInt8
  expirationSecs : UInt32
  fragments : List QueuedFragment
  inFlight : Nat

structure RetransmittableFragment where
  messageId : UInt32
  fragNumber : UInt8
  isLast : Bool
  totalFragments : UInt8
  messageType : UInt8
  expirationSecs : UInt32
  bytes : List UInt8
  generation : UInt8
  numbered : fragNumber ≤ maxFragmentNumber
  nonempty : bytes ≠ []
  bounded : shortTransportHeaderSize + bytes.length ≤ maxI2npMessageBytes

def RetransmittableFragment.nextGeneration (f : RetransmittableFragment) : RetransmittableFragment :=
  { f with generation := f.generation + 1 }

structure SentPacket where
  packetNumber : UInt32
  sentMs : Nat
  ackElicitingBytes : Nat
  ackOnly : Bool
  fragments : List RetransmittableFragment
  countsForCongestion : Bool
  generation : UInt8

inductive QueuedControl where
  | pathChallenge (block : PathBlock)
  | pathResponse (block : PathBlock)
  | newToken (expires : UInt32) (token : UInt64)
  | termination (validPacketsReceived : UInt64) (reason : UInt8)
  | relayRequest (block : RelayRequestBlock)
  | relayResponse (block : RelayResponseBlock)
  | relayIntro (block : RelayIntroBlock)
  | peerTest (block : PeerTestBlock)
  | address (endpoint : Ssu2Endpoint)
deriving DecidableEq

/-- The sender's stores and its loss and congestion state. `gaveUp` is a history variable that nothing
reads: the messages `fail_message` gave up. -/
structure SendState where
  srttMs : Option Nat := none
  rttvarMs : Nat := 0
  rtoMs : Nat := dataInitialRtoMs
  cwndBytes : Nat := dataDefaultCwndBytes
  bytesInFlight : Nat := 0
  consecutiveRto : Nat := 0
  sent : List SentPacket := []
  pendingRetransmit : List RetransmittableFragment := []
  outbound : List OutboundMessage := []
  gaveUp : List UInt32 := []

namespace SendState

variable (st : SendState)

def updateRtt (sampleMs : Nat) : SendState :=
  let (srtt, rttvar) := match st.srttMs with
    | none => (sampleMs, sampleMs / 2)
    | some srtt =>
      let diff := max srtt sampleMs - min srtt sampleMs
      ((7 * srtt + sampleMs) / 8, (3 * st.rttvarMs + diff) / 4)
  let rto := saturatingAdd srtt (max (min (rttvar * 4) (2 ^ 64 - 1)) 1)
  { st with srttMs := some srtt, rttvarMs := rttvar, rtoMs := max dataMinRtoMs (min rto dataMaxRtoMs) }

def growCwnd (ackedBytes : Nat) : SendState :=
  { st with cwndBytes := min (st.cwndBytes + min ackedBytes dataMssBytes) dataMaxCwndBytes }

def shrinkCwnd : SendState :=
  { st with cwndBytes := max (st.cwndBytes / 2) dataMinCwndBytes }

def failMessage (messageId : UInt32) : SendState :=
  { st with
    outbound := st.outbound.eraseP (·.messageId = messageId)
    pendingRetransmit := st.pendingRetransmit.filter (·.messageId ≠ messageId)
    gaveUp := messageId :: st.gaveUp }

/-- Whether `declare_lost` still retransmits the fragment. -/
def retransmits (fragment : RetransmittableFragment) : Bool :=
  fragment.generation < dataMaxFragmentRetransmissions &&
    st.pendingRetransmit.length < dataMaxPendingRetransmitFragments

/-- The fragment loop of `declare_lost`: past its ceiling, or with no room, the message is given up. -/
def requeue (fragment : RetransmittableFragment) : SendState :=
  if st.retransmits fragment then
    { st with pendingRetransmit := st.pendingRetransmit ++ [fragment.nextGeneration] }
  else st.failMessage fragment.messageId

def requeueAll : SendState → List RetransmittableFragment → SendState × Nat
  | st, [] => (st, 0)
  | st, fragment :: fragments =>
    let (last, scheduled) := requeueAll (st.requeue fragment) fragments
    (last, scheduled + if st.retransmits fragment then 1 else 0)

/-- `declare_lost` of a packet already taken out of `sent`. -/
def declareLost (packet : SentPacket) : SendState × Nat :=
  let st := if packet.countsForCongestion then
      { st with bytesInFlight := st.bytesInFlight - packet.ackElicitingBytes } else st
  st.shrinkCwnd.requeueAll packet.fragments

/-- The outbound queue without its first message of that id, if that one has no unsent fragments. -/
def removeDrained (messageId : UInt32) : List OutboundMessage → List OutboundMessage
  | [] => []
  | message :: messages =>
    if message.messageId = messageId then
      if message.fragments.isEmpty then messages else message :: messages
    else message :: removeDrained messageId messages

def stillReferenced (messageId : UInt32) : Bool :=
  st.sent.any (fun packet => packet.fragments.any (·.messageId = messageId)) ||
    st.pendingRetransmit.any (·.messageId = messageId)

def markFragmentAcked (fragment : RetransmittableFragment) : SendState :=
  if st.stillReferenced fragment.messageId then st
  else { st with outbound := removeDrained fragment.messageId st.outbound }

/-- A delivered fragment leaves the retransmit queue and may release its message. -/
def settleFragment (fragment : RetransmittableFragment) : SendState :=
  ({ st with pendingRetransmit := st.pendingRetransmit.filter fun pending =>
      !(pending.messageId = fragment.messageId && pending.fragNumber = fragment.fragNumber) } :
    SendState).markFragmentAcked fragment

end SendState

/-- What the retirement loop of `apply_ack` carries along. -/
structure Retirement where
  send : SendState
  newlyAckedBytes : Nat := 0
  rttSample : Option Nat := none
  countedBytes : Bool := false

namespace Retirement

/-- Retiring one packet; `remaining` is the history without it. -/
def retire (r : Retirement) (remaining : List SentPacket) (packet : SentPacket) (nowMs : Nat) : Retirement :=
  let st := { r.send with sent := remaining }
  let st := if packet.countsForCongestion then
      { st with bytesInFlight := st.bytesInFlight - packet.ackElicitingBytes } else st
  let st := packet.fragments.foldl SendState.settleFragment st
  { send := { st with consecutiveRto := 0 }
    newlyAckedBytes := r.newlyAckedBytes + if packet.countsForCongestion then packet.ackElicitingBytes else 0
    rttSample :=
      if !packet.ackOnly && packet.generation = 0 && r.rttSample.isNone then
        if packet.sentMs ≤ nowMs then some (nowMs - packet.sentMs) else none
      else r.rttSample
    countedBytes := r.countedBytes || packet.countsForCongestion }

/-- The loop over the history: `kept` was passed over, `rest` is still to be looked at. -/
def retireFrom (acked : List UInt32) (nowMs : Nat) : List SentPacket → List SentPacket → Retirement → Retirement
  | _, [], r => r
  | kept, packet :: rest, r =>
    if packet.packetNumber ∈ acked then retireFrom acked nowMs kept rest (r.retire (kept ++ rest) packet nowMs)
    else retireFrom acked nowMs (kept ++ [packet]) rest r

end Retirement

/-- A packet below `ack_through` that the block does not acknowledge. -/
def nackedBy (acked : List UInt32) (ackThrough : UInt32) (packet : SentPacket) : Bool :=
  packet.packetNumber ≠ ackThrough && ackThrough - packet.packetNumber ≠ 0 &&
    ackThrough - packet.packetNumber < 2 ^ 31 && !acked.contains packet.packetNumber

structure AckSchedule where
  ackPending : Bool := false
  ackDeadlineMs : Option Nat := none
  ackElicitingSinceAck : Nat := 0
  lastReceivedEliciting : Bool := false
  bootstrapAckPending : Bool := false

def AckSchedule.clear (a : AckSchedule) : AckSchedule :=
  { a with ackPending := false, bootstrapAckPending := false, ackDeadlineMs := none, ackElicitingSinceAck := 0 }

structure ReassemblyEntry where
  messageType : Option UInt8
  expirationSecs : Option UInt32
  fragments : Std.ExtTreeMap UInt8 (List UInt8)
  total : Option UInt8
  totalBytes : Nat
  createdMs : Nat
  lastProgressMs : Nat

def ReassemblyEntry.placeholder (nowMs : Nat) : ReassemblyEntry :=
  ⟨none, none, ∅, none, 0, nowMs, nowMs⟩

structure DeliveredEntry where
  messageId : UInt32
  expirationSecs : UInt32
  deliveredMs : Nat
deriving DecidableEq

/-- Reassembly and duplicate suppression. -/
structure Inbound where
  reassembly : Std.ExtTreeMap UInt32 ReassemblyEntry := ∅
  reassemblyBytes : Nat := 0
  delivered : List DeliveredEntry := []

/-- The packet number allocator. The count of allocated numbers never passes the next one. -/
structure SendNumbers where
  nextSend : UInt32
  sendExhausted : Bool
  packetsSentCount : Nat
  counted : packetsSentCount ≤ nextSend.toNat

theorem SendNumbers.toNat_succ {n : UInt32} (h : n ≠ 0xFFFFFFFF) : (n + 1).toNat = n.toNat + 1 := by
  have := n.toNat_lt
  have hne : n.toNat ≠ 2 ^ 32 - 1 := fun heq => h (UInt32.toNat_inj.mp heq)
  rw [UInt32.toNat_add, show (1 : UInt32).toNat = 1 from rfl]
  omega

def SendNumbers.allocate (n : SendNumbers) : SendNumbers × Option UInt32 :=
  if n.sendExhausted then (n, none)
  else if h : n.nextSend = 0xFFFFFFFF then ({ n with sendExhausted := true }, some n.nextSend)
  else if 2 ^ 32 - 1 ≤ n.packetsSentCount then
    (⟨n.nextSend + 1, true, n.packetsSentCount, by rw [toNat_succ h]; exact Nat.le_succ_of_le n.counted⟩, none)
  else
    (⟨n.nextSend + 1, false, saturatingAdd n.packetsSentCount 1, by
        have := n.counted
        rw [toNat_succ h, saturatingAdd]
        omega⟩, some n.nextSend)

theorem SendNumbers.allocate_eq_some {n : SendNumbers} (h : n.sendExhausted = false) :
    n.allocate.2 = some n.nextSend := by
  have hcounted := n.counted
  have hlt := n.nextSend.toNat_lt
  unfold allocate
  rw [if_neg (by simp [h])]
  split
  · rfl
  next hlast =>
    have := SendNumbers.toNat_succ hlast
    have := (n.nextSend + 1).toNat_lt
    rw [if_neg (by omega)]

theorem SendNumbers.allocate_advances {n : SendNumbers} (h : n.sendExhausted = false) :
    (n.nextSend = 0xFFFFFFFF ∧ n.allocate.1.nextSend = n.nextSend ∧ n.allocate.1.sendExhausted = true) ∨
      (n.nextSend ≠ 0xFFFFFFFF ∧ n.allocate.1.nextSend = n.nextSend + 1) := by
  unfold allocate
  rw [if_neg (by simp [h])]
  split
  next hlast => exact Or.inl ⟨hlast, rfl, rfl⟩
  next hlast =>
    refine Or.inr ⟨hlast, ?_⟩
    split <;> rfl

structure DataDirectionKeys where
  cipher : Key
  headerKey2 : Key
deriving DecidableEq

structure Ssu2SplitKeys where
  transmit : DataDirectionKeys
  receive : DataDirectionKeys

structure Ssu2Session where
  localConnId : UInt64
  remoteConnId : UInt64
  localIntro : Key
  remoteIntro : Key
  maxPayloadBytes : Nat
  idleTimeoutMs : Nat
  keys : Ssu2SplitKeys
  numbers : SendNumbers
  window : ReplayWindow
  acks : AckSchedule
  send : SendState
  queuedControls : List QueuedControl
  inbound : Inbound
  lastSendMs : Option Nat
  lastReceiveMs : Option Nat
  localTerminate : Option UInt8
  remoteTerminate : Option UInt8
  counters : SessionCounters

namespace Ssu2Session

def start (config : SessionConfig) (keys : Ssu2SplitKeys) : Ssu2Session where
  localConnId := config.localConnId
  remoteConnId := config.remoteConnId
  localIntro := config.localIntro
  remoteIntro := config.remoteIntro
  maxPayloadBytes := config.budget
  idleTimeoutMs := config.idleTimeoutMs
  keys := keys
  numbers := ⟨config.initialSendPacketNumber, false, 0, Nat.zero_le _⟩
  window := .empty
  acks := {}
  send := {}
  queuedControls := []
  inbound := {}
  lastSendMs := none
  lastReceiveMs := none
  localTerminate := none
  remoteTerminate := none
  counters := { cwndBytes := dataDefaultCwndBytes }

def new (config : SessionConfig) (keys : Ssu2SplitKeys) : Except SessionError Ssu2Session :=
  if config.localConnId = config.remoteConnId then .error .localPolicyDenied
  else if config.budget < minPostHeaderBytes + 16 then .error .localPolicyDenied
  else .ok (start config keys)

theorem new_eq_ok {config : SessionConfig} {keys : Ssu2SplitKeys} {s : Ssu2Session} (h : new config keys = .ok s) :
    s = start config keys ∧ minPostHeaderBytes + 16 ≤ config.budget := by
  unfold new at h
  split at h
  · cases h
  split at h
  · cases h
  next hbudget => exact ⟨(Except.ok.inj h).symm, not_lt.mp hbudget⟩

variable (s : Ssu2Session)

def requestBootstrapAck : Ssu2Session :=
  { s with acks := { s.acks with bootstrapAckPending := true } }

def isTerminated : Bool :=
  s.localTerminate.isSome || s.remoteTerminate.isSome

def countLoss (c : SessionCounters) (packet : SentPacket) (lost : SendState × Nat) : SessionCounters :=
  { c with
    lossEvents := saturatingAdd c.lossEvents 1
    bytesInFlight := if packet.countsForCongestion then lost.1.bytesInFlight else c.bytesInFlight
    cwndBytes := lost.1.cwndBytes
    retransmittedFragments := saturatingAdd c.retransmittedFragments lost.2 }

def declareLost (s : Ssu2Session) (packet : SentPacket) : Ssu2Session :=
  { s with
    send := (s.send.declareLost packet).1
    counters := countLoss s.counters packet (s.send.declareLost packet) }

/-- The session after the retirement loop of `apply_ack`. -/
def settle (r : Retirement) : Ssu2Session :=
  { s with
    send := r.send
    counters := { s.counters with
      bytesInFlight := if r.countedBytes then r.send.bytesInFlight else s.counters.bytesInFlight } }

/-- Only the oldest packet that the block leaves out is declared lost. -/
def loseOldest (acked : List UInt32) (ackThrough : UInt32) : Ssu2Session :=
  match s.send.sent.find? (nackedBy acked ackThrough) with
  | some packet => declareLost
      { s with send := { s.send with sent := s.send.sent.eraseP (nackedBy acked ackThrough) } } packet
  | none => s

/-- The RTT sample and the congestion window growth at the end of `apply_ack`. -/
def credit (r : Retirement) : Ssu2Session :=
  let s := match r.rttSample with
    | some sample => { s with send := s.send.updateRtt sample }
    | none => s
  if 0 < r.newlyAckedBytes then
    let send := s.send.growCwnd r.newlyAckedBytes
    { s with send, counters := { s.counters with cwndBytes := send.cwndBytes } }
  else s

/-- `apply_ack` once the block is decoded into packet numbers. -/
def applyAcked (acked : List UInt32) (ackThrough : UInt32) (nowMs : Nat) : Ssu2Session :=
  let r := Retirement.retireFrom acked nowMs [] s.send.sent { send := s.send }
  ((s.settle r).loseOldest acked ackThrough).credit r

def applyAck (ack : AckBlock) (nowMs : Nat) : Except SessionError Ssu2Session := do
  let acked ← ack.ackedNumbers
  .ok (s.applyAcked acked ack.ackThrough nowMs)

def notePathMigrated : Ssu2Session :=
  let s := s.send.sent.foldl declareLost { s with send := { s.send with sent := [] } }
  { s with
    send := { s.send with bytesInFlight := 0, cwndBytes := dataMinCwndBytes, consecutiveRto := 0 }
    counters := { s.counters with bytesInFlight := 0, cwndBytes := dataMinCwndBytes } }

end Ssu2Session

/-- A fragment of a queued message; the source checks only that it is not empty, the other bounds hold
for every chunk of a message of bounded size. -/
def QueuedFragment.new (index total : Nat) (chunk : List UInt8) : Except SessionError QueuedFragment :=
  if h : UInt8.ofNat index ≤ maxFragmentNumber ∧ chunk ≠ [] ∧
      shortTransportHeaderSize + chunk.length ≤ maxI2npMessageBytes then
    .ok ⟨UInt8.ofNat index, index + 1 = total, UInt8.ofNat total, chunk, h.1, h.2.1, h.2.2⟩
  else .error .messageTooLarge

def splitBody (budget total : Nat) (body : List UInt8) : Except SessionError (List QueuedFragment) :=
  (Chunks.chunks budget body).zipIdx.mapM fun (chunk, index) => QueuedFragment.new index total chunk

namespace Ssu2Session

variable (s : Ssu2Session)

/-- The fixed size of the fragments a message is cut into. -/
def fragmentBudget : Nat :=
  max 64 (min (s.maxPayloadBytes - 64) 1024)

def fragmentCount (body : List UInt8) : Nat :=
  (body.length + s.fragmentBudget - 1) / s.fragmentBudget

def queueI2npMessage (bytes : List UInt8) : Except SessionError (Ssu2Session × UInt32) :=
  if s.isTerminated then .error .terminated
  else if bytes = [] ∨ maxI2npMessageBytes < bytes.length then .error .messageTooLarge
  else if bytes.length < 9 then .error .messageTooLarge
  else
    let messageType := byteAt bytes 0
    let messageId := u32At bytes 1
    let expirationSecs := u32At bytes 5
    let body := bytes.drop 9
    if body = [] then .error .messageTooLarge
    else
      let total := s.fragmentCount body
      if total = 0 ∨ maxI2npFragments < total then .error .messageTooLarge
      else if dataMaxSentPackets ≤ s.send.outbound.length then .error .outboundQueueFull
      else do
        let fragments ← splitBody s.fragmentBudget total body
        let message : OutboundMessage := ⟨messageId, messageType, expirationSecs, fragments, 0⟩
        .ok ({ s with send := { s.send with outbound := s.send.outbound ++ [message] } }, messageId)

/-- What every control queueing function does once its own argument is accepted. -/
def queueControl (control : QueuedControl) : Except SessionError Ssu2Session :=
  if s.isTerminated then .error .terminated
  else if dataMaxSentPackets ≤ s.queuedControls.length then .error .localPolicyDenied
  else .ok { s with queuedControls := s.queuedControls ++ [control] }

/-- A path control, whose data is checked between the two tests of `queueControl`. -/
def queuePath (control : PathBlock → QueuedControl) (data : List UInt8) : Except SessionError Ssu2Session :=
  if s.isTerminated then .error .terminated
  else match PathBlock.new data with
    | .error _ => .error .messageTooLarge
    | .ok block => s.queueControl (control block)

def queuePathChallenge (data : List UInt8) : Except SessionError Ssu2Session :=
  s.queuePath .pathChallenge data

def queuePathResponse (data : List UInt8) : Except SessionError Ssu2Session :=
  s.queuePath .pathResponse data

def queueNewToken (expires : UInt32) (token : UInt64) : Except SessionError Ssu2Session :=
  if s.isTerminated then .error .terminated
  else if token = 0 then .error .messageTooLarge
  else s.queueControl (.newToken expires token)

def queueRelayRequest (block : RelayRequestBlock) : Except SessionError Ssu2Session :=
  s.queueControl (.relayRequest block)

def queueRelayResponse (block : RelayResponseBlock) : Except SessionError Ssu2Session :=
  s.queueControl (.relayResponse block)

def queueRelayIntro (block : RelayIntroBlock) : Except SessionError Ssu2Session :=
  s.queueControl (.relayIntro block)

def queuePeerTest (block : PeerTestBlock) : Except SessionError Ssu2Session :=
  s.queueControl (.peerTest block)

def queueAddress (endpoint : Ssu2Endpoint) : Except SessionError Ssu2Session :=
  s.queueControl (.address endpoint)

def clearReassembly : Ssu2Session :=
  { s with
    inbound := { s.inbound with reassembly := ∅, reassemblyBytes := 0 }
    counters := { s.counters with reassemblyMessages := 0, reassemblyBytes := 0 } }

def initiateTermination (reason : UInt8) : Except SessionError Ssu2Session := do
  let valid := UInt64.ofNat s.counters.packetsReceived
  let s ← s.queueControl (.termination valid reason)
  .ok (clearReassembly
    { s with send := { s.send with pendingRetransmit := [] }, localTerminate := some reason })

end Ssu2Session

end I2pr.Ssu2
