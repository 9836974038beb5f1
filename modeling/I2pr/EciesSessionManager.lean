import I2pr.EciesHandshake

namespace I2pr.Ecies

def maxPeersPerLocalDestination : Nat := 64
def maxPendingNewSessions : Nat := 64
def maxTagLookAhead : Nat := 32
def maxSessionIdleSeconds : Nat := 1800

structure EciesSessionConfig where
  maxPeers : Nat
  maxPendingHandshakes : Nat
  maxTagLookAhead : Nat
  idleSeconds : Nat
  peers_ok : 0 < maxPeers ∧ maxPeers ≤ maxPeersPerLocalDestination
  pending_ok : 0 < maxPendingHandshakes ∧ maxPendingHandshakes ≤ maxPendingNewSessions
  lookAhead_ok : 0 < maxTagLookAhead ∧ maxTagLookAhead ≤ Ecies.maxTagLookAhead
  idle_ok : 0 < idleSeconds ∧ idleSeconds ≤ maxSessionIdleSeconds

theorem EciesSessionConfig.lookAhead_le (config : EciesSessionConfig) : config.maxTagLookAhead ≤ maxTagSetIndex - 1 :=
  config.lookAhead_ok.2.trans (by decide)

structure PairedSession where
  outbound : EciesTagSet
  inbound : InboundTagWindow
  lastUsedSeconds : Nat

structure PendingInitiated where
  sender : BoundNewSessionSender
  createdSeconds : Nat

structure ProvisionalResponder where
  responder : NewSessionResponder
  lastUsedSeconds : Nat

structure EciesSessionManager where
  config : EciesSessionConfig
  sessions : Std.ExtTreeMap Key PairedSession
  /-- The slots of the outbound handshakes, free ones included. -/
  pendingInitiated : List (Option PendingInitiated)
  pendingReplyTags : Std.ExtTreeMap Tag Nat
  provisionalResponders : Std.ExtTreeMap Key ProvisionalResponder
  seenNewSessionEphemerals : List Key

inductive EciesOutboundMessage where
  | newSession (message : BoundNewSessionMessage)
  | newSessionReply (message : NewSessionReplyMessage)
  | existing (message : ExistingSessionMessage)
deriving DecidableEq

def BoundNewSessionMessage.encode (message : BoundNewSessionMessage) : List UInt8 :=
  message.representative.toList ++ (message.encryptedStaticSection ++ message.encryptedPayloadSection)

def NewSessionReplyMessage.encode (message : NewSessionReplyMessage) : List UInt8 :=
  message.tag.toList ++ (message.representative.toList ++ (message.keySectionMac ++ message.encryptedPayloadSection))

def ExistingSessionMessage.encode (message : ExistingSessionMessage) : List UInt8 :=
  message.tag.toList ++ message.encryptedPayloadSection

def EciesOutboundMessage.encode : EciesOutboundMessage → List UInt8
  | .newSession message => message.encode
  | .newSessionReply message => message.encode
  | .existing message => message.encode

inductive ClassifiedInbound where
  | newSessionReply
  | existingSession
  | candidateNewSession
  | tooShort (actual minimum : Nat)
  | unmatchedTag
deriving DecidableEq, Repr

inductive PlannedOutboundForm where
  | newSessionReply
  | existingSession
  | boundNewSession
deriving DecidableEq, Repr

structure EciesAdvanceReport where
  expiredSessions : Nat
  droppedReplayEntries : Nat
  pendingHandshakes : Nat

inductive EciesSessionError where
  | ecies (e : EciesError)
  | pendingHandshakeCapacity (maximum : Nat)
  | peerCapacity (maximum : Nat)
  | noPendingHandshake
  | noProvisionalResponder
  | unknownSessionTag
  | duplicateNewSession
  | replyTagCollision
deriving DecidableEq, Repr

def Failure.ecies : Failure EciesError → Failure EciesSessionError
  | .error e => .error (.ecies e)
  | .panicked => .panicked

namespace EciesSessionManager

def new (config : EciesSessionConfig) : EciesSessionManager where
  config := config
  sessions := ∅
  pendingInitiated := []
  pendingReplyTags := ∅
  provisionalResponders := ∅
  seenNewSessionEphemerals := []

def pendingHandshakeCount (m : EciesSessionManager) : Nat :=
  m.pendingInitiated.countP Option.isSome

def plannedOutboundForm (m : EciesSessionManager) (remoteStaticPublic : Key) (nowSeconds : Nat) : PlannedOutboundForm :=
  if m.provisionalResponders.contains remoteStaticPublic then .newSessionReply
  else match m.sessions[remoteStaticPublic]? with
    | some session =>
      if nowSeconds - session.lastUsedSeconds ≤ m.config.idleSeconds then .existingSession else .boundNewSession
    | none => .boundNewSession

def dropProvisionalResponder (m : EciesSessionManager) (aliceStaticPublic : Key) : EciesSessionManager × Bool :=
  ({ m with provisionalResponders := m.provisionalResponders.erase aliceStaticPublic },
    m.provisionalResponders.contains aliceStaticPublic)

def expireSlot (nowSeconds idle : Nat) : Option PendingInitiated → Option PendingInitiated
  | some pending => if idle < nowSeconds - pending.createdSeconds then none else some pending
  | none => none

/-- Slots are reused and never removed, so that the tags of the reply windows index into them. -/
def advanceTime (m : EciesSessionManager) (nowSeconds : Nat) : EciesSessionManager × EciesAdvanceReport :=
  let idle := m.config.idleSeconds
  let sessions := m.sessions.filter fun _ session => nowSeconds - session.lastUsedSeconds ≤ idle
  let slots := m.pendingInitiated.map (expireSlot nowSeconds idle)
  let responders := m.provisionalResponders.filter fun _ provisional =>
    nowSeconds - provisional.lastUsedSeconds ≤ idle
  ({ m with
      sessions := sessions
      pendingInitiated := slots
      pendingReplyTags := m.pendingReplyTags.filter fun _ index => (slots.getD index none).isSome
      provisionalResponders := responders },
    ⟨m.sessions.size - sessions.size,
      m.pendingHandshakeCount - slots.countP Option.isSome + (m.provisionalResponders.size - responders.size),
      slots.countP Option.isSome⟩)

/-- The index of the first free slot, or of one appended to the list. -/
def freeSlot (m : EciesSessionManager) : Nat :=
  m.pendingInitiated.findIdx Option.isNone

def openSlots (m : EciesSessionManager) : List (Option PendingInitiated) :=
  if m.freeSlot < m.pendingInitiated.length then m.pendingInitiated else m.pendingInitiated ++ [none]

variable (c : EciesCrypto)

/-- The loop of `install_pending`: the tags a reply may carry, until one is already taken. -/
def installReplyTags (slot : Nat) : Nat → EciesTagSet → Std.ExtTreeMap Tag Nat →
    Std.ExtTreeMap Tag Nat × Except EciesSessionError Unit
  | 0, _, tags => (tags, .ok ())
  | rounds + 1, window, tags =>
    match window.nextEntry c with
    | .error e => (tags, .error (.ecies e))
    | .ok (window, entry) =>
      let inserted := tags.insert entry.tag slot
      if tags.contains entry.tag then (inserted, .error .replyTagCollision)
      else installReplyTags slot rounds window inserted

def installPending (m : EciesSessionManager) (sender : BoundNewSessionSender) (createdSeconds : Nat) :
    EciesSessionManager × Except EciesSessionError Unit :=
  match installReplyTags c m.freeSlot m.config.maxTagLookAhead (sender.replyTagSet c) m.pendingReplyTags with
  | (tags, .error e) => ({ m with pendingInitiated := m.openSlots, pendingReplyTags := tags }, .error e)
  | (tags, .ok ()) =>
    ({ m with
        pendingInitiated := m.openSlots.set m.freeSlot (some ⟨sender, createdSeconds⟩)
        pendingReplyTags := tags }, .ok ())

variable {σ : Type} (rng : CryptoRng σ)

def sealNewSessionReplyFor (m : EciesSessionManager) (localStaticSecret aliceStaticPublic : Key)
    (payload : List UInt8) (nowSeconds : Nat) (s : σ) :
    EciesSessionManager × Except (Failure EciesSessionError) (NewSessionReplyMessage × σ) :=
  if m.sessions.contains aliceStaticPublic && m.config.maxPeers ≤ m.sessions.size then
    (m, .error (.error (.peerCapacity m.config.maxPeers)))
  else match m.provisionalResponders[aliceStaticPublic]? with
    | none => (m, .error (.error .noProvisionalResponder))
    | some provisional =>
      let m := { m with provisionalResponders := m.provisionalResponders.erase aliceStaticPublic }
      match sealNewSessionReply c rng provisional.responder localStaticSecret payload s with
      | .error e => (m, .error (.error (.ecies e)))
      | .ok (message, tagSets, s) =>
        match InboundTagWindow.new c tagSets.inbound m.config.maxTagLookAhead with
        | .error e => (m, .error (.error (.ecies e)))
        | .ok inbound =>
          ({ m with sessions := m.sessions.insert aliceStaticPublic ⟨tagSets.outbound, inbound, nowSeconds⟩ },
            .ok (message, s))

/-- The last part of `encrypt_to_remote`, when no paired session is live. -/
def startNewSession (m : EciesSessionManager) (localStaticSecret remoteStaticPublic : Key) (payload : List UInt8)
    (nowSeconds : Nat) (s : σ) :
    EciesSessionManager × Except (Failure EciesSessionError) (EciesOutboundMessage × σ) :=
  if m.config.maxPendingHandshakes ≤ m.pendingHandshakeCount then
    (m, .error (.error (.pendingHandshakeCapacity m.config.maxPendingHandshakes)))
  else if m.config.maxPeers < m.sessions.size + 1 then (m, .error (.error (.peerCapacity m.config.maxPeers)))
  else match EciesEphemeralKeypair.generate c rng s with
    | .error e => (m, .error (.error (.ecies e)))
    | .ok (ephemeral, s) =>
      match sealBoundNewSession c localStaticSecret ephemeral remoteStaticPublic payload with
      | .error e => (m, .error (.error (.ecies e)))
      | .ok (message, sender) =>
        match m.installPending c sender nowSeconds with
        | (m, .error e) => (m, .error (.error e))
        | (m, .ok ()) => (m, .ok (.newSession message, s))

def encryptToRemote (m : EciesSessionManager) (localStaticSecret remoteStaticPublic : Key) (payload : List UInt8)
    (nowSeconds : Nat) (s : σ) :
    EciesSessionManager × Except (Failure EciesSessionError) (EciesOutboundMessage × σ) :=
  if m.provisionalResponders.contains remoteStaticPublic then
    match m.sealNewSessionReplyFor c rng localStaticSecret remoteStaticPublic payload nowSeconds s with
    | (m, .error e) => (m, .error e)
    | (m, .ok (message, s)) => (m, .ok (.newSessionReply message, s))
  else match m.sessions[remoteStaticPublic]? with
    | none => m.startNewSession c rng localStaticSecret remoteStaticPublic payload nowSeconds s
    | some session =>
      if nowSeconds - session.lastUsedSeconds ≤ m.config.idleSeconds then
        let (outbound, sealed) := sealExistingSession c session.outbound payload
        let m := { m with sessions := m.sessions.insert remoteStaticPublic ⟨outbound, session.inbound, nowSeconds⟩ }
        match sealed with
        | .error e => (m, .error e.ecies)
        | .ok message => (m, .ok (.existing message, s))
      else startNewSession c rng { m with sessions := m.sessions.erase remoteStaticPublic } localStaticSecret
        remoteStaticPublic payload nowSeconds s

/-- `classify`, which looks at the length of an envelope and at its first eight bytes. -/
def classify (m : EciesSessionManager) (envelope : List UInt8) : ClassifiedInbound :=
  if h : envelope.length < 8 + 16 then .tooShort envelope.length (8 + 16)
  else
    let tag : Tag := ⟨envelope.take 8, by rw [List.length_take]; omega⟩
    if 72 ≤ envelope.length ∧ m.pendingReplyTags.contains tag then .newSessionReply
    else if m.sessions.toList.any (·.2.inbound.contains tag) then .existingSession
    else if 96 + 16 ≤ envelope.length then .candidateNewSession
    else .unmatchedTag

def rememberNewSessionEphemeral (m : EciesSessionManager) (representative : Key) : EciesSessionManager :=
  let kept := if m.config.maxPendingHandshakes ≤ m.seenNewSessionEphemerals.length
    then m.seenNewSessionEphemerals.drop 1 else m.seenNewSessionEphemerals
  { m with seenNewSessionEphemerals := kept ++ [representative] }

structure AcceptedNewSession where
  payload : List UInt8
  aliceStaticPublic : Key
deriving DecidableEq

def acceptNewSession (m : EciesSessionManager) (localStaticSecret localStaticPublic : Key)
    (message : BoundNewSessionMessage) (nowSeconds : Nat) :
    EciesSessionManager × Except (Failure EciesSessionError) AcceptedNewSession :=
  if m.seenNewSessionEphemerals.contains message.representative then (m, .error (.error .duplicateNewSession))
  else match openBoundNewSession c localStaticSecret localStaticPublic message with
    | .error e => (m, .error e.ecies)
    | .ok opened =>
      let m := m.rememberNewSessionEphemeral message.representative
      let aliceStaticPublic := opened.responder.aliceStaticPublic
      if !m.provisionalResponders.contains aliceStaticPublic &&
          m.config.maxPendingHandshakes ≤ m.provisionalResponders.size then
        (m, .error (.error (.pendingHandshakeCapacity m.config.maxPendingHandshakes)))
      else
        ({ m with provisionalResponders :=
            m.provisionalResponders.insert aliceStaticPublic ⟨opened.responder, nowSeconds⟩ },
          .ok ⟨opened.payload, aliceStaticPublic⟩)

structure AcceptedPayload where
  payload : List UInt8
  remoteStaticPublic : Key
deriving DecidableEq

def acceptNewSessionReply (m : EciesSessionManager) (localStaticSecret : Key) (reply : NewSessionReplyMessage)
    (nowSeconds : Nat) : EciesSessionManager × Except (Failure EciesSessionError) AcceptedPayload :=
  match m.pendingReplyTags[reply.tag]? with
  | none => (m, .error (.error .noPendingHandshake))
  | some slot =>
    match m.pendingInitiated[slot]? with
    | none => (m, .error .panicked)
    | some none => (m, .error (.error .noPendingHandshake))
    | some (some pending) =>
      let m := { m with
        pendingInitiated := m.pendingInitiated.set slot none
        pendingReplyTags := m.pendingReplyTags.filter fun _ index => index ≠ slot }
      let remoteStaticPublic := pending.sender.bobStaticPublic
      match openNewSessionReply c pending.sender localStaticSecret reply with
      | .error e => (m, .error (.error (.ecies e)))
      | .ok (payload, tagSets) =>
        if m.config.maxPeers ≤ m.sessions.size && !m.sessions.contains remoteStaticPublic then
          (m, .error (.error (.peerCapacity m.config.maxPeers)))
        else match InboundTagWindow.new c tagSets.inbound m.config.maxTagLookAhead with
          | .error e => (m, .error (.error (.ecies e)))
          | .ok inbound =>
            ({ m with sessions := m.sessions.insert remoteStaticPublic ⟨tagSets.outbound, inbound, nowSeconds⟩ },
              .ok ⟨payload, remoteStaticPublic⟩)

/-- The first session, in the order of the remote keys, whose window has the tag. -/
def consumeTag (tag : Tag) : List (Key × PairedSession) → Option (Key × PairedSession × InboundTagWindow × Nat)
  | [] => none
  | (remote, session) :: rest =>
    match session.inbound.consume c tag with
    | some (inbound, index) => some (remote, session, inbound, index)
    | none => consumeTag tag rest

def acceptExistingSession (m : EciesSessionManager) (message : ExistingSessionMessage) :
    EciesSessionManager × Except (Failure EciesSessionError) AcceptedPayload :=
  match consumeTag c message.tag m.sessions.toList with
  | none => (m, .error (.error .unknownSessionTag))
  | some (remote, session, inbound, index) =>
    let (tagSet, opened) := openExistingSession c inbound.tagSet index message
    let session : PairedSession := ⟨session.outbound, { inbound with tagSet := tagSet }, session.lastUsedSeconds⟩
    let m := { m with sessions := m.sessions.insert remote session }
    match opened with
    | .error e => (m, .error e.ecies)
    | .ok payload => (m, .ok ⟨payload, remote⟩)

end EciesSessionManager

end I2pr.Ecies
