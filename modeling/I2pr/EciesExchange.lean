import I2pr.EciesPending

namespace I2pr.Ecies

inductive Side where
  | left
  | right
deriving DecidableEq, Repr

def Side.other : Side → Side
  | .left => .right
  | .right => .left

@[simp] theorem Side.other_other (side : Side) : side.other.other = side := by
  cases side <;> rfl

theorem Side.other_ne (side : Side) : side.other ≠ side := by
  cases side <;> decide

structure Letter where
  message : EciesOutboundMessage
  payload : List UInt8

def EciesOutboundMessage.newRepresentative : EciesOutboundMessage → List Key
  | .newSession message => [message.representative]
  | _ => []

def BoundNewSessionMessage.leadingTag (message : BoundNewSessionMessage) : Tag :=
  ⟨message.representative.toList.take 8, by simp⟩

def sentMessage {σ : Type} : Except (Failure EciesSessionError) (EciesOutboundMessage × σ) → Option EciesOutboundMessage
  | .error _ => none
  | .ok (message, _) => some message

/-- Two managers and the letters underway to each of them, oldest first, with the representatives of the New
Sessions sent so far. -/
structure Exchange where
  manager : Side → EciesSessionManager
  mail : Side → List Letter
  representatives : List Key

namespace Exchange

variable {σ : Type} (c : EciesCrypto) (rng : CryptoRng σ) (secret : Side → Key)

def start (config : Side → EciesSessionConfig) : Exchange :=
  ⟨fun side => .new (config side), fun _ => [], []⟩

def encrypt (st : Exchange) (side : Side) (payload : List UInt8) (nowSeconds : Nat) (s : σ) : Exchange :=
  let (m, answer) := (st.manager side).encryptToRemote c rng (secret side) (c.x25519Public (secret side.other)) payload
    nowSeconds s
  let sent := (sentMessage answer).toList
  ⟨Function.update st.manager side m,
    Function.update st.mail side.other (st.mail side.other ++ sent.map (⟨·, payload⟩)),
    sent.flatMap (·.newRepresentative) ++ st.representatives⟩

def deliver (st : Exchange) (side : Side) (nowSeconds : Nat) : Exchange × Option (Except InboundError (List UInt8)) :=
  match st.mail side with
  | [] => (st, none)
  | letter :: rest =>
    let (m, answer) := (st.manager side).receive c (secret side) letter.message.encode nowSeconds
    (⟨Function.update st.manager side m, Function.update st.mail side rest, st.representatives⟩, some answer)

end Exchange

namespace EciesSessionManager

variable {σ : Type} (c : EciesCrypto) (rng : CryptoRng σ) (m : EciesSessionManager)

section Conditions

variable (remoteStaticPublic : Key)

/-- The calls of `encrypt_to_remote` considered: the session is not idle, the message fits an envelope, and
the cryptography is ideal: an ephemeral key is not drawn twice, and the reply tags of different handshakes differ. -/
structure MayEncrypt (localStaticSecret : Key) (payload : List UInt8) (nowSeconds : Nat) (s : σ)
    (representatives : List Key) : Prop where
  live : ∀ session ∈ m.sessions[remoteStaticPublic]?, nowSeconds - session.lastUsedSeconds ≤ m.config.idleSeconds
  short : payload.length + 96 ≤ maxEnvelopeBytes
  fresh : ∀ drawn ∈ (EciesEphemeralKeypair.generate c rng s).toOption, drawn.1.representative ∉ representatives
  noCollision : (m.encryptToRemote c rng localStaticSecret remoteStaticPublic payload nowSeconds s).2 ≠
    .error (.error .replyTagCollision)

/-- The call seals no reply over a paired session, and a New Session has at least 16 bytes to carry. -/
structure KeepsSessions (payload : List UInt8) : Prop where
  unpaired : m.provisionalResponders.contains remoteStaticPublic = true → m.sessions[remoteStaticPublic]? = none
  long : m.provisionalResponders.contains remoteStaticPublic = false → m.sessions[remoteStaticPublic]? = none →
    16 ≤ payload.length

/-- The deliveries considered: no capacity is reached, and what comes from different origins differs in the first
eight bytes. -/
def MayDeliver : EciesOutboundMessage → Prop
  | .newSession message =>
    (remoteStaticPublic ∈ m.provisionalResponders ∨
      m.provisionalResponders.size < m.config.maxPendingHandshakes) ∧
    m.pendingReplyTags.contains message.leadingTag = false ∧
    ∀ session ∈ m.sessions[remoteStaticPublic]?, session.inbound.contains message.leadingTag = false
  | .newSessionReply _ => m.sessions.size < m.config.maxPeers
  | .existing message => m.pendingReplyTags.contains message.tag = false

/-- A reply is delivered to a side that is not paired yet. -/
def KeepsPairing : EciesOutboundMessage → Prop
  | .newSessionReply _ => m.sessions[remoteStaticPublic]? = none
  | _ => True

instance [DecidableEq σ] (localStaticSecret : Key) (payload : List UInt8) (nowSeconds : Nat) (s : σ)
    (representatives : List Key) : Decidable
      (m.MayEncrypt c rng remoteStaticPublic localStaticSecret payload nowSeconds s representatives) :=
  decidable_of_iff (_ ∧ _ ∧ _ ∧ _) ⟨fun ⟨h₁, h₂, h₃, h₄⟩ => ⟨h₁, h₂, h₃, h₄⟩, fun ⟨h₁, h₂, h₃, h₄⟩ => ⟨h₁, h₂, h₃, h₄⟩⟩

instance (payload : List UInt8) : Decidable (m.KeepsSessions remoteStaticPublic payload) :=
  decidable_of_iff (_ ∧ _) ⟨fun ⟨h₁, h₂⟩ => ⟨h₁, h₂⟩, fun ⟨h₁, h₂⟩ => ⟨h₁, h₂⟩⟩

instance (message : EciesOutboundMessage) : Decidable (m.MayDeliver remoteStaticPublic message) :=
  match message with
  | .newSession _ => inferInstanceAs (Decidable (_ ∧ _ ∧ _))
  | .newSessionReply _ => inferInstanceAs (Decidable (_ < _))
  | .existing _ => inferInstanceAs (Decidable (_ = _))

instance (message : EciesOutboundMessage) : Decidable (m.KeepsPairing remoteStaticPublic message) :=
  match message with
  | .newSession _ => .isTrue trivial
  | .newSessionReply _ => inferInstanceAs (Decidable (_ = none))
  | .existing _ => .isTrue trivial

end Conditions

variable (localStaticSecret remoteStaticPublic : Key) (payload : List UInt8) (nowSeconds : Nat) (s : σ)

/-- What a considered call can do to the manager, and the message it sends. -/
inductive Encrypted : EciesSessionManager → Option EciesOutboundMessage → Prop
  | refused : Encrypted m none
  | dropped : Encrypted { m with provisionalResponders := m.provisionalResponders.erase remoteStaticPublic } none
  | touched {session} (hsession : m.sessions[remoteStaticPublic]? = some session) :
      Encrypted { m with sessions := m.sessions.insert remoteStaticPublic ⟨session.outbound, session.inbound, nowSeconds⟩ }
        none
  | newSession {m' ephemeral s' message sender}
      (hsession : m.sessions[remoteStaticPublic]? = none) (hlong : 16 ≤ payload.length)
      (hgenerate : EciesEphemeralKeypair.generate c rng s = .ok (ephemeral, s'))
      (hseal : sealBoundNewSession c localStaticSecret ephemeral remoteStaticPublic payload = .ok (message, sender))
      (hinstall : m.installPending c sender nowSeconds = (m', .ok ())) : Encrypted m' (some (.newSession message))
  | reply {provisional message tagSets inbound s'} (hsession : m.sessions[remoteStaticPublic]? = none)
      (hprovisional : m.provisionalResponders[remoteStaticPublic]? = some provisional)
      (hseal : sealNewSessionReply c rng provisional.responder localStaticSecret payload s = .ok (message, tagSets, s'))
      (hinbound : InboundTagWindow.new c tagSets.inbound m.config.maxTagLookAhead = .ok inbound) :
      Encrypted { m with
        provisionalResponders := m.provisionalResponders.erase remoteStaticPublic
        sessions := m.sessions.insert remoteStaticPublic ⟨tagSets.outbound, inbound, nowSeconds⟩ }
        (some (.newSessionReply message))
  | existing {session outbound message}
      (hsession : m.sessions[remoteStaticPublic]? = some session)
      (hseal : sealExistingSession c session.outbound payload = (outbound, .ok message)) :
      Encrypted { m with sessions := m.sessions.insert remoteStaticPublic ⟨outbound, session.inbound, nowSeconds⟩ }
        (some (.existing message))

variable {c rng m localStaticSecret remoteStaticPublic payload nowSeconds s}

theorem installReplyTags_answer {root window : EciesTagSet} (h : EciesTagSet.Rooted c root window) {rounds : Nat}
    (hroom : window.nextIndex + rounds ≤ maxTagSetIndex - 1) (slot : Nat) (tags : Std.ExtTreeMap Tag Nat) :
    (installReplyTags c slot rounds window tags).2 = .ok () ∨
      (installReplyTags c slot rounds window tags).2 = .error .replyTagCollision := by
  induction rounds generalizing window tags with
  | zero => exact .inl rfl
  | succ rounds ih =>
    obtain ⟨window', hentry, hrooted, hnext, -⟩ := h.nextEntry (by omega)
    rw [installReplyTags, hentry]
    dsimp only
    split
    · exact .inr rfl
    · exact ih hrooted (by omega) _

variable (c m) in
theorem installPending_answer (sender : BoundNewSessionSender) (createdSeconds : Nat) :
    (m.installPending c sender createdSeconds).2 = .ok () ∨
      (m.installPending c sender createdSeconds).2 = .error .replyTagCollision := by
  have hfresh := fresh_replyTagSet c sender
  have hroom : (sender.replyTagSet c).nextIndex + m.config.maxTagLookAhead ≤ maxTagSetIndex - 1 := by
    rw [hfresh.nextIndex, Nat.zero_add]
    exact m.config.lookAhead_le
  unfold installPending
  rcases installReplyTags_answer hfresh.rooted hroom m.freeSlot m.pendingReplyTags with hok | herror
  · split
    next heq =>
      rw [heq] at hok
      cases hok
    · exact .inl rfl
  · split
    next heq =>
      rw [heq] at herror
      cases herror
      exact .inr rfl
    next heq =>
      rw [heq] at herror
      cases herror

theorem startNewSession_encrypted (hsession : m.sessions[remoteStaticPublic]? = none) (hlong : 16 ≤ payload.length)
    (hnoCollision : (m.startNewSession c rng localStaticSecret remoteStaticPublic payload nowSeconds s).2 ≠
      .error (.error .replyTagCollision)) :
    Encrypted c rng m localStaticSecret remoteStaticPublic payload nowSeconds s
      (m.startNewSession c rng localStaticSecret remoteStaticPublic payload nowSeconds s).1
      (sentMessage (m.startNewSession c rng localStaticSecret remoteStaticPublic payload nowSeconds s).2) := by
  unfold startNewSession at hnoCollision ⊢
  split
  · exact .refused
  rw [if_neg ‹_›] at hnoCollision
  split
  · exact .refused
  rw [if_neg ‹_›] at hnoCollision
  split
  · exact .refused
  next ephemeral s' hgenerate =>
    simp only [hgenerate] at hnoCollision
    split
    · exact .refused
    next message sender hseal =>
      simp only [hseal] at hnoCollision
      split
      next m' e hinstall =>
        have hanswer := m.installPending_answer c sender nowSeconds
        simp only [hinstall] at hanswer hnoCollision
        rcases hanswer with hok | hcollision
        · cases hok
        · cases hcollision
          exact absurd rfl hnoCollision
      next m' hinstall => exact .newSession hsession hlong hgenerate hseal hinstall

/-- An outbound tag set that started from `root` and has sealed `n` messages. -/
structure Sending (c : EciesCrypto) (root t : EciesTagSet) (n : Nat) : Prop where
  rooted : EciesTagSet.Rooted c root t
  nextIndex : t.nextIndex = n
  derived : t.symmKeysBase + t.symmKeys.length = n
  few : t.symmKeys.length ≤ 1

theorem Sending.fresh {root : EciesTagSet} (h : root.Fresh) : Sending c root root 0 :=
  ⟨h.rooted, h.nextIndex, by rw [h.symmKeysBase, h.symmKeys]; rfl, by rw [h.symmKeys]; decide⟩

theorem Sending.sealed {root t t' : EciesTagSet} {n : Nat} (h : Sending c root t n)
    {answer : Except (Failure EciesError) ExistingSessionMessage}
    (hseal : sealExistingSession c t payload = (t', answer)) :
    (answer = .ok (sealedMessage c root n payload) ∧ Sending c root t' (n + 1) ∧ n < maxTagSetIndex - 1 ∧
      payload.length ≤ maxNewSessionCiphertext) ∨
    ((∃ e, answer = .error e) ∧ t' = t ∧ (payload.length ≤ maxNewSessionCiphertext → maxTagSetIndex - 1 ≤ n)) := by
  obtain ⟨hrooted, rfl, hderived, hfew⟩ := h
  by_cases hsize : payload.length ≤ maxNewSessionCiphertext
  · by_cases hroom : t.nextIndex < maxTagSetIndex - 1
    · obtain ⟨t'', hseal', hrooted', hnext', hderived', hfew'⟩ :=
        sealExistingSession_eq hrooted hderived hfew hroom hsize
      cases hseal.symm.trans hseal'
      exact .inl ⟨rfl, ⟨hrooted', hnext', hderived'.trans hnext', hfew'⟩, hroom, hsize⟩
    · rw [sealExistingSession, if_neg (by omega), EciesTagSet.nextEntry_exhausted (by omega)] at hseal
      cases hseal
      exact .inr ⟨⟨_, rfl⟩, rfl, fun _ => Nat.not_lt.mp hroom⟩
  · rw [sealExistingSession, if_pos (by omega)] at hseal
    cases hseal
    exact .inr ⟨⟨_, rfl⟩, rfl, fun h => absurd h hsize⟩

theorem sealNewSessionReplyFor_encrypted (hsession : m.sessions[remoteStaticPublic]? = none)
    {m' : EciesSessionManager} {answer : Except (Failure EciesSessionError) (NewSessionReplyMessage × σ)}
    (h : m.sealNewSessionReplyFor c rng localStaticSecret remoteStaticPublic payload nowSeconds s = (m', answer)) :
    Encrypted c rng m localStaticSecret remoteStaticPublic payload nowSeconds s m'
      (sentMessage (answer.map fun sent => (.newSessionReply sent.1, sent.2))) := by
  unfold sealNewSessionReplyFor at h
  split at h
  · cases h
    exact .refused
  split at h
  · cases h
    exact .refused
  next provisional hprovisional =>
    dsimp only at h
    split at h
    · cases h
      exact .dropped
    next message tagSets s' hseal =>
      split at h
      · cases h
        exact .dropped
      next inbound hinbound =>
        cases h
        exact .reply hsession hprovisional hseal hinbound

theorem encryptToRemote_encrypted {representatives : List Key}
    (hmay : m.MayEncrypt c rng remoteStaticPublic localStaticSecret payload nowSeconds s representatives)
    (hkeeps : m.KeepsSessions remoteStaticPublic payload)
    (hsending : ∀ session, m.sessions[remoteStaticPublic]? = some session → ∃ root n, Sending c root session.outbound n) :
    Encrypted c rng m localStaticSecret remoteStaticPublic payload nowSeconds s
      (m.encryptToRemote c rng localStaticSecret remoteStaticPublic payload nowSeconds s).1
      (sentMessage (m.encryptToRemote c rng localStaticSecret remoteStaticPublic payload nowSeconds s).2) := by
  have hnoCollision := hmay.noCollision
  unfold encryptToRemote at hnoCollision ⊢
  by_cases hprovisional : m.provisionalResponders.contains remoteStaticPublic = true
  · rw [if_pos hprovisional]
    split
    next heq => exact sealNewSessionReplyFor_encrypted (hkeeps.unpaired hprovisional) heq
    next heq => exact sealNewSessionReplyFor_encrypted (hkeeps.unpaired hprovisional) heq
  · rw [if_neg hprovisional] at hnoCollision ⊢
    cases hsession : m.sessions[remoteStaticPublic]? with
    | none =>
      simp only [hsession] at hnoCollision ⊢
      exact startNewSession_encrypted hsession (hkeeps.long (Bool.not_eq_true _ ▸ hprovisional) hsession) hnoCollision
    | some session =>
      simp only [if_pos (hmay.live session hsession)]
      obtain ⟨root, n, hsent⟩ := hsending session hsession
      cases hseal : sealExistingSession c session.outbound payload with
      | mk outbound answer =>
        obtain ⟨rfl, -⟩ | ⟨⟨e, rfl⟩, rfl, -⟩ := hsent.sealed hseal
        · exact .existing hsession hseal
        · exact .touched hsession

theorem classify_eq {envelope : List UInt8} {tag : Tag} (hlong : 24 ≤ envelope.length)
    (htag : envelope.take 8 = tag.toList) :
    m.classify envelope =
      if 72 ≤ envelope.length ∧ m.pendingReplyTags.contains tag then .newSessionReply
      else if m.sessions.toList.any (·.2.inbound.contains tag) then .existingSession
      else if 96 + 16 ≤ envelope.length then .candidateNewSession
      else .unmatchedTag := by
  obtain ⟨bytes, hbytes⟩ := tag
  change envelope.take 8 = bytes at htag
  subst htag
  unfold classify
  rw [dif_neg (by omega)]

theorem any_contains_iff {remote : Key} (hpeer : ∀ key session, m.sessions[key]? = some session → key = remote)
    {tag : Tag} : m.sessions.toList.any (·.2.inbound.contains tag) = true ↔
      ∃ session, m.sessions[remote]? = some session ∧ session.inbound.contains tag = true := by
  rw [List.any_eq_true]
  constructor
  · rintro ⟨⟨key, session⟩, hmem, hcontains⟩
    have hget := Std.ExtTreeMap.mem_toList_iff_getElem?_eq_some.mp hmem
    cases hpeer key session hget
    exact ⟨session, hget, hcontains⟩
  · rintro ⟨session, hget, hcontains⟩
    exact ⟨(remote, session), Std.ExtTreeMap.mem_toList_iff_getElem?_eq_some.mpr hget, hcontains⟩

section Receive

variable {remote : Key} (hpeer : ∀ key session, m.sessions[key]? = some session → key = remote)

include hpeer in
theorem receive_newSession {message : BoundNewSessionMessage} {responder : NewSessionResponder}
    (hopen : openBoundNewSession c localStaticSecret (c.x25519Public localStaticSecret) message = .ok ⟨payload, responder⟩)
    (hsender : responder.aliceStaticPublic = remote) (hstatic : message.encryptedStaticSection.length = 48)
    (hbody : message.encryptedPayloadSection.length = payload.length + 16) (hlong : 16 ≤ payload.length)
    (hshort : payload.length + 96 ≤ maxEnvelopeBytes) (hnew : message.representative ∉ m.seenNewSessionEphemerals)
    (hmay : m.MayDeliver remote (.newSession message)) :
    m.receive c localStaticSecret message.encode nowSeconds =
      ({ m.rememberNewSessionEphemeral message.representative with
        provisionalResponders := m.provisionalResponders.insert remote ⟨responder, nowSeconds⟩ }, .ok payload) := by
  have hlength : message.encode.length = payload.length + 96 := by
    simp only [BoundNewSessionMessage.encode, List.length_append, List.Vector.toList_length, hstatic, hbody]
    omega
  have htake : message.encode.take 8 = message.leadingTag.toList := List.take_append_of_le_length (by simp)
  obtain ⟨hplace, hpending, hwindow⟩ := hmay
  have hclass : m.classify message.encode = .candidateNewSession := by
    rw [classify_eq (by omega) htake, if_neg (by simp [hpending]), if_neg, if_pos (by omega)]
    rw [any_contains_iff hpeer]
    rintro ⟨session, hget, hcontains⟩
    rw [hwindow session hget] at hcontains
    cases hcontains
  have hroom : ¬ (m.provisionalResponders.contains remote = false ∧
      m.config.maxPendingHandshakes ≤ m.provisionalResponders.size) := by
    rintro ⟨hcontains, hfull⟩
    rcases hplace with hmem | hlt
    · rw [Std.ExtTreeMap.contains_iff_mem.mpr hmem] at hcontains
      cases hcontains
    · omega
  subst hsender
  unfold receive
  rw [hclass]
  have hseen : ¬ m.seenNewSessionEphemerals.contains message.representative = true := by simpa using hnew
  simp only [BoundNewSessionMessage.decode_encode hstatic (by omega) (show _ ≤ maxEnvelopeBytes by omega),
    acceptNewSession, if_neg hseen, hopen]
  rw [if_neg]
  · rfl
  · intro hfull
    rw [Bool.and_eq_true, Bool.not_eq_true'] at hfull
    exact hroom ⟨hfull.1, of_decide_eq_true hfull.2⟩

variable (localStaticSecret nowSeconds) in
include hpeer in
theorem Receiving.receive_existing {root : EciesTagSet} {n : Nat} {session : PairedSession}
    (h : m.Receiving c root remote (Finset.range n) session) (hdistinct : root.TagsDistinct c)
    (hn : n < maxTagSetIndex - 1) (hshort : payload.length + 96 ≤ maxEnvelopeBytes)
    (hmay : m.MayDeliver remote (.existing (sealedMessage c root n payload))) :
    ∃ m' session', m.receive c localStaticSecret (sealedMessage c root n payload).encode nowSeconds =
        (m', .ok payload) ∧ m.acceptExistingSession c (sealedMessage c root n payload) = (m', .ok ⟨payload, remote⟩) ∧
      m'.Receiving c root remote (Finset.range (n + 1)) session' := by
  have hbody : (sealedMessage c root n payload).encryptedPayloadSection.length = payload.length + 16 :=
    c.length_encrypt ..
  have hlength : (sealedMessage c root n payload).encode.length = payload.length + 24 := by
    simp only [ExistingSessionMessage.encode, List.length_append, List.Vector.toList_length, hbody]
    omega
  have htake : (sealedMessage c root n payload).encode.take 8 = (root.tagAt c n).toList :=
    List.take_left' (root.tagAt c n).toList_length
  have hnext : n < session.inbound.tagSet.nextIndex := by
    have hfull := h.full
    have hlook := h.lookAhead
    rw [Finset.card_range] at hfull
    omega
  have hcontains := (h.contains_iff hdistinct hn).mpr ⟨hnext, by simp⟩
  have hpending : m.pendingReplyTags.contains (root.tagAt c n) = false := hmay
  have hclass : m.classify (sealedMessage c root n payload).encode = .existingSession := by
    rw [classify_eq (by omega) htake, if_neg (by simp [hpending]), if_pos]
    exact (any_contains_iff hpeer).mpr ⟨session, h.paired, hcontains⟩
  have hbase : session.inbound.tagSet.symmKeysBase ≤ n := by
    refine h.base_le_iff.mpr fun j hj => ?_
    have := Finset.mem_range.mp hj
    omega
  obtain ⟨m', session', haccept, hreceiving, -⟩ := (h.accept hdistinct hnext (by simp) payload).1 hbase
  refine ⟨m', session', ?_, haccept, ?_⟩
  · unfold receive
    rw [hclass]
    simp only [ExistingSessionMessage.decode_encode (hbody ▸ Nat.le_add_left ..)
      (show _ ≤ maxEnvelopeBytes by omega), haccept]
  · rwa [Finset.range_add_one]

end Receive

/-- The manager after the reply to a pending handshake: its slot is free, its tags are gone, and the peer is paired. -/
def paired (m : EciesSessionManager) (slot : Nat) (remote : Key) (session : PairedSession) : EciesSessionManager :=
  { m with
    pendingInitiated := m.pendingInitiated.set slot none
    pendingReplyTags := m.pendingReplyTags.filter fun _ index => index ≠ slot
    sessions := m.sessions.insert remote session }

theorem Pending.receive_reply {remote : Key} {slot : Nat} {sender : BoundNewSessionSender}
    {message : NewSessionReplyMessage} {tagSets : PairedTagSets} {inbound : InboundTagWindow}
    (h : m.Pending c slot sender) (htag : message.tag = (sender.replyTagSet c).tagAt c 0)
    (hopen : openNewSessionReply c sender localStaticSecret message = .ok (payload, tagSets))
    (hremote : sender.bobStaticPublic = remote) (hmac : message.keySectionMac.length = 16)
    (hbody : message.encryptedPayloadSection.length = payload.length + 16)
    (hshort : payload.length + 96 ≤ maxEnvelopeBytes) (hmay : m.MayDeliver remote (.newSessionReply message))
    (hinbound : InboundTagWindow.new c tagSets.inbound m.config.maxTagLookAhead = .ok inbound) :
    m.receive c localStaticSecret message.encode nowSeconds =
      (m.paired slot remote ⟨tagSets.outbound, inbound, nowSeconds⟩, .ok payload) := by
  have hlength : message.encode.length = payload.length + 72 := by
    simp only [NewSessionReplyMessage.encode, List.length_append, List.Vector.toList_length, hmac, hbody]
    omega
  have htake : message.encode.take 8 = message.tag.toList := List.take_left' message.tag.toList_length
  have hlook : m.pendingReplyTags[message.tag]? = some slot := htag ▸ h.tag
  have hclass : m.classify message.encode = .newSessionReply := by
    rw [classify_eq (by omega) htake, if_pos]
    refine ⟨by omega, ?_⟩
    rw [Std.ExtTreeMap.contains_eq_isSome_getElem?, hlook]
    rfl
  obtain ⟨createdSeconds, hslot⟩ := h.waits
  have hroom : decide (m.config.maxPeers ≤ m.sessions.size) = false :=
    decide_eq_false (Nat.not_le.mpr hmay)
  subst hremote
  unfold receive
  rw [hclass]
  simp only [NewSessionReplyMessage.decode_encode hmac (by omega) (show _ ≤ maxEnvelopeBytes by omega),
    acceptNewSessionReply, hlook, hslot, hopen, hroom, Bool.false_and, Bool.false_eq_true, if_false, hinbound]
  rfl

theorem Pending.paired {slot slot' : Nat} {sender : BoundNewSessionSender} (h : m.Pending c slot' sender)
    (hne : slot' ≠ slot) (remote : Key) (session : PairedSession) :
    (m.paired slot remote session).Pending c slot' sender := by
  obtain ⟨createdSeconds, hslot⟩ := h.waits
  refine ⟨⟨createdSeconds, ?_⟩, ?_⟩
  · exact (List.getElem?_set_ne (Ne.symm hne)).trans hslot
  · have htag := h.tag
    simp only [EciesSessionManager.paired]
    rw [Std.ExtTreeMap.getElem?_filter, htag]
    simp [hne]

end EciesSessionManager

end I2pr.Ecies
