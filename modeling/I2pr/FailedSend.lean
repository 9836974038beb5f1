import I2pr.DestinationRouting
import I2pr.EciesPending

namespace I2pr

open Ecies Fallible OutboundGatewayRole Std

def Ecies.PairedSession.directions (session : PairedSession) : EciesTagSet × InboundTagWindow :=
  (session.outbound, session.inbound)

namespace Ecies.EciesSessionManager

/-- The responders, the directions of the paired sessions and the pending handshakes are as they were; the time a
session was last used may differ. -/
structure SameSessions (m m' : EciesSessionManager) : Prop where
  provisionalResponders : m'.provisionalResponders = m.provisionalResponders
  sessions : ∀ remote : Key,
    (m'.sessions[remote]?).map PairedSession.directions = (m.sessions[remote]?).map PairedSession.directions
  pendingInitiated : m'.pendingInitiated = m.pendingInitiated
  pendingReplyTags : m'.pendingReplyTags = m.pendingReplyTags

theorem SameSessions.refl (m : EciesSessionManager) : m.SameSessions m :=
  ⟨rfl, fun _ => rfl, rfl, rfl⟩

/-- A call that returns an error leaves the sessions as they were exactly under a condition; one that succeeds never
does, nor does the condition hold then. -/
structure Leaves {E α : Type} (m : EciesSessionManager) (clean : Prop)
    (r : EciesSessionManager × Except (Failure E) α) : Prop where
  failed : ∀ e, r.2 = .error (.error e) → (m.SameSessions r.1 ↔ clean)
  succeeded : ∀ a, r.2 = .ok a → ¬ m.SameSessions r.1 ∧ ¬ clean

variable {σ : Type} (c : EciesCrypto) (rng : CryptoRng σ)

/-- A New Session is refused before anything is installed: a capacity is reached, no ephemeral key comes out of
the random source, the keys or the payload are refused, or the first tag of the reply window is a leftover of the
very slot it would be given. -/
def NewSessionRefused (m : EciesSessionManager) (localStaticSecret remoteStaticPublic : Key) (payload : List UInt8)
    (s : σ) : Prop :=
  m.config.maxPendingHandshakes ≤ m.pendingHandshakeCount ∨ m.config.maxPeers < m.sessions.size + 1 ∨
    match EciesEphemeralKeypair.generate c rng s with
    | .error _ => True
    | .ok (ephemeral, _) =>
      match sealBoundNewSession c localStaticSecret ephemeral remoteStaticPublic payload with
      | .error _ => True
      | .ok (_, sender) => m.freeSlot < m.pendingInitiated.length ∧
        m.pendingReplyTags[(sender.replyTagSet c).tagAt c 0]? = some m.freeSlot

/-- Sealing is refused before it has an effect on the session, in the form that is planned. -/
def SealRefused (m : EciesSessionManager) (localStaticSecret remoteStaticPublic : Key) (payload : List UInt8)
    (nowSeconds : Nat) (s : σ) : Prop :=
  match m.plannedOutboundForm remoteStaticPublic nowSeconds with
  | .newSessionReply => m.sessions.contains remoteStaticPublic = true ∧ m.config.maxPeers ≤ m.sessions.size
  | .existingSession => maxNewSessionCiphertext < payload.length ∨
    ∀ session, m.sessions[remoteStaticPublic]? = some session → maxTagSetIndex ≤ session.outbound.nextIndex + 1
  | .boundNewSession =>
    m.sessions[remoteStaticPublic]? = none ∧ m.NewSessionRefused c rng localStaticSecret remoteStaticPublic payload s

variable {c rng} {m : EciesSessionManager}

variable {sender : BoundNewSessionSender} {createdSeconds : Nat}

variable (c sender) in
theorem installReplyTags_eq_iff (slot : Nat) (tags : ExtTreeMap Tag Nat) {rounds : Nat} (hrounds : 0 < rounds) :
    (installReplyTags c slot rounds (sender.replyTagSet c) tags).1 = tags ↔
      tags[(sender.replyTagSet c).tagAt c 0]? = some slot := by
  obtain ⟨rounds, rfl⟩ := Nat.exists_eq_add_one.mpr hrounds
  obtain ⟨window, hsucc⟩ := installReplyTags_succ c sender slot rounds tags
  constructor
  · intro hsame
    rw [← hsame, hsucc]
    split
    · simp
    · exact installReplyTags_first (by simp)
  · intro hfirst
    have hcontains : tags.contains ((sender.replyTagSet c).tagAt c 0) = true := by
      rw [ExtTreeMap.contains_eq_isSome_getElem?, hfirst]
      rfl
    rw [hsucc, if_pos hcontains]
    apply ExtTreeMap.ext_getElem?
    intro tag
    rw [TreeMap.getElem?_insert]
    split
    next htag => rw [← hfirst, htag]
    · rfl

theorem openSlots_eq_iff : m.openSlots = m.pendingInitiated ↔ m.freeSlot < m.pendingInitiated.length := by
  unfold openSlots
  split
  next h => simp [h]
  next h =>
    simp only [h, iff_false]
    intro heq
    simpa using congrArg List.length heq

theorem installPending_failed {e : EciesSessionError} (h : (m.installPending c sender createdSeconds).2 = .error e) :
    m.SameSessions (m.installPending c sender createdSeconds).1 ↔
      m.freeSlot < m.pendingInitiated.length ∧
        m.pendingReplyTags[(sender.replyTagSet c).tagAt c 0]? = some m.freeSlot := by
  have htags := installReplyTags_eq_iff c sender m.freeSlot m.pendingReplyTags m.config.lookAhead_ok.1
  unfold installPending at h ⊢
  split at h
  next tags e' heq =>
    rw [heq] at htags
    rw [← htags, ← openSlots_eq_iff]
    exact ⟨fun hsame => ⟨hsame.pendingInitiated, hsame.pendingReplyTags⟩, fun hsame => ⟨rfl, fun _ => rfl, hsame.1, hsame.2⟩⟩
  · cases h

theorem installPending_new (h : (m.installPending c sender createdSeconds).2 = .ok ()) :
    m.pendingReplyTags[(sender.replyTagSet c).tagAt c 0]? = none := by
  obtain ⟨rounds, hrounds⟩ := Nat.exists_eq_add_one.mpr m.config.lookAhead_ok.1
  obtain ⟨window, hsucc⟩ := installReplyTags_succ c sender m.freeSlot rounds m.pendingReplyTags
  unfold installPending at h
  rw [hrounds, hsucc] at h
  cases hfirst : m.pendingReplyTags[(sender.replyTagSet c).tagAt c 0]? with
  | none => rfl
  | some slot =>
    rw [if_pos (by rw [ExtTreeMap.contains_eq_isSome_getElem?, hfirst]; rfl)] at h
    cases h

theorem installPending_succeeded (h : (m.installPending c sender createdSeconds).2 = .ok ()) :
    ¬ m.SameSessions (m.installPending c sender createdSeconds).1 := by
  unfold installPending at h ⊢
  split at h
  · cases h
  next tags heq =>
    intro hsame
    have hslot := congrArg (·[m.freeSlot]?) hsame.pendingInitiated
    simp only [List.getElem?_set_self freeSlot_lt_openSlots] at hslot
    cases freeSlot_free hslot.symm

section Calls

variable {secret remote : Key} {payload : List UInt8} {nowSeconds : Nat} {s : σ}

theorem startNewSession_sessions :
    (m.startNewSession c rng secret remote payload nowSeconds s).1.sessions = m.sessions := by
  cases h : m.startNewSession c rng secret remote payload nowSeconds s with
  | mk m' answer =>
    obtain ⟨⟨_, _, rfl⟩, -⟩ := startNewSession_eq h
    rfl

theorem startNewSession_leaves : m.Leaves (m.NewSessionRefused c rng secret remote payload s)
      (m.startNewSession c rng secret remote payload nowSeconds s) := by
  have hclean {e : EciesSessionError} (h : m.NewSessionRefused c rng secret remote payload s) :
      m.Leaves (m.NewSessionRefused c rng secret remote payload s)
        ((m, .error (.error e)) :
          EciesSessionManager × Except (Failure EciesSessionError) (EciesOutboundMessage × σ)) :=
    ⟨fun _ _ => iff_of_true (.refl m) h, fun _ hok => by cases hok⟩
  unfold startNewSession
  split
  next hpending => exact hclean (.inl hpending)
  next hpending =>
    split
    next hpeers => exact hclean (.inr (.inl hpeers))
    next hpeers =>
      cases hgenerate : EciesEphemeralKeypair.generate c rng s with
      | error e => exact hclean (.inr (.inr (by rw [hgenerate]; trivial)))
      | ok drawn =>
        obtain ⟨ephemeral, s'⟩ := drawn
        cases hseal : sealBoundNewSession c secret ephemeral remote payload with
        | error e =>
          simp only [hseal]
          exact hclean (.inr (.inr (by rw [hgenerate]; simp only [hseal])))
        | ok sealed =>
          obtain ⟨message, sender⟩ := sealed
          have hrefused : m.NewSessionRefused c rng secret remote payload s ↔ m.freeSlot < m.pendingInitiated.length ∧
                m.pendingReplyTags[(sender.replyTagSet c).tagAt c 0]? = some m.freeSlot := by
            simp only [NewSessionRefused, hpending, hpeers, hgenerate, hseal, false_or]
          simp only [hseal]
          split
          next m' e hinstall =>
            have hfailed := installPending_failed (congrArg Prod.snd hinstall)
            rw [hinstall] at hfailed
            exact ⟨fun _ _ => hfailed.trans hrefused.symm, fun _ hok => by cases hok⟩
          next m' hinstall =>
            have hchanged := installPending_succeeded (congrArg Prod.snd hinstall)
            have hnew := installPending_new (congrArg Prod.snd hinstall)
            rw [hinstall] at hchanged
            refine ⟨fun _ herr => by (cases herr), fun _ _ => ⟨hchanged, fun hclean => ?_⟩⟩
            have hstale := (hrefused.mp hclean).2
            rw [hnew] at hstale
            cases hstale

theorem not_sameSessions_of_erased {m' : EciesSessionManager} (hmem : m.provisionalResponders.contains remote = true)
    (h : m'.provisionalResponders = m.provisionalResponders.erase remote) : ¬ m.SameSessions m' := by
  intro hsame
  have herased := hsame.provisionalResponders
  rw [h] at herased
  rw [← herased] at hmem
  simp at hmem

theorem sealNewSessionReplyFor_leaves (hmem : m.provisionalResponders.contains remote = true) :
    m.Leaves (m.sessions.contains remote = true ∧ m.config.maxPeers ≤ m.sessions.size)
      (m.sealNewSessionReplyFor c rng secret remote payload nowSeconds s) := by
  unfold sealNewSessionReplyFor
  split
  next hfull =>
    rw [Bool.and_eq_true, decide_eq_true_eq] at hfull
    exact ⟨fun _ _ => iff_of_true (.refl m) hfull, fun _ hok => by cases hok⟩
  next hfull =>
    rw [Bool.and_eq_true, decide_eq_true_eq] at hfull
    have hchanged {m' : EciesSessionManager} (h : m'.provisionalResponders = m.provisionalResponders.erase remote) :
        ¬ m.SameSessions m' := not_sameSessions_of_erased hmem h
    split
    next hnone =>
      rw [ExtTreeMap.contains_eq_isSome_getElem?, hnone] at hmem
      cases hmem
    next provisional _ =>
      dsimp only
      repeat' split
      all_goals exact ⟨fun _ _ => iff_of_false (hchanged rfl) hfull, fun _ _ => ⟨hchanged rfl, hfull⟩⟩

variable (c payload) in
theorem sealExistingSession_leaves (t : EciesTagSet) : (∀ e, (sealExistingSession c t payload).2 = .error (.error e) →
      ((sealExistingSession c t payload).1 = t ↔
        maxNewSessionCiphertext < payload.length ∨ maxTagSetIndex ≤ t.nextIndex + 1)) ∧
    (∀ message, (sealExistingSession c t payload).2 = .ok message → (sealExistingSession c t payload).1 ≠ t ∧
      ¬ (maxNewSessionCiphertext < payload.length ∨ maxTagSetIndex ≤ t.nextIndex + 1)) := by
  unfold sealExistingSession
  split
  next hlarge => exact ⟨fun _ _ => iff_of_true rfl (.inl hlarge), fun _ hok => by cases hok⟩
  next hlarge =>
    split
    next e hentry =>
      unfold EciesTagSet.nextEntry at hentry
      split at hentry
      next hfull => exact ⟨fun _ _ => iff_of_true rfl (.inr hfull), fun _ hok => by cases hok⟩
      · cases hentry
    next t₁ entry hentry =>
      unfold EciesTagSet.nextEntry at hentry
      split at hentry
      · cases hentry
      next hroom =>
        have hrefused : ¬ (maxNewSessionCiphertext < payload.length ∨ maxTagSetIndex ≤ t.nextIndex + 1) :=
          not_or.mpr ⟨hlarge, hroom⟩
        have hissued : t₁.nextIndex = t.nextIndex + 1 := by
          cases hentry
          rfl
        have hchanged {t' : EciesTagSet} (h : t'.nextIndex = t₁.nextIndex) : t' ≠ t := by
          rintro rfl
          omega
        split
        next t₂ e hkey =>
          have hnext := t₁.symmKey_nextIndex c entry.index
          rw [hkey] at hnext
          exact ⟨fun _ _ => iff_of_false (hchanged hnext) hrefused, fun _ hok => by cases hok⟩
        next t₂ key hkey =>
          have hnext := t₁.symmKey_nextIndex c entry.index
          rw [hkey] at hnext
          exact ⟨fun _ herr => by (cases herr), fun _ _ => ⟨hchanged hnext, hrefused⟩⟩

theorem sameSessions_outbound_iff {session : PairedSession} (h : m.sessions[remote]? = some session)
    (outbound : EciesTagSet) (nowSeconds : Nat) :
    m.SameSessions { m with
      sessions := m.sessions.insert remote ⟨outbound, session.inbound, nowSeconds⟩ } ↔
      outbound = session.outbound := by
  constructor
  · intro hsame
    have hpair := hsame.sessions remote
    simp only [ExtTreeMap.getElem?_insert_self, h, Option.map_some, Option.some.injEq] at hpair
    exact congrArg Prod.fst hpair
  · rintro rfl
    refine ⟨rfl, fun remote => ?_, rfl, rfl⟩
    simp only [TreeMap.getElem?_insert]
    split
    next heq =>
      rw [← heq, h]
      rfl
    · rfl

variable (c rng m secret remote payload nowSeconds s) in
theorem encryptToRemote_leaves : m.Leaves (m.SealRefused c rng secret remote payload nowSeconds s)
      (m.encryptToRemote c rng secret remote payload nowSeconds s) := by
  by_cases hmem : m.provisionalResponders.contains remote = true
  · have hform : m.plannedOutboundForm remote nowSeconds = .newSessionReply := by
      rw [plannedOutboundForm, if_pos hmem]
    have hleaves : m.Leaves _ (m.sealNewSessionReplyFor c rng secret remote payload nowSeconds s) :=
      sealNewSessionReplyFor_leaves hmem
    rw [SealRefused, hform, encryptToRemote, if_pos hmem]
    dsimp only
    split
    next m' e heq =>
      rw [heq] at hleaves
      refine ⟨fun e' herr => hleaves.failed e' ?_, fun _ hok => by cases hok⟩
      cases herr
      rfl
    next m' message s' heq =>
      rw [heq] at hleaves
      exact ⟨fun _ herr => by (cases herr), fun _ _ => hleaves.succeeded _ rfl⟩
  · cases hsession : m.sessions[remote]? with
    | none =>
      have hform : m.plannedOutboundForm remote nowSeconds = .boundNewSession := by
        rw [plannedOutboundForm, if_neg hmem, hsession]
      rw [SealRefused, hform, encryptToRemote, if_neg hmem, hsession]
      simp only [true_and]
      exact startNewSession_leaves
    | some session =>
      by_cases hlive : nowSeconds - session.lastUsedSeconds ≤ m.config.idleSeconds
      · have hform : m.plannedOutboundForm remote nowSeconds = .existingSession := by
          rw [plannedOutboundForm, if_neg hmem, hsession]
          exact if_pos hlive
        obtain ⟨hfailed, hsucceeded⟩ := sealExistingSession_leaves c payload session.outbound
        rw [SealRefused, hform, encryptToRemote, if_neg hmem, hsession]
        simp only [if_pos hlive, Option.some.injEq, forall_eq']
        split
        next e heq =>
          refine ⟨fun e' herr => ?_, fun _ hok => by cases hok⟩
          rw [sameSessions_outbound_iff hsession]
          cases e with
          | error e => exact hfailed e heq
          | panicked => cases herr
        next message heq =>
          refine ⟨fun _ herr => by (cases herr), fun _ _ => ?_⟩
          rw [sameSessions_outbound_iff hsession]
          exact hsucceeded message heq
      · have hform : m.plannedOutboundForm remote nowSeconds = .boundNewSession := by
          rw [plannedOutboundForm, if_neg hmem, hsession]
          exact if_neg hlive
        rw [SealRefused, hform, encryptToRemote, if_neg hmem, hsession]
        simp only [if_neg hlive, reduceCtorEq, false_and]
        -- The expired session is dropped, whatever becomes of the handshake.
        have hdropped : ¬ m.SameSessions (startNewSession c rng { m with
            sessions := m.sessions.erase remote } secret remote payload nowSeconds
            s).1 := by
          intro hsame
          have hpair := hsame.sessions remote
          rw [startNewSession_sessions, hsession] at hpair
          simp at hpair
        exact ⟨fun _ _ => iff_of_false hdropped id, fun _ _ => ⟨hdropped, id⟩⟩

end Calls

end Ecies.EciesSessionManager

open Ecies.EciesSessionManager

section Compose

variable {σ : Type} (c : EciesCrypto) (rng : RngCore σ) (cipher : TunnelCipher) (m : EciesSessionManager)
  (role : OutboundGatewayRole) (localStaticSecret : Key) (nowSeconds : UInt32) (nowMs : Nat)

/-- Once the payload is sealed, no later failure gives back what the seal has used up. -/
theorem sealWrapAndForward_leaves (composed : Composed σ) :
    m.Leaves (m.SealRefused c rng.toCryptoRng localStaticSecret composed.remoteStatic composed.payloadBytes
        nowSeconds.toNat composed.rngState)
      (sealWrapAndForward c rng cipher m role localStaticSecret composed nowSeconds nowMs) := by
  have hleaves := encryptToRemote_leaves c rng.toCryptoRng m localStaticSecret composed.remoteStatic
    composed.payloadBytes nowSeconds.toNat composed.rngState
  unfold sealWrapAndForward
  split
  next m' heq => exact ⟨fun _ herr => by (cases herr), fun _ hok => by cases hok⟩
  next m' e heq =>
    rw [heq] at hleaves
    exact ⟨fun _ _ => hleaves.failed e rfl, fun _ hok => by cases hok⟩
  next m' message s heq =>
    rw [heq] at hleaves
    obtain ⟨hchanged, hsealed⟩ := hleaves.succeeded _ rfl
    exact ⟨fun _ _ => iff_of_false hchanged hsealed, fun _ _ => ⟨hchanged, hsealed⟩⟩

variable (routing : DestinationRouting) (remoteHash : Hash) (s : σ)

/-- A send that fails leaves the sessions as they were exactly when the payload could not be composed or the
session refused to seal it: the reply context, the tag or the handshake of a sealed payload is gone when the
carrier or the tunnel then refuses it. -/
theorem failedSend_sameSessions_iff (request : OutboundRequest) (requests : List OutboundRequest)
    (bundling : ReplyBundling) :
    (∀ e, (composeOutboundDelivery c rng cipher routing m role localStaticSecret remoteHash request nowSeconds nowMs
        s).2 = .error (.error e) →
      (m.SameSessions (composeOutboundDelivery c rng cipher routing m role localStaticSecret remoteHash request
          nowSeconds nowMs s).1 ↔
        ∀ composed, composePayload rng routing m remoteHash request nowSeconds s = .ok composed →
          m.SealRefused c rng.toCryptoRng localStaticSecret composed.remoteStatic composed.payloadBytes
            nowSeconds.toNat composed.rngState)) ∧
    (∀ e, (composeBundledReplyDelivery c rng cipher routing m role localStaticSecret remoteHash requests bundling
        nowSeconds nowMs s).2 = .error (.error e) →
      (m.SameSessions (composeBundledReplyDelivery c rng cipher routing m role localStaticSecret remoteHash requests
          bundling nowSeconds nowMs s).1 ↔
        ∀ composed, composeBundledPayload rng routing m remoteHash requests bundling nowSeconds s = .ok composed →
          m.SealRefused c rng.toCryptoRng localStaticSecret composed.remoteStatic composed.payloadBytes
            nowSeconds.toNat composed.rngState)) := by
  constructor
  · intro e herr
    unfold composeOutboundDelivery at herr ⊢
    cases hcompose : composePayload rng routing m remoteHash request nowSeconds s with
    | error e => exact iff_of_true (.refl m) fun _ h => by cases h
    | ok composed =>
      rw [hcompose] at herr
      simp only [Except.ok.injEq, forall_eq']
      exact (sealWrapAndForward_leaves c rng cipher m role localStaticSecret nowSeconds nowMs composed).failed e herr
  · intro e herr
    unfold composeBundledReplyDelivery at herr ⊢
    cases hcompose : composeBundledPayload rng routing m remoteHash requests bundling nowSeconds s with
    | error e => exact iff_of_true (.refl m) fun _ h => by cases h
    | ok composed =>
      have hleaves := sealWrapAndForward_leaves c rng cipher m role localStaticSecret nowSeconds nowMs composed
      rw [hcompose] at herr
      simp only [Except.ok.injEq, forall_eq'] at herr ⊢
      split at herr
      · cases herr
      · cases herr
      next m' e' heq =>
        rw [heq] at hleaves
        exact hleaves.failed e' rfl

end Compose

def sampleRng : RngCore Nat where
  toCryptoRng := countingRng
  nextU32 s := (UInt32.ofNat s, s + 1)

def sampleHash : Hash := .replicate 32 7

def sampleRouting : DestinationRouting :=
  ⟨60, (∅ : ExtTreeMap Hash RemoteState).insert sampleHash
    ⟨⟨.ok sampleHash, 0, [⟨.replicate 32 8, 5, 1000⟩], [], []⟩, samplePublic 1⟩⟩

def sampleRequest : OutboundRequest :=
  ⟨⟨.shortTransport 0 0, .data [1, 2, 3]⟩, none⟩

def sampleFailedSend : EciesSessionManager × Except (Failure SendError) (OutboundDeliveryPlan × Nat) :=
  composeOutboundDelivery .plain sampleRng OutboundGatewayRole.shiftCipher sampleRouting sampleResponder
    OutboundGatewayRole.twoHopRole (sampleSecret 2) sampleHash sampleRequest 1 600000 10

theorem sampleFailedSend_loses_reply : sampleFailedSend.2 = .error (.error (.tunnelRole .tunnelUnavailable)) ∧
      sampleResponder.plannedOutboundForm (samplePublic 1) 1 = .newSessionReply ∧
      sampleFailedSend.1.plannedOutboundForm (samplePublic 1) 1 = .existingSession ∧
      ¬ sampleResponder.SameSessions sampleFailedSend.1 := by
  refine ⟨by decide +kernel, by decide +kernel, by decide +kernel, fun hsame => ?_⟩
  have hbefore : sampleResponder.provisionalResponders.contains (samplePublic 1) = true := by decide +kernel
  have hafter : sampleFailedSend.1.provisionalResponders.contains (samplePublic 1) = false := by decide +kernel
  rw [hsame.provisionalResponders, hbefore] at hafter
  cases hafter

theorem failedSend_sameSessions_iff_unresolved :
    sampleResponder.SameSessions (composeOutboundDelivery .plain sampleRng OutboundGatewayRole.shiftCipher sampleRouting
        sampleResponder OutboundGatewayRole.twoHopRole (sampleSecret 2) (.replicate 32 6) sampleRequest 1 600000 10).1 ∧
      sampleResponder.SameSessions (composeBundledReplyDelivery .plain sampleRng OutboundGatewayRole.shiftCipher
        sampleRouting sampleResponder OutboundGatewayRole.twoHopRole (sampleSecret 2) sampleHash [sampleRequest]
        .disabledPolicy 1 600000 10).1 := by
  constructor
  · exact ((failedSend_sameSessions_iff .plain sampleRng shiftCipher sampleResponder twoHopRole (sampleSecret 2) 1 600000
      sampleRouting _ 10 sampleRequest [] .disabledPolicy).1 .leaseSet2LookupPending (by decide +kernel)).mpr
      (by rintro _ ⟨⟩)
  · exact ((failedSend_sameSessions_iff .plain sampleRng shiftCipher sampleResponder twoHopRole (sampleSecret 2) 1 600000
      sampleRouting _ 10 sampleRequest _ .disabledPolicy).2 .policyDisabled (by decide +kernel)).mpr
      (by rintro _ ⟨⟩)

end I2pr
