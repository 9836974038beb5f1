import I2pr.EciesInbound

namespace I2pr.Ecies

open EciesTagSet Fallible EciesEphemeralKeypair

variable {c : EciesCrypto}

theorem EciesCrypto.diffieHellmanChecked_public {a : Key} (ha : allZero a = false) (b : Key) :
    c.diffieHellmanChecked a (c.x25519Public b) = .ok (c.x25519 a (c.x25519Public b)) := by
  unfold diffieHellmanChecked
  simp [ha, c.public_ne_zero, c.x25519_ne_zero]

/-- A secret that is not zero, with a representative that decodes to its public key. -/
structure EciesEphemeralKeypair.Usable (ephemeral : EciesEphemeralKeypair c) : Prop where
  secret : allZero ephemeral.secretSeed = false
  representative : c.decodeRepresentative ephemeral.representative = .ok (c.x25519Public ephemeral.secretSeed)

section Handshake

variable {aliceStaticSecret : Key} {payload : List UInt8} (hpayload : payload.length ≤ maxNewSessionCiphertext)
include hpayload

theorem exists_sealBoundNewSession {ephemeral : EciesEphemeralKeypair c} (hephemeral : ephemeral.Usable)
    (halice : allZero aliceStaticSecret = false) (bobStaticSecret : Key) :
    ∃ message sender, sealBoundNewSession c aliceStaticSecret ephemeral (c.x25519Public bobStaticSecret) payload =
      .ok (message, sender) := by
  unfold sealBoundNewSession
  rw [if_neg (by simp [halice]), if_neg (by simp [c.public_ne_zero]), if_neg (by omega)]
  simp only [hephemeral.representative, EciesCrypto.diffieHellmanChecked_public hephemeral.secret,
    EciesCrypto.diffieHellmanChecked_public halice]
  exact ⟨_, _, rfl⟩

theorem exists_sealNewSessionReply {σ : Type} {rng : CryptoRng σ} {bobStaticSecret : Key}
    {sender : BoundNewSessionSender} {responder : NewSessionResponder}
    (hmatches : Matches c aliceStaticSecret bobStaticSecret sender responder)
    (hbob : allZero bobStaticSecret = false) {s s' : σ} {ephemeral : EciesEphemeralKeypair c}
    (hgenerate : generate c rng s = .ok (ephemeral, s')) (hephemeral : ephemeral.Usable) :
    ∃ reply tagSets, sealNewSessionReply c rng responder bobStaticSecret payload s = .ok (reply, tagSets, s') := by
  have hfresh : ((newSessionReplyTagSet c responder.chainingKey).beginTagRatchet c).Fresh := ⟨rfl, rfl, rfl⟩
  obtain ⟨t, hentry⟩ := hfresh.nextEntry c
  unfold sealNewSessionReply
  rw [if_neg (by simp [hbob]), if_neg (by omega)]
  simp only [hentry, hgenerate, hephemeral.representative, hmatches.aliceEphemeralPublic, hmatches.aliceStaticPublic,
    EciesCrypto.diffieHellmanChecked_public hephemeral.secret, bind, Except.bind]
  exact ⟨_, _, rfl⟩

end Handshake

variable (c) in
/-- The payloads of messages that are opened one after the other, the first at `index`. -/
def openAll : EciesTagSet → Nat → List ExistingSessionMessage → Except (Failure EciesError) (List (List UInt8))
  | _, _, [] => .ok []
  | t, index, message :: messages =>
    match openExistingSession c t index message with
    | (_, .error e) => .error e
    | (t, .ok payload) => (openAll t (index + 1) messages).map (payload :: ·)

theorem openAll_sealAll {root s t : EciesTagSet} (hs : Rooted c root s)
    (hkeys : s.symmKeysBase + s.symmKeys.length = s.nextIndex) (hone : s.symmKeys.length ≤ 1) (ht : Rooted c root t)
    (hderived : t.symmKeysBase + t.symmKeys.length = s.nextIndex) (htwo : t.symmKeys.length ≤ 2)
    {payloads : List (List UInt8)} (hroom : s.nextIndex + payloads.length ≤ maxTagSetIndex - 1)
    (hpayloads : ∀ payload ∈ payloads, payload.length ≤ maxNewSessionCiphertext) :
    ∃ messages, sealAll c s payloads = .ok messages ∧ openAll c t s.nextIndex messages = .ok payloads := by
  induction payloads generalizing s t with
  | nil => exact ⟨[], rfl, rfl⟩
  | cons payload payloads ih =>
    have hmax : maxTagSetIndex = 65535 ∧ maxTagSetRetainedKeys = 4096 := ⟨rfl, rfl⟩
    rw [List.length_cons] at hroom
    obtain ⟨s', hseal, hs', hnext, hkeys', hone'⟩ :=
      sealExistingSession_eq hs hkeys hone (by omega) (hpayloads payload List.mem_cons_self)
    obtain ⟨t', hopen, ht', -, hbase, hlength⟩ :=
      openExistingSession_sealed ht (show s.nextIndex < maxTagSetIndex by omega) (by omega) (by omega) (by omega) payload
    obtain ⟨messages, hsealed, hopened⟩ := ih hs' hkeys' hone' (ht'.trimKeysBelow (s.nextIndex - 1))
      (by simp only [trimKeysBelow, List.length_drop]; omega) (by simp only [trimKeysBelow, List.length_drop]; omega)
      (by omega) fun payload hmem => hpayloads payload (List.mem_cons_of_mem _ hmem)
    refine ⟨sealedMessage c root s.nextIndex payload :: messages, ?_, ?_⟩
    · rw [sealAll, hseal]
      simp only [hsealed]
      rfl
    · rw [openAll, hopen, ← hnext]
      simp only [hopened]
      rfl

/-- The two sides of a handshake agree: each message opens to what was sealed, also after it was written and read
back, the reply carries the first tag the initiator expects, and in either direction the messages sealed with the
tag set of one side open in turn with that of the other, as far as the set goes. -/
theorem handshake_agrees {aliceStaticSecret bobStaticSecret : Key} (halice : allZero aliceStaticSecret = false)
    (hbob : allZero bobStaticSecret = false) {aliceEphemeral bobEphemeral : EciesEphemeralKeypair c}
    (haliceEphemeral : aliceEphemeral.Usable) (hbobEphemeral : bobEphemeral.Usable) {payload replyPayload : List UInt8}
    (hpayload : payload.length ≤ maxNewSessionCiphertext) (hreply : replyPayload.length ≤ maxNewSessionCiphertext)
    {σ : Type} {rng : CryptoRng σ} {s s' : σ}
    (hgenerate : EciesEphemeralKeypair.generate c rng s = .ok (bobEphemeral, s')) :
    ∃ message sender responder reply ab ba,
      sealBoundNewSession c aliceStaticSecret aliceEphemeral (c.x25519Public bobStaticSecret) payload =
        .ok (message, sender) ∧
      (∀ maximum, message.encode.length ≤ maximum →
        BoundNewSessionMessage.decode message.encode maximum = .ok message) ∧
      openBoundNewSession c bobStaticSecret (c.x25519Public bobStaticSecret) message = .ok ⟨payload, responder⟩ ∧
      responder.aliceStaticPublic = c.x25519Public aliceStaticSecret ∧
      sealNewSessionReply c rng responder bobStaticSecret replyPayload s = .ok (reply, ⟨ba, ab⟩, s') ∧
      (∀ maximum, reply.encode.length ≤ maximum →
        NewSessionReplyMessage.decode reply.encode maximum = .ok reply) ∧
      openNewSessionReply c sender aliceStaticSecret reply = .ok (replyPayload, ⟨ab, ba⟩) ∧
      (∃ t, (sender.replyTagSet c).nextEntry c = .ok (t, ⟨0, reply.tag⟩)) ∧
      ∀ t ∈ [ab, ba], ∀ payloads : List (List UInt8), payloads.length ≤ maxTagSetIndex - 1 →
        (∀ payload ∈ payloads, payload.length ≤ maxNewSessionCiphertext) →
        ∃ messages, sealAll c t payloads = .ok messages ∧ openAll c t 0 messages = .ok payloads := by
  obtain ⟨message, sender, hseal⟩ := exists_sealBoundNewSession hpayload haliceEphemeral halice bobStaticSecret
  obtain ⟨responder, hopen, hmatches, -, hstatic, hlength⟩ := openBoundNewSession_sealed hbob hseal
  obtain ⟨reply, ⟨ba, ab⟩, hsealReply⟩ := exists_sealNewSessionReply hreply hmatches hbob hgenerate hbobEphemeral
  obtain ⟨hopenReply, htag, ⟨key, rfl, rfl⟩, hmac, hlengthReply⟩ := openNewSessionReply_sealed hmatches halice hsealReply
  refine ⟨message, sender, responder, reply, _, _, hseal, fun maximum hmaximum => ?_, hopen,
    hmatches.aliceStaticPublic, hsealReply, fun maximum hmaximum => ?_, hopenReply, ?_, ?_⟩
  · exact BoundNewSessionMessage.decode_encode hstatic (by omega) hmaximum
  · exact NewSessionReplyMessage.decode_encode hmac (by omega) hmaximum
  · have hfresh : (sender.replyTagSet c).Fresh := ⟨rfl, rfl, rfl⟩
    rw [htag]
    exact hfresh.nextEntry c
  · intro t ht payloads hroom hpayloads
    have hfresh : t.Fresh := by
      rcases List.mem_pair.mp ht with rfl | rfl
      · exact ⟨rfl, rfl, rfl⟩
      · exact ⟨rfl, rfl, rfl⟩
    have hzero : t.symmKeysBase + t.symmKeys.length = t.nextIndex := by
      rw [hfresh.symmKeysBase, hfresh.symmKeys, hfresh.nextIndex]
      rfl
    have hnone : t.symmKeys.length = 0 := by rw [hfresh.symmKeys, List.length_nil]
    have hrun := openAll_sealAll (c := c) hfresh.rooted hzero (by omega) hfresh.rooted hzero (by omega)
      (by rw [hfresh.nextIndex]; omega) hpayloads
    rwa [hfresh.nextIndex] at hrun

open EciesSessionManager (sampleSecret samplePublic)

def sampleEphemeral : EciesEphemeralKeypair .plain :=
  (EciesEphemeralKeypair.build .plain (sampleSecret 3) 4).get (by decide +kernel)

theorem handshake_agrees_sample : EciesEphemeralKeypair.generate .plain countingRng 3 = .ok (sampleEphemeral, 5) ∧
      ∃ message sender, sealBoundNewSession .plain (sampleSecret 1) sampleEphemeral (samplePublic 2) [4, 5] =
        .ok (message, sender) := by
  have husable : sampleEphemeral.Usable := ⟨by decide +kernel, by decide +kernel⟩
  obtain ⟨message, sender, -, -, -, -, hseal, -⟩ := handshake_agrees (show allZero (sampleSecret 1) = false by decide)
    (show allZero (sampleSecret 2) = false by decide) husable husable (show [4, 5].length ≤ _ by decide)
    (show [6].length ≤ _ by decide) (show generate .plain countingRng 3 = _ from rfl)
  exact ⟨rfl, message, sender, hseal⟩

end I2pr.Ecies
