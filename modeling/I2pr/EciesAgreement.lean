import I2pr.EciesReplay

namespace I2pr.Ecies

open Fallible EciesCrypto

namespace EciesCrypto

variable {c : EciesCrypto}

theorem decodeRepresentative_ok {representative point : Key} (h : c.decodeRepresentative representative = .ok point) :
    point = c.fromRepresentative (maskRepresentative representative) := by
  unfold decodeRepresentative at h
  dsimp only at h
  repeat' split at h
  all_goals cases h
  rfl

theorem diffieHellmanChecked_comm {a b shared : Key} (hb : allZero b = false)
    (h : c.diffieHellmanChecked a (c.x25519Public b) = .ok shared) :
    c.diffieHellmanChecked b (c.x25519Public a) = .ok shared := by
  unfold diffieHellmanChecked at h ⊢
  simp only [hb, c.public_ne_zero, c.x25519_ne_zero, c.x25519_comm b a, Bool.or_false] at h ⊢
  split at h
  · cases h
  · simpa using h

theorem diffieHellmanChecked_ne_zero {a p shared : Key} (h : c.diffieHellmanChecked a p = .ok shared) :
    allZero a = false := by
  unfold diffieHellmanChecked at h
  obtain ⟨hzero, h⟩ := ite_error_eq_ok.mp h
  rw [Bool.or_eq_true, not_or, Bool.not_eq_true] at hzero
  exact hzero.1

end EciesCrypto

variable {c : EciesCrypto} {aliceStaticSecret bobStaticSecret : Key} {payload : List UInt8}

theorem staticKeyOf_toList (key : Key) : staticKeyOf key.toList = some key := by
  unfold staticKeyOf
  rw [dif_pos key.toList_length]
  rfl

/-- What the two sides of a New Session hold of it: the same transcript, and each other's keys. -/
structure Matches (c : EciesCrypto) (aliceStaticSecret bobStaticSecret : Key) (sender : BoundNewSessionSender)
    (responder : NewSessionResponder) : Prop where
  chainingKey : responder.chainingKey = sender.chainingKey
  transcriptHash : responder.transcriptHash = sender.transcriptHash
  aliceEphemeralPublic : responder.aliceEphemeralPublic = c.x25519Public sender.ephemeralSecret
  aliceStaticPublic : responder.aliceStaticPublic = c.x25519Public aliceStaticSecret
  bobStaticPublic : sender.bobStaticPublic = c.x25519Public bobStaticSecret
  ephemeral_ne_zero : allZero sender.ephemeralSecret = false

theorem openBoundNewSession_sealed {ephemeral : EciesEphemeralKeypair c} (hbob : allZero bobStaticSecret = false)
    {message : BoundNewSessionMessage} {sender : BoundNewSessionSender}
    (h : sealBoundNewSession c aliceStaticSecret ephemeral (c.x25519Public bobStaticSecret) payload =
      .ok (message, sender)) :
    ∃ responder, openBoundNewSession c bobStaticSecret (c.x25519Public bobStaticSecret) message =
        .ok ⟨payload, responder⟩ ∧ Matches c aliceStaticSecret bobStaticSecret sender responder ∧
      message.representative = ephemeral.representative ∧ message.encryptedStaticSection.length = 48 ∧
      message.encryptedPayloadSection.length = payload.length + 16 := by
  unfold sealBoundNewSession at h
  split at h
  · cases h
  split at h
  · cases h
  split at h
  · cases h
  simp only [bind_eq_ok] at h
  obtain ⟨point, hpoint, es, hes, ss, hss, heq⟩ := h
  cases heq
  have hephemeral : point = c.x25519Public ephemeral.secretSeed := by
    rw [decodeRepresentative_ok hpoint, ephemeral.decodes]
  subst hephemeral
  refine ⟨⟨_, _, c.x25519Public ephemeral.secretSeed, c.x25519Public aliceStaticSecret⟩, ?_,
    ⟨rfl, rfl, rfl, rfl, rfl, diffieHellmanChecked_ne_zero hes⟩, rfl, ?_, ?_⟩
  · have hstatic : ((c.x25519Public aliceStaticSecret).toList.all (· = 0)) = false := c.public_ne_zero _
    unfold openBoundNewSession
    rw [if_neg (by simp [hbob]), if_neg (by simp [c.public_ne_zero])]
    simp only [hpoint, diffieHellmanChecked_comm hbob hes, diffieHellmanChecked_comm hbob hss,
      aeadDecrypt_encrypt, Except.mapError, staticKeyOf_toList, bind, Except.bind, hstatic]
    rfl
  · simp [c.length_encrypt, aeadTagLen]
  · simp [c.length_encrypt, aeadTagLen]

variable {σ : Type} {rng : CryptoRng σ}

theorem openNewSessionReply_sealed {sender : BoundNewSessionSender} {responder : NewSessionResponder}
    (hmatches : Matches c aliceStaticSecret bobStaticSecret sender responder)
    (halice : allZero aliceStaticSecret = false) {s s' : σ} {reply : NewSessionReplyMessage} {tagSets : PairedTagSets}
    (h : sealNewSessionReply c rng responder bobStaticSecret payload s = .ok (reply, tagSets, s')) :
    openNewSessionReply c sender aliceStaticSecret reply = .ok (payload, ⟨tagSets.inbound, tagSets.outbound⟩) ∧
      reply.tag = (sender.replyTagSet c).tagAt c 0 ∧ (∃ key, tagSets.inbound = (splitDirections c key).1 ∧
        tagSets.outbound = (splitDirections c key).2) ∧
      reply.keySectionMac.length = 16 ∧ reply.encryptedPayloadSection.length = payload.length + 16 := by
  obtain ⟨chainingKey, transcriptHash, aliceEphemeralPublic, aliceStaticPublic⟩ := responder
  obtain ⟨rfl, rfl, rfl, rfl, -, hephemeral⟩ := hmatches
  unfold sealNewSessionReply at h
  split at h
  · cases h
  split at h
  · cases h
  simp only [bind_eq_ok] at h
  obtain ⟨⟨_, entry⟩, hentry, ⟨ephemeral, s₁⟩, hgenerate, point, hpoint, ee, hee, se, hse, heq⟩ := h
  cases heq
  obtain rfl : point = c.x25519Public ephemeral.secretSeed := by
    rw [decodeRepresentative_ok hpoint, ephemeral.decodes]
  refine ⟨?_, ?_, ⟨_, rfl, rfl⟩, ?_, ?_⟩
  · unfold openNewSessionReply
    rw [if_neg (by simp [halice])]
    simp only [hpoint, diffieHellmanChecked_comm hephemeral hee,
      diffieHellmanChecked_comm halice hse, aeadDecrypt_encrypt, bind, Except.bind, ne_eq,
      not_true_eq_false, if_false]
  · have hfresh : (sender.replyTagSet c).Fresh := ⟨rfl, rfl, rfl⟩
    obtain ⟨t, hfirst⟩ := hfresh.nextEntry c
    obtain ⟨-, rfl⟩ := Prod.mk.inj (Except.ok.inj (hentry.symm.trans hfirst))
    rfl
  · simp [c.length_encrypt, aeadTagLen]
  · simp [c.length_encrypt, aeadTagLen]

end I2pr.Ecies
