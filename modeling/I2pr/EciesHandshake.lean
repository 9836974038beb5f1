import I2pr.EciesTagSet

namespace I2pr.Ecies

def attachPayloadKdf : List UInt8 :=
  [0x41, 0x74, 0x74, 0x61, 0x63, 0x68, 0x50, 0x61, 0x79, 0x6c, 0x6f, 0x61, 0x64, 0x4b, 0x44, 0x46]

structure BoundNewSessionMessage where
  representative : Key
  encryptedStaticSection : List UInt8
  encryptedPayloadSection : List UInt8
deriving DecidableEq

structure NewSessionReplyMessage where
  tag : Tag
  representative : Key
  keySectionMac : List UInt8
  encryptedPayloadSection : List UInt8
deriving DecidableEq

structure BoundNewSessionSender where
  chainingKey : Key
  transcriptHash : Key
  ephemeralSecret : Key
  bobStaticPublic : Key

structure NewSessionResponder where
  chainingKey : Key
  transcriptHash : Key
  aliceEphemeralPublic : Key
  aliceStaticPublic : Key

structure OpenedBoundNewSession where
  payload : List UInt8
  responder : NewSessionResponder

/-- The directions of a split, as the party that derived them uses them. -/
structure PairedTagSets where
  outbound : EciesTagSet
  inbound : EciesTagSet

section Handshake

variable (c : EciesCrypto)

def BoundNewSessionSender.replyTagSet (sender : BoundNewSessionSender) : EciesTagSet :=
  (EciesTagSet.newSessionReplyTagSet c sender.chainingKey).beginTagRatchet c

/-- The transcript up to the static-key section, which both sides compute from the decoded ephemeral key. -/
def newSessionTranscript (bobStaticPublic aliceEphemeralPublic : Key) : EciesNoiseState :=
  ((EciesNoiseState.new c).mixHash c bobStaticPublic.toList).mixHash c aliceEphemeralPublic.toList

def sealBoundNewSession (aliceStaticSecret : Key) (aliceEphemeral : EciesEphemeralKeypair c) (bobStaticPublic : Key)
    (payload : List UInt8) : Except EciesError (BoundNewSessionMessage × BoundNewSessionSender) :=
  if allZero aliceStaticSecret then .error .allZeroKey
  else if allZero bobStaticPublic then .error .allZeroKey
  else if maxNewSessionCiphertext < payload.length then
    .error (.ciphertextTooLarge payload.length maxNewSessionCiphertext)
  else do
    let aliceEphemeralPublic ← c.decodeRepresentative aliceEphemeral.representative
    let state := newSessionTranscript c bobStaticPublic aliceEphemeralPublic
    let esShared ← c.diffieHellmanChecked aliceEphemeral.secretSeed bobStaticPublic
    let (state, staticSectionKey) := state.mixKey c esShared
    let encryptedStaticSection :=
      c.encrypt staticSectionKey 0 (c.x25519Public aliceStaticSecret).toList state.transcriptHash.toList
    let state := state.mixHash c encryptedStaticSection
    let ssShared ← c.diffieHellmanChecked aliceStaticSecret bobStaticPublic
    let (state, payloadKey) := state.mixKey c ssShared
    let encryptedPayloadSection := c.encrypt payloadKey 0 payload state.transcriptHash.toList
    let state := state.mixHash c encryptedPayloadSection
    .ok (⟨aliceEphemeral.representative, encryptedStaticSection, encryptedPayloadSection⟩,
      ⟨state.chainingKey, state.transcriptHash, aliceEphemeral.secretSeed, bobStaticPublic⟩)

/-- The static key in an opened section. The message codec makes the section 48 bytes long, so what it opens
to has 32 bytes; any other length is a panic of `copy_from_slice`, which that bound excludes. -/
def staticKeyOf (plaintext : List UInt8) : Option Key :=
  if h : plaintext.length = 32 then some ⟨plaintext, h⟩ else none

def openBoundNewSession (bobStaticSecret bobStaticPublic : Key) (message : BoundNewSessionMessage) :
    Except (Failure EciesError) OpenedBoundNewSession :=
  if allZero bobStaticSecret then .error (.error .allZeroKey)
  else if allZero bobStaticPublic then .error (.error .allZeroKey)
  else do
    let aliceEphemeralPublic ← (c.decodeRepresentative message.representative).mapError .error
    let state := newSessionTranscript c bobStaticPublic aliceEphemeralPublic
    let esShared ← (c.diffieHellmanChecked bobStaticSecret aliceEphemeralPublic).mapError .error
    let (state, staticSectionKey) := state.mixKey c esShared
    let aliceStaticPlain ← (c.aeadDecrypt staticSectionKey 0 message.encryptedStaticSection
      state.transcriptHash.toList).mapError .error
    let state := state.mixHash c message.encryptedStaticSection
    if aliceStaticPlain.all (· = 0) then .error (.error .unboundNewSessionNotSupported)
    else match staticKeyOf aliceStaticPlain with
      | none => .error .panicked
      | some aliceStaticPublic => do
        let ssShared ← (c.diffieHellmanChecked bobStaticSecret aliceStaticPublic).mapError .error
        let (state, payloadKey) := state.mixKey c ssShared
        let payload ← (c.aeadDecrypt payloadKey 0 message.encryptedPayloadSection
          state.transcriptHash.toList).mapError .error
        let state := state.mixHash c message.encryptedPayloadSection
        .ok ⟨payload, ⟨state.chainingKey, state.transcriptHash, aliceEphemeralPublic, aliceStaticPublic⟩⟩

def splitDirections (chainingKey : Key) : EciesTagSet × EciesTagSet :=
  let split := c.hkdf chainingKey [] []
  ((EciesTagSet.dhInitialize c chainingKey split.1).beginTagRatchet c,
    (EciesTagSet.dhInitialize c chainingKey split.2).beginTagRatchet c)

def replyPayloadKey (chainingKey : Key) : Key :=
  (c.hkdf (c.hkdf chainingKey [] []).2 [] attachPayloadKdf).1

variable {σ : Type} (rng : CryptoRng σ)

def sealNewSessionReply (responder : NewSessionResponder) (bobStaticSecret : Key) (payload : List UInt8) (s : σ) :
    Except EciesError (NewSessionReplyMessage × PairedTagSets × σ) :=
  if allZero bobStaticSecret then .error .allZeroKey
  else if maxNewSessionCiphertext < payload.length then
    .error (.ciphertextTooLarge payload.length maxNewSessionCiphertext)
  else do
    let nsrTagSet := (EciesTagSet.newSessionReplyTagSet c responder.chainingKey).beginTagRatchet c
    let (_, replyEntry) ← nsrTagSet.nextEntry c
    let (bobEphemeral, s) ← EciesEphemeralKeypair.generate c rng s
    let bobEphemeralPublic ← c.decodeRepresentative bobEphemeral.representative
    let state : EciesNoiseState := ⟨responder.chainingKey, responder.transcriptHash⟩
    let state := (state.mixHash c replyEntry.tag.toList).mixHash c bobEphemeralPublic.toList
    let eeShared ← c.diffieHellmanChecked bobEphemeral.secretSeed responder.aliceEphemeralPublic
    let (state, _) := state.mixKey c eeShared
    let seShared ← c.diffieHellmanChecked bobEphemeral.secretSeed responder.aliceStaticPublic
    let (state, keySectionKey) := state.mixKey c seShared
    let keySectionMac := c.encrypt keySectionKey 0 [] state.transcriptHash.toList
    let state := state.mixHash c keySectionMac
    let (ab, ba) := splitDirections c state.chainingKey
    let encryptedPayloadSection :=
      c.encrypt (replyPayloadKey c state.chainingKey) 0 payload state.transcriptHash.toList
    .ok (⟨replyEntry.tag, bobEphemeral.representative, keySectionMac, encryptedPayloadSection⟩, ⟨ba, ab⟩, s)

def openNewSessionReply (sender : BoundNewSessionSender) (aliceStaticSecret : Key) (reply : NewSessionReplyMessage) :
    Except EciesError (List UInt8 × PairedTagSets) :=
  if allZero aliceStaticSecret then .error .allZeroKey
  else do
    let bobEphemeralPublic ← c.decodeRepresentative reply.representative
    let state : EciesNoiseState := ⟨sender.chainingKey, sender.transcriptHash⟩
    let state := (state.mixHash c reply.tag.toList).mixHash c bobEphemeralPublic.toList
    let eeShared ← c.diffieHellmanChecked sender.ephemeralSecret bobEphemeralPublic
    let (state, _) := state.mixKey c eeShared
    let seShared ← c.diffieHellmanChecked aliceStaticSecret bobEphemeralPublic
    let (state, keySectionKey) := state.mixKey c seShared
    let verified ← c.aeadDecrypt keySectionKey 0 reply.keySectionMac state.transcriptHash.toList
    if verified ≠ [] then .error .authenticationFailed
    else do
      let state := state.mixHash c reply.keySectionMac
      let (ab, ba) := splitDirections c state.chainingKey
      let payload ← c.aeadDecrypt (replyPayloadKey c state.chainingKey) 0 reply.encryptedPayloadSection
        state.transcriptHash.toList
      .ok (payload, ⟨ab, ba⟩)

end Handshake

end I2pr.Ecies
