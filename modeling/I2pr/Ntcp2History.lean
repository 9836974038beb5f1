import I2pr.Ntcp2Completion
import I2pr.Ntcp2Replay

namespace I2pr.Ntcp2

open Noise (Key Sealed Use SymmetricState CipherState absorbAll queries)
open Fallible Transcript List

def paddingInputs (padding : List UInt8) : List (List UInt8) :=
  if padding.isEmpty then [] else [padding]

/-- The transcript absorbed the inputs, and the log holds this and no other sealing. -/
structure Told (c : Ntcp2Crypto) (responderStatic : Key) (t : Transcript) (log : List Use)
    (inputs : List (List UInt8)) (sealings openings : List Sealed) : Prop where
  hash : t.hash = absorbAll c.toPrimitives (Transcript.initialHash c responderStatic) inputs
  initial : ∀ use ∈ initialUses c responderStatic, use ∈ log
  hashed : ∀ q ∈ queries c.toPrimitives (Transcript.initialHash c responderStatic) inputs, .hashed q ∈ log
  sealed : ∀ s, .sealed s ∈ log → s ∈ sealings
  opened : ∀ s ∈ openings, .opened s ∈ log

/-- A frame, sealed under a message number once the inputs were absorbed. -/
structure FrameAt (c : Ntcp2Crypto) (responderStatic : Key) (s : Sealed) (number : Nat) (inputs : List (List UInt8))
    (frame : List UInt8) : Prop where
  number : s.cipher.number = number
  associated : s.associated = absorbAll c.toPrimitives (Transcript.initialHash c responderStatic) inputs
  ciphertext : s.ciphertext = frame

namespace Told

variable {c : Ntcp2Crypto} {responderStatic : Key} {t t' : Transcript} {log : List Use} {inputs : List (List UInt8)}
  {sealings openings : List Sealed}

theorem start (role : Role) :
    Told c responderStatic (.new c role responderStatic) (initialUses c responderStatic) [] [] [] where
  hash := rfl
  initial use huse := huse
  hashed q hq := by cases hq
  sealed s hs := by simp [initialUses] at hs
  opened s hs := by cases hs

section

variable (h : Told c responderStatic t log inputs sealings openings)
include h

theorem of_hash (hhash : t'.hash = t.hash) : Told c responderStatic t' log inputs sealings openings :=
  { h with hash := hhash.trans h.hash }

theorem mixKey (shared : Key) : Told c responderStatic (t.mixKey c shared) log inputs sealings openings :=
  h.of_hash rfl

theorem absorb {input : List UInt8} (hhash : t'.hash = Noise.absorb c.toPrimitives t.hash input) :
    Told c responderStatic t' (log ++ [.hashed (t.hash.toList ++ input)]) (inputs ++ [input]) sealings openings where
  hash := by
    rw [hhash, h.hash, Noise.absorbAll_append]
    rfl
  initial use huse := mem_append_left _ (h.initial use huse)
  hashed q hq := by
    rw [Noise.queries_append, mem_append, ← h.hash] at hq
    rcases hq with hq | hq
    · exact mem_append_left _ (h.hashed q hq)
    · rw [queries, queries, mem_singleton] at hq
      simp [hq]
  sealed s hs := h.sealed s (by simpa using hs)
  opened s hs := mem_append_left _ (h.opened s hs)

theorem log_use {use : Use} {sealings' openings' : List Sealed} (hkept : sealings ⊆ sealings')
    (hsealed : ∀ s, use = .sealed s → s ∈ sealings') (hopened : ∀ s ∈ openings', s ∈ openings ∨ use = .opened s) :
    Told c responderStatic t (log ++ [use]) inputs sealings' openings' where
  hash := h.hash
  initial use huse := mem_append_left _ (h.initial use huse)
  hashed q hq := mem_append_left _ (h.hashed q hq)
  sealed s hs := (mem_append.mp hs).elim (fun hs => hkept (h.sealed s hs))
    fun hs => hsealed s (mem_singleton.mp hs).symm
  opened s hs := mem_append.mpr ((hopened s hs).imp (h.opened s) fun hs => by simp [hs])

theorem log_sealed (s : Sealed) : Told c responderStatic t (log ++ [.sealed s]) inputs (sealings ++ [s]) openings :=
  h.log_use (subset_append_left _ _) (by simp) fun _ => .inl

theorem log_opened (s : Sealed) : Told c responderStatic t (log ++ [.opened s]) inputs sealings (openings ++ [s]) :=
  h.log_use (List.Subset.refl _) (by simp) (by simp [eq_comm])

theorem padding (padding : List UInt8) :
    Told c responderStatic (t.padded c padding) (log ++ paddingUses t padding) (inputs ++ paddingInputs padding)
      sealings openings := by
  unfold padded paddingUses paddingInputs
  split
  · simpa using h
  · exact h.absorb rfl

end

section

variable {number : Nat} {use : Sealed → Use} {sealings' openings' : Sealed → List Sealed}
  (h : Told c responderStatic t log inputs sealings openings)
  (hlog : ∀ {t log inputs}, Told c responderStatic t log inputs sealings openings →
    ∀ s, Told c responderStatic t (log ++ [use s]) inputs (sealings' s) (openings' s))
include h hlog

theorem frame (hcipher : ∃ key, t.cipher = some ⟨key, number⟩) (frame : List UInt8) :
    ∃ s, FrameAt c responderStatic s number inputs frame ∧
      Told c responderStatic (t.used c frame) (log ++ frameUses use t frame) (inputs ++ [frame]) (sealings' s)
        (openings' s) := by
  obtain ⟨key, hkey⟩ := hcipher
  have htold : Told c responderStatic (t.used c frame) _ (inputs ++ [frame]) _ _ :=
    (hlog h ⟨⟨key, number⟩, t.hash, frame⟩).absorb rfl
  refine ⟨⟨⟨key, number⟩, t.hash, frame⟩, ⟨rfl, h.hash, rfl⟩, ?_⟩
  rw [frameUses, hkey, Option.elim_some]
  simpa using htold

theorem options (ephemeral shared : Key) (frame : List UInt8) :
    ∃ s, FrameAt c responderStatic s 0 (inputs ++ [ephemeral.toList]) frame ∧
      Told c responderStatic ((t.offering c ephemeral shared).used c frame)
        (log ++ optionsUses c use t ephemeral shared frame) (inputs ++ [ephemeral.toList, frame]) (sealings' s)
        (openings' s) := by
  have hoffered : Told c responderStatic (t.offering c ephemeral shared) _ (inputs ++ [ephemeral.toList]) _ _ :=
    h.absorb rfl
  obtain ⟨s, hframe, htold⟩ := hoffered.frame hlog ⟨_, rfl⟩ frame
  refine ⟨s, hframe, ?_⟩
  simpa [optionsUses] using htold

end

end Told

section Inversions

variable {c : Ntcp2Crypto} {decoder : RouterInfoDecoder}

theorem diffieHellman_eq_ok {secret peer shared : Key} (h : diffieHellman c secret peer = .ok shared) :
    shared = c.agree secret peer := by
  unfold diffieHellman at h
  dsimp only at h
  split at h
  · cases h
  · cases h; rfl

theorem AesObfuscationState.decrypt_eq_ok {state state' : AesObfuscationState} {ciphertext plaintext : Key}
    (h : state.decrypt c ciphertext = .ok (state', plaintext)) :
    state' = (state.decryptBlocks c ciphertext).1 ∧ plaintext = (state.decryptBlocks c ciphertext).2 := by
  unfold decrypt at h
  dsimp only at h
  unfold publicKeyBytes at h
  split at h
  · cases h
  cases h
  exact ⟨rfl, rfl⟩

variable {bytes plaintext : List UInt8} {common : ResponderCommon}
  {obfuscation : AesObfuscationState} {part2 : Nat} {next : ResponderState × List HandshakeAction}

theorem handshakeBytes_eq_ok {bytes' : List UInt8} (h : handshakeBytes bytes = .ok bytes') : bytes' = bytes := by
  unfold handshakeBytes at h
  split at h
  · cases h
  · cases h; rfl

theorem length_of_carries {s : SymmetricState} {frame : List UInt8} (h : Carries c s plaintext frame) :
    frame.length = plaintext.length + authTagLength := by
  obtain ⟨cipher, -, -, -, rfl⟩ := h
  rw [c.length_encrypt]
  rfl

variable {t : Transcript}

theorem InitiatorState.acceptCreated_eq_ok {common : InitiatorCommon} {paddingLength : Nat}
    {next : InitiatorState × List HandshakeAction}
    (h : acceptCreated c common obfuscation t plaintext paddingLength part2 bytes = .ok next) :
    ∃ (encrypted : Key) (frame : List UInt8) (options : SessionCreatedOptions) (token : Key) (t' : Transcript),
      bytes = encrypted.toList ++ frame ∧ frame.length = handshakeOptionsFrameLength ∧
      (let ephemeral := (obfuscation.decryptBlocks c encrypted).2
       let taken := (t.offering c ephemeral (c.agree common.ephemeral ephemeral)).used c frame
       t'.hash = taken.hash ∧ t'.cipher = taken.cipher ∧
       (next = (.needPeerTimestamp common t' plaintext paddingLength part2 0 options.timestamp token ephemeral,
          [.requestTimestamp .peerValidation]) ∨
        next = (.awaitCreatedPadding common t' plaintext paddingLength part2 ephemeral options.timestamp token
          options.paddingLength.toNat, [.readExact options.paddingLength.toNat]))) := by
  unfold acceptCreated at h
  split at h
  · cases h
  next hlength =>
    simp only [bind_eq_ok] at h
    obtain ⟨message, hmessage, ⟨obfuscation', ephemeral⟩, hephemeral, shared, hshared, ⟨t', opened⟩, hopened,
      options, hoptions, h⟩ := h
    have hlength' := not_not.mp hlength
    obtain ⟨hbytes, -⟩ := (EphemeralMessage.decode_eq_ok (by decide) hlength').mp hmessage
    obtain ⟨rfl, rfl⟩ := AesObfuscationState.decrypt_eq_ok (mapError_eq_ok.mp hephemeral)
    cases diffieHellman_eq_ok hshared
    obtain ⟨-, -, rfl⟩ := openOptions_eq_ok.mp (mapError_eq_ok.mp hopened)
    have hframe : message.encryptedOptions.length = handshakeOptionsFrameLength := by
      rw [hbytes, length_append, List.Vector.toList_length] at hlength'
      have hmin : minHandshakeMessageLength = 32 + handshakeOptionsFrameLength := rfl
      omega
    split at h
    · obtain ⟨t', hmixed, h⟩ := bind_eq_ok.mp h
      obtain ⟨-, stage, -, rfl⟩ := mixPadding_eq_ok.mp (mapError_eq_ok.mp hmixed)
      cases h
      refine ⟨_, _, options, _, _, hbytes, hframe, ?_, ?_, .inl rfl⟩ <;> rfl
    · cases h
      refine ⟨_, _, options, _, _, hbytes, hframe, ?_, ?_, .inr rfl⟩ <;> rfl

theorem InitiatorState.writeConfirmed_eq_ok {common : InitiatorCommon}
    {paddingLength createdLength : Nat} {ephemeral : Key} {next : InitiatorState × List HandshakeAction}
    (h : writeConfirmed c common t plaintext paddingLength part2 createdLength ephemeral = .ok next) :
    ∃ (staticFrame payloadFrame : List UInt8) (result : AuthenticatedHandshake),
      staticFrame.length = sessionConfirmedPart1Length ∧
      next = (.done, [.write (staticFrame ++ payloadFrame), .authenticated result]) := by
  unfold writeConfirmed at h
  simp only [bind_eq_ok] at h
  obtain ⟨localStatic, -, se, -, ⟨t', staticFrame⟩, hstatic, ⟨t'', payloadFrame⟩, -, h⟩ := h
  obtain ⟨-, hcarries, -⟩ := encryptStatic_eq_ok.mp (mapError_eq_ok.mp hstatic)
  have hlength : staticFrame.length = sessionConfirmedPart1Length := by
    rw [length_of_carries hcarries, List.Vector.toList_length]
    rfl
  dsimp only at h
  split at h
  · cases h
  obtain ⟨confirmed, hconfirmed, h⟩ := bind_eq_ok.mp h
  obtain ⟨-, rfl⟩ := SessionConfirmed.new_eq_ok.mp hconfirmed
  split at h
  · cases h
  obtain ⟨keys, -, h⟩ := bind_eq_ok.mp h
  obtain ⟨bytes, hbytes, h⟩ := bind_eq_ok.mp h
  cases handshakeBytes_eq_ok hbytes
  cases h
  exact ⟨staticFrame, payloadFrame, _, hlength, rfl⟩

theorem ResponderState.acceptRequest_opened {request : SessionRequest}
    (h : acceptRequest c common obfuscation request = .ok next) :
    ∃ (options : SessionRequestOptions) (t' : Transcript),
      (let ephemeral := (obfuscation.decryptBlocks c request.encryptedEphemeral).2
       t'.hash = (((Transcript.new c .responder common.localStaticPublic).offering c ephemeral
         (c.agree common.localStatic ephemeral)).used c request.encryptedOptions).hash ∧
       (next = (.needPeerTimestamp common (obfuscation.decryptBlocks c request.encryptedEphemeral).1 [] options
          ephemeral t', [.requestTimestamp .peerValidation]) ∨
        next = (.awaitRequestPadding common (obfuscation.decryptBlocks c request.encryptedEphemeral).1 options
          ephemeral t' options.paddingLength.toNat, [.readExact options.paddingLength.toNat]))) := by
  unfold acceptRequest at h
  simp only [bind_eq_ok] at h
  obtain ⟨⟨obfuscation', ephemeral⟩, hephemeral, shared, hshared, ⟨t', opened⟩, hopened, options, hoptions, h⟩ := h
  obtain ⟨rfl, rfl⟩ := AesObfuscationState.decrypt_eq_ok (mapError_eq_ok.mp hephemeral)
  cases diffieHellman_eq_ok hshared
  obtain ⟨-, -, rfl⟩ := Transcript.openOptions_eq_ok.mp (mapError_eq_ok.mp hopened)
  split at h
  · cases h
  split at h
  · obtain ⟨t', hmixed, h⟩ := bind_eq_ok.mp h
    obtain ⟨-, stage, -, rfl⟩ := Transcript.mixPadding_eq_ok.mp (mapError_eq_ok.mp hmixed)
    cases h
    refine ⟨options, _, ?_, .inl rfl⟩
    rfl
  · cases h
    refine ⟨options, _, ?_, .inr rfl⟩
    rfl

theorem ResponderState.writeCreated_eq_ok
    {requestPadding padding : List UInt8} {requestOptions : SessionRequestOptions} {initiatorEphemeral : Key} {timestamp : Nat}
    (h : writeCreated c common obfuscation requestPadding requestOptions initiatorEphemeral t timestamp padding =
      .ok next) :
    timestamp < 2 ^ 32 ∧ ∃ (frame : List UInt8) (part2 requestLength createdLength : Nat) (networkId : UInt8)
      (t' : Transcript), frame.length = handshakeOptionsFrameLength ∧
      (let ephemeral := c.publicKey common.ephemeral
       let offered := t.offering c ephemeral (c.agree common.ephemeral initiatorEphemeral)
       t'.hash = ((offered.used c frame).padded c padding).hash ∧
       t'.cipher = ((offered.used c frame).padded c padding).cipher ∧
       next = (.awaitConfirmed common t' part2 requestLength createdLength networkId,
         [.write ((obfuscation.encrypt c ephemeral).2.toList ++ (frame ++ padding)),
           .readExact (sessionConfirmedPart1Length + part2)])) := by
  unfold writeCreated at h
  split at h
  · cases h
  simp only [bind_eq_ok] at h
  obtain ⟨ephemeral, hephemeral, shared, hshared, options, hoptions, ⟨t', frame⟩, hsealed, t'', hmixed, created,
    hcreated, bytes, hbytes, h⟩ := h
  rw [publicKeyOf_eq] at hephemeral
  cases hephemeral
  cases diffieHellman_eq_ok hshared
  obtain ⟨⟨-, htimestamp⟩, rfl⟩ := SessionCreatedOptions.new_eq_ok.mp hoptions
  obtain ⟨-, hcarries, rfl⟩ := sealOptions_eq_ok.mp (mapError_eq_ok.mp hsealed)
  obtain ⟨-, stage, -, rfl⟩ := mixPadding_eq_ok.mp (mapError_eq_ok.mp hmixed)
  obtain ⟨-, rfl⟩ := (EphemeralMessage.new_eq_ok (by decide)).mp hcreated
  cases handshakeBytes_eq_ok hbytes
  cases h
  refine ⟨htimestamp, frame, _, _, _, _, _, ?_, ?_, ?_, rfl⟩
  · rw [length_of_carries hcarries, SessionCreatedOptions.length_encode]
    rfl
  · unfold padded
    split <;> rfl
  · unfold padded
    split <;> rfl

theorem ResponderState.acceptConfirmed_eq_ok {requestLength createdLength : Nat} {networkId : UInt8}
    (h : acceptConfirmed c decoder common t part2 requestLength createdLength networkId bytes = .ok next) :
    ∃ (staticFrame payloadFrame : List UInt8) (result : AuthenticatedHandshake),
      bytes = staticFrame ++ payloadFrame ∧ staticFrame.length = sessionConfirmedPart1Length ∧
      next = (.done, [.authenticated result]) := by
  unfold acceptConfirmed at h
  simp only [bind_eq_ok] at h
  obtain ⟨confirmed, hconfirmed, ⟨t', initiatorStatic⟩, -, se, -, t'', -, ⟨last, plaintext⟩, -, payload, -, peer, -,
    keys, -, h⟩ := h
  cases h
  obtain ⟨⟨hlength, -⟩, rfl⟩ := SessionConfirmed.decode_eq_ok.mp hconfirmed
  exact ⟨confirmed.staticFrame, confirmed.payloadFrame, _, rfl, hlength, rfl⟩

end Inversions

end I2pr.Ntcp2
