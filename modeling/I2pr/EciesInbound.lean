import I2pr.EciesAgreement

namespace I2pr.Ecies

open List

def maxEnvelopeBytes : Nat := 62708

def BoundNewSessionMessage.decode (input : List UInt8) (maximum : Nat) : Except EciesError BoundNewSessionMessage :=
  if h : input.length < boundNewSessionMinLength then
    .error (.ciphertextTooShort input.length boundNewSessionMinLength)
  else if maximum < input.length then .error (.ciphertextTooLarge input.length maximum)
  else .ok ⟨⟨input.take 32, by
    rw [boundNewSessionMinLength, representativeLength] at h
    rw [List.length_take]
    omega⟩, (input.drop 32).take 48, input.drop 80⟩

def NewSessionReplyMessage.decode (input : List UInt8) (maximum : Nat) : Except EciesError NewSessionReplyMessage :=
  if h : input.length < newSessionReplyMinLength then
    .error (.ciphertextTooShort input.length newSessionReplyMinLength)
  else if maximum < input.length then .error (.ciphertextTooLarge input.length maximum)
  else .ok ⟨⟨input.take 8, by
    rw [newSessionReplyMinLength, sessionTagLength, representativeLength] at h
    rw [List.length_take]
    omega⟩, ⟨(input.drop 8).take 32, by
    rw [newSessionReplyMinLength, sessionTagLength, representativeLength, aeadTagLen] at h
    rw [List.length_take, List.length_drop]
    omega⟩, (input.drop 40).take 16, input.drop 56⟩

def ExistingSessionMessage.decode (input : List UInt8) (maximum : Nat) : Except EciesError ExistingSessionMessage :=
  if h : input.length < existingSessionMinLength then
    .error (.ciphertextTooShort input.length existingSessionMinLength)
  else if maximum < input.length then .error (.ciphertextTooLarge input.length maximum)
  else .ok ⟨⟨input.take 8, by
    rw [existingSessionMinLength, sessionTagLength] at h
    rw [List.length_take]
    omega⟩, input.drop 8⟩

theorem drop_append_of_length {first : List UInt8} {n : Nat} (h : first.length = n) (rest : List UInt8) (k : Nat) :
    (first ++ rest).drop (n + k) = rest.drop k := by
  rw [← drop_drop, drop_left' h]

theorem BoundNewSessionMessage.decode_encode {message : BoundNewSessionMessage} {maximum : Nat}
    (hstatic : message.encryptedStaticSection.length = 48) (hpayload : 16 ≤ message.encryptedPayloadSection.length)
    (hmax : message.encode.length ≤ maximum) : decode message.encode maximum = .ok message := by
  have hlong : ¬ message.encode.length < boundNewSessionMinLength := by
    simp only [encode, length_append, List.Vector.toList_length, hstatic, boundNewSessionMinLength,
      representativeLength, staticPublicLength, aeadTagLen]
    omega
  unfold decode
  rw [dif_neg hlong, if_neg (by omega)]
  obtain ⟨representative, static, payload⟩ := message
  refine congrArg Except.ok (Eq.mpr (BoundNewSessionMessage.mk.injEq ..) ?_)
  refine ⟨Subtype.ext (take_left' representative.toList_length), ?_, ?_⟩
  · rw [encode, drop_left' representative.toList_length, take_left' hstatic]
  · exact (drop_append_of_length representative.toList_length _ 48).trans (drop_left' hstatic)

theorem NewSessionReplyMessage.decode_encode {message : NewSessionReplyMessage} {maximum : Nat}
    (hmac : message.keySectionMac.length = 16) (hpayload : 16 ≤ message.encryptedPayloadSection.length)
    (hmax : message.encode.length ≤ maximum) : decode message.encode maximum = .ok message := by
  have hlong : ¬ message.encode.length < newSessionReplyMinLength := by
    simp only [encode, length_append, List.Vector.toList_length, hmac, newSessionReplyMinLength,
      representativeLength, sessionTagLength, aeadTagLen]
    omega
  unfold decode
  rw [dif_neg hlong, if_neg (by omega)]
  obtain ⟨tag, representative, mac, payload⟩ := message
  refine congrArg Except.ok (Eq.mpr (NewSessionReplyMessage.mk.injEq ..) ?_)
  refine ⟨Subtype.ext (take_left' tag.toList_length), Subtype.ext ?_, ?_, ?_⟩
  · simp only [encode]
    rw [drop_left' tag.toList_length, take_left' representative.toList_length]
    rfl
  · have hskip := drop_append_of_length tag.toList_length (representative.toList ++ (mac ++ payload)) 32
    simp only [encode]
    rw [hskip, drop_left' representative.toList_length, take_left' hmac]
  · have hskip := drop_append_of_length tag.toList_length (representative.toList ++ (mac ++ payload)) 48
    simp only [encode]
    rw [hskip]
    exact (drop_append_of_length representative.toList_length _ 16).trans (drop_left' hmac)

theorem ExistingSessionMessage.decode_encode {message : ExistingSessionMessage} {maximum : Nat}
    (hpayload : 16 ≤ message.encryptedPayloadSection.length) (hmax : message.encode.length ≤ maximum) :
    decode message.encode maximum = .ok message := by
  have hlong : ¬ message.encode.length < existingSessionMinLength := by
    simp only [encode, length_append, List.Vector.toList_length, existingSessionMinLength, sessionTagLength,
      aeadTagLen]
    omega
  unfold decode
  rw [dif_neg hlong, if_neg (by omega)]
  obtain ⟨tag, payload⟩ := message
  refine congrArg Except.ok (Eq.mpr (ExistingSessionMessage.mk.injEq ..) ?_)
  exact ⟨Subtype.ext (take_left' tag.toList_length), drop_left' tag.toList_length⟩

inductive InboundError where
  | codec (e : EciesError)
  | session (e : Failure EciesSessionError)
  | unclassified (form : ClassifiedInbound)
deriving DecidableEq, Repr

namespace EciesSessionManager

variable (c : EciesCrypto)

/-- The session part of the dispatcher: an envelope is classified, decoded and given to the matching function. -/
def receive (m : EciesSessionManager) (localStaticSecret : Key) (envelope : List UInt8) (nowSeconds : Nat) :
    EciesSessionManager × Except InboundError (List UInt8) :=
  match m.classify envelope with
  | .newSessionReply =>
    match NewSessionReplyMessage.decode envelope maxEnvelopeBytes with
    | .error e => (m, .error (.codec e))
    | .ok reply =>
      match m.acceptNewSessionReply c localStaticSecret reply nowSeconds with
      | (m, .error e) => (m, .error (.session e))
      | (m, .ok accepted) => (m, .ok accepted.payload)
  | .existingSession =>
    match ExistingSessionMessage.decode envelope maxEnvelopeBytes with
    | .error e => (m, .error (.codec e))
    | .ok message =>
      match m.acceptExistingSession c message with
      | (m, .error e) => (m, .error (.session e))
      | (m, .ok accepted) => (m, .ok accepted.payload)
  | .candidateNewSession =>
    match BoundNewSessionMessage.decode envelope maxEnvelopeBytes with
    | .error e => (m, .error (.codec e))
    | .ok message =>
      match m.acceptNewSession c localStaticSecret (c.x25519Public localStaticSecret) message nowSeconds with
      | (m, .error e) => (m, .error (.session e))
      | (m, .ok accepted) => (m, .ok accepted.payload)
  | form => (m, .error (.unclassified form))

end EciesSessionManager

end I2pr.Ecies
