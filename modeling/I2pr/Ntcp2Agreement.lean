import I2pr.Ntcp2Channel
import I2pr.Ntcp2Codec

namespace I2pr.Ntcp2

open Noise (Key SymmetricState)
open Fallible Transcript ResponderState InitiatorState SessionRequestOptions

def frameOf (c : Ntcp2Crypto) (s : SymmetricState) (plaintext : List UInt8) : List UInt8 :=
  s.cipher.elim [] fun cipher => c.encrypt cipher.key cipher.number plaintext s.hash.toList

def paddedState (c : Ntcp2Crypto) (s : SymmetricState) (padding : List UInt8) : SymmetricState :=
  if padding.isEmpty then s else s.mixHash c.toPrimitives padding

namespace Meeting

variable (c : Ntcp2Crypto) (m : Meeting)

/-- Paddings within the maxima, a RouterInfo that passes the initiator's own validation, for an identity the
responder may expect, and clocks within both policies. -/
structure Valid (decoder : RouterInfoDecoder) : Prop where
  requestPadding : m.requestPadding.length ≤ maxSessionRequestPadding
  createdPadding : m.createdPadding.length ≤ maxSessionCreatedPadding
  confirmedPadding : m.confirmedPadding.length ≤ maxSessionConfirmedPart2Plaintext
  routerInfo : ∃ peer, validateRouterInfo decoder m.routerInfo maxRouterInfoPayload none
    (c.publicKey m.initiatorStatic) = .ok peer ∧ ∀ hash ∈ m.expectedInitiatorHash, hash = peer.routerHash
  requestSkew : m.requestTimestamp ≤ m.createdTimestamp + m.responderSkew.maximumDelta ∧
    m.createdTimestamp ≤ m.requestTimestamp + m.responderSkew.maximumDelta
  createdSkew : m.createdTimestamp ≤ m.confirmedTimestamp + m.initiatorSkew.maximumDelta ∧
    m.confirmedTimestamp ≤ m.createdTimestamp + m.initiatorSkew.maximumDelta

/-- The blocks of the last message fit its frame, and the timestamp of the first one its field. -/
structure RequestFits : Prop where
  payload : 7 + m.routerInfo.length + m.confirmedPadding.length ≤ maxSessionConfirmedPart2Plaintext
  requestTimestamp : m.requestTimestamp < 2 ^ 32

structure Fits : Prop extends RequestFits m where
  createdTimestamp : m.createdTimestamp < 2 ^ 32

/-- The values of an undisturbed handshake, in the order in which they come up. -/
def plaintext : List UInt8 :=
  ConfirmedPayload.encode ⟨m.routerInfo, none, some m.confirmedPadding⟩

def part2Length : Nat := m.plaintext.length + authTagLength

def requestOptions : SessionRequestOptions :=
  ⟨m.networkId, ntcp2Version, .ofNat m.requestPadding.length, .ofNat m.part2Length, .ofNat m.requestTimestamp⟩

def createdOptions : SessionCreatedOptions :=
  ⟨.ofNat m.createdPadding.length, .ofNat m.createdTimestamp⟩

def initiatorPublic : Key := c.publicKey m.initiatorEphemeral
def respondingPublic : Key := c.publicKey m.responderEphemeral

def obfuscation0 : AesObfuscationState := ⟨m.routerHash, m.iv⟩
def obfuscation1 : AesObfuscationState := (m.obfuscation0.encrypt c (m.initiatorPublic c)).1
def requestEphemeral : Key := (m.obfuscation0.encrypt c (m.initiatorPublic c)).2
def obfuscation2 : AesObfuscationState := ((m.obfuscation1 c).encrypt c (m.respondingPublic c)).1
def createdEphemeral : Key := ((m.obfuscation1 c).encrypt c (m.respondingPublic c)).2

def es : Key := c.agree m.initiatorEphemeral (m.responderPublic c)
def ee : Key := c.agree m.initiatorEphemeral (m.respondingPublic c)
def se : Key := c.agree m.initiatorStatic (m.respondingPublic c)

def symmetric (s : SymmetricState) (role : Role) (stage : TranscriptStage) : Transcript :=
  ⟨s, role, m.responderPublic c, stage⟩

def initial : SymmetricState := (Transcript.new c .initiator (m.responderPublic c)).toSymmetricState

def requesting : SymmetricState :=
  ((m.initial c).mixHash c.toPrimitives (m.initiatorPublic c).toList).mixKey c.toPrimitives (m.es c)
def requestFrame : List UInt8 := frameOf c (m.requesting c) m.requestOptions.encode
def requested : SymmetricState := (m.requesting c).used c.toPrimitives (m.requestFrame c)
def requestedPadded : SymmetricState := paddedState c (m.requested c) m.requestPadding

def creating : SymmetricState :=
  ((m.requestedPadded c).mixHash c.toPrimitives (m.respondingPublic c).toList).mixKey c.toPrimitives (m.ee c)
def createdFrame : List UInt8 := frameOf c (m.creating c) m.createdOptions.encode
def created : SymmetricState := (m.creating c).used c.toPrimitives (m.createdFrame c)
def createdPadded : SymmetricState := paddedState c (m.created c) m.createdPadding

def staticFrame : List UInt8 := frameOf c (m.createdPadded c) (c.publicKey m.initiatorStatic).toList
def confirming : SymmetricState :=
  ((m.createdPadded c).used c.toPrimitives (m.staticFrame c)).mixKey c.toPrimitives (m.se c)
def payloadFrame : List UInt8 := frameOf c (m.confirming c) m.plaintext
def confirmed : SymmetricState := (m.confirming c).used c.toPrimitives (m.payloadFrame c)

def requestMessage : List UInt8 := (m.requestEphemeral c).toList ++ (m.requestFrame c ++ m.requestPadding)
def createdMessage : List UInt8 := (m.createdEphemeral c).toList ++ (m.createdFrame c ++ m.createdPadding)
def confirmedMessage : List UInt8 := m.staticFrame c ++ m.payloadFrame c

def initiatorCommon : InitiatorCommon :=
  ⟨m.initiatorStatic, m.initiatorEphemeral, m.responderPublic c, some m.expectedPeerHash, m.networkId, m.initiatorSkew⟩

def responderCommon : ResponderCommon :=
  ⟨m.responderStatic, m.responderEphemeral, m.responderPublic c, m.expectedInitiatorHash, m.networkId, m.responderSkew⟩

def requestTaken : ResponderState × List HandshakeAction :=
  (.needPeerTimestamp (m.responderCommon c) (m.obfuscation1 c) m.requestPadding m.requestOptions (m.initiatorPublic c)
    (m.symmetric c (m.requestedPadded c) .responder .message1Padded), [.requestTimestamp .peerValidation])

def createdTaken : InitiatorState × List HandshakeAction :=
  (.needPeerTimestamp (m.initiatorCommon c) (m.symmetric c (m.createdPadded c) .initiator .message2Padded) m.plaintext
    m.requestPadding.length m.part2Length m.createdPadding.length m.createdOptions.timestamp
    (replayToken c (m.createdEphemeral c)) (m.respondingPublic c), [.requestTimestamp .peerValidation])

/-- The keys of the two directions, from the initiator first, and what each side makes of them. -/
def initiatorKeys : SplitKeys :=
  let (ab, ba) := Transcript.directions c (m.confirmed c).hash (m.confirmed c).chainingKey
  ⟨ab.1, ba.1, ab.2, ba.2⟩

def responderKeys : SplitKeys :=
  let (ab, ba) := Transcript.directions c (m.confirmed c).hash (m.confirmed c).chainingKey
  ⟨ba.1, ab.1, ba.2, ab.2⟩

def negotiated : NegotiatedParameters :=
  ⟨m.networkId, m.part2Length, m.requestPadding.length, m.createdPadding.length, m.plaintext.length⟩

def initiatorResult : AuthenticatedHandshake :=
  ⟨.initiator, ⟨m.expectedPeerHash, m.responderPublic c⟩, m.negotiated, m.initiatorKeys c⟩

def responderResult (peer : AuthenticatedPeer) : AuthenticatedHandshake :=
  ⟨.responder, peer, m.negotiated, m.responderKeys c⟩

end Meeting

section Honest

variable {c : Ntcp2Crypto} {m : Meeting} {decoder : RouterInfoDecoder}

theorem diffieHellman_publicKey (a b : Key) : diffieHellman c a (c.publicKey b) = .ok (c.agree a (c.publicKey b)) := by
  unfold diffieHellman
  dsimp only
  rw [if_neg (by rw [allZero, c.agree_ne_zero]; exact Bool.false_ne_true)]

theorem AesObfuscationState.decrypt_encrypt (state : AesObfuscationState) (secret : Key) :
    state.decrypt c (state.encrypt c (c.publicKey secret)).2 =
      .ok ((state.encrypt c (c.publicKey secret)).1, c.publicKey secret) := by
  unfold decrypt
  rw [decryptBlocks_encrypt]
  dsimp only
  unfold publicKeyBytes
  rw [if_neg (by rw [allZero, c.publicKey_ne_zero]; exact Bool.false_ne_true)]
  rfl

variable {s : SymmetricState}

theorem carries_frameOf {number : Nat} (hcipher : ∃ key, s.cipher = some ⟨key, number⟩)
    {plaintext : List UInt8} (hlength : plaintext.length ≤ maxFramePlaintext) (hnumber : number ≤ maxNonce) :
    Carries c s plaintext (frameOf c s plaintext) := by
  obtain ⟨key, hkey⟩ := hcipher
  refine ⟨_, hkey, hlength, hnumber, ?_⟩
  rw [frameOf, hkey, Option.elim_some]

theorem length_frameOf {number : Nat} (hcipher : ∃ key, s.cipher = some ⟨key, number⟩)
    (plaintext : List UInt8) : (frameOf c s plaintext).length = plaintext.length + authTagLength := by
  obtain ⟨key, hkey⟩ := hcipher
  rw [frameOf, hkey, Option.elim_some, c.length_encrypt]
  rfl

theorem mixPadding_paddedState {role : Role} {stage stage' : TranscriptStage}
    {padding : List UInt8} (hstage : Transcript.TranscriptStage.padded stage = some stage')
    (hpadding : padding.length ≤ maxSessionRequestPadding) :
    (m.symmetric c s role stage).mixPadding c padding = .ok (m.symmetric c (paddedState c s padding) role stage') := by
  refine mixPadding_eq_ok.mpr ⟨hpadding, stage', hstage, ?_⟩
  unfold padded paddedState
  split <;> rfl

theorem handshakeBytes_eq {bytes : List UInt8} (h : bytes.length ≤ maxHandshakeBufferedInput) :
    handshakeBytes bytes = .ok bytes :=
  if_neg (not_lt.mpr h)

namespace Meeting

theorem Valid.routerInfo_ne_nil (h : m.Valid c decoder) : m.routerInfo.isEmpty = false := by
  obtain ⟨peer, hpeer, -⟩ := h.routerInfo
  unfold validateRouterInfo at hpeer
  split at hpeer
  · cases hpeer
  next hbounds => simpa using (not_or.mp hbounds).1

theorem length_plaintext : m.plaintext.length = 7 + m.routerInfo.length + m.confirmedPadding.length :=
  ConfirmedPayload.length_encode_padded ..

theorem cipher_requesting : ∃ key, (m.requesting c).cipher = some ⟨key, 0⟩ := ⟨_, rfl⟩

theorem cipher_creating : ∃ key, (m.creating c).cipher = some ⟨key, 0⟩ := ⟨_, rfl⟩

theorem cipher_confirming : ∃ key, (m.confirming c).cipher = some ⟨key, 0⟩ := ⟨_, rfl⟩

theorem cipher_createdPadded : ∃ key, (m.createdPadded c).cipher = some ⟨key, 1⟩ := by
  unfold createdPadded paddedState
  split <;> exact ⟨_, rfl⟩

theorem carries_request : Carries c (m.requesting c) m.requestOptions.encode (m.requestFrame c) := by
  refine carries_frameOf m.cipher_requesting ?_ (Nat.zero_le _)
  rw [length_encode]
  decide

theorem length_requestFrame : (m.requestFrame c).length = handshakeOptionsFrameLength := by
  rw [requestFrame, length_frameOf m.cipher_requesting, length_encode]
  rfl

theorem carries_created : Carries c (m.creating c) m.createdOptions.encode (m.createdFrame c) := by
  refine carries_frameOf m.cipher_creating ?_ (Nat.zero_le _)
  rw [SessionCreatedOptions.length_encode]
  decide

theorem length_createdFrame : (m.createdFrame c).length = handshakeOptionsFrameLength := by
  rw [createdFrame, length_frameOf m.cipher_creating, SessionCreatedOptions.length_encode]
  rfl

theorem carries_static : Carries c (m.createdPadded c) (c.publicKey m.initiatorStatic).toList (m.staticFrame c) := by
  refine carries_frameOf m.cipher_createdPadded ?_ (by decide)
  rw [List.Vector.toList_length]
  decide

theorem length_staticFrame : (m.staticFrame c).length = sessionConfirmedPart1Length := by
  rw [staticFrame, length_frameOf m.cipher_createdPadded, List.Vector.toList_length]
  rfl

theorem carries_payload (h : m.RequestFits) : Carries c (m.confirming c) m.plaintext (m.payloadFrame c) := by
  have hmax : maxSessionConfirmedPart2Plaintext ≤ maxFramePlaintext := by decide
  exact carries_frameOf m.cipher_confirming (by rw [length_plaintext]; exact h.payload.trans hmax) (Nat.zero_le _)

theorem length_payloadFrame : (m.payloadFrame c).length = m.part2Length := by
  rw [payloadFrame, length_frameOf m.cipher_confirming]
  rfl

theorem RequestFits.part2Length_le (h : m.RequestFits) :
    authTagLength ≤ m.part2Length ∧ m.part2Length ≤ maxSessionConfirmedPart2 := by
  have hmax : maxSessionConfirmedPart2 = maxSessionConfirmedPart2Plaintext + authTagLength := rfl
  have hpayload := h.payload
  rw [part2Length, length_plaintext]
  omega

theorem length_ephemeral_append (key : Key) {frame : List UInt8} (h : frame.length = handshakeOptionsFrameLength) :
    (key.toList ++ frame).length = minHandshakeMessageLength := by
  rw [List.length_append, h, List.Vector.toList_length]
  rfl

theorem length_requestMessage : (m.requestMessage c).length = minHandshakeMessageLength + m.requestPadding.length := by
  rw [requestMessage, ← List.append_assoc, List.length_append, length_ephemeral_append _ m.length_requestFrame]

theorem length_createdMessage : (m.createdMessage c).length = minHandshakeMessageLength + m.createdPadding.length := by
  rw [createdMessage, ← List.append_assoc, List.length_append, length_ephemeral_append _ m.length_createdFrame]

theorem length_confirmedMessage : (m.confirmedMessage c).length = sessionConfirmedPart1Length + m.part2Length := by
  rw [confirmedMessage, List.length_append, length_staticFrame, length_payloadFrame]

theorem es_comm : c.agree m.responderStatic (m.initiatorPublic c) = m.es c := c.agree_comm ..

theorem ee_comm : c.agree m.responderEphemeral (m.initiatorPublic c) = m.ee c := c.agree_comm ..

theorem se_comm : c.agree m.responderEphemeral (c.publicKey m.initiatorStatic) = m.se c := c.agree_comm ..

theorem writeRequest_eq (hvalid : m.Valid c decoder) (hfits : m.RequestFits) :
    writeRequest c (m.initiatorCommon c) m.obfuscation0
      (m.symmetric c (m.initial c) .initiator .initial) m.routerInfo m.requestTimestamp m.requestPadding
      m.confirmedPadding = .ok (.awaitCreated (m.initiatorCommon c) (m.obfuscation1 c)
        (m.symmetric c (m.requestedPadded c) .initiator .message1Padded) m.plaintext m.requestPadding.length
        m.part2Length, [.write (m.requestMessage c), .readExact minHandshakeMessageLength]) := by
  have hpadding := hvalid.requestPadding
  have hpart2 := hfits.part2Length_le
  have hrequestMax : maxSessionRequestPadding = 880 := rfl
  unfold writeRequest
  refine bind_ok ((ConfirmedPayload.new_padded_eq_ok hvalid.routerInfo_ne_nil).mpr ⟨hfits.payload, rfl⟩) ?_
  refine (if_neg (not_lt.mpr hpart2.2)).trans ?_
  refine bind_eq_ok.mpr ⟨m.requestOptions,
    new_eq_ok.mpr ⟨⟨hfits.requestTimestamp, by omega, hpart2.1, hpart2.2⟩, rfl⟩, ?_⟩
  refine bind_ok (publicKeyOf_eq c _) ?_
  refine bind_ok (diffieHellman_publicKey _ _) ?_
  refine bind_ok (mapError_eq_ok.mpr (sealOptions_eq_ok.mpr ⟨⟨rfl, rfl⟩, m.carries_request, rfl⟩)) ?_
  refine bind_ok ((EphemeralMessage.new_eq_ok le_rfl).mpr ⟨⟨m.length_requestFrame, hpadding⟩, rfl⟩) ?_
  have hlength : (m.requestMessage c).length ≤ maxHandshakeBufferedInput := by
    have hmin : minHandshakeMessageLength = 64 := rfl
    have hmax : maxHandshakeBufferedInput = 65535 := rfl
    rw [length_requestMessage]
    omega
  refine bind_ok (handshakeBytes_eq hlength) ?_
  refine bind_ok (mapError_eq_ok.mpr (mixPadding_paddedState rfl hpadding)) ?_
  rfl

theorem readRequest_eq : readRequest c (m.responderCommon c) m.obfuscation0
      ((m.requestEphemeral c).toList ++ m.requestFrame c) =
      .ok (.awaitReplay (m.responderCommon c) m.obfuscation0 ⟨m.requestEphemeral c, m.requestFrame c, []⟩,
        [.requestReplay (replayToken c (m.requestEphemeral c)) m.responderSkew.replayRetention]) := by
  have hlength := length_ephemeral_append (m.requestEphemeral c) (m.length_requestFrame (c := c))
  unfold readRequest
  rw [if_neg (not_not.mpr hlength)]
  exact bind_eq_ok.mpr ⟨⟨m.requestEphemeral c, m.requestFrame c, []⟩,
    (EphemeralMessage.decode_eq_ok le_rfl hlength).mpr ⟨rfl, rfl⟩, rfl⟩

theorem toNat_ofNat_of_le {length : Nat} (h : length ≤ maxSessionConfirmedPart2) : (UInt16.ofNat length).toNat = length :=
  UInt16.toNat_ofNat_of_lt' (h.trans_lt (by decide))

theorem toNat_requestPadding (hvalid : m.Valid c decoder) :
    m.requestOptions.paddingLength.toNat = m.requestPadding.length :=
  toNat_ofNat_of_le (hvalid.requestPadding.trans (by decide))

theorem toNat_createdPadding (hvalid : m.Valid c decoder) :
    m.createdOptions.paddingLength.toNat = m.createdPadding.length :=
  toNat_ofNat_of_le (hvalid.createdPadding.trans (by decide))

theorem eq_zero_iff_of_toNat {length : UInt16} {padding : List UInt8} (h : length.toNat = padding.length) :
    length = 0 ↔ padding = [] := by
  rw [← List.length_eq_zero_iff, ← h]
  exact UInt16.toNat_inj.symm

theorem toNat_part2Length (hfits : m.RequestFits) :
    m.requestOptions.sessionConfirmedPart2Length.toNat = m.part2Length :=
  toNat_ofNat_of_le hfits.part2Length_le.2

theorem acceptRequest_eq (hvalid : m.Valid c decoder) (hfits : m.Fits) :
    acceptRequest c (m.responderCommon c) m.obfuscation0
      ⟨m.requestEphemeral c, m.requestFrame c, []⟩ =
      .ok (if m.requestPadding = [] then m.requestTaken c
        else (.awaitRequestPadding (m.responderCommon c) (m.obfuscation1 c) m.requestOptions (m.initiatorPublic c)
          (m.symmetric c (m.requested c) .responder .message1Complete) m.requestPadding.length,
          [.readExact m.requestPadding.length])) := by
  have hpart2 := hfits.part2Length_le
  have hlength := m.toNat_requestPadding hvalid
  rw [← toNat_part2Length hfits.toRequestFits] at hpart2
  have hopened : (new c .responder (m.responderPublic c)).acceptSessionRequest c (m.initiatorPublic c)
      (c.agree m.responderStatic (m.initiatorPublic c)) (m.requestFrame c) =
      .ok (m.symmetric c (m.requested c) .responder .message1Complete, m.requestOptions.encode) := by
    rw [es_comm]
    exact openOptions_eq_ok.mpr ⟨⟨rfl, rfl⟩, m.carries_request, rfl⟩
  unfold acceptRequest
  refine bind_ok (mapError_eq_ok.mpr (AesObfuscationState.decrypt_encrypt ..)) ?_
  refine bind_ok (diffieHellman_publicKey _ _) ?_
  refine bind_ok (mapError_eq_ok.mpr hopened) ?_
  refine bind_ok (decode_encode rfl hpart2.1 hpart2.2) ?_
  refine (if_neg (not_not.mpr rfl)).trans ?_
  by_cases hpadding : m.requestPadding = []
  · rw [if_pos hpadding]
    refine (if_pos ((eq_zero_iff_of_toNat hlength).mpr hpadding)).trans ?_
    refine bind_ok (mapError_eq_ok.mpr (mixPadding_paddedState rfl (Nat.zero_le _))) ?_
    rw [requestTaken, requestedPadded, hpadding]
    rfl
  · rw [if_neg hpadding]
    refine (if_neg (mt (eq_zero_iff_of_toNat hlength).mp hpadding)).trans ?_
    rw [hlength]
    rfl

theorem classify_eq {policy : ClockSkewPolicy} {now peer : Nat} (hpeer : peer < 2 ^ 32)
    (hskew : peer ≤ now + policy.maximumDelta ∧ now ≤ peer + policy.maximumDelta) :
    policy.classify now (.ofNat peer) = .ok () := by
  have htoNat : (UInt32.ofNat peer).toNat = peer := UInt32.toNat_ofNat_of_lt' hpeer
  unfold ClockSkewPolicy.classify
  dsimp only
  rw [htoNat, if_neg (by omega), if_neg (by omega)]

theorem writeCreated_eq (hvalid : m.Valid c decoder) (hfits : m.Fits) :
    writeCreated c (m.responderCommon c) (m.obfuscation1 c) m.requestPadding m.requestOptions
      (m.initiatorPublic c) (m.symmetric c (m.requestedPadded c) .responder .message1Padded) m.createdTimestamp
      m.createdPadding =
      .ok (.awaitConfirmed (m.responderCommon c) (m.symmetric c (m.createdPadded c) .responder .message2Padded)
        m.part2Length m.requestPadding.length m.createdPadding.length m.networkId,
        [.write (m.createdMessage c), .readExact (sessionConfirmedPart1Length + m.part2Length)]) := by
  have hpadding := hvalid.createdPadding
  have hcreatedMax : maxSessionCreatedPadding = 848 := rfl
  have hrequestMax : maxSessionRequestPadding = 880 := rfl
  have hsealed : (m.symmetric c (m.requestedPadded c) .responder .message1Padded).sessionCreated c
      (m.respondingPublic c) (c.agree m.responderEphemeral (m.initiatorPublic c)) m.createdOptions.encode =
      .ok (m.symmetric c (m.created c) .responder .message2Complete, m.createdFrame c) := by
    rw [ee_comm]
    exact sealOptions_eq_ok.mpr ⟨⟨rfl, rfl⟩, m.carries_created, rfl⟩
  have hlength : (m.createdMessage c).length ≤ maxHandshakeBufferedInput := by
    have hmin : minHandshakeMessageLength = 64 := rfl
    have hmax : maxHandshakeBufferedInput = 65535 := rfl
    rw [length_createdMessage]
    omega
  unfold writeCreated
  rw [if_neg (not_lt.mpr hpadding)]
  refine bind_ok (publicKeyOf_eq c _) ?_
  refine bind_ok (diffieHellman_publicKey _ _) ?_
  refine bind_eq_ok.mpr ⟨m.createdOptions,
    SessionCreatedOptions.new_eq_ok.mpr ⟨⟨by omega, hfits.createdTimestamp⟩, rfl⟩, ?_⟩
  refine bind_ok (mapError_eq_ok.mpr hsealed) ?_
  refine bind_ok (mapError_eq_ok.mpr (mixPadding_paddedState rfl (by omega))) ?_
  refine bind_ok ((EphemeralMessage.new_eq_ok (by decide)).mpr ⟨⟨m.length_createdFrame, hpadding⟩, rfl⟩) ?_
  refine bind_ok (handshakeBytes_eq hlength) ?_
  dsimp only
  rw [toNat_part2Length hfits.toRequestFits]
  rfl

theorem acceptCreated_eq (hvalid : m.Valid c decoder) :
    acceptCreated c (m.initiatorCommon c) (m.obfuscation1 c)
      (m.symmetric c (m.requestedPadded c) .initiator .message1Padded) m.plaintext m.requestPadding.length
      m.part2Length ((m.createdEphemeral c).toList ++ m.createdFrame c) =
      .ok (if m.createdPadding = [] then m.createdTaken c
        else (.awaitCreatedPadding (m.initiatorCommon c) (m.symmetric c (m.created c) .initiator .message2Complete)
          m.plaintext m.requestPadding.length m.part2Length (m.respondingPublic c) m.createdOptions.timestamp
          (replayToken c (m.createdEphemeral c)) m.createdPadding.length, [.readExact m.createdPadding.length])) := by
  have hlength := m.toNat_createdPadding hvalid
  have hmessage := length_ephemeral_append (m.createdEphemeral c) (m.length_createdFrame (c := c))
  unfold acceptCreated
  rw [if_neg (not_not.mpr hmessage)]
  refine bind_eq_ok.mpr ⟨⟨m.createdEphemeral c, m.createdFrame c, []⟩,
    (EphemeralMessage.decode_eq_ok (by decide) hmessage).mpr ⟨rfl, rfl⟩, ?_⟩
  refine bind_ok (mapError_eq_ok.mpr (AesObfuscationState.decrypt_encrypt ..)) ?_
  refine bind_ok (diffieHellman_publicKey _ _) ?_
  refine bind_eq_ok.mpr ⟨(m.symmetric c (m.created c) .initiator .message2Complete, m.createdOptions.encode),
    mapError_eq_ok.mpr (openOptions_eq_ok.mpr ⟨⟨rfl, rfl⟩, m.carries_created, rfl⟩), ?_⟩
  refine bind_ok (SessionCreatedOptions.decode_encode _) ?_
  by_cases hpadding : m.createdPadding = []
  · rw [if_pos hpadding]
    refine (if_pos ((eq_zero_iff_of_toNat hlength).mpr hpadding)).trans ?_
    refine bind_ok (mapError_eq_ok.mpr (mixPadding_paddedState rfl (Nat.zero_le _))) ?_
    rw [createdTaken, createdPadded, hpadding]
    rfl
  · rw [if_neg hpadding]
    refine (if_neg (mt (eq_zero_iff_of_toNat hlength).mp hpadding)).trans ?_
    dsimp only
    rw [hlength]
    rfl

theorem writeConfirmed_eq (hfits : m.Fits) :
    writeConfirmed c (m.initiatorCommon c) (m.symmetric c (m.createdPadded c) .initiator .message2Padded)
      m.plaintext m.requestPadding.length m.part2Length m.createdPadding.length (m.respondingPublic c) =
      .ok (.done, [.write (m.confirmedMessage c), .authenticated (m.initiatorResult c)]) := by
  have hpart2 := hfits.part2Length_le
  have hlength : (m.confirmedMessage c).length ≤ maxHandshakeBufferedInput := by
    have hmax : maxHandshakeBufferedInput = sessionConfirmedPart1Length + maxSessionConfirmedPart2 := rfl
    rw [length_confirmedMessage]
    omega
  unfold writeConfirmed
  refine bind_ok (publicKeyOf_eq c _) ?_
  refine bind_ok (diffieHellman_publicKey _ _) ?_
  refine bind_eq_ok.mpr ⟨(m.symmetric c (m.confirming c) .initiator .staticEncrypted, m.staticFrame c),
    mapError_eq_ok.mpr (encryptStatic_eq_ok.mpr ⟨⟨rfl, rfl⟩, m.carries_static, rfl⟩), ?_⟩
  refine bind_eq_ok.mpr ⟨(m.symmetric c (m.confirmed c) .initiator .confirmed, m.payloadFrame c),
    mapError_eq_ok.mpr ((gated_eq_ok ({ · with stage := .confirmed }) fun _ _ => encryptAndHash_eq_ok).mpr
      ⟨⟨rfl, rfl⟩, m.carries_payload hfits.toRequestFits, rfl⟩), ?_⟩
  refine (if_neg (not_not.mpr m.length_payloadFrame)).trans ?_
  refine bind_eq_ok.mpr ⟨_, SessionConfirmed.new_eq_ok.mpr
    ⟨⟨m.length_staticFrame, by rw [length_payloadFrame]; exact hpart2⟩, rfl⟩, ?_⟩
  refine bind_eq_ok.mpr ⟨m.initiatorKeys c, mapError_eq_ok.mpr rfl, ?_⟩
  refine bind_ok (handshakeBytes_eq hlength) ?_
  rfl

theorem validateRouterInfo_eq {bytes : List UInt8} {maximum : Nat} {staticKey : Key} {peer : AuthenticatedPeer}
    (h : validateRouterInfo decoder bytes maximum none staticKey = .ok peer) :
    ∃ info, decoder bytes maximum = .ok info ∧ info.identityHash = .ok peer.routerHash ∧
      peer.transportStaticKey = staticKey ∧ ∀ expected : Option Key, (∀ hash ∈ expected, hash = peer.routerHash) →
        validateRouterInfo decoder bytes maximum expected staticKey = .ok peer := by
  unfold validateRouterInfo at h
  obtain ⟨hbounds, h⟩ := ite_error_eq_ok.mp h
  obtain ⟨info, hinfo, h⟩ := bind_eq_ok.mp h
  obtain ⟨⟨⟩, hsignature, h⟩ := bind_eq_ok.mp h
  obtain ⟨routerHash, hhash, h⟩ := bind_eq_ok.mp h
  rw [if_neg (by simp)] at h
  obtain ⟨hkind, h⟩ := ite_error_eq_ok.mp h
  obtain ⟨found, hfound, h⟩ := bind_eq_ok.mp h
  cases found with
  | none => cases h
  | some key =>
    dsimp only at h
    obtain ⟨hkey, h⟩ := ite_error_eq_ok.mp h
    cases h
    refine ⟨info, mapError_eq_ok.mp hinfo, mapError_eq_ok.mp hhash, not_not.mp hkey, fun expected hexpected => ?_⟩
    have hpinned : ¬ expected.any (fun hash => hash ≠ routerHash) = true := by
      cases expected with
      | none => simp
      | some hash => simpa using hexpected hash rfl
    unfold validateRouterInfo
    rw [if_neg hbounds]
    refine bind_eq_ok.mpr ⟨info, hinfo, bind_eq_ok.mpr ⟨(), hsignature, bind_eq_ok.mpr ⟨_, hhash, ?_⟩⟩⟩
    rw [if_neg hpinned, if_neg hkind]
    exact bind_eq_ok.mpr ⟨some key, hfound, if_neg hkey⟩

theorem acceptConfirmed_eq (hvalid : m.Valid c decoder) (hfits : m.Fits) {peer : AuthenticatedPeer}
    (hpeer : validateRouterInfo decoder m.routerInfo maxRouterInfoPayload m.expectedInitiatorHash
      (c.publicKey m.initiatorStatic) = .ok peer) :
    acceptConfirmed c decoder (m.responderCommon c)
      (m.symmetric c (m.createdPadded c) .responder .message2Padded) m.part2Length m.requestPadding.length
      m.createdPadding.length m.networkId (m.confirmedMessage c) =
      .ok (.done, [.authenticated (m.responderResult c peer)]) := by
  have hpart2 := hfits.part2Length_le
  have hmixed : (m.symmetric c ((m.createdPadded c).used c.toPrimitives (m.staticFrame c)) .responder
      .message2Padded).mixStaticSecret c (c.agree m.responderEphemeral (c.publicKey m.initiatorStatic)) =
      .ok (m.symmetric c (m.confirming c) .responder .staticEncrypted) := by
    rw [se_comm]
    exact mixStaticSecret_eq_ok.mpr ⟨⟨rfl, rfl⟩, rfl⟩
  unfold acceptConfirmed
  refine bind_eq_ok.mpr ⟨⟨m.staticFrame c, m.payloadFrame c⟩, SessionConfirmed.decode_eq_ok.mpr
    ⟨⟨m.length_staticFrame, m.length_payloadFrame, hpart2⟩, rfl⟩, ?_⟩
  refine bind_eq_ok.mpr ⟨(_, c.publicKey m.initiatorStatic), mapError_eq_ok.mpr
    (decryptStaticUnchecked_eq_ok.mpr ⟨⟨rfl, rfl⟩, m.carries_static, c.publicKey_ne_zero _, rfl⟩), ?_⟩
  refine bind_ok (diffieHellman_publicKey _ _) ?_
  refine bind_ok (mapError_eq_ok.mpr hmixed) ?_
  refine bind_eq_ok.mpr ⟨(m.symmetric c (m.confirmed c) .responder .confirmed, m.plaintext), mapError_eq_ok.mpr
    ((gated_eq_ok ({ · with stage := .confirmed }) fun _ _ => decryptAndHash_eq_ok).mpr
      ⟨⟨rfl, rfl⟩, m.carries_payload hfits.toRequestFits, rfl⟩), ?_⟩
  refine bind_ok (ConfirmedPayload.decode_encode_padded hvalid.routerInfo_ne_nil hfits.payload) ?_
  refine bind_eq_ok.mpr ⟨peer, hpeer, ?_⟩
  refine bind_eq_ok.mpr ⟨m.responderKeys c, mapError_eq_ok.mpr rfl, ?_⟩
  rfl

end Meeting

end Honest

end I2pr.Ntcp2
