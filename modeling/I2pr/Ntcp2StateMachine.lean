import I2pr.Ntcp2Handshake

namespace I2pr.Ntcp2

open Noise (Key CipherState)

inductive PaddingMessage where
  | sessionRequest
  | sessionCreated
  | sessionConfirmed

inductive TimestampPurpose where
  | sessionRequest
  | sessionCreated
  | peerValidation

structure NegotiatedParameters where
  networkId : UInt8
  sessionConfirmedPart2Length : Nat
  sessionRequestPaddingLength : Nat
  sessionCreatedPaddingLength : Nat
  sessionConfirmedPlaintextLength : Nat

structure AuthenticatedHandshake where
  role : Role
  peer : AuthenticatedPeer
  negotiated : NegotiatedParameters
  splitKeys : SplitKeys

inductive HandshakeAction where
  | readExact (length : Nat)
  | write (bytes : List UInt8)
  | requestTimestamp (purpose : TimestampPurpose)
  | requestReplay (token : Key) (retention : Nat)
  | requestPadding (message : PaddingMessage) (maximum : Nat)
  | requestRouterInfo (maximum : Nat)
  | authenticated (result : AuthenticatedHandshake)
  | terminate (e : HandshakeError)

inductive HandshakeInput where
  | bytes (bytes : List UInt8)
  | timestamp (seconds : Nat)
  | replay (decision : ReplayDecision)
  | padding (bytes : List UInt8)
  | routerInfo (bytes : List UInt8)
  | cancelled
  | deadlineExpired
  | disconnected

def handshakeBytes (bytes : List UInt8) : Except HandshakeError (List UInt8) :=
  if maxHandshakeBufferedInput < bytes.length then .error .invalidFixedLength else .ok bytes

def mapCrypto : Ntcp2CryptoError → HandshakeError
  | .invalidPublicKey => .deobfuscationFailure
  | .authenticationFailed => .authenticationFailure
  | .peerStaticMismatch => .transportStaticKeyMismatch
  | .invalidState | .wrongRole => .transcriptMismatch
  | other => .crypto other

def checkPadding (actual expected : Nat) : Except HandshakeError Unit :=
  if actual ≠ expected then .error (if expected < actual then .excessivePadding else .invalidFixedLength) else .ok ()

def replayResult : ReplayDecision → Except HandshakeError Unit
  | .fresh => .ok ()
  | .replayed => .error .replayDetected
  | .cacheFull | .unavailable => .error .replayCacheUnavailable

/-- What ends a handshake from outside, in every phase. -/
def HandshakeInput.ending : HandshakeInput → Option HandshakeError
  | .cancelled => some .cancelled
  | .deadlineExpired => some .deadlineExpired
  | .disconnected => some .disconnected
  | _ => none

section Machines

variable (c : Ntcp2Crypto)

def publicKeyOf (secret : Key) : Except HandshakeError Key :=
  (publicKeyBytes (c.publicKey secret)).mapError fun _ => .deobfuscationFailure

@[simp] theorem publicKeyOf_eq (secret : Key) : publicKeyOf c secret = .ok (c.publicKey secret) := by
  unfold publicKeyOf publicKeyBytes
  rw [if_neg (by rw [allZero, c.publicKey_ne_zero]; exact Bool.false_ne_true)]
  rfl

structure InitiatorCommon where
  localStatic : Key
  ephemeral : Key
  responderStatic : Key
  expectedPeerHash : Option Key
  networkId : UInt8
  skew : ClockSkewPolicy

inductive InitiatorState where
  | needRouterInfo (common : InitiatorCommon) (obfuscation : AesObfuscationState) (transcript : Transcript)
  | needRequestTimestamp (common : InitiatorCommon) (obfuscation : AesObfuscationState) (transcript : Transcript)
      (routerInfo : List UInt8)
  | needRequestPadding (common : InitiatorCommon) (obfuscation : AesObfuscationState) (transcript : Transcript)
      (routerInfo : List UInt8) (timestamp : Nat)
  | needConfirmedPadding (common : InitiatorCommon) (obfuscation : AesObfuscationState) (transcript : Transcript)
      (routerInfo : List UInt8) (timestamp : Nat) (requestPadding : List UInt8)
  | awaitCreated (common : InitiatorCommon) (obfuscation : AesObfuscationState) (transcript : Transcript)
      (confirmedPlaintext : List UInt8) (requestPaddingLength expectedPart2Length : Nat)
  | awaitCreatedPadding (common : InitiatorCommon) (transcript : Transcript) (confirmedPlaintext : List UInt8)
      (requestPaddingLength expectedPart2Length : Nat) (responderEphemeral : Key) (createdTimestamp : UInt32)
      (replayToken : Key) (expectedPaddingLength : Nat)
  | needPeerTimestamp (common : InitiatorCommon) (transcript : Transcript) (confirmedPlaintext : List UInt8)
      (requestPaddingLength expectedPart2Length createdPaddingLength : Nat) (createdTimestamp : UInt32)
      (replayToken responderEphemeral : Key)
  | needConfirmedReplay (common : InitiatorCommon) (transcript : Transcript) (confirmedPlaintext : List UInt8)
      (requestPaddingLength expectedPart2Length createdPaddingLength : Nat) (responderEphemeral : Key)
  | done

namespace InitiatorState

def new (localStatic ephemeral responderStatic : Key) (expectedPeerHash : Option Key) (responderRouterHash : Key)
    (obfuscationIv : Block) (networkId : UInt8) (skew : ClockSkewPolicy) : InitiatorState :=
  .needRouterInfo ⟨localStatic, ephemeral, responderStatic, expectedPeerHash, networkId, skew⟩
    ⟨responderRouterHash, obfuscationIv⟩ (.new c .initiator responderStatic)

def start : InitiatorState → Except HandshakeError (InitiatorState × List HandshakeAction)
  | .needRouterInfo common obfuscation transcript =>
    .ok (.needRouterInfo common obfuscation transcript, [.requestRouterInfo maxRouterInfoPayload])
  | _ => .error .stateViolation

variable (common : InitiatorCommon)

/-- The request is made when both paddings are known, since it announces the length of the last message. -/
def writeRequest (obfuscation : AesObfuscationState) (transcript : Transcript)
    (routerInfo : List UInt8) (timestamp : Nat) (requestPadding confirmedPadding : List UInt8) :
    Except HandshakeError (InitiatorState × List HandshakeAction) := do
  let payload ← ConfirmedPayload.new routerInfo none (some confirmedPadding)
  let confirmedPlaintext := payload.encode
  let expectedPart2Length := confirmedPlaintext.length + authTagLength
  if maxSessionConfirmedPart2 < expectedPart2Length then .error .invalidFixedLength
  else do
    let options ←
      SessionRequestOptions.new common.networkId requestPadding.length expectedPart2Length timestamp
    let ephemeral ← publicKeyOf c common.ephemeral
    let shared ← diffieHellman c common.ephemeral common.responderStatic
    let (transcript, encryptedOptions) ←
      (transcript.sessionRequest c ephemeral shared options.encode).mapError mapCrypto
    let (obfuscation, encryptedEphemeral) := obfuscation.encrypt c ephemeral
    let request ← SessionRequest.new encryptedEphemeral encryptedOptions requestPadding
    let requestBytes ← handshakeBytes request.encode
    let transcript ← (transcript.mixPadding c request.padding).mapError mapCrypto
    .ok (.awaitCreated common obfuscation transcript confirmedPlaintext request.padding.length expectedPart2Length,
      [.write requestBytes, .readExact minHandshakeMessageLength])

def acceptCreated (obfuscation : AesObfuscationState) (transcript : Transcript)
    (confirmedPlaintext : List UInt8) (requestPaddingLength expectedPart2Length : Nat) (bytes : List UInt8) :
    Except HandshakeError (InitiatorState × List HandshakeAction) :=
  if bytes.length ≠ minHandshakeMessageLength then .error .invalidFixedLength
  else do
    let created ← SessionCreated.decode bytes maxHandshakeMessageLength
    let (_, responderEphemeral) ← (obfuscation.decrypt c created.encryptedEphemeral).mapError mapCrypto
    let shared ← diffieHellman c common.ephemeral responderEphemeral
    let (transcript, plaintext) ←
      (transcript.acceptSessionCreated c responderEphemeral shared created.encryptedOptions).mapError mapCrypto
    let options ← SessionCreatedOptions.decode plaintext
    let token := replayToken c created.encryptedEphemeral
    if options.paddingLength = 0 then do
      let transcript ← (transcript.mixPadding c []).mapError mapCrypto
      .ok (.needPeerTimestamp common transcript confirmedPlaintext requestPaddingLength expectedPart2Length 0
        options.timestamp token responderEphemeral, [.requestTimestamp .peerValidation])
    else
      .ok (.awaitCreatedPadding common transcript confirmedPlaintext requestPaddingLength expectedPart2Length
        responderEphemeral options.timestamp token options.paddingLength.toNat,
        [.readExact options.paddingLength.toNat])

def writeConfirmed (transcript : Transcript) (confirmedPlaintext : List UInt8)
    (requestPaddingLength expectedPart2Length createdPaddingLength : Nat) (responderEphemeral : Key) :
    Except HandshakeError (InitiatorState × List HandshakeAction) := do
  let localStatic ← publicKeyOf c common.localStatic
  let se ← diffieHellman c common.localStatic responderEphemeral
  let (transcript, staticFrame) ← (transcript.encryptStatic c localStatic se).mapError mapCrypto
  let (transcript, payloadFrame) ← (transcript.encryptConfirmedPayload c confirmedPlaintext).mapError mapCrypto
  if payloadFrame.length ≠ expectedPart2Length then .error .invalidFixedLength
  else do
    let confirmed ← SessionConfirmed.new staticFrame payloadFrame
    match common.expectedPeerHash with
    | none => .error .peerIdentityMismatch
    | some peerHash => do
      let splitKeys ← (transcript.split c).mapError mapCrypto
      let bytes ← handshakeBytes confirmed.encode
      .ok (.done, [.write bytes, .authenticated ⟨.initiator, ⟨peerHash, common.responderStatic⟩,
        ⟨common.networkId, expectedPart2Length, requestPaddingLength, createdPaddingLength,
          confirmedPlaintext.length⟩, splitKeys⟩])

def transition (decoder : RouterInfoDecoder) (state : InitiatorState) (input : HandshakeInput) :
    Except HandshakeError (InitiatorState × List HandshakeAction) :=
  match input.ending with
  | some e => .ok (.done, [.terminate e])
  | none =>
    match state, input with
    | .needRouterInfo common obfuscation transcript, .routerInfo routerInfo => do
      let localStatic ← publicKeyOf c common.localStatic
      let _ ← validateRouterInfo decoder routerInfo maxRouterInfoPayload none localStatic
      .ok (.needRequestTimestamp common obfuscation transcript routerInfo, [.requestTimestamp .sessionRequest])
    | .needRequestTimestamp common obfuscation transcript routerInfo, .timestamp timestamp =>
      .ok (.needRequestPadding common obfuscation transcript routerInfo timestamp,
        [.requestPadding .sessionRequest maxSessionRequestPadding])
    | .needRequestPadding common obfuscation transcript routerInfo timestamp, .padding requestPadding =>
      if maxSessionRequestPadding < requestPadding.length then .error .excessivePadding
      else .ok (.needConfirmedPadding common obfuscation transcript routerInfo timestamp requestPadding,
        [.requestPadding .sessionConfirmed maxSessionConfirmedPart2Plaintext])
    | .needConfirmedPadding common obfuscation transcript routerInfo timestamp requestPadding,
        .padding confirmedPadding =>
      writeRequest c common obfuscation transcript routerInfo timestamp requestPadding confirmedPadding
    | .awaitCreated common obfuscation transcript confirmedPlaintext requestPaddingLength expectedPart2Length,
        .bytes bytes =>
      acceptCreated c common obfuscation transcript confirmedPlaintext requestPaddingLength expectedPart2Length bytes
    | .awaitCreatedPadding common transcript confirmedPlaintext requestPaddingLength expectedPart2Length
        responderEphemeral createdTimestamp token expectedPaddingLength, .bytes padding => do
      checkPadding padding.length expectedPaddingLength
      let transcript ← (transcript.mixPadding c padding).mapError mapCrypto
      .ok (.needPeerTimestamp common transcript confirmedPlaintext requestPaddingLength expectedPart2Length
        expectedPaddingLength createdTimestamp token responderEphemeral, [.requestTimestamp .peerValidation])
    | .needPeerTimestamp common transcript confirmedPlaintext requestPaddingLength expectedPart2Length
        createdPaddingLength createdTimestamp token responderEphemeral, .timestamp localTimestamp => do
      common.skew.classify localTimestamp createdTimestamp
      .ok (.needConfirmedReplay common transcript confirmedPlaintext requestPaddingLength expectedPart2Length
        createdPaddingLength responderEphemeral, [.requestReplay token common.skew.replayRetention])
    | .needConfirmedReplay common transcript confirmedPlaintext requestPaddingLength expectedPart2Length
        createdPaddingLength responderEphemeral, .replay decision => do
      replayResult decision
      writeConfirmed c common transcript confirmedPlaintext requestPaddingLength expectedPart2Length
        createdPaddingLength responderEphemeral
    | _, _ => .error .stateViolation

end InitiatorState

structure ResponderCommon where
  localStatic : Key
  ephemeral : Key
  localStaticPublic : Key
  expectedPeerHash : Option Key
  networkId : UInt8
  skew : ClockSkewPolicy

inductive ResponderState where
  | needRequest (common : ResponderCommon) (obfuscation : AesObfuscationState)
  | awaitReplay (common : ResponderCommon) (obfuscation : AesObfuscationState) (request : SessionRequest)
  | awaitRequestPadding (common : ResponderCommon) (obfuscation : AesObfuscationState)
      (requestOptions : SessionRequestOptions) (initiatorEphemeral : Key) (transcript : Transcript)
      (expectedPaddingLength : Nat)
  | needPeerTimestamp (common : ResponderCommon) (obfuscation : AesObfuscationState) (requestPadding : List UInt8)
      (requestOptions : SessionRequestOptions) (initiatorEphemeral : Key) (transcript : Transcript)
  | needCreatedPadding (common : ResponderCommon) (obfuscation : AesObfuscationState) (requestPadding : List UInt8)
      (requestOptions : SessionRequestOptions) (initiatorEphemeral : Key) (transcript : Transcript) (timestamp : Nat)
  | awaitConfirmed (common : ResponderCommon) (transcript : Transcript)
      (expectedPart2Length requestPaddingLength createdPaddingLength : Nat) (networkId : UInt8)
  | done

namespace ResponderState

def new (localStatic ephemeral : Key) (expectedPeerHash : Option Key) (localRouterHash : Key) (obfuscationIv : Block)
    (networkId : UInt8) (skew : ClockSkewPolicy) : Except HandshakeError ResponderState := do
  let localStaticPublic ← publicKeyOf c localStatic
  .ok (.needRequest ⟨localStatic, ephemeral, localStaticPublic, expectedPeerHash, networkId, skew⟩
    ⟨localRouterHash, obfuscationIv⟩)

def start : ResponderState → Except HandshakeError (ResponderState × List HandshakeAction)
  | .needRequest common obfuscation => .ok (.needRequest common obfuscation, [.readExact minHandshakeMessageLength])
  | _ => .error .stateViolation

variable (common : ResponderCommon)

def readRequest (obfuscation : AesObfuscationState) (bytes : List UInt8) :
    Except HandshakeError (ResponderState × List HandshakeAction) :=
  if bytes.length ≠ minHandshakeMessageLength then .error .invalidFixedLength
  else do
    let request ← SessionRequest.decode bytes maxHandshakeMessageLength
    .ok (.awaitReplay common obfuscation request,
      [.requestReplay (replayToken c request.encryptedEphemeral) common.skew.replayRetention])

def acceptRequest (obfuscation : AesObfuscationState) (request : SessionRequest) :
    Except HandshakeError (ResponderState × List HandshakeAction) := do
  let (obfuscation, initiatorEphemeral) ← (obfuscation.decrypt c request.encryptedEphemeral).mapError mapCrypto
  let shared ← diffieHellman c common.localStatic initiatorEphemeral
  let (transcript, plaintext) ← ((Transcript.new c .responder common.localStaticPublic).acceptSessionRequest c
    initiatorEphemeral shared request.encryptedOptions).mapError mapCrypto
  let options ← SessionRequestOptions.decode plaintext
  if options.networkId ≠ common.networkId then .error .wrongNetwork
  else if options.paddingLength = 0 then do
    let transcript ← (transcript.mixPadding c []).mapError mapCrypto
    .ok (.needPeerTimestamp common obfuscation [] options initiatorEphemeral transcript,
      [.requestTimestamp .peerValidation])
  else
    .ok (.awaitRequestPadding common obfuscation options initiatorEphemeral transcript options.paddingLength.toNat,
      [.readExact options.paddingLength.toNat])

def writeCreated (obfuscation : AesObfuscationState) (requestPadding : List UInt8)
    (requestOptions : SessionRequestOptions) (initiatorEphemeral : Key) (transcript : Transcript) (timestamp : Nat)
    (createdPadding : List UInt8) : Except HandshakeError (ResponderState × List HandshakeAction) :=
  if maxSessionCreatedPadding < createdPadding.length then .error .excessivePadding
  else do
    let responderEphemeral ← publicKeyOf c common.ephemeral
    let shared ← diffieHellman c common.ephemeral initiatorEphemeral
    let options ← SessionCreatedOptions.new createdPadding.length timestamp
    let (transcript, encryptedOptions) ←
      (transcript.sessionCreated c responderEphemeral shared options.encode).mapError mapCrypto
    let transcript ← (transcript.mixPadding c createdPadding).mapError mapCrypto
    let (_, encryptedEphemeral) := obfuscation.encrypt c responderEphemeral
    let created ← SessionCreated.new encryptedEphemeral encryptedOptions createdPadding
    let expectedPart2Length := requestOptions.sessionConfirmedPart2Length.toNat
    let createdBytes ← handshakeBytes created.encode
    .ok (.awaitConfirmed common transcript expectedPart2Length requestPadding.length created.padding.length
      requestOptions.networkId,
      [.write createdBytes, .readExact (sessionConfirmedPart1Length + expectedPart2Length)])

def acceptConfirmed (decoder : RouterInfoDecoder) (common : ResponderCommon) (transcript : Transcript)
    (expectedPart2Length requestPaddingLength createdPaddingLength : Nat) (networkId : UInt8) (bytes : List UInt8) :
    Except HandshakeError (ResponderState × List HandshakeAction) := do
  let confirmed ← SessionConfirmed.decode bytes expectedPart2Length maxSessionConfirmedLength
  let (transcript, initiatorStatic) ←
    (transcript.decryptStaticUnchecked c confirmed.staticFrame).mapError mapCrypto
  let se ← diffieHellman c common.ephemeral initiatorStatic
  let transcript ← (transcript.mixStaticSecret c se).mapError mapCrypto
  let (transcript, plaintext) ← (transcript.decryptConfirmedPayload c confirmed.payloadFrame).mapError mapCrypto
  let payload ← ConfirmedPayload.decode plaintext maxRouterInfoPayload
  let peer ← validateRouterInfo decoder payload.routerInfo maxRouterInfoPayload common.expectedPeerHash initiatorStatic
  let splitKeys ← (transcript.split c).mapError mapCrypto
  .ok (.done, [.authenticated ⟨.responder, peer,
    ⟨networkId, expectedPart2Length, requestPaddingLength, createdPaddingLength, plaintext.length⟩, splitKeys⟩])

def transition (decoder : RouterInfoDecoder) (state : ResponderState) (input : HandshakeInput) :
    Except HandshakeError (ResponderState × List HandshakeAction) :=
  match input.ending with
  | some e => .ok (.done, [.terminate e])
  | none =>
    match state, input with
    | .needRequest common obfuscation, .bytes bytes => readRequest c common obfuscation bytes
    | .awaitReplay common obfuscation request, .replay decision => do
      replayResult decision
      acceptRequest c common obfuscation request
    | .awaitRequestPadding common obfuscation requestOptions initiatorEphemeral transcript expectedPaddingLength,
        .bytes padding => do
      checkPadding padding.length expectedPaddingLength
      let transcript ← (transcript.mixPadding c padding).mapError mapCrypto
      .ok (.needPeerTimestamp common obfuscation padding requestOptions initiatorEphemeral transcript,
        [.requestTimestamp .peerValidation])
    | .needPeerTimestamp common obfuscation requestPadding requestOptions initiatorEphemeral transcript,
        .timestamp localTimestamp => do
      common.skew.classify localTimestamp requestOptions.timestamp
      .ok (.needCreatedPadding common obfuscation requestPadding requestOptions initiatorEphemeral transcript
        localTimestamp, [.requestPadding .sessionCreated maxSessionCreatedPadding])
    | .needCreatedPadding common obfuscation requestPadding requestOptions initiatorEphemeral transcript timestamp,
        .padding createdPadding =>
      writeCreated c common obfuscation requestPadding requestOptions initiatorEphemeral transcript timestamp
        createdPadding
    | .awaitConfirmed common transcript expectedPart2Length requestPaddingLength createdPaddingLength networkId,
        .bytes bytes =>
      acceptConfirmed c decoder common transcript expectedPart2Length requestPaddingLength createdPaddingLength
        networkId bytes
    | _, _ => .error .stateViolation

end ResponderState

end Machines

section Transitions

variable {c : Ntcp2Crypto} {decoder : RouterInfoDecoder}

inductive ResponderState.Stepped (c : Ntcp2Crypto) (decoder : RouterInfoDecoder) :
    ResponderState → HandshakeInput → ResponderState × List HandshakeAction → Prop
  | ending {state input e} (h : input.ending = some e) :
    Stepped c decoder state input (.done, [.terminate e])
  | request {common obfuscation bytes next} (h : readRequest c common obfuscation bytes = .ok next) :
    Stepped c decoder (.needRequest common obfuscation) (.bytes bytes) next
  | fresh {common obfuscation request next} (h : acceptRequest c common obfuscation request = .ok next) :
    Stepped c decoder (.awaitReplay common obfuscation request) (.replay .fresh) next
  | padding {common obfuscation options ephemeral transcript transcript' padding}
      (h : transcript.mixPadding c padding = .ok transcript') :
    Stepped c decoder (.awaitRequestPadding common obfuscation options ephemeral transcript padding.length)
      (.bytes padding)
      (.needPeerTimestamp common obfuscation padding options ephemeral transcript', [.requestTimestamp .peerValidation])
  | timestamp {common obfuscation padding options ephemeral transcript localTimestamp}
      (h : common.skew.classify localTimestamp options.timestamp = .ok ()) :
    Stepped c decoder (.needPeerTimestamp common obfuscation padding options ephemeral transcript)
      (.timestamp localTimestamp) (.needCreatedPadding common obfuscation padding options ephemeral transcript
        localTimestamp, [.requestPadding .sessionCreated maxSessionCreatedPadding])
  | created {common obfuscation padding created options ephemeral transcript timestamp next}
      (h : writeCreated c common obfuscation padding options ephemeral transcript timestamp created = .ok next) :
    Stepped c decoder (.needCreatedPadding common obfuscation padding options ephemeral transcript timestamp)
      (.padding created) next
  | confirmed {common transcript part2 request created networkId bytes next}
      (h : acceptConfirmed c decoder common transcript part2 request created networkId bytes = .ok next) :
    Stepped c decoder (.awaitConfirmed common transcript part2 request created networkId) (.bytes bytes) next

theorem checkPadding_eq_ok {actual expected : Nat} (h : checkPadding actual expected = .ok ()) : actual = expected := by
  unfold checkPadding at h
  split at h
  · cases h
  next heq => exact not_not.mp heq

theorem replayResult_eq_ok {decision : ReplayDecision} (h : replayResult decision = .ok ()) : decision = .fresh := by
  cases decision with
  | fresh => rfl
  | replayed | cacheFull | unavailable => cases h

open Fallible ResponderState in
theorem ResponderState.transition_eq_ok {state : ResponderState} {input : HandshakeInput}
    {next : ResponderState × List HandshakeAction} (h : transition c decoder state input = .ok next) :
    Stepped c decoder state input next := by
  unfold transition at h
  split at h
  next e hending =>
    cases h
    exact .ending hending
  · split at h
    · exact .request h
    · obtain ⟨⟨⟩, hfresh, h⟩ := bind_eq_ok.mp h
      cases replayResult_eq_ok hfresh
      exact .fresh h
    · obtain ⟨⟨⟩, hlength, h⟩ := bind_eq_ok.mp h
      obtain ⟨transcript, hmixed, h⟩ := bind_eq_ok.mp h
      cases h
      cases checkPadding_eq_ok hlength
      exact .padding (mapError_eq_ok.mp hmixed)
    · obtain ⟨⟨⟩, hclassified, h⟩ := bind_eq_ok.mp h
      cases h
      exact .timestamp hclassified
    · exact .created h
    · exact .confirmed h
    · cases h

inductive InitiatorState.Stepped (c : Ntcp2Crypto) (decoder : RouterInfoDecoder) :
    InitiatorState → HandshakeInput → InitiatorState × List HandshakeAction → Prop
  | ending {state input e} (h : input.ending = some e) :
    Stepped c decoder state input (.done, [.terminate e])
  | routerInfo {common obfuscation transcript routerInfo} :
    Stepped c decoder (.needRouterInfo common obfuscation transcript) (.routerInfo routerInfo)
      (.needRequestTimestamp common obfuscation transcript routerInfo, [.requestTimestamp .sessionRequest])
  | requestTimestamp {common obfuscation transcript routerInfo timestamp} :
    Stepped c decoder (.needRequestTimestamp common obfuscation transcript routerInfo) (.timestamp timestamp)
      (.needRequestPadding common obfuscation transcript routerInfo timestamp,
        [.requestPadding .sessionRequest maxSessionRequestPadding])
  | requestPadding {common obfuscation transcript routerInfo padding timestamp} :
    Stepped c decoder (.needRequestPadding common obfuscation transcript routerInfo timestamp) (.padding padding)
      (.needConfirmedPadding common obfuscation transcript routerInfo timestamp padding,
        [.requestPadding .sessionConfirmed maxSessionConfirmedPart2Plaintext])
  | request {common obfuscation transcript routerInfo requestPadding confirmedPadding timestamp next}
      (h : writeRequest c common obfuscation transcript routerInfo timestamp requestPadding confirmedPadding = .ok next) :
    Stepped c decoder (.needConfirmedPadding common obfuscation transcript routerInfo timestamp requestPadding)
      (.padding confirmedPadding) next
  | created {common obfuscation transcript plaintext bytes paddingLength part2 next}
      (h : acceptCreated c common obfuscation transcript plaintext paddingLength part2 bytes = .ok next) :
    Stepped c decoder (.awaitCreated common obfuscation transcript plaintext paddingLength part2) (.bytes bytes) next
  | padding {common transcript transcript' plaintext padding paddingLength part2 ephemeral token timestamp}
      (h : transcript.mixPadding c padding = .ok transcript') :
    Stepped c decoder (.awaitCreatedPadding common transcript plaintext paddingLength part2 ephemeral timestamp token
        padding.length) (.bytes padding)
      (.needPeerTimestamp common transcript' plaintext paddingLength part2 padding.length timestamp token ephemeral,
        [.requestTimestamp .peerValidation])
  | peerTimestamp {common transcript plaintext paddingLength part2 createdLength timestamp token ephemeral localTimestamp} :
    Stepped c decoder (.needPeerTimestamp common transcript plaintext paddingLength part2 createdLength timestamp token
        ephemeral) (.timestamp localTimestamp)
      (.needConfirmedReplay common transcript plaintext paddingLength part2 createdLength ephemeral,
        [.requestReplay token common.skew.replayRetention])
  | confirmed {common transcript plaintext paddingLength part2 createdLength ephemeral next}
      (h : writeConfirmed c common transcript plaintext paddingLength part2 createdLength ephemeral = .ok next) :
    Stepped c decoder (.needConfirmedReplay common transcript plaintext paddingLength part2 createdLength ephemeral)
      (.replay .fresh) next

open Fallible InitiatorState in
theorem InitiatorState.transition_eq_ok {state : InitiatorState} {input : HandshakeInput}
    {next : InitiatorState × List HandshakeAction} (h : transition c decoder state input = .ok next) :
    Stepped c decoder state input next := by
  unfold transition at h
  split at h
  next e hending =>
    cases h
    exact .ending hending
  · split at h
    · obtain ⟨_, -, h⟩ := bind_eq_ok.mp h
      obtain ⟨_, -, h⟩ := bind_eq_ok.mp h
      cases h
      exact .routerInfo
    · cases h
      exact .requestTimestamp
    · split at h
      · cases h
      cases h
      exact .requestPadding
    · exact .request h
    · exact .created h
    · obtain ⟨⟨⟩, hlength, h⟩ := bind_eq_ok.mp h
      obtain ⟨transcript, hmixed, h⟩ := bind_eq_ok.mp h
      cases h
      cases checkPadding_eq_ok hlength
      exact .padding (mapError_eq_ok.mp hmixed)
    · obtain ⟨_, -, h⟩ := bind_eq_ok.mp h
      cases h
      exact .peerTimestamp
    · obtain ⟨⟨⟩, hfresh, h⟩ := bind_eq_ok.mp h
      cases replayResult_eq_ok hfresh
      exact .confirmed h
    · cases h

end Transitions

/-- What the driver's loop answers to the actions of a transition: the first one that is not a write. `data` is what
it reads, or the padding or RouterInfo it was configured with; at `none` the loop ends. -/
def answer {ρ : Type} (replay : ρ → Key → Nat → ρ × ReplayDecision) (store : ρ) (now : Nat) (data : List UInt8) :
    List HandshakeAction → Option (ρ × HandshakeInput)
  | [] => none
  | .write _ :: rest => answer replay store now data rest
  | .readExact length :: _ => if data.length = length then some (store, .bytes data) else none
  | .requestTimestamp _ :: _ => some (store, .timestamp now)
  | .requestReplay token retention :: _ =>
    let (store, decision) := replay store token retention
    some (store, .replay decision)
  | .requestPadding _ maximum :: _ => if data.length ≤ maximum then some (store, .padding data) else none
  | .requestRouterInfo maximum :: _ =>
    if data.isEmpty ∨ maximum < data.length then none else some (store, .routerInfo data)
  | .authenticated _ :: _ | .terminate _ :: _ => none

end I2pr.Ntcp2
