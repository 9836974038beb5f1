import I2pr.Ntcp2History

namespace I2pr.Ntcp2

open Noise (Key Sealed Use SymmetricState CipherState absorbAll queries)
open Fallible Machine ResponderState List
open Told (log_sealed log_opened)

structure View where
  encrypted : Key
  frame : List UInt8
  padding : List UInt8
  opening : Sealed

section Views

variable (c : Ntcp2Crypto) (m : Meeting)

def Meeting.requestInputs : List (List UInt8) :=
  [(m.initiatorPublic c).toList, m.requestFrame c] ++ paddingInputs m.requestPadding

namespace View

variable (v : View)

def createdKey : Key := ((m.obfuscation1 c).decryptBlocks c v.encrypted).2

def createdInputs : List (List UInt8) :=
  m.requestInputs c ++ ([(v.createdKey c m).toList, v.frame] ++ paddingInputs v.padding)

structure CreatedOpened : Prop where
  frame : v.frame ≠ []
  opened : FrameAt c (m.responderPublic c) v.opening 0 (m.requestInputs c ++ [(v.createdKey c m).toList]) v.frame

def requestKey : Key := (m.obfuscation0.decryptBlocks c v.encrypted).2

def obfuscation : AesObfuscationState := (m.obfuscation0.decryptBlocks c v.encrypted).1

def requestInputs : List (List UInt8) :=
  [(v.requestKey c m).toList, v.frame] ++ paddingInputs v.padding

structure RequestOpened : Prop where
  frame : v.frame ≠ []
  opened : FrameAt c (m.responderPublic c) v.opening 0 [(v.requestKey c m).toList] v.frame

/-- The inputs of the responder's transcript once it answered with a frame. -/
def answeredInputs (frame : List UInt8) : List (List UInt8) :=
  v.requestInputs c m ++ ([(m.respondingPublic c).toList, frame] ++ paddingInputs m.createdPadding)

end View

inductive Early : InitiatorState → List HandshakeAction → Prop
  | routerInfo : Early (.needRouterInfo (m.initiatorCommon c) m.obfuscation0
      (m.symmetric c (m.initial c) .initiator .initial)) [.requestRouterInfo maxRouterInfoPayload]
  | timestamp : Early (.needRequestTimestamp (m.initiatorCommon c) m.obfuscation0
      (m.symmetric c (m.initial c) .initiator .initial) m.routerInfo) [.requestTimestamp .sessionRequest]
  | padding : Early (.needRequestPadding (m.initiatorCommon c) m.obfuscation0
      (m.symmetric c (m.initial c) .initiator .initial) m.routerInfo m.requestTimestamp)
      [.requestPadding .sessionRequest maxSessionRequestPadding]
  | confirmed : Early (.needConfirmedPadding (m.initiatorCommon c) m.obfuscation0
      (m.symmetric c (m.initial c) .initiator .initial) m.routerInfo m.requestTimestamp m.requestPadding)
      [.requestPadding .sessionConfirmed maxSessionConfirmedPart2Plaintext]

inductive Answered (t : Transcript) (ephemeral : Key) : InitiatorState → List HandshakeAction → Prop
  | timestamp {plaintext paddingLength part2 createdLength timestamp token} :
    Answered t ephemeral (.needPeerTimestamp (m.initiatorCommon c) t plaintext paddingLength part2 createdLength
      timestamp token ephemeral) [.requestTimestamp .peerValidation]
  | replay {plaintext paddingLength part2 createdLength token retention} :
    Answered t ephemeral (.needConfirmedReplay (m.initiatorCommon c) t plaintext paddingLength part2 createdLength
      ephemeral) [.requestReplay token retention]

structure Requested (request : Sealed) : Prop where
  fits : m.RequestFits
  sealed : FrameAt c (m.responderPublic c) request 0 [(m.initiatorPublic c).toList] (m.requestFrame c)

structure Confirmed (request static payload : Sealed) (v : View) (staticFrame payloadFrame : List UInt8)
    (p : Party InitiatorState) : Prop where
  requested : Requested c m request
  opened : v.CreatedOpened c m
  sent : p.sent = m.requestMessage c ++ (staticFrame ++ payloadFrame)
  received : p.received = v.encrypted.toList ++ (v.frame ++ v.padding)
  staticAt : FrameAt c (m.responderPublic c) static 1 (v.createdInputs c m) staticFrame
  payloadAt : FrameAt c (m.responderPublic c) payload 0 (v.createdInputs c m ++ [staticFrame]) payloadFrame
  nonempty : staticFrame ≠ []
  told : ∃ t, Told c (m.responderPublic c) t p.log (v.createdInputs c m ++ [staticFrame, payloadFrame])
    [request, static, payload] [v.opening]

/-- What an initiator went through, whatever it was sent. -/
inductive InitiatorPast (p : Party InitiatorState) : Prop
  | failed (h : p.current = none)
  | early {state actions} (hstate : Early c m state actions)
      (h : p.current = some (state, actions)) (hsent : p.sent = []) (hreceived : p.received = [])
      (hlog : p.log = initialUses c (m.responderPublic c))
  | requested {request} (hrequested : Requested c m request) (h : p.current = some (m.awaitingCreated c))
      (hsent : p.sent = m.requestMessage c) (hreceived : p.received = [])
      (htold : Told c (m.responderPublic c) (m.symmetric c (m.requestedPadded c) .initiator .message1Padded) p.log
        (m.requestInputs c) [request] [])
  | awaitingPadding {request} {v : View} (hrequested : Requested c m request) (hv : v.CreatedOpened c m)
      (hpadding : v.padding = []) {t plaintext paddingLength part2 length timestamp token}
      (h : p.current = some (.awaitCreatedPadding (m.initiatorCommon c) t plaintext paddingLength part2
        (v.createdKey c m) timestamp token length, [.readExact length]))
      (hsent : p.sent = m.requestMessage c) (hreceived : p.received = v.encrypted.toList ++ v.frame)
      (hcipher : ∃ key, t.cipher = some ⟨key, 1⟩)
      (htold : Told c (m.responderPublic c) t p.log (v.createdInputs c m) [request] [v.opening])
  | answered {request} {v : View} (hrequested : Requested c m request) (hv : v.CreatedOpened c m)
      {t state actions} (hstate : Answered c m t (v.createdKey c m) state actions)
      (h : p.current = some (state, actions)) (hsent : p.sent = m.requestMessage c)
      (hreceived : p.received = v.encrypted.toList ++ (v.frame ++ v.padding))
      (hcipher : ∃ key, t.cipher = some ⟨key, 1⟩)
      (htold : Told c (m.responderPublic c) t p.log (v.createdInputs c m) [request] [v.opening])
  | done {request static payload} {v : View} {bytes staticFrame payloadFrame result}
      (h : p.current = some (.done, [.write bytes, .authenticated result]))
      (hconfirmed : Confirmed c m request static payload v staticFrame payloadFrame p)

inductive Taken (v : View) (t : Transcript) : ResponderState → List HandshakeAction → Prop
  | timestamp (options : SessionRequestOptions) : Taken v t (.needPeerTimestamp (m.responderCommon c)
      (v.obfuscation c m) v.padding options (v.requestKey c m) t) [.requestTimestamp .peerValidation]
  | padding (options : SessionRequestOptions) : Taken v t (.needCreatedPadding (m.responderCommon c)
      (v.obfuscation c m) v.padding options (v.requestKey c m) t m.createdTimestamp) [.requestPadding .sessionCreated maxSessionCreatedPadding]

structure Created (v : View) (created : Sealed) (frame : List UInt8) (sent : List UInt8) : Prop where
  fits : m.createdTimestamp < 2 ^ 32
  nonempty : frame ≠ []
  sealed : FrameAt c (m.responderPublic c) created 0 (v.requestInputs c m ++ [(m.respondingPublic c).toList]) frame
  sent : sent = ((v.obfuscation c m).encrypt c (m.respondingPublic c)).2.toList ++ (frame ++ m.createdPadding)

structure Accepted (created static payload : Sealed) (v : View) (frame staticFrame payloadFrame : List UInt8)
    (p : Party ResponderState) : Prop where
  opened : v.RequestOpened c m
  answer : Created c m v created frame p.sent
  received : p.received = v.encrypted.toList ++ (v.frame ++ v.padding) ++ (staticFrame ++ payloadFrame)
  staticAt : FrameAt c (m.responderPublic c) static 1 (v.answeredInputs c m frame) staticFrame
  payloadAt : FrameAt c (m.responderPublic c) payload 0 (v.answeredInputs c m frame ++ [staticFrame]) payloadFrame
  nonempty : staticFrame ≠ []
  told : ∃ t, Told c (m.responderPublic c) t p.log (v.answeredInputs c m frame ++ [staticFrame, payloadFrame])
    [created] [v.opening, static, payload]

/-- What a responder went through, whatever it was sent. -/
inductive ResponderPast (p : Party ResponderState) : Prop
  | failed (h : p.current = none)
  | waiting (h : p.current = some (m.awaitingRequest c)) (hsent : p.sent = []) (hreceived : p.received = [])
      (hlog : p.log = initialUses c (m.responderPublic c))
  | offered {encrypted frame token retention} (hframe : frame ≠ [])
      (h : p.current = some (.awaitReplay (m.responderCommon c) m.obfuscation0 ⟨encrypted, frame, []⟩,
        [.requestReplay token retention])) (hsent : p.sent = []) (hreceived : p.received = encrypted.toList ++ frame)
      (hlog : p.log = initialUses c (m.responderPublic c))
  | awaitingPadding {v : View} (hv : v.RequestOpened c m) (hpadding : v.padding = []) {t length options}
      (h : p.current = some (.awaitRequestPadding (m.responderCommon c) (v.obfuscation c m) options (v.requestKey c m)
        t length, [.readExact length])) (hsent : p.sent = [])
      (hreceived : p.received = v.encrypted.toList ++ v.frame)
      (htold : Told c (m.responderPublic c) t p.log (v.requestInputs c m) [] [v.opening])
  | taken {v : View} (hv : v.RequestOpened c m) {t state actions} (hstate : Taken c m v t state actions)
      (h : p.current = some (state, actions)) (hsent : p.sent = [])
      (hreceived : p.received = v.encrypted.toList ++ (v.frame ++ v.padding))
      (htold : Told c (m.responderPublic c) t p.log (v.requestInputs c m) [] [v.opening])
  | awaitingConfirmed {v : View} (hv : v.RequestOpened c m)
      {created frame bytes t part2 requestLength createdLength length networkId} (hcreated : Created c m v created frame p.sent)
      (h : p.current = some (.awaitConfirmed (m.responderCommon c) t part2 requestLength createdLength networkId,
        [.write bytes, .readExact length]))
      (hreceived : p.received = v.encrypted.toList ++ (v.frame ++ v.padding))
      (hcipher : ∃ key, t.cipher = some ⟨key, 1⟩)
      (htold : Told c (m.responderPublic c) t p.log (v.answeredInputs c m frame) [created] [v.opening])
  | done {v : View} {created static payload frame staticFrame payloadFrame result}
      (h : p.current = some (.done, [.authenticated result]))
      (haccepted : Accepted c m created static payload v frame staticFrame payloadFrame p)

end Views

variable {c : Ntcp2Crypto} {m : Meeting} {decoder : RouterInfoDecoder} {v : View} {t : Transcript}
  {actions : List HandshakeAction}

section Initiator

variable {p : Party InitiatorState}

theorem writeRequest_fits (hvalid : m.Valid c decoder) {next : InitiatorState × List HandshakeAction}
    (h : InitiatorState.writeRequest c (m.initiatorCommon c) m.obfuscation0
      (m.symmetric c (m.initial c) .initiator .initial) m.routerInfo m.requestTimestamp m.requestPadding
      m.confirmedPadding = .ok next) : m.RequestFits ∧ next = m.awaitingCreated c := by
  have hfits : m.RequestFits := by
    unfold InitiatorState.writeRequest at h
    obtain ⟨payload, hpayload, h⟩ := bind_eq_ok.mp h
    obtain ⟨hlength, -⟩ := (ConfirmedPayload.new_padded_eq_ok hvalid.routerInfo_ne_nil).mp hpayload
    dsimp only at h
    split at h
    · cases h
    obtain ⟨options, hoptions, -⟩ := bind_eq_ok.mp h
    obtain ⟨⟨htimestamp, -⟩, -⟩ := SessionRequestOptions.new_eq_ok.mp hoptions
    exact ⟨hlength, htimestamp⟩
  rw [m.writeRequest_eq hvalid hfits] at h
  exact ⟨hfits, (Except.ok.inj h).symm⟩

theorem slice_frame (encrypted : Key) {frame : List UInt8} (hlength : frame.length = handshakeOptionsFrameLength)
    (padding : List UInt8) :
    BigEndian.slice (encrypted.toList ++ (frame ++ padding)) 32 32 = frame :=
  BigEndian.slice_append (List.Vector.toList_length _) hlength

namespace InitiatorPast

theorem start : InitiatorPast c m (Link.start c m).initiator :=
  .early .routerInfo rfl rfl rfl rfl

variable {request : Sealed} {next : InitiatorState}

theorem early_turn (hvalid : m.Valid c decoder) {state : InitiatorState} {actions' : List HandshakeAction}
    {inbox bytes rest : List UInt8} {input : HandshakeInput} (hstate : Early c m state actions) (hsent : p.sent = [])
    (hreceived : p.received = []) (hlog : p.log = initialUses c (m.responderPublic c))
    (hoffer : (m.initiatorMachine c decoder).offer actions inbox = .input input bytes rest)
    (hstep : InitiatorState.Stepped c decoder state input (next, actions')) :
    InitiatorPast c m ⟨some (next, actions'), p.sent ++ written actions', p.received ++ bytes,
      p.log ++ InitiatorState.uses c state input next actions'⟩ := by
  rw [hsent, hreceived, hlog]
  cases hstate with
  | routerInfo =>
    obtain ⟨rfl, rfl⟩ := offer_requestRouterInfo hoffer
    cases hstep with
    | ending h => cases h
    | routerInfo => exact .early .timestamp rfl rfl rfl (append_nil _)
  | timestamp =>
    obtain ⟨rfl, rfl⟩ := offer_requestTimestamp hoffer
    cases hstep with
    | ending h => cases h
    | requestTimestamp => exact .early .padding rfl rfl rfl (append_nil _)
  | padding =>
    obtain ⟨rfl, rfl⟩ := offer_requestPadding hoffer
    cases hstep with
    | ending h => cases h
    | requestPadding => exact .early .confirmed rfl rfl rfl (append_nil _)
  | confirmed =>
    obtain ⟨rfl, rfl⟩ := offer_requestPadding hoffer
    cases hstep with
    | ending h => cases h
    | request h =>
      obtain ⟨hfits, hnext⟩ := writeRequest_fits hvalid h
      cases hnext
      have hinitial : Told c (m.responderPublic c) (m.symmetric c (m.initial c) .initiator .initial) _ [] [] [] :=
        Told.start .initiator
      obtain ⟨request, hsealed, htold⟩ := hinitial.options log_sealed (m.initiatorPublic c) (m.es c) (m.requestFrame c)
      refine .requested ⟨hfits, hsealed⟩ rfl ?_ rfl ?_
      · simp [written]
      · have hframe : BigEndian.slice (m.requestMessage c) 32 32 = m.requestFrame c := slice_frame _ m.length_requestFrame _
        simp only [InitiatorState.uses, hframe]
        rw [← append_assoc]
        refine (htold.padding m.requestPadding).of_hash ?_
        unfold Meeting.requestedPadded Transcript.padded paddedState
        split <;> rfl

theorem created_turn {bytes : List UInt8}
    (hrequested : Requested c m request) (hsent : p.sent = m.requestMessage c) (hreceived : p.received = [])
    (htold : Told c (m.responderPublic c) (m.symmetric c (m.requestedPadded c) .initiator .message1Padded) p.log
      (m.requestInputs c) [request] [])
    (haccept : InitiatorState.acceptCreated c (m.initiatorCommon c) (m.obfuscation1 c)
      (m.symmetric c (m.requestedPadded c) .initiator .message1Padded) m.plaintext m.requestPadding.length m.part2Length
      bytes = .ok (next, actions)) :
    InitiatorPast c m ⟨some (next, actions), p.sent ++ written actions, p.received ++ bytes,
      p.log ++ InitiatorState.uses c (m.awaitingCreated c).1 (.bytes bytes) next actions⟩ := by
  obtain ⟨encrypted, frame, options, token, t, rfl, hlength, hhash, hcipher, hnext⟩ :=
    InitiatorState.acceptCreated_eq_ok haccept
  have hframe : BigEndian.slice (encrypted.toList ++ frame) 32 32 = frame := by
    simpa using slice_frame encrypted hlength []
  let ephemeral := ((m.obfuscation1 c).decryptBlocks c encrypted).2
  obtain ⟨opening, hopened, htold'⟩ := htold.options log_opened ephemeral (c.agree m.initiatorEphemeral ephemeral) frame
  let v : View := ⟨encrypted, frame, [], opening⟩
  have hv : v.CreatedOpened c m := ⟨ne_nil_of_length_pos (by rw [hlength]; decide), hopened⟩
  rw [hsent, hreceived]
  rcases hnext with hnext | hnext
  · cases hnext
    refine .answered hrequested hv .timestamp rfl (append_nil _) ?_ ⟨_, hcipher⟩ ?_
    · simp [v]
    · simp only [InitiatorState.uses, Meeting.awaitingCreated, hframe]
      exact htold'.of_hash hhash
  · cases hnext
    refine .awaitingPadding hrequested hv rfl rfl (append_nil _) rfl ⟨_, hcipher⟩ ?_
    simp only [InitiatorState.uses, Meeting.awaitingCreated, hframe]
    exact htold'.of_hash hhash

section Opened

variable {plaintext : List UInt8} {paddingLength part2 : Nat}
  (hrequested : Requested c m request) (hv : v.CreatedOpened c m) (hsent : p.sent = m.requestMessage c)
  (hcipher : ∃ key, t.cipher = some ⟨key, 1⟩)
  (htold : Told c (m.responderPublic c) t p.log (v.createdInputs c m) [request] [v.opening])
include hrequested hv hsent hcipher htold

theorem padding_turn (hpadding : v.padding = []) {t' : Transcript} {padding : List UInt8} {timestamp : UInt32}
    {token : Key} (hreceived : p.received = v.encrypted.toList ++ v.frame) (hmixed : t.mixPadding c padding = .ok t') :
    InitiatorPast c m ⟨some (.needPeerTimestamp (m.initiatorCommon c) t' plaintext paddingLength part2 padding.length
      timestamp token (v.createdKey c m), [.requestTimestamp .peerValidation]), p.sent, p.received ++ padding,
      p.log ++ paddingUses t padding⟩ := by
  obtain ⟨-, stage, -, rfl⟩ := Transcript.mixPadding_eq_ok.mp hmixed
  let v' : View := { v with padding }
  have hv' : v'.CreatedOpened c m := ⟨hv.frame, hv.opened⟩
  have hinputs : v'.createdInputs c m = v.createdInputs c m ++ paddingInputs padding := by
    simp [View.createdInputs, v', hpadding, paddingInputs, View.createdKey]
  refine .answered hrequested hv' .timestamp rfl hsent ?_ (hcipher.imp fun key hkey => ?_) ?_
  · simp [hreceived, v']
  · rw [← hkey]
    unfold Transcript.padded
    split <;> rfl
  · rw [hinputs]
    exact (htold.padding padding).of_hash rfl

theorem confirmed_turn {createdLength : Nat} (hreceived : p.received = v.encrypted.toList ++ (v.frame ++ v.padding))
    (hconfirmed : InitiatorState.writeConfirmed c (m.initiatorCommon c) t plaintext paddingLength part2 createdLength
      (v.createdKey c m) = .ok (next, actions)) :
    InitiatorPast c m ⟨some (next, actions), p.sent ++ written actions, p.received,
      p.log ++ InitiatorState.uses c (.needConfirmedReplay (m.initiatorCommon c) t plaintext paddingLength part2
        createdLength (v.createdKey c m)) (.replay .fresh) next actions⟩ := by
  obtain ⟨staticFrame, payloadFrame, result, hlength, hnext⟩ := InitiatorState.writeConfirmed_eq_ok hconfirmed
  cases hnext
  have htake : (staticFrame ++ payloadFrame).take 48 = staticFrame := take_left' hlength
  have hdrop : (staticFrame ++ payloadFrame).drop 48 = payloadFrame := drop_left' hlength
  obtain ⟨static, hstatic, htold'⟩ := htold.frame log_sealed hcipher staticFrame
  obtain ⟨payload, hpayload, htold''⟩ :=
    (htold'.mixKey (c.agree m.initiatorStatic (v.createdKey c m))).frame log_sealed ⟨_, rfl⟩ payloadFrame
  simp only [InitiatorState.uses, htake, hdrop]
  rw [append_assoc, append_assoc (v.createdInputs c m)] at htold''
  refine .done rfl ⟨hrequested, hv, ?_, hreceived, hstatic, hpayload,
    ne_nil_of_length_pos (by rw [hlength]; decide), _, htold''⟩
  simp [hsent, written]

end Opened

theorem turn (hvalid : m.Valid c decoder) (h : InitiatorPast c m p) (inbox : List UInt8) :
    InitiatorPast c m ((m.initiatorMachine c decoder).turn p inbox).1 := by
  rcases turn_cases (m := m.initiatorMachine c decoder) p inbox with hsame | hfailed |
    ⟨state, actions, input, bytes, rest, next, actions', hcurrent, hoffer, htransition, hturn⟩
  · rwa [hsame]
  · exact .failed hfailed
  rw [hturn]
  have hstep := InitiatorState.transition_eq_ok htransition
  cases h with
  | failed h => cases hcurrent.symm.trans h
  | early hstate h hsent hreceived hlog =>
    cases hcurrent.symm.trans h
    exact early_turn hvalid hstate hsent hreceived hlog hoffer hstep
  | requested hrequested h hsent hreceived htold =>
    cases hcurrent.symm.trans h
    rw [offer_write] at hoffer
    obtain ⟨rfl, -⟩ := offer_readExact hoffer
    cases hstep with
    | ending h => cases h
    | created h => exact created_turn hrequested hsent hreceived htold h
  | awaitingPadding hrequested hv hpadding h hsent hreceived hcipher htold =>
    cases hcurrent.symm.trans h
    obtain ⟨rfl, -⟩ := offer_readExact hoffer
    cases hstep with
    | ending h => cases h
    | padding hmixed =>
      rw [show written [.requestTimestamp .peerValidation] = [] from rfl, append_nil]
      exact padding_turn hrequested hv hsent hcipher htold hpadding hreceived hmixed
  | answered hrequested hv hstate h hsent hreceived hcipher htold =>
    cases hcurrent.symm.trans h
    cases hstate with
    | timestamp =>
      obtain ⟨rfl, rfl⟩ := offer_requestTimestamp hoffer
      cases hstep with
      | ending h => cases h
      | peerTimestamp =>
        refine .answered hrequested hv .replay rfl ?_ ?_ hcipher ?_
        · simpa [written] using hsent
        · simpa using hreceived
        · change Told c _ _ (p.log ++ []) _ _ _
          rwa [append_nil]
    | replay =>
      obtain ⟨rfl, rfl⟩ := offer_requestReplay hoffer
      cases hstep with
      | ending h => cases h
      | confirmed h =>
        rw [append_nil]
        exact confirmed_turn hrequested hv hsent hcipher htold hreceived h
  | done h =>
    cases hcurrent.symm.trans h
    cases hoffer

theorem confirmed_of_outcome (h : InitiatorPast c m p) {a : AuthenticatedHandshake} (ha : outcome p = some a) :
    ∃ request static payload v staticFrame payloadFrame,
      Confirmed c m request static payload v staticFrame payloadFrame p := by
  unfold outcome at ha
  cases h with
  | failed h => simp [h] at ha
  | early hstate h | answered hrequested hv hstate h =>
    rw [h] at ha
    cases hstate <;> cases ha
  | requested hrequested h | awaitingPadding hrequested hv hpadding h =>
    rw [h] at ha
    cases ha
  | done h hconfirmed => exact ⟨_, _, _, _, _, _, hconfirmed⟩

end InitiatorPast

end Initiator

section Responder

variable {p : Party ResponderState}

namespace ResponderPast

theorem start : ResponderPast c m (Link.start c m).responder :=
  .waiting stands_start.responder rfl rfl rfl

variable {next : ResponderState}

theorem request_turn {bytes : List UInt8}
    (hsent : p.sent = []) (hreceived : p.received = []) (hlog : p.log = initialUses c (m.responderPublic c))
    (hread : readRequest c (m.responderCommon c) m.obfuscation0 bytes = .ok (next, actions)) :
    ResponderPast c m ⟨some (next, actions), p.sent ++ written actions, p.received ++ bytes,
      p.log ++ uses c (m.awaitingRequest c).1 (.bytes bytes) next actions⟩ := by
  obtain ⟨hlength, ⟨encrypted, frame, padding⟩, hdecoded, hnext⟩ := readRequest_eq_ok hread
  obtain ⟨hbytes, hpadding⟩ := (EphemeralMessage.decode_eq_ok le_rfl hlength).mp hdecoded
  cases hnext
  dsimp only at hbytes hpadding
  subst hbytes hpadding
  rw [hsent, hreceived, hlog]
  refine .offered ?_ rfl rfl rfl (append_nil _)
  rintro rfl
  rw [append_nil, List.Vector.toList_length] at hlength
  exact absurd hlength (by decide)

theorem accept_turn {encrypted : Key} {frame : List UInt8}
    (hframe : frame ≠ []) (hsent : p.sent = []) (hreceived : p.received = encrypted.toList ++ frame)
    (hlog : p.log = initialUses c (m.responderPublic c))
    (haccept : acceptRequest c (m.responderCommon c) m.obfuscation0 ⟨encrypted, frame, []⟩ =
      .ok (next, actions)) :
    ResponderPast c m ⟨some (next, actions), p.sent ++ written actions, p.received, p.log ++ uses c
      (.awaitReplay (m.responderCommon c) m.obfuscation0 ⟨encrypted, frame, []⟩) (.replay .fresh) next actions⟩ := by
  obtain ⟨options, t, hhash, hnext⟩ := acceptRequest_opened haccept
  have hinitial : Told c (m.responderPublic c) (.new c .responder (m.responderPublic c)) _ [] [] [] := Told.start .responder
  let ephemeral := (m.obfuscation0.decryptBlocks c encrypted).2
  obtain ⟨opening, hopened, htold⟩ := hinitial.options log_opened ephemeral (c.agree m.responderStatic ephemeral) frame
  let v : View := ⟨encrypted, frame, [], opening⟩
  have hv : v.RequestOpened c m := ⟨hframe, hopened⟩
  rw [hsent, hlog]
  rcases hnext with hnext | hnext
  · cases hnext
    have hstate : Taken c m v t _ _ := .timestamp options
    refine .taken hv hstate rfl rfl ?_ (htold.of_hash hhash)
    simp [v, hreceived]
  · cases hnext
    exact .awaitingPadding hv rfl rfl rfl hreceived (htold.of_hash hhash)

section RequestOpened

variable (hv : v.RequestOpened c m)
include hv

section Unanswered

variable {options : SessionRequestOptions} (hsent : p.sent = [])
  (htold : Told c (m.responderPublic c) t p.log (v.requestInputs c m) [] [v.opening])
include hsent htold

theorem padding_turn (hpadding : v.padding = []) {t' : Transcript} {padding : List UInt8}
    (hreceived : p.received = v.encrypted.toList ++ v.frame) (hmixed : t.mixPadding c padding = .ok t') :
    ResponderPast c m ⟨some (.needPeerTimestamp (m.responderCommon c) (v.obfuscation c m) padding options
      (v.requestKey c m) t', [.requestTimestamp .peerValidation]), p.sent, p.received ++ padding,
      p.log ++ paddingUses t padding⟩ := by
  obtain ⟨-, stage, -, ht'⟩ := Transcript.mixPadding_eq_ok.mp hmixed
  let v' : View := { v with padding }
  have hv' : v'.RequestOpened c m := ⟨hv.frame, hv.opened⟩
  have hinputs : v'.requestInputs c m = v.requestInputs c m ++ paddingInputs padding := by
    simp [View.requestInputs, v', hpadding, paddingInputs, View.requestKey]
  have hstate : Taken c m v' t' _ _ := .timestamp options
  refine .taken hv' hstate rfl hsent ?_ ?_
  · simp [hreceived, v']
  · rw [hinputs, ht']
    exact (htold.padding padding).of_hash rfl

theorem created_turn (hreceived : p.received = v.encrypted.toList ++ (v.frame ++ v.padding))
    (hcreated : ResponderState.writeCreated c (m.responderCommon c) (v.obfuscation c m) v.padding options
      (v.requestKey c m) t m.createdTimestamp m.createdPadding = .ok (next, actions)) :
    ResponderPast c m ⟨some (next, actions), p.sent ++ written actions, p.received, p.log ++ ResponderState.uses c
      (.needCreatedPadding (m.responderCommon c) (v.obfuscation c m) v.padding options (v.requestKey c m) t
        m.createdTimestamp) (.padding m.createdPadding) next actions⟩ := by
  obtain ⟨hfits, frame, part2, requestLength, createdLength, networkId, t', hlength, hhash, hcipher, hnext⟩ :=
    ResponderState.writeCreated_eq_ok hcreated
  cases hnext
  obtain ⟨created, hsealed, htold'⟩ := htold.options log_sealed (m.respondingPublic c)
    (c.agree m.responderEphemeral (v.requestKey c m)) frame
  have hsent' : Created c m v created frame (p.sent ++ written [.write
      (((v.obfuscation c m).encrypt c (m.respondingPublic c)).2.toList ++ (frame ++ m.createdPadding)),
      .readExact (sessionConfirmedPart1Length + part2)]) := by
    refine ⟨hfits, ne_nil_of_length_pos (by rw [hlength]; decide), hsealed, ?_⟩
    simp [hsent, written]
  have hpadded := (htold'.padding m.createdPadding).of_hash hhash
  rw [append_assoc, append_assoc] at hpadded
  refine .awaitingConfirmed hv hsent' rfl hreceived ?_ ?_
  · rw [hcipher]
    unfold Transcript.padded
    split <;> exact ⟨_, rfl⟩
  · simp only [ResponderState.uses, slice_frame _ hlength]
    exact hpadded

end Unanswered

theorem confirmed_turn {created : Sealed} {frame bytes : List UInt8} {part2 requestLength createdLength : Nat}
    {networkId : UInt8} (hcreated : Created c m v created frame p.sent)
    (hreceived : p.received = v.encrypted.toList ++ (v.frame ++ v.padding)) (hcipher : ∃ key, t.cipher = some ⟨key, 1⟩)
    (htold : Told c (m.responderPublic c) t p.log (v.answeredInputs c m frame) [created] [v.opening])
    (hconfirmed : ResponderState.acceptConfirmed c decoder (m.responderCommon c) t part2 requestLength createdLength
      networkId bytes = .ok (next, actions)) :
    ResponderPast c m ⟨some (next, actions), p.sent ++ written actions, p.received ++ bytes,
      p.log ++ ResponderState.uses c (.awaitConfirmed (m.responderCommon c) t part2 requestLength createdLength
        networkId) (.bytes bytes) next actions⟩ := by
  obtain ⟨staticFrame, payloadFrame, result, rfl, hlength, hnext⟩ := ResponderState.acceptConfirmed_eq_ok hconfirmed
  cases hnext
  have htake : (staticFrame ++ payloadFrame).take 48 = staticFrame := take_left' hlength
  have hdrop : (staticFrame ++ payloadFrame).drop 48 = payloadFrame := drop_left' hlength
  obtain ⟨static, hstatic, htold'⟩ := htold.frame log_opened hcipher staticFrame
  obtain ⟨payload, hpayload, htold''⟩ :=
    (htold'.mixKey (c.agree m.responderEphemeral result.peer.transportStaticKey)).frame log_opened ⟨_, rfl⟩ payloadFrame
  simp only [ResponderState.uses, htake, hdrop]
  rw [append_assoc, append_assoc (v.answeredInputs c m frame)] at htold''
  refine .done rfl ⟨hv, ?_, by rw [hreceived], hstatic, hpayload,
    ne_nil_of_length_pos (by rw [hlength]; decide), _, htold''⟩
  rw [show written [.authenticated result] = [] from rfl, append_nil]
  exact hcreated

end RequestOpened

theorem turn (h : ResponderPast c m p) (inbox : List UInt8) :
    ResponderPast c m ((m.responderMachine c decoder).turn p inbox).1 := by
  rcases turn_cases (m := m.responderMachine c decoder) p inbox with hsame | hfailed |
    ⟨state, actions, input, bytes, rest, next, actions', hcurrent, hoffer, htransition, hturn⟩
  · rwa [hsame]
  · exact .failed hfailed
  rw [hturn]
  have hstep := transition_eq_ok htransition
  cases h with
  | failed h => cases hcurrent.symm.trans h
  | waiting h hsent hreceived hlog =>
    cases hcurrent.symm.trans h
    obtain ⟨rfl, -⟩ := offer_readExact hoffer
    cases hstep with
    | ending h => cases h
    | request h => exact request_turn hsent hreceived hlog h
  | offered hframe h hsent hreceived hlog =>
    cases hcurrent.symm.trans h
    obtain ⟨rfl, rfl⟩ := offer_requestReplay hoffer
    cases hstep with
    | ending h => cases h
    | fresh h =>
      rw [append_nil]
      exact accept_turn hframe hsent hreceived hlog h
  | awaitingPadding hv hpadding h hsent hreceived htold =>
    cases hcurrent.symm.trans h
    obtain ⟨rfl, -⟩ := offer_readExact hoffer
    cases hstep with
    | ending h => cases h
    | padding hmixed =>
      rw [show written [.requestTimestamp .peerValidation] = [] from rfl, append_nil]
      exact padding_turn hv hsent htold hpadding hreceived hmixed
  | taken hv hstate h hsent hreceived htold =>
    cases hcurrent.symm.trans h
    cases hstate with
    | timestamp =>
      obtain ⟨rfl, rfl⟩ := offer_requestTimestamp hoffer
      cases hstep with
      | ending h => cases h
      | timestamp =>
        refine .taken hv (.padding _) rfl ?_ ?_ ?_
        · simpa [written] using hsent
        · simpa using hreceived
        · change Told c _ _ (p.log ++ []) _ _ _
          rwa [append_nil]
    | padding =>
      obtain ⟨rfl, rfl⟩ := offer_requestPadding hoffer
      cases hstep with
      | ending h => cases h
      | created h =>
        rw [append_nil]
        exact created_turn hv hsent htold hreceived h
  | awaitingConfirmed hv hcreated h hreceived hcipher htold =>
    cases hcurrent.symm.trans h
    rw [offer_write] at hoffer
    obtain ⟨rfl, -⟩ := offer_readExact hoffer
    cases hstep with
    | ending h => cases h
    | confirmed h => exact confirmed_turn hv hcreated hreceived hcipher htold h
  | done h =>
    cases hcurrent.symm.trans h
    cases hoffer

theorem accepted_of_outcome (h : ResponderPast c m p) {b : AuthenticatedHandshake} (hb : outcome p = some b) :
    ∃ created static payload v frame staticFrame payloadFrame,
      Accepted c m created static payload v frame staticFrame payloadFrame p := by
  unfold outcome at hb
  cases h with
  | failed h => simp [h] at hb
  | waiting h | offered hframe h | awaitingPadding hv hpadding h | awaitingConfirmed hv hcreated h =>
    rw [h] at hb
    cases hb
  | taken hv hstate h =>
    rw [h] at hb
    cases hstate <;> cases hb
  | done h haccepted => exact ⟨_, _, _, _, _, _, _, haccepted⟩

end ResponderPast

end Responder

end I2pr.Ntcp2
