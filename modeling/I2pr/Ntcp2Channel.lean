import I2pr.Ntcp2Transcript

namespace I2pr.Ntcp2

open BigEndian
open Noise (Key Sealed Use)

section Uses

variable (c : Ntcp2Crypto)

/-- A frame is sealed or opened, and mixed in. -/
def frameUses (use : Sealed → Use) (t : Transcript) (frame : List UInt8) : List Use :=
  t.cipher.elim [] fun cipher => [use ⟨cipher, t.hash, frame⟩, .hashed (t.hash.toList ++ frame)]

def optionsUses (use : Sealed → Use) (t : Transcript) (ephemeral shared : Key) (frame : List UInt8) : List Use :=
  .hashed (t.hash.toList ++ ephemeral.toList) :: frameUses use (t.offering c ephemeral shared) frame

def paddingUses (t : Transcript) (padding : List UInt8) : List Use :=
  if padding.isEmpty then [] else [.hashed (t.hash.toList ++ padding)]

/-- What both sides hash before the first message. -/
def initialUses (responderStatic : Key) : List Use :=
  [.hashed protocolName, .hashed ((c.hash protocolName).toList ++ prologue),
    .hashed ((Noise.absorb c.toPrimitives (c.hash protocolName) prologue).toList ++ responderStatic.toList)]

/-- The uses of a transition that succeeded. -/
def InitiatorState.uses (state : InitiatorState) (input : HandshakeInput) (next : InitiatorState)
    (actions : List HandshakeAction) : List Use :=
  match state, input, next, actions with
  | .needConfirmedPadding common _ t _ _ padding, _, _, .write bytes :: _ =>
    let ephemeral := c.publicKey common.ephemeral
    let shared := c.agree common.ephemeral common.responderStatic
    let frame := slice bytes 32 32
    optionsUses c .sealed t ephemeral shared frame ++
      paddingUses ((t.offering c ephemeral shared).used c frame) padding
  | .awaitCreated common _ t _ _ _, .bytes bytes, .awaitCreatedPadding _ _ _ _ _ ephemeral _ _ _, _ =>
    optionsUses c .opened t ephemeral (c.agree common.ephemeral ephemeral) (slice bytes 32 32)
  | .awaitCreated common _ t _ _ _, .bytes bytes, .needPeerTimestamp _ _ _ _ _ _ _ _ ephemeral, _ =>
    optionsUses c .opened t ephemeral (c.agree common.ephemeral ephemeral) (slice bytes 32 32)
  | .awaitCreatedPadding _ t _ _ _ _ _ _ _, .bytes padding, _, _ => paddingUses t padding
  | .needConfirmedReplay common t _ _ _ _ ephemeral, _, _, .write bytes :: _ =>
    let frame := bytes.take 48
    frameUses .sealed t frame ++
      frameUses .sealed ((t.used c frame).mixKey c (c.agree common.localStatic ephemeral)) (bytes.drop 48)
  | _, _, _, _ => []

def ResponderState.uses (state : ResponderState) (input : HandshakeInput) (next : ResponderState)
    (actions : List HandshakeAction) : List Use :=
  match state, input, next, actions with
  | .awaitReplay common _ request, _, .awaitRequestPadding _ _ _ ephemeral _ _, _
  | .awaitReplay common _ request, _, .needPeerTimestamp _ _ _ _ ephemeral _, _ =>
    optionsUses c .opened (.new c .responder common.localStaticPublic) ephemeral
      (c.agree common.localStatic ephemeral) request.encryptedOptions
  | .awaitRequestPadding _ _ _ _ t _, .bytes padding, _, _ => paddingUses t padding
  | .needCreatedPadding common _ _ _ initiatorEphemeral t _, .padding padding, _, .write bytes :: _ =>
    let ephemeral := c.publicKey common.ephemeral
    let shared := c.agree common.ephemeral initiatorEphemeral
    let frame := slice bytes 32 32
    optionsUses c .sealed t ephemeral shared frame ++
      paddingUses ((t.offering c ephemeral shared).used c frame) padding
  | .awaitConfirmed common t _ _ _ _, .bytes bytes, _, .authenticated result :: _ =>
    let frame := bytes.take 48
    frameUses .opened t frame ++ frameUses .opened
      ((t.used c frame).mixKey c (c.agree common.ephemeral result.peer.transportStaticKey)) (bytes.drop 48)
  | _, _, _, _ => []

end Uses

/-- A machine in its surroundings: `supply` is what the clock, the padding policy and the configuration give for an
action. -/
structure Machine (S : Type) where
  transition : S → HandshakeInput → Except HandshakeError (S × List HandshakeAction)
  uses : S → HandshakeInput → S → List HandshakeAction → List Use
  supply : HandshakeAction → Nat × List UInt8

/-- A machine's state with the actions to answer, `none` after an error, and what it wrote, read and used. -/
structure Party (S : Type) where
  current : Option (S × List HandshakeAction)
  sent : List UInt8
  received : List UInt8
  log : List Use

def written (actions : List HandshakeAction) : List UInt8 :=
  actions.flatMap fun
    | .write bytes => bytes
    | _ => []

def outcome {S : Type} (p : Party S) : Option AuthenticatedHandshake :=
  p.current.bind fun (_, actions) => actions.findSome? fun
    | .authenticated result => some result
    | _ => none

namespace Machine

variable {S : Type} (m : Machine S)

def start (first : Except HandshakeError (S × List HandshakeAction)) (log : List Use) : Party S :=
  ⟨first.toOption, [], [], log⟩

def feed (p : Party S) (state : S) (input : HandshakeInput) (bytes : List UInt8) : Party S :=
  match m.transition state input with
  | .error _ => { p with current := none }
  | .ok (next, actions) =>
    ⟨some (next, actions), p.sent ++ written actions, p.received ++ bytes, p.log ++ m.uses state input next actions⟩

/-- What comes of the actions of a transition: nothing for now, or at all; a failure of the driver; or an input, with
the bytes that were read for it and those left in the inbox. -/
inductive Offer where
  | wait
  | fail
  | input (input : HandshakeInput) (bytes rest : List UInt8)

/-- The driver's answer to the first action that is not a write. The bytes of a read are taken from the inbox, and
waited for when they are not there. -/
def offer (actions : List HandshakeAction) (inbox : List UInt8) : Offer :=
  match actions.dropWhile fun | .write _ => true | _ => false with
  | [] | .authenticated _ :: _ | .terminate _ :: _ => .wait
  | .readExact length :: _ =>
    if inbox.length < length then .wait
    else .input (.bytes (inbox.take length)) (inbox.take length) (inbox.drop length)
  | action :: _ =>
    match answer (fun _ _ _ => ((), .fresh)) () (m.supply action).1 (m.supply action).2 [action] with
    | none => .fail
    | some (_, input) => .input input [] inbox

def turn (p : Party S) (inbox : List UInt8) : Party S × List UInt8 :=
  match p.current with
  | none => (p, inbox)
  | some (state, actions) =>
    match m.offer actions inbox with
    | .wait => (p, inbox)
    | .fail => ({ p with current := none }, inbox)
    | .input input bytes rest => (m.feed p state input bytes, rest)

variable {m}

theorem turn_of_wait {p : Party S} {state : S} {actions : List HandshakeAction} (inbox : List UInt8)
    (hcurrent : p.current = some (state, actions)) (hoffer : m.offer actions inbox = .wait) :
    m.turn p inbox = (p, inbox) := by
  simp only [turn, hcurrent, hoffer]

variable {inbox bytes rest : List UInt8} {input : HandshakeInput}

theorem turn_of_input {p : Party S} {state next : S} {actions actions' : List HandshakeAction}
    (hcurrent : p.current = some (state, actions)) (hoffer : m.offer actions inbox = .input input bytes rest)
    (htransition : m.transition state input = .ok (next, actions')) :
    m.turn p inbox = (⟨some (next, actions'), p.sent ++ written actions', p.received ++ bytes,
      p.log ++ m.uses state input next actions'⟩, rest) := by
  simp only [turn, hcurrent, hoffer, feed, htransition]

theorem turn_cases (p : Party S) (inbox : List UInt8) : (m.turn p inbox).1 = p ∨ (m.turn p inbox).1.current = none ∨
      ∃ state actions input bytes rest next actions', p.current = some (state, actions) ∧
        m.offer actions inbox = .input input bytes rest ∧ m.transition state input = .ok (next, actions') ∧
        (m.turn p inbox).1 = ⟨some (next, actions'), p.sent ++ written actions', p.received ++ bytes,
          p.log ++ m.uses state input next actions'⟩ := by
  cases hcurrent : p.current with
  | none => exact .inl (by simp only [turn, hcurrent])
  | some current =>
    obtain ⟨state, actions⟩ := current
    cases hoffer : m.offer actions inbox with
    | wait => exact .inl (by rw [turn_of_wait inbox hcurrent hoffer])
    | fail => exact .inr (.inl (by simp only [turn, hcurrent, hoffer]))
    | input input bytes rest =>
      right
      cases htransition : m.transition state input with
      | error e => exact .inl (by simp only [turn, hcurrent, hoffer, feed, htransition])
      | ok next =>
        refine .inr ⟨state, actions, input, bytes, rest, next.1, next.2, rfl, hoffer, htransition, ?_⟩
        rw [turn_of_input hcurrent hoffer htransition]

theorem offer_readExact {length : Nat}
    (h : m.offer [.readExact length] inbox = .input input bytes rest) : input = .bytes bytes ∧ bytes.length = length := by
  change (if inbox.length < length then Offer.wait else _) = _ at h
  split at h
  · cases h
  next hlength =>
    cases h
    refine ⟨rfl, ?_⟩
    rw [List.length_take]
    omega

theorem offer_write (written : List UInt8) (actions : List HandshakeAction) (inbox : List UInt8) :
    m.offer (.write written :: actions) inbox = m.offer actions inbox := rfl

theorem offer_requestTimestamp {purpose : TimestampPurpose}
    (h : m.offer [.requestTimestamp purpose] inbox = .input input bytes rest) :
    input = .timestamp (m.supply (.requestTimestamp purpose)).1 ∧ bytes = [] := by
  cases h
  exact ⟨rfl, rfl⟩

theorem offer_requestReplay {token : Key} {retention : Nat}
    (h : m.offer [.requestReplay token retention] inbox = .input input bytes rest) :
    input = .replay .fresh ∧ bytes = [] := by
  cases h
  exact ⟨rfl, rfl⟩

theorem offer_requestRouterInfo {maximum : Nat}
    (h : m.offer [.requestRouterInfo maximum] inbox = .input input bytes rest) :
    input = .routerInfo (m.supply (.requestRouterInfo maximum)).2 ∧ bytes = [] := by
  simp only [offer, List.dropWhile, answer] at h
  split at h
  · cases h
  next hanswer =>
    split at hanswer
    · cases hanswer
    cases hanswer
    cases h
    exact ⟨rfl, rfl⟩

theorem offer_requestPadding {message : PaddingMessage} {maximum : Nat}
    (h : m.offer [.requestPadding message maximum] inbox = .input input bytes rest) :
    input = .padding (m.supply (.requestPadding message maximum)).2 ∧ bytes = [] := by
  simp only [offer, List.dropWhile, answer] at h
  split at h
  · cases h
  next hanswer =>
    split at hanswer
    · cases hanswer
      cases h
      exact ⟨rfl, rfl⟩
    · cases hanswer

end Machine

/-- Two routers configured for each other, and what their surroundings supply to one handshake. -/
structure Meeting where
  initiatorStatic : Key
  initiatorEphemeral : Key
  responderStatic : Key
  responderEphemeral : Key
  routerHash : Key
  iv : Block
  networkId : UInt8
  expectedPeerHash : Key
  expectedInitiatorHash : Option Key
  initiatorSkew : ClockSkewPolicy
  responderSkew : ClockSkewPolicy
  routerInfo : List UInt8
  requestTimestamp : Nat
  createdTimestamp : Nat
  confirmedTimestamp : Nat
  requestPadding : List UInt8
  createdPadding : List UInt8
  confirmedPadding : List UInt8

/-- The two parties with the bytes in transit to each. -/
structure Link where
  initiator : Party InitiatorState
  responder : Party ResponderState
  toInitiator : List UInt8
  toResponder : List UInt8

section Link

variable (c : Ntcp2Crypto) (decoder : RouterInfoDecoder) (m : Meeting)

namespace Meeting

/-- The clock of the initiator is read for the request and again for the classification. -/
def initiatorSupply : HandshakeAction → Nat × List UInt8
  | .requestTimestamp .sessionRequest => (m.requestTimestamp, [])
  | .requestTimestamp _ => (m.confirmedTimestamp, [])
  | .requestPadding .sessionRequest _ => (0, m.requestPadding)
  | .requestPadding _ _ => (0, m.confirmedPadding)
  | .requestRouterInfo _ => (0, m.routerInfo)
  | _ => (0, [])

def responderSupply : HandshakeAction → Nat × List UInt8
  | .requestTimestamp _ => (m.createdTimestamp, [])
  | .requestPadding _ _ => (0, m.createdPadding)
  | _ => (0, [])

def initiatorMachine : Machine InitiatorState :=
  ⟨InitiatorState.transition c decoder, InitiatorState.uses c, m.initiatorSupply⟩

def responderMachine : Machine ResponderState :=
  ⟨ResponderState.transition c decoder, ResponderState.uses c, m.responderSupply⟩

def responderPublic : Key := c.publicKey m.responderStatic

def initiatorStart : InitiatorState :=
  .new c m.initiatorStatic m.initiatorEphemeral (m.responderPublic c) (some m.expectedPeerHash) m.routerHash m.iv
    m.networkId m.initiatorSkew

def responderStart : Except HandshakeError ResponderState :=
  ResponderState.new c m.responderStatic m.responderEphemeral m.expectedInitiatorHash m.routerHash m.iv m.networkId
    m.responderSkew

end Meeting

namespace Link

def start : Link where
  initiator := Machine.start (m.initiatorStart c).start (initialUses c (m.responderPublic c))
  responder := Machine.start ((m.responderStart c).bind ResponderState.start) (initialUses c (m.responderPublic c))
  toInitiator := []
  toResponder := []

/-- Either side takes a turn, or the bytes in transit to it are replaced. -/
inductive Move where
  | turn (role : Role)
  | rewrite (role : Role) (bytes : List UInt8)

def move (link : Link) : Move → Link
  | .turn .initiator =>
    let (p, inbox) := (m.initiatorMachine c decoder).turn link.initiator link.toInitiator
    ⟨p, link.responder, inbox, link.toResponder ++ p.sent.drop link.initiator.sent.length⟩
  | .turn .responder =>
    let (p, inbox) := (m.responderMachine c decoder).turn link.responder link.toResponder
    ⟨link.initiator, p, link.toInitiator ++ p.sent.drop link.responder.sent.length, inbox⟩
  | .rewrite .initiator bytes => { link with toInitiator := bytes }
  | .rewrite .responder bytes => { link with toResponder := bytes }

def uses (link : Link) : List Use :=
  link.initiator.log ++ link.responder.log

end Link

end Link

end I2pr.Ntcp2
