import I2pr.Ntcp2Agreement

namespace I2pr.Ntcp2

open Noise (Key)
open Fallible ResponderState Machine List

structure Station where
  initiator : InitiatorState × List HandshakeAction
  responder : ResponderState × List HandshakeAction
  toInitiator : List UInt8
  toResponder : List UInt8

structure Link.Stands (link : Link) (s : Station) : Prop where
  initiator : link.initiator.current = some s.initiator
  responder : link.responder.current = some s.responder
  toInitiator : link.toInitiator = s.toInitiator
  toResponder : link.toResponder = s.toResponder

def Role.other : Role → Role
  | .initiator => .responder
  | .responder => .initiator

section Path

variable (c : Ntcp2Crypto) (decoder : RouterInfoDecoder) (m : Meeting)

structure Leads (s : Station) (role : Role) (s' : Station) : Prop where
  turn : ∀ link : Link, link.Stands s → (link.move c decoder m (.turn role)).Stands s'
  wait : ∀ link : Link, link.Stands s → (link.move c decoder m (.turn role.other)).Stands s

/-- A number of turns lead to the last station, where both sides wait. -/
inductive Path (last : Station) : Station → Nat → Prop
  | arrived (h : ∀ (link : Link) (role : Role), link.Stands last → (link.move c decoder m (.turn role)).Stands last) :
    Path last last 0
  | step {s s' : Station} {role : Role} {n : Nat} (h : Leads c decoder m s role s') (rest : Path last s' n) :
    Path last s (n + 1)

variable {c decoder m}

variable {last s : Station} {n : Nat} {link : Link}

theorem Path.turn (h : Path c decoder m last s n) (hlink : link.Stands s)
    (role : Role) : ∃ s' n', n' ≤ n ∧ Path c decoder m last s' n' ∧ (link.move c decoder m (.turn role)).Stands s' := by
  cases h with
  | arrived hwait => exact ⟨last, 0, le_rfl, .arrived hwait, hwait link role hlink⟩
  | @step _ s' active n hleads rest =>
    by_cases hrole : role = active
    · subst hrole
      exact ⟨s', n, Nat.le_succ n, rest, hleads.turn link hlink⟩
    have hother : role = active.other := by cases role <;> cases active <;> first | rfl | exact absurd rfl hrole
    subst hother
    exact ⟨s, n + 1, le_rfl, .step hleads rest, hleads.wait link hlink⟩

theorem Path.round (h : Path c decoder m last s n) (hlink : link.Stands s) :
    ∃ s' n', n' ≤ n - 1 ∧ Path c decoder m last s' n' ∧
      ((link.move c decoder m (.turn .initiator)).move c decoder m (.turn .responder)).Stands s' := by
  cases h with
  | arrived hwait => exact ⟨last, 0, le_rfl, .arrived hwait, hwait _ .responder (hwait link .initiator hlink)⟩
  | @step _ s' active n hleads rest =>
    cases active with
    | initiator => exact rest.turn (hleads.turn link hlink) .responder
    | responder => exact ⟨s', n, le_rfl, rest, hleads.turn _ (hleads.wait link hlink)⟩

theorem Path.run (h : Path c decoder m last s n) (hlink : link.Stands s)
    (roles : List Role) : ∃ s' n', n' ≤ n ∧ Path c decoder m last s' n' ∧
      ((roles.map Link.Move.turn).foldl (Link.move c decoder m) link).Stands s' := by
  induction roles generalizing link s n with
  | nil => exact ⟨s, n, le_rfl, h, hlink⟩
  | cons role roles ih =>
    obtain ⟨s', n', hle, hpath, hlink'⟩ := h.turn hlink role
    obtain ⟨s'', n'', hle', hpath', hlink''⟩ := ih hpath hlink'
    exact ⟨s'', n'', hle'.trans hle, hpath', hlink''⟩

def rounds (n : Nat) : List Role :=
  (List.replicate n [Role.initiator, Role.responder]).flatten

theorem Path.rounds {k : Nat} (h : Path c decoder m last s n) (hk : n ≤ k) (hlink : link.Stands s) :
    (((Ntcp2.rounds k).map Link.Move.turn).foldl (Link.move c decoder m) link).Stands last := by
  induction k generalizing link s n with
  | zero =>
    cases h with
    | arrived => exact hlink
    | step => omega
  | succ k ih =>
    obtain ⟨s', n', hle, hpath, hlink'⟩ := h.round hlink
    exact ih hpath (by omega) hlink'

theorem Link.Stands.initiator_waits (hlink : link.Stands s)
    (hwait : (m.initiatorMachine c decoder).offer s.initiator.2 s.toInitiator = .wait) :
    (link.move c decoder m (.turn .initiator)).Stands s := by
  have hturn := turn_of_wait (m := m.initiatorMachine c decoder) _ hlink.initiator
    (hlink.toInitiator ▸ hwait)
  simp only [Link.move, hturn]
  refine ⟨hlink.initiator, hlink.responder, hlink.toInitiator, ?_⟩
  simp only [drop_length, append_nil, hlink.toResponder]

theorem Link.Stands.responder_waits (hlink : link.Stands s)
    (hwait : (m.responderMachine c decoder).offer s.responder.2 s.toResponder = .wait) :
    (link.move c decoder m (.turn .responder)).Stands s := by
  have hturn := turn_of_wait (m := m.responderMachine c decoder) _ hlink.responder
    (hlink.toResponder ▸ hwait)
  simp only [Link.move, hturn]
  refine ⟨hlink.initiator, hlink.responder, ?_, hlink.toResponder⟩
  simp only [drop_length, append_nil, hlink.toInitiator]

theorem leads_initiator {input : HandshakeInput} {bytes rest sent : List UInt8} {next : InitiatorState}
    {actions : List HandshakeAction}
    (hoffer : (m.initiatorMachine c decoder).offer s.initiator.2 s.toInitiator = .input input bytes rest)
    (htransition : InitiatorState.transition c decoder s.initiator.1 input = .ok (next, actions))
    (hwait : (m.responderMachine c decoder).offer s.responder.2 s.toResponder = .wait)
    (hsent : s.toResponder ++ written actions = sent) :
    Leads c decoder m s .initiator ⟨(next, actions), s.responder, rest, sent⟩ := by
  refine ⟨fun link hlink => ?_, fun link hlink => hlink.responder_waits hwait⟩
  have hturn := turn_of_input (m := m.initiatorMachine c decoder) hlink.initiator
    (hlink.toInitiator ▸ hoffer) htransition
  simp only [Link.move, hturn]
  refine ⟨rfl, hlink.responder, rfl, ?_⟩
  simp only [drop_left, hlink.toResponder, hsent]

theorem leads_responder {input : HandshakeInput} {bytes rest sent : List UInt8} {next : ResponderState}
    {actions : List HandshakeAction}
    (hoffer : (m.responderMachine c decoder).offer s.responder.2 s.toResponder = .input input bytes rest)
    (htransition : transition c decoder s.responder.1 input = .ok (next, actions))
    (hwait : (m.initiatorMachine c decoder).offer s.initiator.2 s.toInitiator = .wait)
    (hsent : s.toInitiator ++ written actions = sent) :
    Leads c decoder m s .responder ⟨s.initiator, (next, actions), sent, rest⟩ := by
  refine ⟨fun link hlink => ?_, fun link hlink => hlink.initiator_waits hwait⟩
  have hturn := turn_of_input (m := m.responderMachine c decoder) hlink.responder
    (hlink.toResponder ▸ hoffer) htransition
  simp only [Link.move, hturn]
  refine ⟨hlink.initiator, rfl, ?_, rfl⟩
  simp only [drop_left, hlink.toInitiator, hsent]

end Path

namespace Meeting

variable (c : Ntcp2Crypto) (m : Meeting)

/-- The initiator from the request to the answer, and the responder before and after it has its turn. -/
def awaitingCreated : InitiatorState × List HandshakeAction :=
  (.awaitCreated (m.initiatorCommon c) (m.obfuscation1 c)
    (m.symmetric c (m.requestedPadded c) .initiator .message1Padded) m.plaintext m.requestPadding.length m.part2Length,
    [.write (m.requestMessage c), .readExact minHandshakeMessageLength])

def awaitingRequest : ResponderState × List HandshakeAction :=
  (.needRequest (m.responderCommon c) m.obfuscation0, [.readExact minHandshakeMessageLength])

def awaitingConfirmed : ResponderState × List HandshakeAction :=
  (.awaitConfirmed (m.responderCommon c) (m.symmetric c (m.createdPadded c) .responder .message2Padded)
    m.part2Length m.requestPadding.length m.createdPadding.length m.networkId,
    [.write (m.createdMessage c), .readExact (sessionConfirmedPart1Length + m.part2Length)])

def initiatorDone : InitiatorState × List HandshakeAction :=
  (.done, [.write (m.confirmedMessage c), .authenticated (m.initiatorResult c)])

def responderDone (peer : AuthenticatedPeer) : ResponderState × List HandshakeAction :=
  (.done, [.authenticated (m.responderResult c peer)])

def lastStation (peer : AuthenticatedPeer) : Station := ⟨m.initiatorDone c, m.responderDone c peer, [], []⟩

end Meeting

section Stations

variable {c : Ntcp2Crypto} {decoder : RouterInfoDecoder} {m : Meeting} {peer : AuthenticatedPeer}

open Meeting

theorem path_last : Path c decoder m (m.lastStation c peer) (m.lastStation c peer) 0 := by
  apply Path.arrived
  intro link role hlink
  cases role with
  | initiator => exact hlink.initiator_waits rfl
  | responder => exact hlink.responder_waits rfl

theorem offer_read {S : Type} (machine : Machine S) {length : Nat} {bytes : List UInt8} (hlength : bytes.length = length)
    (rest : List UInt8) :
    machine.offer [.readExact length] (bytes ++ rest) = .input (.bytes bytes) bytes rest := by
  have hnot : ¬ (bytes ++ rest).length < length := by
    rw [length_append]
    omega
  have htake : (bytes ++ rest).take length = bytes := take_left' hlength
  have hdrop : (bytes ++ rest).drop length = rest := drop_left' hlength
  change (if (bytes ++ rest).length < length then _ else _) = _
  rw [if_neg hnot, htake, hdrop]

theorem offer_short {S : Type} (machine : Machine S) {length : Nat} (hlength : 0 < length) :
    machine.offer [.readExact length] [] = .wait :=
  if_pos hlength

theorem offer_padding {S : Type} (machine : Machine S) {message : PaddingMessage} {maximum : Nat}
    (h : (machine.supply (.requestPadding message maximum)).2.length ≤ maximum) :
    machine.offer [.requestPadding message maximum] [] =
      .input (.padding (machine.supply (.requestPadding message maximum)).2) [] [] := by
  simp only [offer, dropWhile, answer, h, if_true]

theorem offer_awaitingConfirmed : (m.responderMachine c decoder).offer (m.awaitingConfirmed c).2 [] = .wait :=
  offer_short (m.responderMachine c decoder) (Nat.add_pos_left (by decide) _)

theorem offer_awaitingCreated : (m.initiatorMachine c decoder).offer (m.awaitingCreated c).2 [] = .wait :=
  offer_short (m.initiatorMachine c decoder) (by decide)

theorem offer_awaitingRequest : (m.responderMachine c decoder).offer (m.awaitingRequest c).2 [] = .wait :=
  offer_short (m.responderMachine c decoder) (by decide)

section

variable (hvalid : m.Valid c decoder) (hfits : m.Fits)
  (hpeer : validateRouterInfo decoder m.routerInfo maxRouterInfoPayload m.expectedInitiatorHash
    (c.publicKey m.initiatorStatic) = .ok peer)
include hvalid hfits hpeer

theorem path_confirmed : Path c decoder m (m.lastStation c peer)
      ⟨m.initiatorDone c, m.awaitingConfirmed c, [], m.confirmedMessage c⟩ 1 := by
  have hoffer : (m.responderMachine c decoder).offer (m.awaitingConfirmed c).2 (m.confirmedMessage c) =
      .input (.bytes (m.confirmedMessage c)) (m.confirmedMessage c) [] := by
    have hread := offer_read (m.responderMachine c decoder) (m.length_confirmedMessage (c := c)) []
    rw [append_nil] at hread
    exact hread
  exact .step (leads_responder hoffer (m.acceptConfirmed_eq hvalid hfits hpeer) rfl rfl) path_last

theorem path_createdTaken :
    Path c decoder m (m.lastStation c peer) ⟨m.createdTaken c, m.awaitingConfirmed c, [], []⟩ 3 := by
  have htimestamp : InitiatorState.transition c decoder (m.createdTaken c).1 (.timestamp m.confirmedTimestamp) = .ok _ :=
    bind_eq_ok.mpr ⟨(), classify_eq hfits.createdTimestamp hvalid.createdSkew, rfl⟩
  have hconfirmed : InitiatorState.transition c decoder (.needConfirmedReplay ..) (.replay .fresh) = .ok _ :=
    bind_eq_ok.mpr ⟨(), rfl, m.writeConfirmed_eq hfits⟩
  refine .step (leads_initiator rfl htimestamp offer_awaitingConfirmed rfl) ?_
  refine .step (leads_initiator rfl hconfirmed offer_awaitingConfirmed (append_nil _)) ?_
  exact path_confirmed hvalid hfits hpeer

theorem path_awaitingConfirmed : ∃ n ≤ 5, Path c decoder m (m.lastStation c peer)
      ⟨m.awaitingCreated c, m.awaitingConfirmed c, m.createdMessage c, []⟩ n := by
  have hoffer : (m.initiatorMachine c decoder).offer (m.awaitingCreated c).2 (m.createdMessage c) =
      .input (.bytes ((m.createdEphemeral c).toList ++ m.createdFrame c))
        ((m.createdEphemeral c).toList ++ m.createdFrame c) m.createdPadding := by
    rw [createdMessage, ← append_assoc]
    refine offer_read (m.initiatorMachine c decoder) ?_ _
    rw [length_append, length_createdFrame, List.Vector.toList_length]
    rfl
  have haccept : InitiatorState.transition c decoder (m.awaitingCreated c).1 (.bytes _) = .ok _ := m.acceptCreated_eq hvalid
  by_cases hpadding : m.createdPadding = []
  · rw [if_pos hpadding] at haccept
    rw [hpadding] at hoffer
    exact ⟨4, by omega, .step (leads_initiator hoffer haccept offer_awaitingConfirmed rfl)
      (path_createdTaken hvalid hfits hpeer)⟩
  · rw [if_neg hpadding] at haccept
    have hread := offer_read (m.initiatorMachine c decoder) (rfl : m.createdPadding.length = _) []
    rw [append_nil] at hread
    have hmax : maxSessionCreatedPadding ≤ maxSessionRequestPadding := by decide
    have hmixed : InitiatorState.transition c decoder (.awaitCreatedPadding ..) (.bytes m.createdPadding) =
        .ok (m.createdTaken c) :=
      bind_eq_ok.mpr ⟨(), if_neg (not_not.mpr rfl), bind_eq_ok.mpr ⟨_, mapError_eq_ok.mpr
        (mixPadding_paddedState (rfl : Transcript.TranscriptStage.padded .message2Complete = _)
          (hvalid.createdPadding.trans hmax)), rfl⟩⟩
    exact ⟨5, le_rfl, .step (leads_initiator hoffer haccept offer_awaitingConfirmed rfl)
      (.step (leads_initiator hread hmixed offer_awaitingConfirmed rfl) (path_createdTaken hvalid hfits hpeer))⟩

theorem path_requestTaken :
    ∃ n ≤ 7, Path c decoder m (m.lastStation c peer) ⟨m.awaitingCreated c, m.requestTaken c, [], []⟩ n := by
  obtain ⟨n, hn, hpath⟩ := path_awaitingConfirmed hvalid hfits hpeer
  have htimestamp : transition c decoder (m.requestTaken c).1 (.timestamp m.createdTimestamp) = .ok _ :=
    bind_eq_ok.mpr ⟨(), classify_eq hfits.requestTimestamp hvalid.requestSkew, rfl⟩
  have hcreated : transition c decoder (.needCreatedPadding ..) (.padding m.createdPadding) = .ok _ :=
    m.writeCreated_eq hvalid hfits
  exact ⟨n + 1 + 1, by omega, .step (leads_responder rfl htimestamp offer_awaitingCreated rfl)
    (.step (leads_responder (offer_padding _ hvalid.createdPadding) hcreated offer_awaitingCreated (append_nil _)) hpath)⟩

theorem path_awaitingCreated : ∃ n ≤ 10, Path c decoder m (m.lastStation c peer)
      ⟨m.awaitingCreated c, m.awaitingRequest c, [], m.requestMessage c⟩ n := by
  obtain ⟨n, hn, hpath⟩ := path_requestTaken hvalid hfits hpeer
  have hoffer : (m.responderMachine c decoder).offer (m.awaitingRequest c).2 (m.requestMessage c) =
      .input (.bytes ((m.requestEphemeral c).toList ++ m.requestFrame c))
        ((m.requestEphemeral c).toList ++ m.requestFrame c) m.requestPadding := by
    rw [requestMessage, ← append_assoc]
    refine offer_read (m.responderMachine c decoder) ?_ _
    rw [length_append, length_requestFrame, List.Vector.toList_length]
    rfl
  have hread : transition c decoder (m.awaitingRequest c).1 (.bytes _) = .ok _ := m.readRequest_eq
  have haccept : transition c decoder (.awaitReplay ..) (.replay .fresh) = .ok _ :=
    bind_eq_ok.mpr ⟨(), rfl, m.acceptRequest_eq hvalid hfits⟩
  by_cases hpadding : m.requestPadding = []
  · rw [if_pos hpadding] at haccept
    rw [hpadding] at hoffer
    exact ⟨n + 1 + 1, by omega, .step (leads_responder hoffer hread offer_awaitingCreated rfl)
      (.step (leads_responder rfl haccept offer_awaitingCreated rfl) hpath)⟩
  · rw [if_neg hpadding] at haccept
    have hrest := offer_read (m.responderMachine c decoder) (rfl : m.requestPadding.length = _) []
    rw [append_nil] at hrest
    have hmixed : transition c decoder (.awaitRequestPadding ..) (.bytes m.requestPadding) =
        .ok (m.requestTaken c) :=
      bind_eq_ok.mpr ⟨(), if_neg (not_not.mpr rfl), bind_eq_ok.mpr ⟨_, mapError_eq_ok.mpr
        (mixPadding_paddedState (rfl : Transcript.TranscriptStage.padded .message1Complete = _)
          hvalid.requestPadding), rfl⟩⟩
    exact ⟨n + 1 + 1 + 1, by omega, .step (leads_responder hoffer hread offer_awaitingCreated rfl)
      (.step (leads_responder rfl haccept offer_awaitingCreated rfl)
        (.step (leads_responder hrest hmixed offer_awaitingCreated rfl) hpath))⟩

theorem path_start : ∃ n ≤ 14, Path c decoder m (m.lastStation c peer)
      ⟨(m.initiatorStart c, [.requestRouterInfo maxRouterInfoPayload]), m.awaitingRequest c, [], []⟩ n := by
  obtain ⟨n, hn, hpath⟩ := path_awaitingCreated hvalid hfits hpeer
  obtain ⟨own, hown, -⟩ := hvalid.routerInfo
  let machine := m.initiatorMachine c decoder
  have hrouterInfo : InitiatorState.transition c decoder (m.initiatorStart c) (.routerInfo m.routerInfo) = .ok _ :=
    bind_eq_ok.mpr ⟨_, publicKeyOf_eq c _, bind_eq_ok.mpr ⟨own, hown, rfl⟩⟩
  have hofferInfo : machine.offer [.requestRouterInfo maxRouterInfoPayload] [] =
      .input (.routerInfo m.routerInfo) [] [] := by
    have hbounds : ¬ (m.routerInfo.isEmpty = true ∨ maxRouterInfoPayload < m.routerInfo.length) := by
      unfold validateRouterInfo at hown
      split at hown
      · cases hown
      next h => exact fun hor => h (hor.imp_right .inl)
    simp only [machine, offer, dropWhile, initiatorMachine, initiatorSupply, answer, if_neg hbounds]
  have hpadding : InitiatorState.transition c decoder (.needRequestPadding (m.initiatorCommon c) m.obfuscation0
      (m.symmetric c (m.initial c) .initiator .initial) m.routerInfo m.requestTimestamp) (.padding m.requestPadding) = _ :=
    if_neg (not_lt.mpr hvalid.requestPadding)
  have hrequest : InitiatorState.transition c decoder (.needConfirmedPadding ..) (.padding m.confirmedPadding) = .ok _ :=
    m.writeRequest_eq hvalid hfits.toRequestFits
  exact ⟨n + 1 + 1 + 1 + 1, by omega, .step (leads_initiator hofferInfo hrouterInfo offer_awaitingRequest rfl)
    (.step (leads_initiator rfl rfl offer_awaitingRequest rfl)
      (.step (leads_initiator (offer_padding _ hvalid.requestPadding) hpadding offer_awaitingRequest rfl)
        (.step (leads_initiator (offer_padding _ hvalid.confirmedPadding) hrequest offer_awaitingRequest (append_nil _)) hpath)))⟩

end

theorem stands_start : (Link.start c m).Stands
    ⟨(m.initiatorStart c, [.requestRouterInfo maxRouterInfoPayload]), m.awaitingRequest c, [], []⟩ := by
  refine ⟨rfl, ?_, rfl, rfl⟩
  simp only [Link.start, Machine.start, responderStart, new, publicKeyOf_eq]
  rfl

end Stations

/-- The two results agree: the keys are crossed, the lengths are the same, and the responder's peer is the identity in
the RouterInfo with the initiator's static key. -/
structure Agreement (c : Ntcp2Crypto) (decoder : RouterInfoDecoder) (m : Meeting) (a b : AuthenticatedHandshake) :
    Prop where
  transmit : a.splitKeys.transmit = b.splitKeys.receive
  receive : a.splitKeys.receive = b.splitKeys.transmit
  transmitLengths : a.splitKeys.transmitLengths = b.splitKeys.receiveLengths
  receiveLengths : a.splitKeys.receiveLengths = b.splitKeys.transmitLengths
  negotiated : a.negotiated = b.negotiated
  identity : ∃ info, decoder m.routerInfo maxRouterInfoPayload = .ok info ∧ info.identityHash = .ok b.peer.routerHash
  staticKey : b.peer.transportStaticKey = c.publicKey m.initiatorStatic

section Completion

variable (c : Ntcp2Crypto) (decoder : RouterInfoDecoder) (m : Meeting)

def Link.after (roles : List Role) : Link :=
  (roles.map Link.Move.turn).foldl (Link.move c decoder m) (.start c m)

/-- However the turns are ordered, no side fails, and with turns enough both are authenticated and agree. -/
def Completes : Prop :=
  ∀ roles : List Role,
    ((Link.after c decoder m roles).initiator.current.isSome ∧
      (Link.after c decoder m roles).responder.current.isSome) ∧
    ∃ a b, outcome (Link.after c decoder m (roles ++ rounds 14)).initiator = some a ∧
      outcome (Link.after c decoder m (roles ++ rounds 14)).responder = some b ∧ Agreement c decoder m a b

variable {c decoder m}

theorem completes_of_fits (hvalid : m.Valid c decoder) (hfits : m.Fits) : Completes c decoder m := by
  obtain ⟨peer, hown, hexpected⟩ := hvalid.routerInfo
  obtain ⟨info, hinfo, hidentity, hstatic, hpinned⟩ := Meeting.validateRouterInfo_eq hown
  have hpeer := hpinned _ hexpected
  obtain ⟨n, hn, hpath⟩ := path_start hvalid hfits hpeer
  intro roles
  obtain ⟨s, n', hle, hrest, hstands⟩ := hpath.run stands_start roles
  refine ⟨⟨?_, ?_⟩, m.initiatorResult c, m.responderResult c peer, ?_⟩
  · exact Option.isSome_of_eq_some hstands.initiator
  · exact Option.isSome_of_eq_some hstands.responder
  have hlast : (Link.after c decoder m (roles ++ rounds 14)).Stands (m.lastStation c peer) := by
    rw [Link.after, map_append, foldl_append]
    exact hrest.rounds (hle.trans hn) hstands
  refine ⟨?_, ?_, ⟨rfl, rfl, rfl, rfl, rfl, ⟨info, hinfo, hidentity⟩, hstatic⟩⟩
  · rw [outcome, hlast.initiator]
    rfl
  · rw [outcome, hlast.responder]
    rfl

end Completion

end I2pr.Ntcp2
